import FrameRpc.Wire.Frame
import FrameRpc.Json.Value
import FrameRpc.Text.Literal

/-!
The settings of an engine and of the tools around it.

Every setting has a default, so an empty description gives a working engine. `validate`
names the first setting the engine cannot run with, checking the attempt budget, the
attempt timeout, the payload ceiling and the two addresses in that order. Three settings
may also come from the environment: the log level as given, and the attempt timeout and
attempt budget as decimal numbers after trimming white space (a value that does not read
as a number of the right size is ignored).
-/

namespace FrameRpc

/-- Engine tuning and addressing. Times are in milliseconds. -/
structure EngineConfig where
  localMac : Mac
  remoteMac : Mac
  outerVlan : UInt16
  innerVlan : UInt16
  attemptTimeoutMs : Nat
  retryBudget : Nat
  busyBackoffMs : Nat
  maxPayload : Nat
  traceFrames : Bool
  dropLogBurst : Nat
  dropLogWindowMs : Nat
  deriving DecidableEq

namespace EngineConfig

def defaultLocal : Mac := ⟨[0x02, 0, 0, 0, 0, 0x01], rfl⟩

def defaultRemote : Mac := ⟨[0x02, 0, 0, 0, 0, 0x02], rfl⟩

def default : EngineConfig :=
  { localMac := defaultLocal, remoteMac := defaultRemote, outerVlan := 1, innerVlan := 1,
    attemptTimeoutMs := 1000, retryBudget := 3, busyBackoffMs := 10, maxPayload := 1400,
    traceFrames := false, dropLogBurst := 10, dropLogWindowMs := 5000 }

def addressing (c : EngineConfig) : Addressing :=
  { own := c.localMac, peer := c.remoteMac, outerVlan := c.outerVlan, innerVlan := c.innerVlan }

/-- The longest a blocking call waits: every attempt timing out. Durations count whole
seconds in 64 bits, so this is `none` when the total passes `2^64` seconds. -/
def hardTimeoutMs (c : EngineConfig) : Option Nat :=
  let total := c.attemptTimeoutMs * c.retryBudget
  if total / 1000 < Nat.pow 2 64 then some total else none

def durationOverflow : String := "overflow when multiplying duration by scalar"

/-- The first setting the engine cannot run with, as a sentence. -/
def validate (c : EngineConfig) : Option String :=
  if c.retryBudget = 0 then some "retry_budget must be at least 1"
  else if c.attemptTimeoutMs = 0 then some "attempt_timeout_ms must be non-zero"
  else if c.maxPayload > Wire.maxPayload then
    some ("max_payload " ++ toString c.maxPayload ++ " exceeds wire limit " ++
      toString Wire.maxPayload)
  else if c.localMac = c.remoteMac then some "local_mac and remote_mac must differ"
  else none

def toValue (c : EngineConfig) : Json.Value :=
  .obj [("local_mac", .str c.localMac.text), ("remote_mac", .str c.remoteMac.text),
    ("outer_vlan", .nat c.outerVlan.toNat), ("inner_vlan", .nat c.innerVlan.toNat),
    ("attempt_timeout_ms", .nat c.attemptTimeoutMs), ("retry_budget", .nat c.retryBudget),
    ("busy_backoff_ms", .nat c.busyBackoffMs), ("max_payload", .nat c.maxPayload),
    ("trace_frames", .bool c.traceFrames), ("drop_log_burst", .nat c.dropLogBurst),
    ("drop_log_window_ms", .nat c.dropLogWindowMs)]

theorem validate_default : default.validate = none := by decide

end EngineConfig

structure Config where
  logLevel : String
  engine : EngineConfig
  deriving DecidableEq

namespace Config

def default : Config := { logLevel := "info", engine := EngineConfig.default }

def toValue (c : Config) : Json.Value :=
  .obj [("log_level", .str c.logLevel), ("engine", c.engine.toValue)]

/-- The value of a numeric setting from the environment, if it reads as a number of at
most `max` after trimming. -/
def numberOverride (raw : Option String) (max : Nat) : Option Nat :=
  match raw with
  | some r =>
    match Text.parseNat (Text.trimSpace r) max with
    | .ok v => some v
    | .error _ => none
  | none => none

def applyOverrides (env : String → Option String) (c : Config) : Config :=
  let level := (env "EMCDI_LOG_LEVEL").getD c.logLevel
  let timeout := (numberOverride (env "EMCDI_ATTEMPT_TIMEOUT_MS") (Nat.pow 2 64 - 1)).getD
    c.engine.attemptTimeoutMs
  let budget := (numberOverride (env "EMCDI_RETRY_BUDGET") (Nat.pow 2 32 - 1)).getD
    c.engine.retryBudget
  { logLevel := level,
    engine := { c.engine with attemptTimeoutMs := timeout, retryBudget := budget } }

end Config

end FrameRpc
