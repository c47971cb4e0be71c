import FrameRpc.Config.Settings
import FrameRpc.Json.Typed

/-!
Settings read from JSON.

Both records may be given as an object or as a list of their fields in order. Every
field may be left out and keeps its default; unknown keys are read and ignored; a field
given twice is an error. Addresses are strings `aa:bb:cc:dd:ee:ff`; a string that is not
one is an error, placed in text after the enclosing object.
-/

namespace FrameRpc

open Json

def macDecoder : Decoder Mac :=
  Decoder.string.refine fun s => (Mac.parse s).mapError FrameError.message

def vlanDecoder : Decoder UInt16 := (Decoder.unsigned "u16" 65535).map Nat.toUInt16

def u64Decoder : Decoder Nat := Decoder.unsigned "u64" u64Max

def u32Decoder : Decoder Nat := Decoder.unsigned "u32" (Nat.pow 2 32 - 1)

def engineFields : List (Json.Field EngineConfig) :=
  [⟨"local_mac", fun c => macDecoder.map fun v => { c with localMac := v }⟩,
   ⟨"remote_mac", fun c => macDecoder.map fun v => { c with remoteMac := v }⟩,
   ⟨"outer_vlan", fun c => vlanDecoder.map fun v => { c with outerVlan := v }⟩,
   ⟨"inner_vlan", fun c => vlanDecoder.map fun v => { c with innerVlan := v }⟩,
   ⟨"attempt_timeout_ms", fun c => u64Decoder.map fun v => { c with attemptTimeoutMs := v }⟩,
   ⟨"retry_budget", fun c => u32Decoder.map fun v => { c with retryBudget := v }⟩,
   ⟨"busy_backoff_ms", fun c => u64Decoder.map fun v => { c with busyBackoffMs := v }⟩,
   ⟨"max_payload", fun c => (Decoder.unsigned "usize" u64Max).map fun v => { c with maxPayload := v }⟩,
   ⟨"trace_frames", fun c => Decoder.bool.map fun v => { c with traceFrames := v }⟩,
   ⟨"drop_log_burst", fun c => u32Decoder.map fun v => { c with dropLogBurst := v }⟩,
   ⟨"drop_log_window_ms", fun c => u64Decoder.map fun v => { c with dropLogWindowMs := v }⟩]

/-- Engine settings; missing fields take the engine defaults. -/
def EngineConfig.decoder : Decoder EngineConfig :=
  Decoder.record "EngineConfig" engineFields EngineConfig.default

def configFields : List (Json.Field Config) :=
  [⟨"log_level", fun c => Decoder.string.map fun v => { c with logLevel := v }⟩,
   ⟨"engine", fun c => EngineConfig.decoder.map fun v => { c with engine := v }⟩]

def Config.decoder : Decoder Config := Decoder.record "Config" configFields Config.default

def Config.parse (text : String) : Except ReadError Config := Config.decoder.ofText text

end FrameRpc
