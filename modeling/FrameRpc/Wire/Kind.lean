/-!
Header kinds and logical channels. Every frame names one of nine header kinds; each kind
belongs to one of five channels, and each channel sends on one kind of its own.
Main statement: `channel_txKind`, a channel's sending kind routes back to it.
-/

namespace FrameRpc

inductive HeaderKind where
  | control
  | counterStream
  | counterAck
  | flashUpgrade
  | controllerSpawn
  | imageUpgrade
  | logger
  | firewall
  | ipsec
  deriving DecidableEq, Repr

inductive Channel where
  | control
  | counter
  | upgrade
  | spawn
  | logger
  deriving DecidableEq, Repr

namespace HeaderKind

def code : HeaderKind → UInt8
  | control => 0x01
  | counterStream => 0x02
  | counterAck => 0x03
  | flashUpgrade => 0x04
  | controllerSpawn => 0x05
  | imageUpgrade => 0x06
  | logger => 0x07
  | firewall => 0x08
  | ipsec => 0x09

def all : List HeaderKind :=
  [control, counterStream, counterAck, flashUpgrade, controllerSpawn, imageUpgrade, logger,
    firewall, ipsec]

def ofCode? (b : UInt8) : Option HeaderKind :=
  all.find? (·.code == b)

def name : HeaderKind → String
  | control => "control"
  | counterStream => "counter_stream"
  | counterAck => "counter_ack"
  | flashUpgrade => "flash_upgrade"
  | controllerSpawn => "controller_spawn"
  | imageUpgrade => "image_upgrade"
  | logger => "logger"
  | firewall => "firewall"
  | ipsec => "ipsec"

def typeName : HeaderKind → String
  | control => "Control"
  | counterStream => "CounterStream"
  | counterAck => "CounterAck"
  | flashUpgrade => "FlashUpgrade"
  | controllerSpawn => "ControllerSpawn"
  | imageUpgrade => "ImageUpgrade"
  | logger => "Logger"
  | firewall => "Firewall"
  | ipsec => "Ipsec"

def ofName? (s : String) : Option HeaderKind :=
  all.find? (·.name == s)

def channel : HeaderKind → Channel
  | control | firewall | ipsec => .control
  | counterStream | counterAck => .counter
  | flashUpgrade | imageUpgrade => .upgrade
  | controllerSpawn => .spawn
  | logger => .logger

theorem ofCode?_code (k : HeaderKind) : ofCode? k.code = some k := by
  cases k <;> rfl

end HeaderKind

namespace Channel

def all : List Channel := [control, counter, upgrade, spawn, logger]

def index : Channel → Nat
  | control => 0
  | counter => 1
  | upgrade => 2
  | spawn => 3
  | logger => 4

def name : Channel → String
  | control => "control"
  | counter => "counter"
  | upgrade => "upgrade"
  | spawn => "spawn"
  | logger => "logger"

instance : ToString Channel := ⟨name⟩

def typeName : Channel → String
  | control => "Control"
  | counter => "Counter"
  | upgrade => "Upgrade"
  | spawn => "Spawn"
  | logger => "Logger"

def txKind : Channel → HeaderKind
  | control => .control
  | counter => .counterStream
  | upgrade => .imageUpgrade
  | spawn => .controllerSpawn
  | logger => .logger

def ofName? (s : String) : Option Channel :=
  all.find? (·.name == s)

def sameIgnoringCase (a b : String) : Bool :=
  a.toList.map Char.toLower == b.toList.map Char.toLower

/-- The channel whose name matches the text without regard to ASCII case, or the
message that lists the known names. -/
def parse (s : String) : Except String Channel :=
  match all.find? (fun c => sameIgnoringCase c.name s) with
  | some c => .ok c
  | none =>
    let known := ", ".intercalate (all.map name)
    .error s!"unknown channel '{s}', expected one of: {known}"

@[simp] theorem channel_txKind (c : Channel) : c.txKind.channel = c := by
  cases c <;> rfl

theorem ofName?_name (c : Channel) : ofName? c.name = some c := by
  cases c <;> rfl

end Channel

end FrameRpc
