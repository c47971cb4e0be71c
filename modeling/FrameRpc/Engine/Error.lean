import FrameRpc.Wire.Kind
import FrameRpc.Text.Chars
import FrameRpc.Text.Literal

/-!
How commands and engine calls fail.

Each error has a name (its tag), a sentence, and a structural form used when a tool
reports an error it could not handle, such as `PayloadTooLarge { size: 3, max: 2 }`.
-/

namespace FrameRpc

inductive TransmitError where
  | busy
  | linkDown
  | alloc
  deriving DecidableEq, Repr

namespace TransmitError

def tag : TransmitError → String
  | .busy => "Busy"
  | .linkDown => "LinkDown"
  | .alloc => "Alloc"

def message : TransmitError → String
  | .busy => "transmit queue busy"
  | .linkDown => "link down"
  | .alloc => "frame allocation failed"

def ofTag? : String → Option TransmitError
  | "Busy" => some .busy
  | "LinkDown" => some .linkDown
  | "Alloc" => some .alloc
  | _ => none

end TransmitError

inductive EngineError where
  /-- The channel is not enabled; nothing was queued. -/
  | channelDisabled (channel : Channel)
  | transportNotReady
  | transportUnavailable (attempts : Nat)
  | remote (status : UInt8)
  | timeout
  | cancelled
  | payloadTooLarge (size max : Nat)
  | outputOverflow (len capacity : Nat)
  | noRuntime
  | invalidConfig (reason : String)
  deriving DecidableEq, Repr

namespace EngineError

def tag : EngineError → String
  | .channelDisabled _ => "ChannelDisabled"
  | .transportNotReady => "TransportNotReady"
  | .transportUnavailable _ => "TransportUnavailable"
  | .remote _ => "Remote"
  | .timeout => "Timeout"
  | .cancelled => "Cancelled"
  | .payloadTooLarge .. => "PayloadTooLarge"
  | .outputOverflow .. => "OutputOverflow"
  | .noRuntime => "NoRuntime"
  | .invalidConfig _ => "InvalidConfig"

def message : EngineError → String
  | .channelDisabled c => "channel " ++ c.name ++ " is not enabled"
  | .transportNotReady => "transport not ready"
  | .transportUnavailable n => "transport unavailable after " ++ toString n ++ " attempts"
  | .remote s => "remote reported status " ++ Hex.prefixed 4 s.toNat
  | .timeout => "command timed out"
  | .cancelled => "command cancelled"
  | .payloadTooLarge size max =>
    "payload too large: " ++ toString size ++ " bytes, max " ++ toString max ++ " bytes"
  | .outputOverflow len cap =>
    "response of " ++ toString len ++ " bytes does not fit output buffer of " ++
      toString cap ++ " bytes"
  | .noRuntime => "no Tokio runtime available for engine timers"
  | .invalidConfig r => "invalid configuration: " ++ r

def structural : EngineError → String
  | .channelDisabled c => "ChannelDisabled(" ++ c.typeName ++ ")"
  | .transportUnavailable n => "TransportUnavailable \x7b attempts: " ++ toString n ++ " \x7d"
  | .remote s => "Remote \x7b status: " ++ toString s.toNat ++ " \x7d"
  | .payloadTooLarge size max =>
    "PayloadTooLarge \x7b size: " ++ toString size ++ ", max: " ++ toString max ++ " \x7d"
  | .outputOverflow len cap =>
    "OutputOverflow \x7b len: " ++ toString len ++ ", capacity: " ++ toString cap ++ " \x7d"
  | .invalidConfig r => "InvalidConfig(" ++ Text.debugQuote r ++ ")"
  | e => e.tag

end EngineError

end FrameRpc
