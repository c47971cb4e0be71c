import FrameRpc.Wire.Frame
set_option autoImplicit false

/-!
The envelope fields of a frame.

Every frame carries its header kind at byte 22 and its sequence number, high byte first,
at bytes 24 and 25. `encode` writes them there and `decode` reads them from there; the
frames the link took are told apart and numbered by these two fields alone.
-/

namespace FrameRpc

theorem HeaderKind.code_of_ofCode? {b : UInt8} {k : HeaderKind} (h : HeaderKind.ofCode? b = some k) :
    k.code = b := by
  simpa using List.find?_some h

theorem Channel.txKind_code_inj {c d : Channel} (h : c.txKind.code = d.txKind.code) : c = d := by
  revert h
  cases c <;> cases d <;> decide

namespace Wire

def kindOf (frame : List UInt8) : UInt8 := frame.getD 22 0

def seqOf (frame : List UInt8) : UInt16 := u16At frame 24

theorem u16_be16 (v : UInt16) : ((v >>> 8).toUInt8.toUInt16 <<< 8) ||| v.toUInt8.toUInt16 = v := by
  apply UInt16.eq_of_toBitVec_eq
  simp only [UInt16.toBitVec_or, UInt16.toBitVec_shiftLeft, UInt8.toBitVec_toUInt16,
    UInt16.toBitVec_toUInt8, UInt16.toBitVec_shiftRight]
  ext i hi
  simp [BitVec.getElem_or, BitVec.getElem_shiftLeft, BitVec.getElem_setWidth,
    BitVec.getLsbD_ushiftRight]
  by_cases low : i < 8
  · simp [low, BitVec.getLsbD_eq_getElem hi]
  · simp [low, show 8 + (i - 8) = i by omega, BitVec.getLsbD_eq_getElem hi, show i - 8 < 8 by omega]

variable {a : Addressing} {frame : List UInt8}

theorem header_bytes (kind : HeaderKind) (seq opcode : UInt16) (status : Status) (len : Nat)
    (rest : List UInt8) :
    (header a kind seq opcode status len ++ rest).getD 22 0 = kind.code ∧
      (header a kind seq opcode status len ++ rest).getD 24 0 = (seq >>> 8).toUInt8 ∧
      (header a kind seq opcode status len ++ rest).getD 25 0 = seq.toUInt8 := by
  simp [header, be16, List.getD_eq_getElem?_getD, List.getElem?_append_right, Mac.length_octets]

theorem encode_header {kind : HeaderKind} {seq opcode : UInt16} {status : Status}
    {payload : List UInt8} (h : encode a kind seq opcode status payload = .ok frame) :
    kindOf frame = kind.code ∧ seqOf frame = seq := by
  unfold encode at h
  split at h
  · cases h
  · cases h
    rw [List.append_assoc]
    refine ⟨(header_bytes ..).1, ?_⟩
    rw [seqOf, u16At, (header_bytes ..).2.1, (header_bytes ..).2.2, u16_be16]

end Wire

end FrameRpc
