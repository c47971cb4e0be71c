import FrameRpc.Proofs.Wire.Reading
import Mathlib.Data.List.GetD
set_option autoImplicit false

/-!
Encoding then decoding.

An encoded frame is its header, its payload and zero padding up to 60 bytes. The header puts
the receiver first and the sender second, so a frame encoded on a link reads back on the same
link seen from the other end; its command header is compact up to a payload of 127 bytes and
extended beyond, where the 16-bit length field bounds the payload at 65535 bytes. The reads of
the decoder are followed through the header one field at a time (`header_fields`,
`payloadSpan_header`). Main statements: `encode_round_trip`, and `respond_encode` for the
peer's answer to a request.
-/

namespace FrameRpc.Wire

@[simp] theorem length_be16 (v : UInt16) : (be16 v).length = 2 := rfl

theorem u16At_append_right {l r : List UInt8} {i : Nat} (h : l.length ≤ i) :
    u16At (l ++ r) i = u16At r (i - l.length) := by
  unfold u16At
  rw [List.getD_append_right _ _ _ _ h, List.getD_append_right _ _ _ _ (by omega),
    show i + 1 - l.length = i - l.length + 1 by omega]

@[simp] theorem u16At_octets (m : Mac) (r : List UInt8) (i : Nat) :
    u16At (m.octets ++ r) (i + 6) = u16At r i := by
  rw [u16At_append_right (by simp [Mac.length_octets]), Mac.length_octets, Nat.add_sub_cancel]

@[simp] theorem u16At_be16_append (v : UInt16) (r : List UInt8) (i : Nat) :
    u16At (be16 v ++ r) (i + 2) = u16At r i := by
  rw [u16At_append_right (by simp), length_be16, Nat.add_sub_cancel]

@[simp] theorem u16At_cons (x : UInt8) (r : List UInt8) (i : Nat) :
    u16At (x :: r) (i + 1) = u16At r i := rfl

@[simp] theorem u16At_be16 (v : UInt16) (r : List UInt8) : u16At (be16 v ++ r) 0 = v :=
  u16_be16 v

@[simp] theorem getD_octets (m : Mac) (r : List UInt8) (i : Nat) :
    (m.octets ++ r).getD (i + 6) 0 = r.getD i 0 := by
  rw [List.getD_append_right _ _ _ _ (by simp [Mac.length_octets]), Mac.length_octets, Nat.add_sub_cancel]

@[simp] theorem getD_be16_append (v : UInt16) (r : List UInt8) (i : Nat) :
    (be16 v ++ r).getD (i + 2) 0 = r.getD i 0 := by
  rw [List.getD_append_right _ _ _ _ (by simp), length_be16, Nat.add_sub_cancel]

section layout

variable (a : Addressing) (kind : HeaderKind) (seq opcode : UInt16) (status : Status) (len : Nat)
  (rest : List UInt8)

theorem header_fields :
    let w := header a kind seq opcode status len ++ rest
    w.take 6 = a.peer.octets ∧ (w.drop 6).take 6 = a.own.octets ∧ u16At w 12 = outerTpid ∧
      u16At w 16 = innerTpid ∧ u16At w 20 = ethertype ∧ w.getD 22 0 = kind.code ∧
      u16At w 24 = seq ∧ w.getD 27 0 = status.code ∧ u16At w 28 = opcode := by
  intro w
  simp only [w, header, commandHeader, List.append_assoc]
  split <;> simp only [u16At_octets, u16At_be16_append, u16At_cons, u16At_be16, getD_octets,
    getD_be16_append, List.cons_append, List.getD_cons_succ, List.getD_cons_zero, List.take_left',
    List.drop_left', Mac.length_octets, List.nil_append, List.append_assoc, and_self]

theorem length_header :
    (header a kind seq opcode status len).length = 26 + if len ≤ 127 then 4 else 6 := by
  simp only [header, commandHeader, maxCompact]
  by_cases compact : len ≤ 127 <;> simp [compact, Mac.length_octets]

theorem payloadSpan_header (h : len ≤ 65535) :
    payloadSpan (header a kind seq opcode status len ++ rest) =
      .ok (len, 26 + if len ≤ 127 then 4 else 6) := by
  unfold payloadSpan
  by_cases compact : len ≤ 127
  · have low : ¬ (0x80 ≤ len.toUInt8.toNat) := by simp; omega
    simp only [header, commandHeader, maxCompact, compact, if_true, List.append_assoc, getD_octets,
      getD_be16_append, List.cons_append, List.getD_cons_succ, List.getD_cons_zero, List.nil_append]
    rw [if_neg (mt (top_bit _).mp low)]
    simp only [UInt8.toNat_ofNat', Nat.mod_eq_of_lt (show len < 2 ^ 8 by omega)]
  · simp only [header, commandHeader, maxCompact, compact, if_false, List.append_assoc, getD_octets,
      getD_be16_append, List.cons_append, List.getD_cons_succ, List.getD_cons_zero, List.nil_append,
      u16At_octets, u16At_be16_append, u16At_cons, u16At_be16]
    rw [if_pos (show (128 : UInt8) &&& 128 ≠ 0 by decide)]
    simp only [List.length_append, List.length_cons, Mac.length_octets, length_be16]
    rw [if_neg (by omega), UInt16.toNat_ofNat', Nat.mod_eq_of_lt (by omega)]

end layout

theorem decode_header_payload (a : Addressing) (kind : HeaderKind) (seq opcode : UInt16)
    (status : Status) (payload pad : List UInt8) (h : payload.length ≤ 65535) :
    decode a.reversed (header a kind seq opcode status payload.length ++ (payload ++ pad)) =
      .ok { kind, seq, opcode, status, payload } := by
  obtain ⟨hdst, hsrc, houter, hinner, hether, hkind, hseq, hstatus, hopcode⟩ :=
    header_fields a kind seq opcode status payload.length (payload ++ pad)
  have span := payloadSpan_header a kind seq opcode status payload.length (payload ++ pad) h
  have long : 30 ≤ (header a kind seq opcode status payload.length).length := by
    rw [length_header]
    split <;> omega
  rw [← length_header a kind seq opcode status payload.length] at span
  rw [decode, dif_neg (by simp only [envelopeLen, List.length_append]; omega)]
  simp only [Addressing.reversed, ne_eq, hdst, hsrc, houter, hinner, hether, hkind, hseq,
    hstatus, hopcode, not_true_eq_false, if_false, HeaderKind.ofCode?_code, span, List.drop_left,
    List.take_left, List.length_append, Nat.add_sub_cancel_left]
  rw [if_neg (by omega)]

section encode

variable (a : Addressing) (kind : HeaderKind) (seq opcode : UInt16) (status : Status)
  (payload : List UInt8)

theorem encode_of_le (h : payload.length ≤ 65535) :
    encode a kind seq opcode status payload =
      .ok (header a kind seq opcode status payload.length ++
        (payload ++
          List.replicate (60 - (header a kind seq opcode status payload.length ++ payload).length) 0)) := by
  rw [encode, if_neg (by simp only [maxPayload]; omega)]
  simp only [minFrameLen, List.append_assoc]

theorem encode_of_lt (h : 65535 < payload.length) :
    encode a kind seq opcode status payload = .error (.payloadTooLarge payload.length 65535) := by
  rw [encode, if_pos (by simp only [maxPayload]; omega)]
  rfl

end encode

/-- Every frame whose payload has at most 65535 bytes encodes, padded to 60 bytes behind a
header of 30 bytes, or 32 past a payload of 127 bytes, and reads back unchanged at the other
end of the link; a longer payload is refused with its size and the ceiling. -/
theorem encode_round_trip (a : Addressing) (kind : HeaderKind) (seq opcode : UInt16) (code : UInt8)
    (payload : List UInt8) :
    ((∃ w, encode a kind seq opcode ⟨code⟩ payload = .ok w ∧
        w.length = max 60 (26 + (if payload.length ≤ 127 then 4 else 6) + payload.length) ∧
        decode a.reversed w = .ok { kind, seq, opcode, status := ⟨code⟩, payload }) ↔
      payload.length ≤ 65535) ∧
    (encode a kind seq opcode ⟨code⟩ payload = .error (.payloadTooLarge payload.length 65535) ↔
      65535 < payload.length) := by
  by_cases fits : payload.length ≤ 65535
  · have hlen := length_header a kind seq opcode ⟨code⟩ payload.length
    refine ⟨iff_of_true ⟨_, encode_of_le a kind seq opcode ⟨code⟩ payload fits, ?_,
      decode_header_payload a kind seq opcode ⟨code⟩ payload _ fits⟩ fits, iff_of_false ?_ (by omega)⟩
    · simp only [List.length_append, List.length_replicate, hlen]
      omega
    · rw [encode_of_le a kind seq opcode ⟨code⟩ payload fits]
      exact fun encoded => by cases encoded
  · have spill : 65535 < payload.length := by omega
    refine ⟨iff_of_false ?_ fits, iff_of_true (encode_of_lt a kind seq opcode ⟨code⟩ payload spill) spill⟩
    rintro ⟨w, encoded, -⟩
    rw [encode_of_lt a kind seq opcode ⟨code⟩ payload spill] at encoded
    cases encoded

/-- The kind an answer to a request of kind `kind` travels on: a counter stream is answered
as a counter acknowledgement, every other kind as itself. -/
def answerKind (kind : HeaderKind) : HeaderKind :=
  if kind = .counterStream then .counterAck else kind

@[simp] theorem channel_answerKind (kind : HeaderKind) : (answerKind kind).channel = kind.channel := by
  unfold answerKind
  split
  · next h => subst h; rfl
  · rfl

theorem length_le_of_encode {a : Addressing} {kind : HeaderKind} {seq opcode : UInt16}
    {status : Status} {payload frame : List UInt8}
    (h : encode a kind seq opcode status payload = .ok frame) : payload.length ≤ 65535 := by
  rcases Nat.lt_or_ge 65535 payload.length with long | fits
  · rw [encode_of_lt a kind seq opcode status payload long] at h
    cases h
  · exact fits

/-- The peer reads a request the way it was written, and its answer, with any status and any
payload the extended length field can describe, reads back at the requester as an answer of
the request's kind (a counter stream answered as a counter acknowledgement), sequence number
and opcode. -/
theorem respond_encode {a : Addressing} {kind : HeaderKind} {seq opcode : UInt16}
    {input request : List UInt8} (h : encode a kind seq opcode Status.ok input = .ok request)
    (status : Status) (payload : List UInt8) (fits : payload.length ≤ 65535) :
    ∃ response, respond a request status payload = .ok response ∧
      decode a response = .ok { kind := answerKind kind, seq, opcode, status, payload } := by
  have small := length_le_of_encode h
  have read : decode a.reversed request = .ok { kind, seq, opcode, status := Status.ok, payload := input } := by
    rw [encode_of_le a kind seq opcode Status.ok input small, Except.ok.injEq] at h
    rw [← h]
    exact decode_header_payload a kind seq opcode Status.ok input _ small
  have answered := decode_header_payload a.reversed (answerKind kind) seq opcode status payload
    (List.replicate (60 - (header a.reversed (answerKind kind) seq opcode status payload.length ++
      payload).length) 0) fits
  rw [Addressing.reversed_reversed] at answered
  refine ⟨_, ?_, answered⟩
  simp only [respond, read, bind, Except.bind]
  exact encode_of_le a.reversed _ seq opcode status payload fits

end FrameRpc.Wire
