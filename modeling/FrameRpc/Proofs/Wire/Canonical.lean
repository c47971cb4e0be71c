import FrameRpc.Proofs.Wire.RoundTrip
set_option autoImplicit false

/-!
The strings that encoding gives back.

Decoding reads past part of a string: the two tag control fields, the reserved byte, the
low bits of an extended header's first byte, which header form a short payload came in,
and every byte after the payload. Encoding writes each of these one way. A string is
`Canonical` for a payload when it has them the way encoding writes them: the link's VLAN
ids in the tag control fields, a zero reserved byte, the compact header exactly for
payloads of at most 127 bytes (an extended one starting with `0x80` exactly), and zeros
after the payload up to 60 bytes, no further. Main statement:
`encode_decoded_iff_canonical`, encoding a decoded frame again at the other end of the link
gives back the string it was read from exactly when that string is canonical.
-/

namespace FrameRpc.Wire

/-- The bytes in front of a payload of `n` bytes: the envelope, then the compact command
header up to 127 bytes and the extended one beyond. -/
def headerLen (n : Nat) : Nat := envelopeLen + if n ≤ maxCompact then 4 else 6

structure Canonical (a : Addressing) (b p : List UInt8) : Prop where
  outerTci : u16At b 14 = a.outerVlan &&& vlanMask
  innerTci : u16At b 18 = a.innerVlan &&& vlanMask
  reserved : b.getD 23 0 = 0
  lengthByte : b.getD 26 0 = if p.length ≤ maxCompact then p.length.toUInt8 else 0x80
  length : b.length = max minFrameLen (headerLen p.length + p.length)
  padding : ∀ x ∈ b.drop (headerLen p.length + p.length), x = 0

theorem be16_word (hi lo : UInt8) : be16 (word hi lo) = [hi, lo] := by
  have := hi.toNat_lt
  have := lo.toNat_lt
  simp only [be16, word, List.cons.injEq, and_true]
  constructor <;> apply UInt8.toNat_inj.mp
  · simp [Nat.shiftRight_eq_div_pow]
    omega
  · simp

theorem be16_u16At {b : List UInt8} {k : Nat} (h : k + 1 < b.length) :
    be16 (u16At b k) = [b.getD k 0, b.getD (k + 1) 0] := by
  rw [u16At_eq_word h rfl, be16_word, getD_of_lt, getD_of_lt]

theorem take_drop_succ {b : List UInt8} {k : Nat} (h : k < b.length) (n : Nat) :
    (b.drop k).take (n + 1) = b.getD k 0 :: (b.drop (k + 1)).take n := by
  rw [List.drop_eq_getElem_cons h, List.take_succ_cons, getD_of_lt h]

theorem length_header_eq_headerLen (a : Addressing) (kind : HeaderKind) (seq opcode : UInt16) (status : Status)
    (n : Nat) : (header a kind seq opcode status n).length = headerLen n :=
  length_header a kind seq opcode status n

section layout

variable (a : Addressing) (kind : HeaderKind) (seq opcode : UInt16) (status : Status) (n : Nat)
  (rest : List UInt8)

theorem header_ignored_fields :
    let w := header a kind seq opcode status n ++ rest
    u16At w 14 = a.outerVlan &&& vlanMask ∧ u16At w 18 = a.innerVlan &&& vlanMask ∧
      w.getD 23 0 = 0 ∧ w.getD 26 0 = if n ≤ maxCompact then n.toUInt8 else 0x80 := by
  intro w
  simp only [w, header, commandHeader, List.append_assoc]
  split <;> simp only [u16At_octets, u16At_be16_append, u16At_be16, getD_octets,
    getD_be16_append, List.cons_append, List.nil_append, List.getD_cons_succ, List.getD_cons_zero,
    true_and]

end layout

theorem canonical_encode {a : Addressing} {kind : HeaderKind} {seq opcode : UInt16}
    {status : Status} {p w : List UInt8} (h : encode a kind seq opcode status p = .ok w) :
    Canonical a.reversed w p := by
  have fits := length_le_of_encode h
  rw [encode_of_le a kind seq opcode status p fits, Except.ok.injEq] at h
  subst h
  have hlen := length_header_eq_headerLen a kind seq opcode status p.length
  obtain ⟨outer, inner, reserved, first⟩ := header_ignored_fields a kind seq opcode status p.length
    (p ++ List.replicate (60 - (header a kind seq opcode status p.length ++ p).length) 0)
  refine ⟨outer, inner, reserved, first, ?_, ?_⟩
  · simp only [List.length_append, List.length_replicate, hlen, minFrameLen]
    omega
  · intro x hx
    rw [← hlen, ← List.length_append, ← List.append_assoc, List.drop_left] at hx
    exact List.eq_of_mem_replicate hx


theorem take_thirty {b : List UInt8} (h : 30 ≤ b.length) :
    b.take 30 = b.take 6 ++ (b.drop 6).take 6 ++
      [b.getD 12 0, b.getD 13 0, b.getD 14 0, b.getD 15 0, b.getD 16 0, b.getD 17 0, b.getD 18 0,
       b.getD 19 0, b.getD 20 0, b.getD 21 0, b.getD 22 0, b.getD 23 0, b.getD 24 0, b.getD 25 0,
       b.getD 26 0, b.getD 27 0, b.getD 28 0, b.getD 29 0] := by
  rw [show 30 = 6 + (6 + 18) from rfl, List.take_add, List.take_add, List.drop_drop,
    List.append_assoc]
  simp (disch := omega) only [take_drop_succ, List.take_zero]

theorem eq_header_payload_rest (b : List UInt8) (off len : Nat) :
    b = b.take off ++ ((b.drop off).take len ++ b.drop (off + len)) := by
  rw [← List.drop_drop, List.take_append_drop, List.take_append_drop]

theorem Canonical.rest_eq {a : Addressing} {b p : List UInt8} (canon : Canonical a b p) :
    b.drop (headerLen p.length + p.length) =
      List.replicate (60 - (headerLen p.length + p.length)) 0 := by
  refine List.eq_replicate_iff.mpr ⟨?_, canon.padding⟩
  rw [List.length_drop, canon.length, minFrameLen]
  omega


theorem take_thirty_header {a : Addressing} {b p : List UInt8} (h : 30 ≤ b.length)
    (addressed : Addressed a b) (tagged : Tagged b h) {kind : HeaderKind}
    (hcode : kind.code = b.getD 22 0) (canon : Canonical a b p) (compact : p.length ≤ maxCompact) :
    b.take 30 = header a.reversed kind (u16At b 24) (u16At b 28) ⟨b.getD 27 0⟩ p.length := by
  have outer : u16At b 12 = outerTpid := (u16At_eq_word (by omega) rfl).trans tagged.1
  have inner : u16At b 16 = innerTpid := (u16At_eq_word (by omega) rfl).trans tagged.2.1
  have ether : u16At b 20 = ethertype := (u16At_eq_word (by omega) rfl).trans tagged.2.2
  rw [take_thirty h, canon.reserved, ← hcode, canon.lengthByte, if_pos compact]
  simp (disch := omega) only [header, commandHeader, if_pos compact, Addressing.reversed,
    ← addressed.1, ← addressed.2, ← outer, ← inner, ← ether, ← canon.outerTci, ← canon.innerTci,
    be16_u16At, List.append_assoc, List.cons_append, List.nil_append]

theorem take_thirty_two_header {a : Addressing} {b p : List UInt8} (h : 32 ≤ b.length)
    (addressed : Addressed a b) (tagged : Tagged b (by omega)) {kind : HeaderKind}
    (hcode : kind.code = b.getD 22 0) (canon : Canonical a b p) (extended : ¬ p.length ≤ maxCompact)
    (hlen : (u16At b 30).toNat = p.length) :
    b.take 32 = header a.reversed kind (u16At b 24) (u16At b 28) ⟨b.getD 27 0⟩ p.length := by
  have outer : u16At b 12 = outerTpid := (u16At_eq_word (by omega) rfl).trans tagged.1
  have inner : u16At b 16 = innerTpid := (u16At_eq_word (by omega) rfl).trans tagged.2.1
  have ether : u16At b 20 = ethertype := (u16At_eq_word (by omega) rfl).trans tagged.2.2
  have field : p.length.toUInt16 = u16At b 30 := by
    rw [← hlen]
    exact UInt16.ofNat_toNat
  rw [show 32 = 30 + 2 from rfl, List.take_add, take_thirty (by omega), canon.reserved, ← hcode,
    canon.lengthByte, if_neg extended, take_drop_succ (k := 30) (by omega),
    take_drop_succ (k := 31) (by omega), List.take_zero]
  simp (disch := omega) only [header, commandHeader, if_neg extended, Addressing.reversed,
    ← addressed.1, ← addressed.2, ← outer, ← inner, ← ether, ← canon.outerTci, ← canon.innerTci,
    field, be16_u16At, List.append_assoc, List.cons_append, List.nil_append]

theorem encode_of_layout {a : Addressing} {kind : HeaderKind} {seq opcode : UInt16} {status : Status}
    {b p : List UInt8} (fits : p.length ≤ maxPayload)
    (front : b.take (headerLen p.length) = header a kind seq opcode status p.length)
    (carried : (b.drop (headerLen p.length)).take p.length = p)
    (rest : b.drop (headerLen p.length + p.length) =
      List.replicate (60 - (headerLen p.length + p.length)) 0) :
    encode a kind seq opcode status p = .ok b := by
  rw [encode_of_le a kind seq opcode status p fits, Except.ok.injEq]
  conv => rhs; rw [eq_header_payload_rest b (headerLen p.length) p.length]
  rw [front, carried, rest, List.length_append, length_header_eq_headerLen]

theorem encode_of_canonical {a : Addressing} {b : List UInt8} {f : Frame} (h : decode a b = .ok f)
    (canon : Canonical a b f.payload) :
    encode a.reversed f.kind f.seq f.opcode f.status f.payload = .ok b := by
  cases (decode_eq_iff_reads _).mp h with
  | frame h30 kind addressed tagged hcode declared fits =>
    dsimp only at canon ⊢
    rw [← u16At_eq_word (show 25 < b.length by omega) rfl,
      ← u16At_eq_word (show 29 < b.length by omega) rfl, ← getD_of_lt (show 27 < b.length by omega)]
    rw [← getD_of_lt (show 22 < b.length by omega)] at hcode
    cases declared with
    | compact _ low =>
      have hp : ((b.drop 30).take b[26].toNat).length = b[26].toNat := by simp; omega
      have compact : ((b.drop 30).take b[26].toNat).length ≤ maxCompact := by
        rw [hp, maxCompact]; omega
      have front : headerLen ((b.drop 30).take b[26].toNat).length = 30 := by
        rw [headerLen, if_pos compact]; rfl
      refine encode_of_layout (by rw [hp, maxPayload]; omega) ?_ ?_ (front ▸ canon.rest_eq)
      · rw [front]
        exact take_thirty_header h30 addressed tagged hcode canon compact
      · rw [front, hp]
    | extended h32 top =>
      have hp : ((b.drop 32).take (word b[30] b[31]).toNat).length = (word b[30] b[31]).toNat := by
        simp; omega
      -- a payload that fits the compact header would have put its length in byte 26
      have long : ¬ ((b.drop 32).take (word b[30] b[31]).toNat).length ≤ maxCompact := by
        intro short
        have first := canon.lengthByte
        rw [if_pos short, hp, getD_of_lt (show 26 < b.length by omega)] at first
        rw [first, UInt8.toNat_ofNat', Nat.mod_eq_of_lt (by rw [maxCompact] at short; omega)] at top
        rw [maxCompact] at short
        omega
      have front : headerLen ((b.drop 32).take (word b[30] b[31]).toNat).length = 32 := by
        rw [headerLen, if_neg long]; rfl
      refine encode_of_layout (by rw [hp, maxPayload]; have := (word b[30] b[31]).toNat_lt; omega) ?_ ?_
        (front ▸ canon.rest_eq)
      · rw [front]
        refine take_thirty_two_header h32 addressed tagged hcode canon long ?_
        rw [u16At_eq_word (show 31 < b.length by omega) rfl]
        exact hp.symm
      · rw [front, hp]

/-- On every link, encoding a frame that a string was read as, from the other end of the
link, gives back that string exactly when the string is canonical for the frame's payload:
the tag control fields hold the link's VLAN ids, the reserved byte is zero, the command
header is compact with the payload's length in byte 26 exactly when the payload has at most
127 bytes and otherwise starts with `0x80` exactly, and the string is as long as the header
and payload padded to 60 bytes, with zeros after the payload. -/
theorem encode_decoded_iff_canonical {a : Addressing} {b : List UInt8} {f : Frame}
    (h : decode a b = .ok f) :
    encode a.reversed f.kind f.seq f.opcode f.status f.payload = .ok b ↔ Canonical a b f.payload :=
  ⟨fun encoded => a.reversed_reversed ▸ canonical_encode encoded, encode_of_canonical h⟩

theorem encode_decoded_iff_canonical_padded :
    let a : Addressing := ⟨⟨[2, 0, 0, 0, 0, 1], rfl⟩, ⟨[2, 0, 0, 0, 0, 2], rfl⟩, 100, 200⟩
    let b := header a.reversed .control 5 7 Status.ok 2 ++ ([1, 2] ++ [9])
    decode a b = .ok ⟨.control, 5, 7, Status.ok, [1, 2]⟩ ∧
      (encode a.reversed .control 5 7 Status.ok [1, 2] = .ok b ↔ Canonical a b [1, 2]) := by
  intro a b
  have read : decode a b = .ok ⟨.control, 5, 7, Status.ok, [1, 2]⟩ := by
    have := decode_header_payload a.reversed .control 5 7 Status.ok [1, 2] [9] (by decide)
    rwa [Addressing.reversed_reversed] at this
  exact ⟨read, encode_decoded_iff_canonical read⟩

end FrameRpc.Wire
