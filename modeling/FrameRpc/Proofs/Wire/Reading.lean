import FrameRpc.Proofs.Wire.Header
set_option autoImplicit false

/-!
Reading a frame, check by check.

`Reads a b r` says what a byte string `b` received on the link `a` reads as, in the terms of
the wire format: a string shorter than the envelope is too short; otherwise the destination,
the source, the two tag identifiers, the ethertype, the kind byte, the extended length field
and the declared payload length are checked in this order, the first check that fails names
the error, and a string that passes them all is the frame its fields describe. Every byte the
relation looks at is indexed with a proof that it lies below a length established by a check
before it, so reading never runs past the end of the string. Main statement:
`decode_eq_iff_reads`, the decoder gives exactly what `Reads` describes, on every string.
-/

namespace FrameRpc

theorem Mac.eq_iff {m m' : Mac} : m = m' ↔ m.octets = m'.octets := by
  cases m
  cases m'
  simp

theorem HeaderKind.code_range (k : HeaderKind) : 1 ≤ k.code.toNat ∧ k.code.toNat ≤ 9 := by
  cases k <;> decide

theorem HeaderKind.ofCode?_eq_some_iff {x : UInt8} {k : HeaderKind} :
    HeaderKind.ofCode? x = some k ↔ k.code = x :=
  ⟨HeaderKind.code_of_ofCode?, fun h => h ▸ HeaderKind.ofCode?_code k⟩

theorem HeaderKind.ofCode?_eq_none {x : UInt8} :
    HeaderKind.ofCode? x = none ↔ ¬ (1 ≤ x.toNat ∧ x.toNat ≤ 9) := by
  have bytes : ∀ v : BitVec 8, (HeaderKind.ofCode? ⟨v⟩ = none ↔ ¬ (1 ≤ v.toNat ∧ v.toNat ≤ 9)) := by
    decide
  exact bytes x.toBitVec

theorem HeaderKind.exists_ofCode? {x : UInt8} (low : 1 ≤ x.toNat) (high : x.toNat ≤ 9) :
    ∃ k, HeaderKind.ofCode? x = some k := by
  cases hk : HeaderKind.ofCode? x with
  | none => exact absurd ⟨low, high⟩ (HeaderKind.ofCode?_eq_none.mp hk)
  | some k => exact ⟨k, rfl⟩

namespace Wire

def word (hi lo : UInt8) : UInt16 := UInt16.ofNat (hi.toNat * 256 + lo.toNat)

theorem getD_of_lt {b : List UInt8} {i : Nat} (h : i < b.length) : b.getD i 0 = b[i] := by
  rw [List.getD_eq_getElem?_getD, List.getElem?_eq_getElem h, Option.getD_some]

theorem u16At_eq_word {b : List UInt8} {i j : Nat} (h : j < b.length) (next : i + 1 = j) :
    u16At b i = word b[i] b[j] := by
  subst next
  unfold u16At word
  rw [getD_of_lt (by omega), getD_of_lt h]
  apply UInt16.toNat_inj.mp
  have hi := b[i].toNat_lt
  have lo := b[i + 1].toNat_lt
  have shifted : b[i].toNat <<< 8 % 2 ^ 16 = 2 ^ 8 * b[i].toNat := by
    rw [Nat.shiftLeft_eq, Nat.mod_eq_of_lt (by omega), Nat.mul_comm]
  simp only [UInt16.toNat_or, UInt16.toNat_shiftLeft, UInt8.toNat_toUInt16, UInt16.toNat_ofNat']
  rw [show UInt16.toNat 8 % 16 = 8 from rfl, shifted, ← Nat.two_pow_add_eq_or_of_lt lo]
  omega

theorem top_bit (x : UInt8) : x &&& 0x80 ≠ 0 ↔ 0x80 ≤ x.toNat := by
  have bytes : ∀ v : BitVec 8, (v &&& 0x80 ≠ 0 ↔ 0x80 ≤ v.toNat) := by decide
  rw [ne_eq, ← UInt8.toBitVec_inj]
  exact bytes x.toBitVec

variable (a : Addressing) (b : List UInt8)

def Addressed : Prop := b.take 6 = a.own.octets ∧ (b.drop 6).take 6 = a.peer.octets

def Tagged (h : 30 ≤ b.length) : Prop :=
  word b[12] b[13] = outerTpid ∧ word b[16] b[17] = innerTpid ∧ word b[20] b[21] = ethertype

/-- The payload length and offset a command header declares: the length byte, or, when its
top bit is set, the 16-bit length after the opcode, which needs 32 bytes. -/
inductive Declares : Nat → Nat → Prop where
  | compact (h : 30 ≤ b.length) : b[26].toNat < 0x80 → Declares b[26].toNat 30
  | extended (h : 32 ≤ b.length) : 0x80 ≤ b[26].toNat → Declares (word b[30] b[31]).toNat 32

/-- What `b` reads as, received on the link `a`: the checks run in wire order and the first
that fails names the error; a string that passes them all is a frame. -/
inductive Reads : Except FrameError Frame → Prop where
  | tooShort : b.length < 30 → Reads (.error (.tooShort b.length 30))
  | notAddressedToUs (dst : Mac) : 30 ≤ b.length → dst.octets = b.take 6 → dst ≠ a.own →
      Reads (.error (.notAddressedToUs dst))
  | unexpectedSource (src : Mac) : 30 ≤ b.length → b.take 6 = a.own.octets →
      src.octets = (b.drop 6).take 6 → src ≠ a.peer → Reads (.error (.unexpectedSource src))
  | badOuterTag (h : 30 ≤ b.length) : Addressed a b → word b[12] b[13] ≠ outerTpid →
      Reads (.error (.badTag (word b[12] b[13])))
  | badInnerTag (h : 30 ≤ b.length) : Addressed a b → word b[12] b[13] = outerTpid →
      word b[16] b[17] ≠ innerTpid → Reads (.error (.badTag (word b[16] b[17])))
  | badEthertype (h : 30 ≤ b.length) : Addressed a b → word b[12] b[13] = outerTpid →
      word b[16] b[17] = innerTpid → word b[20] b[21] ≠ ethertype →
      Reads (.error (.badEthertype (word b[20] b[21])))
  | unknownHeaderKind (h : 30 ≤ b.length) : Addressed a b → Tagged b h →
      ¬ (1 ≤ b[22].toNat ∧ b[22].toNat ≤ 9) → Reads (.error (.unknownHeaderKind b[22]))
  | extendedTooShort (h : 30 ≤ b.length) : Addressed a b → Tagged b h →
      1 ≤ b[22].toNat → b[22].toNat ≤ 9 → 0x80 ≤ b[26].toNat → b.length < 32 →
      Reads (.error (.tooShort b.length 32))
  | truncated (h : 30 ≤ b.length) {len off : Nat} : Addressed a b → Tagged b h →
      1 ≤ b[22].toNat → b[22].toNat ≤ 9 → Declares b len off → b.length - off < len →
      Reads (.error (.truncated len (b.length - off)))
  | frame (h : 30 ≤ b.length) {len off : Nat} (kind : HeaderKind) : Addressed a b → Tagged b h →
      kind.code = b[22] → Declares b len off → len ≤ b.length - off →
      Reads (.ok { kind, seq := word b[24] b[25], opcode := word b[28] b[29], status := ⟨b[27]⟩,
                   payload := (b.drop off).take len })

variable {b}

theorem payloadSpan_error (h : 30 ≤ b.length) {e : FrameError} :
    payloadSpan b = .error e ↔ 0x80 ≤ b[26].toNat ∧ b.length < 32 ∧ e = .tooShort b.length 32 := by
  unfold payloadSpan
  simp only [getD_of_lt (show 26 < b.length by omega), top_bit]
  split
  · next top =>
    split
    · next short => simp [top, short, eq_comm, envelopeLen]
    · next long => simp only [reduceCtorEq, false_iff]; omega
  · next low => simp only [reduceCtorEq, false_iff]; omega

theorem payloadSpan_ok (h : 30 ≤ b.length) {len off : Nat} :
    payloadSpan b = .ok (len, off) ↔ Declares b len off := by
  unfold payloadSpan
  simp only [getD_of_lt (show 26 < b.length by omega), top_bit]
  constructor
  · intro hs
    split at hs
    · next top =>
      split at hs
      · cases hs
      · next long =>
        cases hs
        rw [u16At_eq_word (by omega) rfl]
        exact .extended (by omega) top
    · next low =>
      cases hs
      exact .compact h (by omega)
  · intro hd
    cases hd with
    | compact _ low => simp [show ¬ (0x80 ≤ b[26].toNat) by omega]
    | extended h32 top =>
      simp [top, show ¬ b.length < 32 by omega, u16At_eq_word (show 31 < b.length by omega) rfl]

variable {a}

theorem past_length_check (h : 30 ≤ b.length) : ¬ b.length < envelopeLen + 4 := by
  simp only [envelopeLen]; omega

variable (a b)

theorem reads_decode : Reads a b (decode a b) := by
  by_cases short : b.length < 30
  · rw [decode, dif_pos (by simpa only [envelopeLen] using short)]
    exact .tooShort short
  have h : 30 ≤ b.length := by omega
  rw [decode, dif_neg (past_length_check h)]
  simp only [ne_eq, Mac.eq_iff, u16At_eq_word (show 13 < b.length by omega) rfl,
    u16At_eq_word (show 17 < b.length by omega) rfl, u16At_eq_word (show 21 < b.length by omega) rfl,
    getD_of_lt (show 22 < b.length by omega)]
  -- each check in turn either fails with its error or hands on to the next
  split
  · next hdst => exact .notAddressedToUs _ h rfl (mt Mac.eq_iff.mp hdst)
  split
  · next hdst hsrc =>
    exact .unexpectedSource _ h (Classical.not_not.mp hdst) rfl (mt Mac.eq_iff.mp hsrc)
  next hdst hsrc =>
  have addressed : Addressed a b := ⟨Classical.not_not.mp hdst, Classical.not_not.mp hsrc⟩
  split
  · next houter => exact .badOuterTag h addressed houter
  split
  · next houter hinner => exact .badInnerTag h addressed (Classical.not_not.mp houter) hinner
  split
  · next houter hinner hether =>
    exact .badEthertype h addressed (Classical.not_not.mp houter) (Classical.not_not.mp hinner) hether
  next houter hinner hether =>
  have tagged : Tagged b h :=
    ⟨Classical.not_not.mp houter, Classical.not_not.mp hinner, Classical.not_not.mp hether⟩
  split
  · next hkind => exact .unknownHeaderKind h addressed tagged (HeaderKind.ofCode?_eq_none.mp hkind)
  next kind hkind =>
  have hcode := HeaderKind.ofCode?_eq_some_iff.mp hkind
  have range : 1 ≤ b[22].toNat ∧ b[22].toNat ≤ 9 := hcode ▸ kind.code_range
  split
  · next e hspan =>
    obtain ⟨top, short, rfl⟩ := (payloadSpan_error h).mp hspan
    exact .extendedTooShort h addressed tagged range.1 range.2 top short
  next len off hspan =>
  have declared := (payloadSpan_ok h).mp hspan
  split
  · next spill => exact .truncated h addressed tagged range.1 range.2 declared spill
  next fits =>
  rw [u16At_eq_word (show 25 < b.length by omega) rfl, u16At_eq_word (show 29 < b.length by omega) rfl,
    getD_of_lt (show 27 < b.length by omega)]
  exact .frame h kind addressed tagged hcode declared (by omega)

variable {a b}

theorem Reads.decode_eq {r : Except FrameError Frame} (hr : Reads a b r) : decode a b = r := by
  cases hr with
  | tooShort short => simp [decode, envelopeLen, short]
  | notAddressedToUs dst h hd hne =>
    obtain ⟨octets, sized⟩ := dst
    subst hd
    rw [decode, dif_neg (past_length_check h)]
    simp only [ne_eq, Mac.eq_iff]
    rw [if_pos (mt Mac.eq_iff.mpr hne)]
  | unexpectedSource src h hdst hs hne =>
    obtain ⟨octets, sized⟩ := src
    subst hs
    rw [decode, dif_neg (past_length_check h)]
    simp only [ne_eq, Mac.eq_iff]
    rw [if_neg (by simpa using hdst), if_pos (mt Mac.eq_iff.mpr hne)]
  | badOuterTag h addressed houter =>
    rw [decode, dif_neg (past_length_check h)]
    simp only [ne_eq, addressed.1, addressed.2, not_true_eq_false, ↓reduceIte,
      u16At_eq_word (show 13 < b.length by omega) rfl, houter, not_false_eq_true]
  | badInnerTag h addressed houter hinner =>
    rw [decode, dif_neg (past_length_check h)]
    simp only [ne_eq, addressed.1, addressed.2, not_true_eq_false, ↓reduceIte,
      u16At_eq_word (show 13 < b.length by omega) rfl, u16At_eq_word (show 17 < b.length by omega) rfl,
      houter, hinner, not_false_eq_true]
  | badEthertype h addressed houter hinner hether =>
    rw [decode, dif_neg (past_length_check h)]
    simp only [ne_eq, addressed.1, addressed.2, not_true_eq_false, ↓reduceIte,
      u16At_eq_word (show 13 < b.length by omega) rfl, u16At_eq_word (show 17 < b.length by omega) rfl,
      u16At_eq_word (show 21 < b.length by omega) rfl, houter, hinner, hether, not_false_eq_true]
  | unknownHeaderKind h addressed tagged hkind =>
    rw [decode, dif_neg (past_length_check h)]
    simp only [ne_eq, addressed.1, addressed.2, not_true_eq_false, ↓reduceIte,
      u16At_eq_word (show 13 < b.length by omega) rfl, u16At_eq_word (show 17 < b.length by omega) rfl,
      u16At_eq_word (show 21 < b.length by omega) rfl, tagged.1, tagged.2.1, tagged.2.2,
      getD_of_lt (show 22 < b.length by omega), HeaderKind.ofCode?_eq_none.mpr hkind]
  | extendedTooShort h addressed tagged low high top short =>
    obtain ⟨kind, hkind⟩ := HeaderKind.exists_ofCode? low high
    rw [decode, dif_neg (past_length_check h)]
    simp only [ne_eq, addressed.1, addressed.2, not_true_eq_false, ↓reduceIte,
      u16At_eq_word (show 13 < b.length by omega) rfl, u16At_eq_word (show 17 < b.length by omega) rfl,
      u16At_eq_word (show 21 < b.length by omega) rfl, tagged.1, tagged.2.1, tagged.2.2,
      getD_of_lt (show 22 < b.length by omega), hkind, (payloadSpan_error h).mpr ⟨top, short, rfl⟩]
  | truncated h addressed tagged low high declared spill =>
    obtain ⟨kind, hkind⟩ := HeaderKind.exists_ofCode? low high
    rw [decode, dif_neg (past_length_check h)]
    simp only [ne_eq, addressed.1, addressed.2, not_true_eq_false, ↓reduceIte,
      u16At_eq_word (show 13 < b.length by omega) rfl, u16At_eq_word (show 17 < b.length by omega) rfl,
      u16At_eq_word (show 21 < b.length by omega) rfl, tagged.1, tagged.2.1, tagged.2.2,
      getD_of_lt (show 22 < b.length by omega), hkind, (payloadSpan_ok h).mpr declared, spill]
  | frame h kind addressed tagged hcode declared fits =>
    rw [decode, dif_neg (past_length_check h)]
    simp only [ne_eq, addressed.1, addressed.2, not_true_eq_false, ↓reduceIte,
      u16At_eq_word (show 13 < b.length by omega) rfl, u16At_eq_word (show 17 < b.length by omega) rfl,
      u16At_eq_word (show 21 < b.length by omega) rfl, tagged.1, tagged.2.1, tagged.2.2,
      getD_of_lt (show 22 < b.length by omega), HeaderKind.ofCode?_eq_some_iff.mpr hcode,
      (payloadSpan_ok h).mpr declared, Nat.not_lt.mpr fits, u16At_eq_word (show 25 < b.length by omega) rfl,
      u16At_eq_word (show 29 < b.length by omega) rfl, getD_of_lt (show 27 < b.length by omega)]

/-- On every byte string and every link, decoding answers exactly what `Reads` describes: a
frame when every check passes, else the error of the first check that fails, each check
reading only bytes the checks before it have shown to be there. -/
theorem decode_eq_iff_reads (r : Except FrameError Frame) : decode a b = r ↔ Reads a b r :=
  ⟨fun h => h ▸ reads_decode a b, Reads.decode_eq⟩

theorem decode_header {f : Frame} (h : decode a b = .ok f) :
    f.kind.code = kindOf b ∧ f.seq = seqOf b := by
  cases (decode_eq_iff_reads _).mp h with
  | frame long kind _ _ hcode _ _ =>
    exact ⟨by rw [hcode, kindOf, getD_of_lt (by omega)], by rw [seqOf, u16At_eq_word (by omega) rfl]⟩

end Wire

end FrameRpc
