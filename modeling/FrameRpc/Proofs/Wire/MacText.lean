import FrameRpc.Proofs.Wire.Reading
import FrameRpc.Config.Parse
import Mathlib
set_option autoImplicit false

/-!
The text form of a link address.

Reading splits a text at its colons and wants six fields, each two bytes long and each
either two hexadecimal digits in either case or a plus sign and one digit, the rule of
reading an unsigned byte in base sixteen. Writing gives two lowercase digits per octet.
`Spells` states the grammar on the fields themselves, with `FieldReads` for one field, so
the accepted language is stated apart from the reader. Reading accepts more than writing
produces (uppercase digits, the plus sign), so the round trip holds one way on every
address and the other way on lowercase texts only. Main statement: `text_grammar`.
-/

namespace FrameRpc

namespace Hex

theorem char_le_iff {a b : Char} : a ≤ b ↔ a.toNat ≤ b.toNat := by
  rw [Char.le_def, UInt32.le_iff_toNat_le]
  rfl

def IsLower (c : Char) : Prop := ('0' ≤ c ∧ c ≤ '9') ∨ ('a' ≤ c ∧ c ≤ 'f')

instance (c : Char) : Decidable (IsLower c) := inferInstanceAs (Decidable (_ ∨ _))

theorem isLower_digit {n : Nat} (h : n < 16) : IsLower (digit n) := by
  have all : ∀ n < 16, IsLower (digit n) := by decide
  exact all n h

theorem digit_of_isLower {c : Char} {x : Nat} (hc : IsLower c) (hv : digitValue? c = some x) :
    digit x = c := by
  rw [← Char.ofNat_toNat c]
  simp only [IsLower, char_le_iff] at hc
  unfold digitValue? at hv
  simp only [char_le_iff] at hv
  have h0 : '0'.toNat = 48 := rfl
  have h9 : '9'.toNat = 57 := rfl
  have ha : 'a'.toNat = 97 := rfl
  have hf : 'f'.toNat = 102 := rfl
  have hA : 'A'.toNat = 65 := rfl
  have hF : 'F'.toNat = 70 := rfl
  rw [h0, h9, ha, hf] at hc
  rw [h0, h9, ha, hf, hA, hF] at hv
  unfold digit
  split at hv
  · cases hv
    rw [if_pos (by omega)]
    congr 1
    rw [h0]
    omega
  · split at hv
    · cases hv
      rw [if_neg (by omega)]
      congr 1
      rw [ha]
      omega
    · split at hv
      · omega
      · cases hv

theorem digitValue?_of_isLower {c : Char} (hc : IsLower c) : ∃ x < 16, digitValue? c = some x := by
  simp only [IsLower, char_le_iff] at hc
  have h0 : '0'.toNat = 48 := rfl
  have h9 : '9'.toNat = 57 := rfl
  have ha : 'a'.toNat = 97 := rfl
  have hf : 'f'.toNat = 102 := rfl
  rw [h0, h9, ha, hf] at hc
  unfold digitValue?
  simp only [char_le_iff, h0, h9, ha, hf]
  split
  · exact ⟨_, by omega, rfl⟩
  · split
    · exact ⟨_, by omega, rfl⟩
    · omega

theorem isLower_iff {c : Char} : IsLower c ↔ ∃ x < 16, digit x = c := by
  constructor
  · intro hc
    obtain ⟨x, hx, hv⟩ := digitValue?_of_isLower hc
    exact ⟨x, hx, digit_of_isLower hc hv⟩
  · rintro ⟨x, hx, rfl⟩
    exact isLower_digit hx

theorem utf8Size_of_digitValue? {c : Char} {x : Nat} (hv : digitValue? c = some x) :
    c.utf8Size = 1 := by
  rw [Char.utf8Size_eq_one_iff, UInt32.le_iff_toNat_le]
  unfold digitValue? at hv
  simp only [char_le_iff] at hv
  have h9 : '9'.toNat = 57 := rfl
  have hf : 'f'.toNat = 102 := rfl
  have hF : 'F'.toNat = 70 := rfl
  rw [h9, hf, hF] at hv
  show c.toNat ≤ 127
  split at hv
  · omega
  · split at hv
    · omega
    · split at hv
      · omega
      · cases hv

end Hex

namespace Mac

/-- A text field that reads as the octet `v`: two hexadecimal digits in either case, high
digit first, or a plus sign and one digit. -/
inductive FieldReads : List Char → UInt8 → Prop where
  | digits {h l : Char} {x y : Nat} : Hex.digitValue? h = some x → Hex.digitValue? l = some y →
      FieldReads [h, l] (16 * x + y).toUInt8
  | plus {d : Char} {x : Nat} : Hex.digitValue? d = some x → FieldReads ['+', d] x.toUInt8

theorem fieldValue?_eq_some_iff {f : List Char} {v : UInt8} : fieldValue? f = some v ↔ FieldReads f v := by
  constructor
  · intro hv
    unfold fieldValue? at hv
    split at hv
    · next d =>
      obtain ⟨x, hx, rfl⟩ := Option.map_eq_some_iff.mp hv
      exact .plus hx
    · next h l _ =>
      simp only [Option.bind_eq_bind, Option.bind_eq_some_iff, Option.pure_def,
        Option.some.injEq] at hv
      obtain ⟨x, hx, y, hy, rfl⟩ := hv
      exact .digits hx hy
    · cases hv
  · intro hr
    cases hr with
    | @digits h l x y hx hy =>
      -- a plus sign is no digit, so the first pattern of `fieldValue?` does not apply
      have sign : h ≠ '+' := by
        rintro rfl
        cases hx
      unfold fieldValue?
      split
      · next d same =>
        simp only [List.cons.injEq] at same
        exact absurd same.1 sign
      · next h' l' _ same =>
        simp only [List.cons.injEq, and_true] at same
        obtain ⟨rfl, rfl⟩ := same
        simp [hx, hy]
      · next other => exact absurd rfl (other h l)
    | plus hx => simp [fieldValue?, hx]

theorem FieldReads.utf8ByteSize {f : List Char} {v : UInt8} (hr : FieldReads f v) :
    (String.ofList f).utf8ByteSize = 2 := by
  cases hr with
  | digits hx hy =>
    simp [String.utf8ByteSize_singleton, Hex.utf8Size_of_digitValue? hx,
      Hex.utf8Size_of_digitValue? hy]
  | plus hx =>
    simp [Hex.utf8Size_of_digitValue? hx]
    rfl

theorem fieldValues?_eq_some_iff {fs : List String} {vs : List UInt8} :
    fieldValues? fs = some vs ↔ List.Forall₂ (fun f v => FieldReads f.toList v) fs vs := by
  induction fs generalizing vs with
  | nil => cases vs <;> simp [fieldValues?]
  | cons f fs ih =>
    simp only [fieldValues?, Option.bind_eq_bind, Option.bind_eq_some_iff, Option.pure_def,
      Option.some.injEq, fieldValue?_eq_some_iff]
    constructor
    · rintro ⟨v, hv, ws, hws, rfl⟩
      exact .cons hv (ih.mp hws)
    · intro h
      cases h with
      | cons hv hws => exact ⟨_, hv, _, ih.mpr hws, rfl⟩

/-- The text `s` spells the octets `vs`: split at its colons it has six fields, each two bytes
long and reading as its octet. -/
def Spells (s : String) (vs : List UInt8) : Prop :=
  (s.toList.splitOn ':').length = 6 ∧
    List.Forall₂ (fun f v => (String.ofList f).utf8ByteSize = 2 ∧ FieldReads f v) (s.toList.splitOn ':') vs

theorem parse?_eq_some_iff {s : String} {m : Mac} :
    parse? s = some m ↔ (fields s).length = 6 ∧ fieldValues? (fields s) = some m.octets := by
  unfold parse?
  split
  · next hlen =>
    split
    · next vs h => simp [h, Mac.eq_iff, hlen]
    · next h => simp [h]
  · next hlen => simp [hlen]

theorem parse?_eq_some_iff_spells {s : String} {m : Mac} : parse? s = some m ↔ Spells s m.octets := by
  rw [parse?_eq_some_iff, fieldValues?_eq_some_iff, fields, List.length_map, Spells,
    List.forall₂_map_left_iff]
  simp only [String.toList_ofList]
  constructor
  · rintro ⟨six, reads⟩
    exact ⟨six, reads.imp fun _ _ hr => ⟨hr.utf8ByteSize, hr⟩⟩
  · rintro ⟨six, reads⟩
    exact ⟨six, reads.imp fun _ _ hr => hr.2⟩

theorem parse_eq_ok_iff {s : String} {m : Mac} : Mac.parse s = .ok m ↔ Spells s m.octets := by
  rw [← parse?_eq_some_iff_spells, Mac.parse]
  cases parse? s <;> simp

theorem parse_eq_error {s : String} (h : ∀ m : Mac, ¬ Spells s m.octets) :
    Mac.parse s = .error (.invalidMac s) := by
  unfold Mac.parse
  cases hp : parse? s with
  | none => rfl
  | some m => exact absurd (parse?_eq_some_iff_spells.mp hp) (h m)

theorem byteChars_reads (o : UInt8) : FieldReads (Hex.byteChars o) o := by
  have := o.toNat_lt
  have reads := FieldReads.digits (Hex.digitValue_digit (show o.toNat / 16 < 16 by omega))
    (Hex.digitValue_digit (show o.toNat % 16 < 16 by omega))
  rwa [Hex.byte_halves, Nat.toUInt8, UInt8.ofNat_toNat] at reads

theorem colon_not_mem_byteChars (o : UInt8) : ':' ∉ Hex.byteChars o := by
  have := o.toNat_lt
  have colon : ¬ Hex.IsLower ':' := by decide
  simp only [Hex.byteChars, List.mem_cons, List.not_mem_nil, or_false, not_or]
  constructor <;> intro same <;> exact colon (same ▸ Hex.isLower_digit (by omega))

theorem splitOn_text (m : Mac) : m.text.toList.splitOn ':' = m.octets.map Hex.byteChars := by
  have digits : String.toList ∘ Hex.byte = Hex.byteChars := funext fun _ => String.toList_ofList
  have nonempty : m.octets.map Hex.byteChars ≠ [] := by
    intro empty
    have := m.length_octets
    simp_all
  rw [text, String.toList_intercalate, List.map_map, digits]
  refine List.splitOn_intercalate ':' (fun l hl => ?_) nonempty
  obtain ⟨o, -, rfl⟩ := List.mem_map.mp hl
  exact colon_not_mem_byteChars o

theorem text_spells (m : Mac) : Spells m.text m.octets := by
  rw [Spells, splitOn_text, List.length_map, m.length_octets, List.forall₂_map_left_iff]
  exact ⟨rfl, List.forall₂_same.mpr fun o _ => ⟨(byteChars_reads o).utf8ByteSize, byteChars_reads o⟩⟩

def Lowercase (s : String) : Prop :=
  (s.toList.splitOn ':').length = 6 ∧
    ∀ f ∈ s.toList.splitOn ':', ∃ h l, f = [h, l] ∧ Hex.IsLower h ∧ Hex.IsLower l

theorem text_lowercase (m : Mac) : Lowercase m.text := by
  rw [Lowercase, splitOn_text, List.length_map, m.length_octets]
  refine ⟨rfl, fun f hf => ?_⟩
  obtain ⟨o, -, rfl⟩ := List.mem_map.mp hf
  have := o.toNat_lt
  exact ⟨_, _, rfl, Hex.isLower_digit (by omega), Hex.isLower_digit (by omega)⟩

theorem byteChars_of_isLower {h l : Char} (hh : Hex.IsLower h) (hl : Hex.IsLower l) :
    ∃ o, Hex.byteChars o = [h, l] := by
  obtain ⟨x, hx, rfl⟩ := Hex.isLower_iff.mp hh
  obtain ⟨y, hy, rfl⟩ := Hex.isLower_iff.mp hl
  have value : (16 * x + y).toUInt8.toNat = 16 * x + y := by
    rw [Nat.toUInt8, UInt8.toNat_ofNat', Nat.mod_eq_of_lt (by omega)]
  refine ⟨(16 * x + y).toUInt8, ?_⟩
  rw [Hex.byteChars, value]
  congr 3 <;> omega

theorem exists_octets_of_lowercase {fs : List (List Char)}
    (h : ∀ f ∈ fs, ∃ a b, f = [a, b] ∧ Hex.IsLower a ∧ Hex.IsLower b) :
    ∃ os : List UInt8, os.map Hex.byteChars = fs := by
  induction fs with
  | nil => exact ⟨[], rfl⟩
  | cons f fs ih =>
    obtain ⟨a, b, rfl, ha, hb⟩ := h f (List.mem_cons_self ..)
    obtain ⟨o, ho⟩ := byteChars_of_isLower ha hb
    obtain ⟨os, hos⟩ := ih fun g hg => h g (List.mem_cons_of_mem _ hg)
    exact ⟨o :: os, by rw [List.map_cons, ho, hos]⟩

theorem parse_lowercase {s : String} (hs : Lowercase s) : ∃ m : Mac, Mac.parse s = .ok m ∧ m.text = s := by
  obtain ⟨os, hos⟩ := exists_octets_of_lowercase hs.2
  have six : os.length = 6 := by
    rw [← List.length_map (f := Hex.byteChars), hos]
    exact hs.1
  let m : Mac := ⟨os, six⟩
  have same : m.text = s := by
    apply String.toList_inj.mp
    calc m.text.toList = [':'].intercalate (m.text.toList.splitOn ':') := (List.intercalate_splitOn ':').symm
      _ = [':'].intercalate (s.toList.splitOn ':') := by rw [splitOn_text, ← hos]
      _ = s.toList := List.intercalate_splitOn ':'
  refine ⟨m, ?_, same⟩
  rw [← same]
  exact parse_eq_ok_iff.mpr (text_spells m)

theorem macDecoder_text (m : Mac) : macDecoder.decode (.str m.text) = .ok m := by
  have parsed := parse_eq_ok_iff.mpr (text_spells m)
  simp only [macDecoder, Json.Decoder.refine, Json.Decoder.string, bind, Except.bind, parsed,
    Except.mapError]

/-- Every address is written as six fields of two lowercase digits that read back as it,
also from its form as a JSON string; a text reads as an address exactly when split at its
colons it has six fields, each two bytes long and either two hexadecimal digits in either
case or a plus sign and one digit, the octets being their values, and every other text is
refused with an error naming it; so a lowercase text is the text of the address it reads
as. -/
theorem text_grammar :
    (∀ m : Mac, Lowercase m.text ∧ Spells m.text m.octets ∧ Mac.parse m.text = .ok m) ∧
    (∀ (s : String) (m : Mac), Mac.parse s = .ok m ↔ Spells s m.octets) ∧
    (∀ s : String, (∀ m : Mac, ¬ Spells s m.octets) → Mac.parse s = .error (.invalidMac s)) ∧
    (∀ s : String, Lowercase s → ∃ m : Mac, Mac.parse s = .ok m ∧ m.text = s) ∧
    (∀ m : Mac, macDecoder.decode (.str m.text) = .ok m) :=
  ⟨fun m => ⟨text_lowercase m, text_spells m, parse_eq_ok_iff.mpr (text_spells m)⟩,
    fun _ _ => parse_eq_ok_iff, fun _ => parse_eq_error, fun _ => parse_lowercase, macDecoder_text⟩

end Mac

end FrameRpc
