import FrameRpc.Proofs.Json.Strings
set_option autoImplicit false

/-!
Unsigned integers read back.

A natural number is written as its decimal digits, the first of them not a zero unless the
number is zero. Reading takes the first digit, then accumulates the others while the value
stays within 64 bits; a number that fits is read whole, and stops at the first byte that
cannot continue a number. So `readUnsigned` reads the digits of every number up to its
ceiling as that number (`readUnsigned_digits`).
-/

namespace FrameRpc.Json

def EndsNumber (r : List UInt8) : Prop :=
  ∀ b, r.head? = some b → isDigitByte b = false ∧ b ≠ 0x2e ∧ b ≠ 0x65 ∧ b ≠ 0x45

def digitsValue (acc : Nat) (ds : List UInt8) : Nat := ds.foldl (fun a d => a * 10 + (d.toNat - 0x30)) acc

theorem le_digitsValue : ∀ (acc : Nat) (ds : List UInt8), acc ≤ digitsValue acc ds
  | _, [] => Nat.le_refl _
  | acc, d :: ds => Nat.le_trans (by omega) (le_digitsValue (acc * 10 + (d.toNat - 0x30)) ds)

section accumulate

variable (src : Array UInt8) (limit : Nat)

theorem accumulate_digits :
    ∀ (ds : List UInt8) (i acc taken : Nat) (rest : List UInt8),
      src.toList.drop i = ds ++ rest → (∀ d ∈ ds, isDigitByte d = true) →
      (∀ b, rest.head? = some b → isDigitByte b = false) → digitsValue acc ds ≤ limit →
      accumulate src limit i acc taken = (i + ds.length, digitsValue acc ds, taken + ds.length)
  | [], i, acc, taken, rest, here, _, stops, _ => by
    rw [accumulate]
    split
    · next inside =>
      have at_i : src[i]? = rest.head? := getElem?_of_drop here
      rw [Array.getElem?_eq_getElem inside] at at_i
      rw [if_neg (by rw [stops _ at_i.symm]; decide)]
      rfl
    · rfl
  | d :: ds, i, acc, taken, rest, here, digits, stops, within => by
    have at_i : src[i]? = some d := by rw [getElem?_of_drop here]; rfl
    obtain ⟨inside, hd⟩ := Array.getElem?_eq_some_iff.mp at_i
    have step : acc * 10 + (d.toNat - 0x30) ≤ limit :=
      Nat.le_trans (le_digitsValue _ ds) within
    rw [accumulate, dif_pos inside]
    simp only [hd, digits d (List.mem_cons_self ..), ↓reduceIte, gt_iff_lt, Nat.not_lt.mpr step]
    have past : src.toList.drop (i + [d].length) = ds ++ rest := drop_past here
    rw [accumulate_digits ds (i + 1) _ (taken + 1) rest past
      (fun e he => digits e (List.mem_cons_of_mem _ he)) stops within]
    have first : digitsValue acc (d :: ds) = digitsValue (acc * 10 + (d.toNat - 0x30)) ds := rfl
    simp only [first, List.length_cons, Prod.mk.injEq, true_and]
    omega

end accumulate

section digits

def asciiByte (c : Char) : UInt8 := c.toNat.toUInt8

theorem flatMap_utf8EncodeChar_ascii :
    ∀ cs : List Char, (∀ c ∈ cs, c.toNat < 0x80) → cs.flatMap String.utf8EncodeChar = cs.map asciiByte
  | [], _ => rfl
  | c :: cs, ascii => by
    rw [List.flatMap_cons, utf8EncodeChar_ascii (ascii c (List.mem_cons_self ..)),
      flatMap_utf8EncodeChar_ascii cs (fun d hd => ascii d (List.mem_cons_of_mem _ hd))]
    rfl

theorem toNat_of_mem_toDigits {m : Nat} {c : Char} (hc : c ∈ Nat.toDigits 10 m) :
    0x30 ≤ c.toNat ∧ c.toNat ≤ 0x39 := by
  have digit := Nat.isDigit_of_mem_toDigits (by decide) (by decide) hc
  simp only [Char.isDigit, Bool.and_eq_true, decide_eq_true_eq, UInt32.le_iff_toNat_le] at digit
  exact ⟨digit.1, digit.2⟩

theorem bytesOf_toString (m : Nat) : bytesOf (toString m) = (Nat.toDigits 10 m).map asciiByte := by
  rw [bytesOf, Nat.toString_eq_repr, Nat.toList_repr]
  exact flatMap_utf8EncodeChar_ascii _ fun c hc => by have := toNat_of_mem_toDigits hc; omega

theorem toNat_asciiByte {c : Char} (h : c.toNat < 0x100) : (asciiByte c).toNat = c.toNat :=
  UInt8.toNat_ofNat_of_lt' h

theorem digitsValue_map_asciiByte :
    ∀ (cs : List Char) (acc : Nat), (∀ c ∈ cs, c.toNat < 0x100) →
      digitsValue acc (cs.map asciiByte) = Nat.ofDigitChars 10 cs acc
  | [], _, _ => rfl
  | c :: cs, acc, small => by
    have step : acc * 10 + ((asciiByte c).toNat - 0x30) = 10 * acc + (c.toNat - '0'.toNat) := by
      rw [toNat_asciiByte (small c (List.mem_cons_self ..)), Nat.mul_comm]
      rfl
    rw [List.map_cons, Nat.ofDigitChars_cons, ← step]
    exact digitsValue_map_asciiByte cs _ fun d hd => small d (List.mem_cons_of_mem _ hd)

theorem digitsValue_toDigits (m : Nat) : digitsValue 0 ((Nat.toDigits 10 m).map asciiByte) = m := by
  rw [digitsValue_map_asciiByte _ 0 fun c hc => by have := toNat_of_mem_toDigits hc; omega,
    Nat.ofDigitChars_ten_toDigits]

theorem toDigits_head_ne_zero : ∀ m : Nat, 0 < m → ∃ c cs, Nat.toDigits 10 m = c :: cs ∧ c ≠ '0'
  | m, pos => by
    by_cases small : m < 10
    · exact ⟨_, [], Nat.toDigits_of_lt_base small, by rw [ne_eq, Nat.digitChar_eq_zero]; omega⟩
    · obtain ⟨c, cs, leading, nonzero⟩ := toDigits_head_ne_zero (m / 10) (by omega)
      refine ⟨c, cs ++ [(m % 10).digitChar], ?_, nonzero⟩
      rw [Nat.toDigits_of_base_le (by decide) (by omega), leading, List.cons_append]
termination_by m => m

end digits

theorem isDigitByte_asciiByte {c : Char} (h : 0x30 ≤ c.toNat ∧ c.toNat ≤ 0x39) :
    isDigitByte (asciiByte c) = true := by
  have code := toNat_asciiByte (c := c) (by omega)
  simp only [isDigitByte, Bool.and_eq_true, decide_eq_true_eq, UInt8.le_iff_toNat_le, code]
  exact h

section reading

variable {src : Array UInt8}

theorem peekOrNull_apply (src : Array UInt8) (j : Nat) :
    peekOrNull src j = .ok ((src[j]?).getD 0) j := rfl

theorem EndsNumber.next_byte {r : List UInt8} (h : EndsNumber r) :
    isDigitByte (r.head?.getD 0) = false ∧ r.head?.getD 0 ≠ 0x2e ∧ r.head?.getD 0 ≠ 0x65 ∧
      r.head?.getD 0 ≠ 0x45 := by
  cases hr : r.head? with
  | none => decide
  | some b => exact h b hr

theorem numberTail_unsigned {j : Nat} {r : List UInt8} (here : src.toList.drop j = r)
    (ends : EndsNumber r) (sig : Nat) : numberTail true sig src j = .ok (.unsigned sig) j := by
  obtain ⟨-, dot, exp, exp'⟩ := ends.next_byte
  have no_dot : (r.head?.getD 0 == 0x2e) = false := beq_eq_false_iff_ne.mpr dot
  have no_exp : (r.head?.getD 0 == 0x65 || r.head?.getD 0 == 0x45) = false := by
    rw [beq_eq_false_iff_ne.mpr exp, beq_eq_false_iff_ne.mpr exp']
    rfl
  rw [numberTail, bind_ok (peekOrNull_apply src j), getElem?_of_drop here]
  simp only [no_dot, no_exp, Bool.false_eq_true, ↓reduceIte]
  rfl

theorem readNumber_digits {m : Nat} (hm : m ≤ u64Max) :
    Reads (readNumber true) (bytesOf (toString m)) (.unsigned m) EndsNumber := by
  rw [bytesOf_toString]
  intro src i rest here ends
  obtain ⟨notDigit, -⟩ := ends.next_byte
  rcases Nat.eq_zero_or_pos m with zero | pos
  · -- zero is a single `0`
    subst zero
    rw [Nat.toDigits_zero] at here ⊢
    have past : src.toList.drop (i + 1) = rest := drop_past here
    rw [readNumber, bind_ok (next_apply here)]
    simp only [show asciiByte '0' = 0x30 from rfl, beq_self_eq_true, ↓reduceIte,
      bind_ok (peekOrNull_apply src (i + 1)), getElem?_of_drop past, notDigit, Bool.false_eq_true]
    exact numberTail_unsigned past ends 0
  · -- a positive number starts with a digit from one to nine, then takes the others in turn
    obtain ⟨c, cs, leading, nonzero⟩ := toDigits_head_ne_zero m pos
    have range := toNat_of_mem_toDigits (leading ▸ List.mem_cons_self .. : c ∈ Nat.toDigits 10 m)
    have not_zero : (asciiByte c == 0x30) = false := by
      rw [beq_eq_false_iff_ne]
      intro e
      have code := congrArg UInt8.toNat e
      rw [toNat_asciiByte (by omega)] at code
      exact nonzero (Char.toNat_inj.mp code)
    have digits : ∀ d ∈ cs.map asciiByte, isDigitByte d = true := by
      intro d hd
      obtain ⟨e, he, rfl⟩ := List.mem_map.mp hd
      exact isDigitByte_asciiByte (toNat_of_mem_toDigits (leading ▸ List.mem_cons_of_mem c he))
    have value : digitsValue ((asciiByte c).toNat - 0x30) (cs.map asciiByte) = m := by
      have whole := digitsValue_toDigits m
      rw [leading, List.map_cons, digitsValue, List.foldl_cons, Nat.zero_mul, Nat.zero_add] at whole
      exact whole
    rw [leading, List.map_cons, List.cons_append] at here
    have past : src.toList.drop (i + [asciiByte c].length) = cs.map asciiByte ++ rest := drop_past here
    have taken := accumulate_digits src u64Max (cs.map asciiByte) (i + 1) _ 0 rest past digits
      (fun b hb => by rw [hb] at notDigit; exact notDigit) (value ▸ hm)
    have after_digits : src.toList.drop (i + 1 + (cs.map asciiByte).length) = rest := drop_past past
    rw [readNumber, bind_ok (next_apply here)]
    simp only [not_zero, isDigitByte_asciiByte range, Bool.false_eq_true, ↓reduceIte,
      bind_ok (read_apply src _), bind_ok (get_apply src _), taken, bind_ok (set_apply src _ _),
      getElem?_of_drop after_digits, notDigit, value]
    rw [numberTail_unsigned after_digits ends m, leading, List.map_cons, List.length_cons,
      Nat.add_assoc, Nat.add_comm 1]

theorem bytesOf_toString_head (m : Nat) :
    ∃ d ds, bytesOf (toString m) = d :: ds ∧ isDigitByte d = true ∧ isBlank d = false ∧
      (d == 0x2d) = false := by
  obtain ⟨c, cs, leading⟩ := List.exists_cons_of_ne_nil (Nat.toDigits_ne_nil (n := m) (b := 10))
  have range := toNat_of_mem_toDigits (leading ▸ List.mem_cons_self .. : c ∈ Nat.toDigits 10 m)
  have code := toNat_asciiByte (c := c) (by omega)
  refine ⟨asciiByte c, cs.map asciiByte, by rw [bytesOf_toString, leading, List.map_cons],
    isDigitByte_asciiByte range, ?_, ?_⟩
  · simp only [isBlank, Bool.or_eq_false_iff, beq_eq_false_iff_ne, ne_eq, ← UInt8.toNat_inj, code,
      UInt8.toNat_ofNat]
    omega
  · simp only [beq_eq_false_iff_ne, ne_eq, ← UInt8.toNat_inj, code, UInt8.toNat_ofNat]
    omega

theorem readUnsigned_digits {ws : List UInt8} (blank : Blank ws) (typeName : String) {max m : Nat}
    (within : m ≤ max) (fits : m ≤ u64Max) :
    Reads (readUnsigned typeName max) (ws ++ bytesOf (toString m)) m EndsNumber := by
  obtain ⟨d, ds, first, digit, not_blank, not_minus⟩ := bytesOf_toString_head m
  apply Reads.placed
  refine (valueStart_reads blank not_blank).bind ?_ (fun _ _ => by rw [first]; rfl)
  simp only [not_minus, digit, Bool.false_eq_true, ↓reduceIte]
  refine Reads.bind_nil (readNumber_digits fits) ?_
  simp only [within, ↓reduceIte]
  exact Reads.pure m

end reading

end FrameRpc.Json
