import FrameRpc.Proofs.Json.Reads
set_option autoImplicit false

/-!
Quoted strings read back.

`quote s` writes each character of `s` as itself or as an escape, between quotes. Reading
the body of a string passes over the longest run of bytes that stand for themselves, then
stops at the closing quote or at a backslash, whose escape it decodes and continues after.
So the bytes of a character written as itself join the run being read, an escaped character
costs one unit of the reader's fuel and adds its UTF-8 bytes, and the closing quote ends
the string with the bytes of every character in turn, which decode to `s`
(`readString_quote`).
-/

namespace FrameRpc.Json

section body

variable {src : Array UInt8} {i : Nat} {rest : List UInt8}

theorem read_apply (src : Array UInt8) (i : Nat) : (read : Read (Array UInt8)) src i = .ok src i :=
  rfl

theorem get_apply (src : Array UInt8) (i : Nat) : (get : Read Nat) src i = .ok i i := rfl

theorem set_apply (src : Array UInt8) (i j : Nat) : (set j : Read PUnit) src i = .ok ⟨⟩ j := rfl

theorem le_scanWhile (src : Array UInt8) (p : UInt8 → Bool) (i : Nat) : i ≤ scanWhile src p i := by
  fun_induction scanWhile src p i <;> omega

theorem extract_of_drop {ps : List UInt8} (here : src.toList.drop i = ps ++ rest) {j : Nat}
    (hj : i + ps.length ≤ j) : src.extract i j = ps.toArray ++ src.extract (i + ps.length) j := by
  apply Array.ext'
  have past : src.toList.drop (i + ps.length) = rest := by
    rw [← List.drop_drop, here, List.drop_left]
  rw [Array.toList_append, Array.toList_extract, Array.toList_extract, List.extract_eq_take_drop,
    List.extract_eq_take_drop, here, past, List.take_append, List.take_of_length_le (by omega)]
  congr 2
  omega

theorem scanWhile_plain_stop {b : UInt8} (here : src.toList.drop i = b :: rest)
    (hb : isPlainStringByte b = false) : scanWhile src isPlainStringByte i = i :=
  scanWhile_stop fun c hc => by
    rw [getElem?_of_drop here] at hc
    exact Option.some_inj.mp hc ▸ hb

theorem strBytes_plain {ps : List UInt8} (here : src.toList.drop i = ps ++ rest)
    (plain : ∀ b ∈ ps, isPlainStringByte b = true) (fuel : Nat) (acc : Array UInt8) :
    strBytes (fuel + 1) acc src i = strBytes (fuel + 1) (acc ++ ps.toArray) src (i + ps.length) := by
  have same := scanWhile_skip here plain
  have pieces := extract_of_drop here (j := scanWhile src isPlainStringByte i)
    (by rw [same]; exact le_scanWhile src isPlainStringByte _)
  rw [strBytes, strBytes]
  simp only [bind_ok (read_apply src _), bind_ok (get_apply src _), bind_ok (set_apply src _ _)]
  rw [← same, pieces, Array.append_assoc]

theorem strBytes_close (here : src.toList.drop i = 0x22 :: rest) (fuel : Nat) (acc : Array UInt8) :
    strBytes (fuel + 1) acc src i = .ok acc (i + 1) := by
  have stop := scanWhile_plain_stop here (by decide)
  rw [strBytes]
  simp only [bind_ok (read_apply src _), bind_ok (get_apply src _), bind_ok (set_apply src _ _),
    stop, getElem?_of_drop here, List.head?_cons, beq_self_eq_true, ↓reduceIte,
    Array.extract_empty_of_stop_le_start (Nat.le_refl i), Array.append_empty]
  rfl

theorem strBytes_escape {tail : List UInt8} {acc acc' : Array UInt8} {after : List UInt8 → Prop}
    (here : src.toList.drop i = 0x5c :: tail ++ rest) (decoded : Reads (escape acc) tail acc' after)
    (follows : after rest) (fuel : Nat) :
    strBytes (fuel + 1) acc src i = strBytes fuel acc' src (i + 1 + tail.length) := by
  have stop := scanWhile_plain_stop here (by decide)
  have next := decoded src (i + 1) rest (by rw [← List.drop_drop, here]; rfl) follows
  have not_quote : ((0x5c : UInt8) == 0x22) = false := by decide
  rw [strBytes]
  simp only [bind_ok (read_apply src _), bind_ok (get_apply src _), bind_ok (set_apply src _ _),
    stop, getElem?_of_drop here, List.cons_append, List.head?_cons, not_quote, beq_self_eq_true,
    Bool.false_eq_true, ↓reduceIte, Array.extract_empty_of_stop_le_start (Nat.le_refl i),
    Array.append_empty, bind_ok (bump_apply src i), bind_ok next]

end body

section characters

/-- The characters a string holds as themselves: neither control characters nor the quote
or the backslash. -/
def isPlainChar (c : Char) : Bool := 0x20 ≤ c.toNat && c != '"' && c != '\\'

theorem isPlainStringByte_iff (b : UInt8) :
    isPlainStringByte b = true ↔ b.toNat ≠ 0x22 ∧ b.toNat ≠ 0x5c ∧ 0x20 ≤ b.toNat := by
  simp only [isPlainStringByte, Bool.and_eq_true, bne_iff_ne, ne_eq, decide_eq_true_eq,
    UInt8.le_iff_toNat_le, ← UInt8.toNat_inj, and_assoc]
  rfl

theorem isPlainChar_iff (c : Char) :
    isPlainChar c = true ↔ 0x20 ≤ c.toNat ∧ c.toNat ≠ 0x22 ∧ c.toNat ≠ 0x5c := by
  simp only [isPlainChar, Bool.and_eq_true, bne_iff_ne, ne_eq, decide_eq_true_eq,
    ← Char.toNat_inj, and_assoc]
  rfl

theorem utf8EncodeChar_plain {c : Char} (h : isPlainChar c = true) :
    ∀ b ∈ String.utf8EncodeChar c, isPlainStringByte b = true := by
  rw [isPlainChar_iff] at h
  have code : c.val.toNat = c.toNat := rfl
  intro b hb
  rw [isPlainStringByte_iff]
  unfold String.utf8EncodeChar at hb
  change b ∈ (if c.toNat ≤ 0x7f then _ else _) at hb
  split_ifs at hb <;> simp only [List.mem_cons, List.not_mem_nil, or_false] at hb <;>
    obtain rfl | rfl | rfl | rfl := hb <;> simp only [UInt8.toNat_ofNat'] <;> omega

theorem escapeChar_of_plain {c : Char} (h : isPlainChar c = true) : escapeChar c = c.toString := by
  rw [isPlainChar_iff] at h
  unfold escapeChar
  split
  case h_6 =>
    rw [if_neg (by simp only [beq_iff_eq]; omega), if_neg (by simp only [beq_iff_eq]; omega),
      if_neg (by omega)]
  all_goals exact absurd h (by decide)

theorem utf8EncodeChar_ascii {c : Char} (h : c.toNat < 0x80) :
    String.utf8EncodeChar c = [c.toNat.toUInt8] := by
  unfold String.utf8EncodeChar
  rw [if_pos (show c.val.toNat ≤ 0x7f by change c.toNat ≤ 0x7f; omega)]
  rfl

theorem bytesOf_singleton (c : Char) : bytesOf (String.singleton c) = String.utf8EncodeChar c := by
  rw [bytesOf, String.toList_singleton, List.flatMap_singleton]

theorem bytesOf_hexByte (b : UInt8) :
    bytesOf (Hex.byte b) = [(Hex.digit (b.toNat / 16)).val.toUInt8, (Hex.digit (b.toNat % 16)).val.toUInt8] := by
  have byte := b.toNat_lt
  have one : ∀ k < 16, (Hex.digit k).utf8Size = 1 := fun k hk =>
    Hex.utf8Size_of_digitValue? (Hex.digitValue_digit hk)
  rw [bytesOf, Hex.byte, Hex.byteChars, String.toList_ofList, List.flatMap_cons, List.flatMap_cons,
    List.flatMap_nil, String.utf8EncodeChar_eq_singleton (one _ (by omega)),
    String.utf8EncodeChar_eq_singleton (one _ (by omega))]
  rfl

theorem hexValue_digit : ∀ k < 16, hexValue? (Hex.digit k).val.toUInt8 = some k := by
  decide

theorem hex4Value_hexByte (b : UInt8) :
    hex4Value? 0x30 0x30 (Hex.digit (b.toNat / 16)).val.toUInt8 (Hex.digit (b.toNat % 16)).val.toUInt8 =
      some b.toNat := by
  have byte := b.toNat_lt
  have zero : hexValue? 0x30 = some 0 := by decide
  simp only [hex4Value?, zero, hexValue_digit _ (show b.toNat / 16 < 16 by omega),
    hexValue_digit _ (show b.toNat % 16 < 16 by omega)]
  show some (((0 * 16 + 0) * 16 + b.toNat / 16) * 16 + b.toNat % 16) = some b.toNat
  congr 1
  omega

end characters

section escapes

variable {after : List UInt8 → Prop}

theorem getElem_of_drop {src : Array UInt8} {i : Nat} {bytes : List UInt8}
    (here : src.toList.drop i = bytes) (k : Nat) (hk : k < bytes.length) (h : i + k < src.size) :
    src[i + k] = bytes[k] := by
  simp only [← here, List.getElem_drop, Array.getElem_toList]

theorem hex4_reads {a b c d : UInt8} {n : Nat} (hv : hex4Value? a b c d = some n) :
    Reads hex4 [a, b, c, d] n after := by
  intro src i rest here _
  have long : i + 4 ≤ src.size := by
    have size := congrArg List.length here
    simp only [List.length_drop, Array.length_toList, List.length_append, List.length_cons] at size
    omega
  have e0 := getElem_of_drop here 0 (by simp) (by omega)
  have e1 := getElem_of_drop here 1 (by simp) (by omega)
  have e2 := getElem_of_drop here 2 (by simp) (by omega)
  have e3 := getElem_of_drop here 3 (by simp) (by omega)
  simp only [Nat.add_zero] at e0
  rw [hex4]
  simp only [bind_ok (read_apply src i), bind_ok (get_apply src i), dif_pos long,
    bind_ok (set_apply src i _), e0, e1, e2, e3]
  simp [hv]
  rfl

theorem escape_letter {l v : UInt8} (hv : simpleEscape? l = some v) (acc : Array UInt8) :
    Reads (escape acc) [l] (acc.push v) after := by
  rw [escape]
  refine Reads.bind_nil (next_reads l) ?_
  simp only [hv]
  exact Reads.pure _

theorem escape_unicode {hex : List UInt8} {n : Nat} (digits : Reads hex4 hex n after)
    (small : n < 0xD800) (acc : Array UInt8) :
    Reads (escape acc) (0x75 :: hex) (acc ++ utf8Of n) after := by
  have not_letter : simpleEscape? 0x75 = none := by decide
  rw [escape]
  refine (next_reads 0x75).seq ?_
  simp only [not_letter, beq_self_eq_true, ↓reduceIte]
  rw [unicodeEscape]
  refine Reads.bind_nil digits ?_
  simp only [if_neg (show ¬(0xDC00 ≤ n ∧ n ≤ 0xDFFF) by omega),
    if_pos (show n < 0xD800 ∨ n > 0xDBFF from .inl small)]
  exact Reads.pure _

end escapes

section quoting

theorem utf8Of_toNat (c : Char) : utf8Of c.toNat = (String.utf8EncodeChar c).toArray := by
  apply Array.ext'
  rw [utf8Of, Char.ofNat_toNat, toUTF8_data, bytesOf_singleton]

theorem letter_escape_reads {c : Char} {text : String} (l : UInt8) (spelled : bytesOf text = [0x5c, l])
    (hv : simpleEscape? l = some c.toNat.toUInt8) (ascii : c.toNat < 0x80) :
    ∃ tail, bytesOf text = 0x5c :: tail ∧ ∀ (acc : Array UInt8) (after : List UInt8 → Prop),
      Reads (escape acc) tail (acc ++ (String.utf8EncodeChar c).toArray) after := by
  refine ⟨[l], spelled, fun acc _ => ?_⟩
  rw [utf8EncodeChar_ascii ascii, ← Array.push_eq_append]
  exact escape_letter hv acc

theorem escapeChar_escaped {c : Char} (h : isPlainChar c = false) :
    ∃ tail, bytesOf (escapeChar c) = 0x5c :: tail ∧ ∀ (acc : Array UInt8) (after : List UInt8 → Prop),
      Reads (escape acc) tail (acc ++ (String.utf8EncodeChar c).toArray) after := by
  unfold escapeChar
  split
  case h_6 quote backslash _ _ _ =>
    split_ifs with backspace formfeed control
    · have code : c.toNat = 8 := by simpa using backspace
      exact letter_escape_reads 0x62 (by decide) (by rw [code]; decide) (by omega)
    · have code : c.toNat = 12 := by simpa using formfeed
      exact letter_escape_reads 0x66 (by decide) (by rw [code]; decide) (by omega)
    · -- the other control characters are written `\u00` and two hex digits
      have small : c.toNat.toUInt8.toNat = c.toNat :=
        UInt8.toNat_ofNat_of_lt' (show c.toNat < 256 by omega)
      refine ⟨[0x75, 0x30, 0x30] ++ bytesOf (Hex.byte c.toNat.toUInt8), ?_, fun acc _ => ?_⟩
      · rw [bytesOf_append]
        rfl
      · rw [← utf8Of_toNat, show utf8Of c.toNat = utf8Of c.toNat.toUInt8.toNat by rw [small],
          bytesOf_hexByte]
        exact escape_unicode (hex4_reads (hex4Value_hexByte c.toNat.toUInt8)) (by omega) acc
    · -- what is left is plain
      have plain : isPlainChar c = true := by
        rw [isPlainChar_iff]
        refine ⟨by omega, fun e => quote (Char.toNat_inj.mp e), fun e => backslash (Char.toNat_inj.mp e)⟩
      exact absurd plain (by rw [h]; decide)
  case h_1 => exact letter_escape_reads 0x22 (by decide) (by decide) (by decide)
  case h_2 => exact letter_escape_reads 0x5c (by decide) (by decide) (by decide)
  case h_3 => exact letter_escape_reads 0x6e (by decide) (by decide) (by decide)
  case h_4 => exact letter_escape_reads 0x72 (by decide) (by decide) (by decide)
  case h_5 => exact letter_escape_reads 0x74 (by decide) (by decide) (by decide)

def escapedBytes (cs : List Char) : List UInt8 := cs.flatMap fun c => bytesOf (escapeChar c)

theorem escapedBytes_cons (c : Char) (cs : List Char) :
    escapedBytes (c :: cs) = bytesOf (escapeChar c) ++ escapedBytes cs := List.flatMap_cons

theorem bytesOf_join (l : List String) : bytesOf (String.join l) = l.flatMap bytesOf := by
  rw [bytesOf, String.toList_join, List.flatMap_assoc]
  rfl

theorem bytesOf_quote (s : String) : bytesOf (quote s) = 0x22 :: escapedBytes s.toList ++ [0x22] := by
  rw [quote, bytesOf_append, bytesOf_append, bytesOf_join, List.flatMap_map]
  rfl

theorem length_le_escapedBytes (cs : List Char) : cs.length ≤ (escapedBytes cs).length := by
  induction cs with
  | nil => exact Nat.le_refl 0
  | cons c cs ih =>
    have written : bytesOf (escapeChar c) ≠ [] := by
      cases plain : isPlainChar c
      · obtain ⟨tail, spelled, -⟩ := escapeChar_escaped plain
        rw [spelled]
        exact List.cons_ne_nil _ _
      · rw [escapeChar_of_plain plain, Char.toString, bytesOf_singleton]
        exact String.utf8EncodeChar_ne_nil
    rw [escapedBytes_cons, List.length_append, List.length_cons]
    have := List.length_pos_iff.mpr written
    omega

/-- The body of a string, read character by character: a plain character joins the run
being read, an escaped one costs a unit of fuel, and the closing quote ends it with the
UTF-8 bytes of every character. -/
theorem strBytes_escapedBytes (src : Array UInt8) :
    ∀ (cs : List Char) (fuel : Nat) (acc : Array UInt8) (i : Nat) (rest : List UInt8),
      src.toList.drop i = escapedBytes cs ++ 0x22 :: rest →
      cs.countP (fun c => !isPlainChar c) < fuel →
      strBytes fuel acc src i =
        .ok (acc ++ (cs.flatMap String.utf8EncodeChar).toArray) (i + (escapedBytes cs).length + 1)
  | [], fuel + 1, acc, i, rest, here, _ => by
    rw [strBytes_close here fuel acc]
    simp [escapedBytes]
  | c :: cs, fuel + 1, acc, i, rest, here, enough => by
    rw [escapedBytes_cons, List.append_assoc] at here
    cases plain : isPlainChar c
    · -- an escape, then the rest with one unit less
      obtain ⟨tail, spelled, decoded⟩ := escapeChar_escaped plain
      rw [spelled, List.cons_append] at here
      have past : src.toList.drop (i + (0x5c :: tail).length) = escapedBytes cs ++ 0x22 :: rest :=
        drop_past here
      have fewer : cs.countP (fun c => !isPlainChar c) < fuel := by
        rw [List.countP_cons, plain] at enough
        simpa using enough
      have shift : i + 1 + tail.length = i + (0x5c :: tail).length := by
        rw [List.length_cons]
        omega
      rw [strBytes_escape here (decoded acc fun _ => True) trivial fuel, shift,
        strBytes_escapedBytes src cs fuel _ _ rest past fewer]
      simp only [escapedBytes_cons, spelled, List.flatMap_cons, List.length_append, Nat.add_assoc]
      rw [← List.append_toArray, Array.append_assoc]
    · -- a plain character joins the run
      rw [escapeChar_of_plain plain, Char.toString, bytesOf_singleton] at here
      have fewer : cs.countP (fun c => !isPlainChar c) < fuel + 1 := by
        rw [List.countP_cons, plain] at enough
        simpa using enough
      rw [strBytes_plain here (utf8EncodeChar_plain plain) fuel acc,
        strBytes_escapedBytes src cs (fuel + 1) _ _ rest (drop_past here) fewer]
      simp only [escapedBytes_cons, escapeChar_of_plain plain, Char.toString, bytesOf_singleton,
        List.flatMap_cons, List.length_append, Nat.add_assoc]
      rw [← List.append_toArray, Array.append_assoc]

theorem strBody_reads (s : String) {after : List UInt8 → Prop} :
    Reads strBody (escapedBytes s.toList ++ [0x22]) s after := by
  intro src i rest here _
  have room : (escapedBytes s.toList).length < src.size := by
    have size := congrArg List.length here
    simp only [List.length_drop, Array.length_toList, List.length_append, List.length_singleton] at size
    omega
  have enough : s.toList.countP (fun c => !isPlainChar c) < src.size + 1 := by
    have fewer := List.countP_le_length (p := fun c => !isPlainChar c) (l := s.toList)
    have shorter := length_le_escapedBytes s.toList
    omega
  have body := strBytes_escapedBytes src s.toList _ #[] i rest
    (by rw [here, List.append_assoc]; rfl) enough
  have decoded : String.fromUTF8? (ByteArray.mk (#[] ++ (s.toList.flatMap String.utf8EncodeChar).toArray)) =
      some s := by
    rw [Array.empty_append]
    exact fromUTF8_bytesOf s
  rw [strBody, bind_ok (read_apply src i), bind_ok body, decoded, List.length_append,
    List.length_singleton, ← Nat.add_assoc]
  rfl

theorem readString_quote {ws : List UInt8} (blank : Blank ws) (s : String) {after : List UInt8 → Prop} :
    Reads readString (ws ++ bytesOf (quote s)) s after := by
  rw [bytesOf_quote]
  apply Reads.placed
  refine (valueStart_reads blank (by decide : isBlank 0x22 = false)).bind ?_ (fun _ _ => rfl)
  simp only [beq_self_eq_true, ↓reduceIte]
  exact (bump_reads 0x22).seq (strBody_reads s)

end quoting

end FrameRpc.Json
