import FrameRpc.Wire.Dump
import FrameRpc.Proofs.Wire.MacText
import FrameRpc.Text.Chars
set_option autoImplicit false

/-!
The layout of the word dump, and reading it back.

A byte string is cut into pieces of sixteen, and each piece into groups of four; piece `i`
is the bytes from `16 i` on, at most sixteen of them (`chunks_eq_range`). So the dump is one
line per started sixteen bytes, joined by newlines, each line the offset `16 i`, a colon,
and a blank before the digits of each group. Offsets and digits are lowercase hexadecimal,
so no line holds a colon after its offset, a blank inside a group, or a newline: taking
away each line's offset up to its colon and every blank, and reading the digits that
remain two at a time, gives the bytes back (`read_words`). Main statement: `words_layout`.
-/

namespace FrameRpc

namespace Hex

def bytes? : List Char → Option (List UInt8)
  | [] => some []
  | [_] => none
  | h :: l :: rest => do
    let x ← digitValue? h
    let y ← digitValue? l
    let bs ← bytes? rest
    pure ((16 * x + y).toUInt8 :: bs)

theorem bytes?_flatMap_byteChars (bs : List UInt8) : bytes? (bs.flatMap byteChars) = some bs := by
  induction bs with
  | nil => rfl
  | cons b bs ih =>
    have := b.toNat_lt
    have value : (16 * (b.toNat / 16) + b.toNat % 16).toUInt8 = b := by
      rw [byte_halves, Nat.toUInt8, UInt8.ofNat_toNat]
    simp only [List.flatMap_cons, byteChars, List.cons_append, List.nil_append, bytes?,
      digitValue_digit (show b.toNat / 16 < 16 by omega),
      digitValue_digit (show b.toNat % 16 < 16 by omega), ih, Option.bind_eq_bind,
      Option.bind_some, Option.pure_def, value]

theorem isLower_of_mem_toDigits {n : Nat} {c : Char} (hc : c ∈ Nat.toDigits 16 n) : IsLower c := by
  have lower : ∀ d < 16, IsLower (Nat.digitChar d) := by decide
  induction n using Nat.strong_induction_on with
  | _ n ih =>
    rw [Nat.toDigits_eq_if (by decide)] at hc
    split at hc
    · next small =>
      rw [List.mem_singleton] at hc
      exact hc ▸ lower n small
    · next large =>
      rcases List.mem_append.mp hc with hc | hc
      · exact ih (n / 16) (by omega) hc
      · rw [List.mem_singleton] at hc
        exact hc ▸ lower (n % 16) (by omega)

theorem digitValue_digitChar {d : Nat} (h : d < 16) : digitValue? (Nat.digitChar d) = some d := by
  have all : ∀ d < 16, digitValue? (Nat.digitChar d) = some d := by decide
  exact all d h

theorem hexValue_toDigits (n : Nat) : Text.hexValue (Nat.toDigits 16 n) = n := by
  induction n using Nat.strong_induction_on with
  | _ n ih =>
    rw [Nat.toDigits_eq_if (by decide)]
    split
    · next small => simp [Text.hexValue, digitValue_digitChar small]
    · next large =>
      rw [Text.hexValue, List.foldl_append, ← Text.hexValue, ih (n / 16) (by omega)]
      simp only [List.foldl_cons, List.foldl_nil, digitValue_digitChar (Nat.mod_lt n (by decide)),
        Option.getD_some]
      omega

theorem hexValue_zeros_append (k : Nat) (ds : List Char) :
    Text.hexValue (List.replicate k '0' ++ ds) = Text.hexValue ds := by
  have zeros : ∀ k, (List.replicate k '0').foldl
      (fun acc c => acc * 16 + (digitValue? c).getD 0) 0 = 0 := by
    intro k
    induction k with
    | zero => rfl
    | succ k ih => rw [List.replicate_succ, List.foldl_cons]; exact ih
  rw [Text.hexValue, List.foldl_append, zeros]
  rfl

theorem hexValue_padded (w n : Nat) :
    Text.hexValue (padded w n).toList = n ∧ w ≤ (padded w n).length := by
  rw [padded, natDigits, String.toList_ofList, String.length_ofList, List.length_append,
    List.length_replicate, hexValue_zeros_append, hexValue_toDigits]
  exact ⟨rfl, by omega⟩

theorem IsLower.ne_separators {c : Char} (h : IsLower c) : c ≠ ':' ∧ c ≠ ' ' ∧ c ≠ '\n' := by
  refine ⟨?_, ?_, ?_⟩ <;> rintro rfl <;> exact absurd h (by decide)

theorem isLower_of_mem_padded {w n : Nat} {c : Char} (hc : c ∈ (padded w n).toList) :
    IsLower c := by
  simp only [padded, natDigits, String.toList_ofList, List.mem_append, List.mem_replicate] at hc
  rcases hc with ⟨-, rfl⟩ | hc
  · decide
  · exact isLower_of_mem_toDigits hc

theorem isLower_of_mem_ofBytes {bs : List UInt8} {c : Char} (hc : c ∈ (ofBytes bs).toList) :
    IsLower c := by
  simp only [ofBytes, String.toList_ofList, List.mem_flatMap, byteChars, List.mem_cons,
    List.not_mem_nil, or_false] at hc
  obtain ⟨b, -, rfl | rfl⟩ := hc
  all_goals exact isLower_digit (by have := b.toNat_lt; omega)

end Hex

namespace Dump

section chunks

variable {α : Type}

@[simp] theorem chunks_nil (n : Nat) : chunks n ([] : List α) = [] := by
  unfold chunks
  simp

theorem chunks_of_ne_nil {n : Nat} (hn : 0 < n) {xs : List α} (hxs : xs ≠ []) :
    chunks n xs = xs.take n :: chunks n (xs.drop n) := by
  rw [chunks, dif_neg (not_or.mpr ⟨by omega, hxs⟩)]

theorem pieces_succ {n len : Nat} (hn : 0 < n) (hlen : 0 < len) :
    (len + n - 1) / n = (len - n + n - 1) / n + 1 := by
  have first : (len + n - 1) / n = (len - 1) / n + 1 := by
    rw [show len + n - 1 = len - 1 + n by omega, Nat.add_div_right _ hn]
  rw [first]
  congr 1
  by_cases long : n ≤ len
  · congr 1
    omega
  · rw [Nat.div_eq_of_lt (show len - 1 < n by omega),
      Nat.div_eq_of_lt (show len - n + n - 1 < n by omega)]

theorem chunks_eq_range {n : Nat} (hn : 0 < n) (xs : List α) :
    chunks n xs = (List.range ((xs.length + n - 1) / n)).map fun i => (xs.drop (n * i)).take n := by
  induction xs using (measure List.length).wf.induction with
  | h xs ih =>
    cases xs with
    | nil => simp [Nat.div_eq_of_lt (show n - 1 < n by omega)]
    | cons x rest =>
      have shorter : ((x :: rest).drop n).length < (x :: rest).length := by
        simp only [List.length_drop, List.length_cons]
        omega
      rw [chunks_of_ne_nil hn (List.cons_ne_nil x rest), ih _ shorter,
        @pieces_succ n (x :: rest).length hn (by simp), List.range_succ_eq_map]
      simp only [List.length_drop, List.map_cons, Nat.mul_zero, List.drop_zero, List.map_map,
        List.drop_drop, List.cons.injEq, true_and]
      refine List.map_congr_left fun i _ => ?_
      simp only [Function.comp, Nat.mul_succ, Nat.add_comm]

theorem flatMap_chunks {β : Type} (n : Nat) (xs : List α) (f : α → List β) :
    (chunks n xs).flatMap (·.flatMap f) = xs.flatMap f := by
  conv_rhs => rw [← flatten_chunks n xs, ← List.flatMap_id, List.flatMap_assoc]
  rfl

end chunks

section join

variable {α : Type} {x : α}

theorem mem_of_mem_intercalate {ls : List (List α)} {c : α} (hc : c ∈ [x].intercalate ls) :
    c = x ∨ ∃ l ∈ ls, c ∈ l := by
  induction ls with
  | nil => simp at hc
  | cons l ls ih =>
    cases ls with
    | nil => exact .inr ⟨l, by simp, by simpa using hc⟩
    | cons l' ls =>
      rw [List.intercalate_cons_of_ne_nil (List.cons_ne_nil l' ls), List.mem_append,
        List.mem_append, List.mem_singleton] at hc
      rcases hc with (hc | rfl) | hc
      · exact .inr ⟨l, by simp, hc⟩
      · exact .inl rfl
      · rcases ih hc with same | ⟨m, hm, hc⟩
        · exact .inl same
        · exact .inr ⟨m, List.mem_cons_of_mem l hm, hc⟩

theorem count_intercalate [BEq α] [LawfulBEq α] {ls : List (List α)} (h : ∀ l ∈ ls, x ∉ l) :
    ([x].intercalate ls).count x = ls.length - 1 := by
  induction ls with
  | nil => simp
  | cons l ls ih =>
    have free : l.count x = 0 := List.count_eq_zero.mpr (h l (by simp))
    cases ls with
    | nil => simpa using free
    | cons l' ls =>
      rw [List.intercalate_cons_of_ne_nil (List.cons_ne_nil l' ls), List.count_append,
        List.count_append, free, ih fun m hm => h m (List.mem_cons_of_mem l hm)]
      simp [Nat.add_comm]

end join

section layout

theorem lines_eq_mapIdx (k : Nat) (ls : List (List UInt8)) :
    lines k ls = ls.mapIdx fun i l => line (16 * (k + i)) l := by
  induction ls generalizing k with
  | nil => rfl
  | cons l ls ih =>
    rw [lines, ih, List.mapIdx_cons]
    simp only [Nat.add_zero, Nat.add_assoc, Nat.add_comm 1]

theorem line_eq_range (offset : Nat) (bytes : List UInt8) :
    line offset bytes = Hex.padded 4 offset ++ ":" ++ String.join
      ((List.range ((bytes.length + 3) / 4)).map fun j =>
        " " ++ Hex.ofBytes ((bytes.drop (4 * j)).take 4)) := by
  rw [line, chunks_eq_range (by decide), List.map_map]
  rfl

theorem words_eq_range (bs : List UInt8) :
    words bs = "\n".intercalate ((List.range ((bs.length + 15) / 16)).map fun i =>
      line (16 * i) ((bs.drop (16 * i)).take 16)) := by
  rw [words, lines_eq_mapIdx, chunks_eq_range (by decide)]
  congr 1
  apply List.ext_getElem <;> simp

theorem exists_of_mem_lines {k : Nat} {ls : List (List UInt8)} {l : String} (hl : l ∈ lines k ls) :
    ∃ offset bytes, l = line offset bytes := by
  induction ls generalizing k with
  | nil => cases hl
  | cons b ls ih =>
    rcases List.mem_cons.mp hl with rfl | hl
    · exact ⟨_, _, rfl⟩
    · exact ih hl

theorem length_lines (k : Nat) (ls : List (List UInt8)) : (lines k ls).length = ls.length := by
  rw [lines_eq_mapIdx, List.length_mapIdx]

theorem mem_line {offset : Nat} {bytes : List UInt8} {c : Char}
    (hc : c ∈ (line offset bytes).toList) :
    Hex.IsLower c ∨ c = ':' ∨ c = ' ' := by
  simp only [line, String.toList_append, String.toList_join, List.mem_append, List.mem_flatMap,
    List.mem_map] at hc
  rcases hc with (hc | hc) | ⟨_, ⟨g, -, rfl⟩, hc⟩
  · exact .inl (Hex.isLower_of_mem_padded hc)
  · exact .inr (.inl (by simpa using hc))
  · rw [String.toList_append, List.mem_append] at hc
    rcases hc with hc | hc
    · exact .inr (.inr (by simpa using hc))
    · exact .inl (Hex.isLower_of_mem_ofBytes hc)

theorem newline_not_mem_line (offset : Nat) (bytes : List UInt8) :
    '\n' ∉ (line offset bytes).toList := by
  intro h
  rcases mem_line h with h | h | h
  · exact h.ne_separators.2.2 rfl
  · cases h
  · cases h

theorem newline_not_mem_lines (k : Nat) (ls : List (List UInt8)) :
    ∀ l ∈ (lines k ls).map String.toList, '\n' ∉ l := by
  intro l hl
  obtain ⟨_, hline, rfl⟩ := List.mem_map.mp hl
  obtain ⟨offset, bytes, rfl⟩ := exists_of_mem_lines hline
  exact newline_not_mem_line offset bytes

theorem mem_words {bs : List UInt8} {c : Char} (hc : c ∈ (words bs).toList) :
    Hex.IsLower c ∨ c = ':' ∨ c = ' ' ∨ c = '\n' := by
  rw [words, String.toList_intercalate] at hc
  rcases mem_of_mem_intercalate hc with rfl | ⟨l, hl, hc⟩
  · exact .inr (.inr (.inr rfl))
  · obtain ⟨_, hline, rfl⟩ := List.mem_map.mp hl
    obtain ⟨offset, bytes, rfl⟩ := exists_of_mem_lines hline
    rcases mem_line hc with lower | colon | blank
    · exact .inl lower
    · exact .inr (.inl colon)
    · exact .inr (.inr (.inl blank))

theorem count_newline_words (bs : List UInt8) :
    (words bs).toList.count '\n' = (bs.length + 15) / 16 - 1 := by
  rw [words, String.toList_intercalate, show ("\n" : String).toList = ['\n'] from rfl,
    count_intercalate (newline_not_mem_lines 0 _), List.length_map, length_lines, chunks_eq_range (by decide),
    List.length_map, List.length_range]
  rfl

end layout

section reading

def lineDigits (l : List Char) : List Char :=
  ((l.dropWhile (· != ':')).drop 1).filter (· != ' ')

/-- Reads a dump back: each line loses its offset up to its colon, blanks are dropped, and
the digits that remain are read two at a time. -/
def read? (text : String) : Option (List UInt8) :=
  Hex.bytes? ((text.toList.splitOn '\n').flatMap lineDigits)

theorem lineDigits_line (offset : Nat) (bytes : List UInt8) :
    lineDigits (line offset bytes).toList = bytes.flatMap Hex.byteChars := by
  have noColon : ∀ c ∈ (Hex.padded 4 offset).toList, (c != ':') = true := by
    intro c hc
    simpa using (Hex.isLower_of_mem_padded hc).ne_separators.1
  have digits : ∀ g : List UInt8,
      (Hex.ofBytes g).toList.filter (· != ' ') = g.flatMap Hex.byteChars := by
    intro g
    rw [List.filter_eq_self.mpr, Hex.ofBytes, String.toList_ofList]
    intro c hc
    simpa using (Hex.isLower_of_mem_ofBytes hc).ne_separators.2.1
  have group : ∀ g : List UInt8, (" " ++ Hex.ofBytes g).toList.filter (· != ' ') =
      g.flatMap Hex.byteChars := by
    intro g
    rw [String.toList_append, show (" " : String).toList = [' '] from rfl, List.singleton_append,
      List.filter_cons_of_neg (by simp), digits]
  rw [← flatMap_chunks 4, lineDigits, line, String.toList_append, String.toList_append,
    List.append_assoc, List.dropWhile_append_of_pos noColon, show (":" : String).toList = [':'] from rfl,
    List.singleton_append, List.dropWhile_cons, if_neg (by simp), List.drop_one, List.tail_cons,
    String.toList_join, List.flatMap_map, List.filter_flatMap]
  exact List.flatMap_congr fun g _ => group g

theorem flatMap_lineDigits_lines (k : Nat) (ls : List (List UInt8)) :
    ((lines k ls).map String.toList).flatMap lineDigits = ls.flatMap (·.flatMap Hex.byteChars) := by
  induction ls generalizing k with
  | nil => rfl
  | cons l ls ih => simp only [lines, List.map_cons, List.flatMap_cons, lineDigits_line, ih]

theorem splitOn_words {bs : List UInt8} (hbs : bs ≠ []) :
    (words bs).toList.splitOn '\n' = (lines 0 (chunks 16 bs)).map String.toList := by
  have nonempty : (lines 0 (chunks 16 bs)).map String.toList ≠ [] := by
    rw [chunks_of_ne_nil (by decide) hbs, lines, List.map_cons]
    exact List.cons_ne_nil _ _
  rw [words, String.toList_intercalate, show ("\n" : String).toList = ['\n'] from rfl]
  exact List.splitOn_intercalate '\n' (newline_not_mem_lines 0 _) nonempty

theorem read_words (bs : List UInt8) : read? (words bs) = some bs := by
  by_cases empty : bs = []
  · subst empty
    rw [words, chunks_nil]
    rfl
  · rw [read?, splitOn_words empty, flatMap_lineDigits_lines, flatMap_chunks,
      Hex.bytes?_flatMap_byteChars]

theorem words_eq_empty_iff (bs : List UInt8) : words bs = "" ↔ bs = [] := by
  constructor
  · intro empty
    have read := read_words bs
    rw [empty] at read
    exact (Option.some.inj read).symm
  · rintro rfl
    rw [words, chunks_nil]
    rfl

end reading

/-- The word dump of a byte string is empty exactly when the string is. Otherwise it is one
line for each started sixteen bytes, joined by newlines that no line holds: line `i` is the
offset `16 i` in at least four lowercase digits that read as it, a colon, and for each group
of four of the bytes from `16 i` on (at most sixteen of them) a blank and the group's
digits, two lowercase digits a byte. Taking away each line's offset up to its colon and
every blank, the digits that remain, read two at a time, give the bytes back. -/
theorem words_layout (bs : List UInt8) :
    (words bs = "" ↔ bs = []) ∧
    words bs = "\n".intercalate ((List.range ((bs.length + 15) / 16)).map fun i =>
      line (16 * i) ((bs.drop (16 * i)).take 16)) ∧
    (∀ (offset : Nat) (bytes : List UInt8), line offset bytes = Hex.padded 4 offset ++ ":" ++
      String.join ((List.range ((bytes.length + 3) / 4)).map fun j =>
        " " ++ Hex.ofBytes ((bytes.drop (4 * j)).take 4))) ∧
    (∀ offset : Nat, Text.hexValue (Hex.padded 4 offset).toList = offset ∧
      4 ≤ (Hex.padded 4 offset).length) ∧
    (words bs).toList.count '\n' = (bs.length + 15) / 16 - 1 ∧
    (∀ c ∈ (words bs).toList, Hex.IsLower c ∨ c = ':' ∨ c = ' ' ∨ c = '\n') ∧
    read? (words bs) = some bs :=
  ⟨words_eq_empty_iff bs, words_eq_range bs, line_eq_range, Hex.hexValue_padded 4,
    count_newline_words bs, fun _ => mem_words, read_words bs⟩

example : words [1, 2, 3, 4, 5, 6] = "0000: 01020304 0506" ∧
    words (List.replicate 20 0) = "0000: 00000000 00000000 00000000 00000000\n0010: 00000000" := by
  decide +kernel

end Dump

end FrameRpc
