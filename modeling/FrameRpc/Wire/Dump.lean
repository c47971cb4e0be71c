import FrameRpc.Text.Chars

/-!
The word dump of a byte string, used when frames are traced: lines of sixteen bytes
joined by newlines, each line the offset as four or more lowercase digits and a colon,
then a blank and the digits of each group of four bytes (the last group may be shorter).
An empty string dumps as empty text.
-/

namespace FrameRpc.Dump

def chunks {α : Type} (n : Nat) (xs : List α) : List (List α) :=
  if h : n = 0 ∨ xs = [] then (if xs = [] then [] else [xs])
  else xs.take n :: chunks n (xs.drop n)
termination_by xs.length
decreasing_by
  simp only [not_or] at h
  have : xs.length ≠ 0 := by simpa using h.2
  simp; omega

theorem flatten_chunks {α : Type} (n : Nat) (xs : List α) : (chunks n xs).flatten = xs := by
  induction xs using (measure List.length).wf.induction generalizing n with
  | h xs ih =>
    unfold chunks
    split
    · split <;> simp_all
    · rename_i h
      simp only [not_or] at h
      have hlen : (xs.drop n).length < xs.length := by
        have : xs.length ≠ 0 := by simpa using h.2
        simp; omega
      simp [ih _ hlen]

def line (offset : Nat) (bytes : List UInt8) : String :=
  Hex.padded 4 offset ++ ":" ++ String.join ((chunks 4 bytes).map fun g => " " ++ Hex.ofBytes g)

def lines : Nat → List (List UInt8) → List String
  | _, [] => []
  | k, l :: ls => line (16 * k) l :: lines (k + 1) ls

def words (bs : List UInt8) : String :=
  "\n".intercalate (lines 0 (chunks 16 bs))

end FrameRpc.Dump
