import FrameRpc.Text.Literal

/-!
Decoding bytes as UTF-8, replacing what is not, and cutting text at byte offsets.

A well-formed sequence is a byte below `0x80`, or a lead byte followed by the number of
continuation bytes it announces, each in the range that keeps the sequence shortest and
outside the surrogates: after `E0` the next byte is `A0`–`BF`, after `ED` it is
`80`–`9F`, after `F0` it is `90`–`BF`, after `F4` it is `80`–`8F`, and every other
continuation is `80`–`BF`. Where a sequence breaks off, the longest prefix that could
have begun a well-formed sequence stands for one replacement character `U+FFFD`, and
decoding goes on at the byte that broke it; a byte that can start nothing is replaced
on its own.
-/

namespace FrameRpc.Text

def replacement : Char := '�'

def leadShape (b : UInt8) : Option (Nat × UInt8 × UInt8) :=
  if 0xC2 ≤ b ∧ b ≤ 0xDF then some (1, 0x80, 0xBF)
  else if b = 0xE0 then some (2, 0xA0, 0xBF)
  else if b = 0xED then some (2, 0x80, 0x9F)
  else if 0xE1 ≤ b ∧ b ≤ 0xEF then some (2, 0x80, 0xBF)
  else if b = 0xF0 then some (3, 0x90, 0xBF)
  else if b = 0xF4 then some (3, 0x80, 0x8F)
  else if 0xF1 ≤ b ∧ b ≤ 0xF3 then some (3, 0x80, 0xBF)
  else none

def leadBits (b : UInt8) (count : Nat) : Nat :=
  match count with
  | 1 => b.toNat % 0x20
  | 2 => b.toNat % 0x10
  | _ => b.toNat % 0x08

/-- Reads `count` continuation bytes onto the code point `acc`, the first in `lo`–`hi`
and the rest in `80`–`BF`: the code point and the bytes after, or the bytes from the one
that broke the sequence. -/
def continuations : Nat → UInt8 → UInt8 → Nat → List UInt8 → Except (List UInt8) (Nat × List UInt8)
  | 0, _, _, acc, rest => .ok (acc, rest)
  | n + 1, lo, hi, acc, b :: rest =>
    if lo ≤ b ∧ b ≤ hi then continuations n 0x80 0xBF (acc * 64 + b.toNat % 64) rest
    else .error (b :: rest)
  | _ + 1, _, _, _, [] => .error []

/-- Decodes one character or one replacement from the front of a nonempty byte list:
the character and the bytes left, which are fewer. -/
def decodeOne (b : UInt8) (rest : List UInt8) : Char × List UInt8 :=
  if b < 0x80 then (Char.ofNat b.toNat, rest)
  else match leadShape b with
    | none => (replacement, rest)
    | some (count, lo, hi) =>
      match continuations count lo hi (leadBits b count) rest with
      | .ok (cp, after) => (Char.ofNat cp, after)
      | .error after => (replacement, after)

def leftOver : Except (List UInt8) (Nat × List UInt8) → List UInt8
  | .ok (_, after) => after
  | .error after => after

theorem continuations_shorter (n : Nat) (lo hi : UInt8) (acc : Nat) (bs : List UInt8) :
    (leftOver (continuations n lo hi acc bs)).length ≤ bs.length := by
  induction n generalizing lo hi acc bs with
  | zero => simp [continuations, leftOver]
  | succ n ih =>
    cases bs with
    | nil => simp [continuations, leftOver]
    | cons b rest =>
      simp only [continuations]
      by_cases h : lo ≤ b ∧ b ≤ hi
      · rw [if_pos h]
        have := ih 0x80 0xBF (acc * 64 + b.toNat % 64) rest
        simp only [List.length_cons]
        omega
      · rw [if_neg h]
        simp [leftOver]

theorem decodeOne_shorter (b : UInt8) (rest : List UInt8) :
    (decodeOne b rest).2.length < rest.length + 1 := by
  unfold decodeOne
  split
  · simp
  · split
    · simp
    · rename_i count lo hi _
      have h := continuations_shorter count lo hi (leadBits b count) rest
      split <;> rename_i heq <;> rw [heq] at h <;> simp only [leftOver] at h ⊢ <;> omega

def decodeLossy : List UInt8 → String
  | [] => ""
  | b :: rest =>
    have : (decodeOne b rest).2.length < rest.length + 1 := decodeOne_shorter b rest
    String.singleton (decodeOne b rest).1 ++ decodeLossy (decodeOne b rest).2
termination_by bs => bs.length

/-! ## Cutting at byte offsets

A text is cut between two byte offsets of its UTF-8 form. A cut is only possible where a
character starts or the text ends; an offset that falls strictly inside a character
stops the program, naming the offset, whether it was the start or the end of the cut
(the start is looked at first), the character and its bytes.
-/

def charOffsets (cs : List Char) : List (Nat × Char) :=
  (cs.foldl (fun (acc : Nat × List (Nat × Char)) c => (acc.1 + c.utf8Size, (acc.1, c) :: acc.2))
    (0, [])).2.reverse

inductive CutSide where
  | start
  | stop
  deriving DecidableEq, Repr

/-- A cut at an offset inside a character: the side, the offset, the character and the
byte offsets where it starts and where the next one starts. -/
structure MidChar where
  side : CutSide
  index : Nat
  char : Char
  first : Nat
  next : Nat
  deriving DecidableEq, Repr

def MidChar.text (m : MidChar) : String :=
  (match m.side with
   | .start => "start"
   | .stop => "end") ++
  " byte index " ++ toString m.index ++ " is not a char boundary; it is inside " ++
  charQuote m.char ++ " (bytes " ++ toString m.first ++ ".." ++ toString m.next ++ " of string)"

def insideChar? (cs : List Char) (i : Nat) : Option (Char × Nat × Nat) :=
  ((charOffsets cs).find? fun (p, c) => p < i && i < p + c.utf8Size).map
    fun (p, c) => (c, p, p + c.utf8Size)

/-- The piece of a text between two byte offsets, neither beyond its end and the first
not after the second, or the offset inside a character that stops the program. -/
def cutBytes (cs : List Char) (a b : Nat) : Except MidChar String :=
  match insideChar? cs a with
  | some (c, p, q) => .error ⟨.start, a, c, p, q⟩
  | none =>
    match insideChar? cs b with
    | some (c, p, q) => .error ⟨.stop, b, c, p, q⟩
    | none => .ok (String.ofList (((charOffsets cs).filter fun (p, _) => a ≤ p && p < b).map (·.2)))

end FrameRpc.Text
