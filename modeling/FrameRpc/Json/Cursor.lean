/-!
Reading JSON text one byte at a time.

A reader sees the whole text as UTF-8 bytes and keeps the offset it has reached. An error
keeps the offset where reading stopped, so that a caller can still close the enclosing
object or list before reporting it, and it carries the line and column it belongs to:
lines count from 1, and the column is the number of bytes since the start of the line.
Two places are used: `failAt` reports the offset reached, `failAhead` the offset just
past the byte that was looked at. An error raised away from the text (a value of the wrong
kind, a field given twice) has no place yet; `placed` gives it the offset reached when the
enclosing value is left.
-/

namespace FrameRpc.Json

inductive Problem where
  | eofList
  | eofObject
  | eofString
  | eofValue
  | expectedColon
  | expectedListCommaOrEnd
  | expectedObjectCommaOrEnd
  | expectedIdent
  | expectedValue
  | invalidEscape
  | invalidNumber
  | numberOutOfRange
  | controlCharacter
  | keyMustBeString
  | loneLeadingSurrogate
  | trailingComma
  | trailingCharacters
  | unexpectedEndOfHexEscape
  | recursionLimit
  | other (text : String)
  deriving DecidableEq

def Problem.text : Problem → String
  | .eofList => "EOF while parsing a list"
  | .eofObject => "EOF while parsing an object"
  | .eofString => "EOF while parsing a string"
  | .eofValue => "EOF while parsing a value"
  | .expectedColon => "expected `:`"
  | .expectedListCommaOrEnd => "expected `,` or `]`"
  | .expectedObjectCommaOrEnd => "expected `,` or `\x7d`"
  | .expectedIdent => "expected ident"
  | .expectedValue => "expected value"
  | .invalidEscape => "invalid escape"
  | .invalidNumber => "invalid number"
  | .numberOutOfRange => "number out of range"
  | .controlCharacter => "control character (\\u0000-\\u001F) found while parsing a string"
  | .keyMustBeString => "key must be a string"
  | .loneLeadingSurrogate => "lone leading surrogate in hex escape"
  | .trailingComma => "trailing comma"
  | .trailingCharacters => "trailing characters"
  | .unexpectedEndOfHexEscape => "unexpected end of hex escape"
  | .recursionLimit => "recursion limit exceeded"
  | .other text => text

structure ReadError where
  problem : Problem
  place : Option (Nat × Nat)
  deriving DecidableEq

def ReadError.text (e : ReadError) : String :=
  match e.place with
  | some (l, c) => e.problem.text ++ " at line " ++ toString l ++ " column " ++ toString c
  | none => e.problem.text

/-- Reads from fixed JSON text: the state is the byte offset reached, and it is kept when
reading fails. -/
abbrev Read := ReaderT (Array UInt8) (EStateM ReadError Nat)

def positionOf (src : Array UInt8) (i : Nat) : Nat × Nat :=
  let before := src.toList.take i
  (1 + before.count 10, (before.reverse.takeWhile (· != 10)).length)

def failAt {α : Type} (p : Problem) : Read α := do
  throw ⟨p, some (positionOf (← read) (← get))⟩

def failAhead {α : Type} (p : Problem) : Read α := do
  let src ← read
  throw ⟨p, some (positionOf src (min src.size ((← get) + 1)))⟩

def failUnplaced {α : Type} (p : Problem) : Read α :=
  throw ⟨p, none⟩

def placed {α : Type} (x : Read α) : Read α := fun src s =>
  match x src s with
  | .error e s' =>
    .error (if e.place.isNone then { e with place := some (positionOf src s') } else e) s'
  | .ok a s' => .ok a s'

/-- Runs `body`, then `close` whether or not `body` failed; the first error wins, and the
offset is the one `close` reached. -/
def finishing {α : Type} (body : Read α) (close : Read Unit) : Read α := fun src s =>
  match body src s with
  | .ok a s' =>
    match close src s' with
    | .ok _ s'' => .ok a s''
    | .error e s'' => .error e s''
  | .error e s' =>
    match close src s' with
    | .ok _ s'' => .error e s''
    | .error _ s'' => .error e s''

def peek : Read (Option UInt8) := do
  return (← read)[← get]?

def peekOrNull : Read UInt8 := do
  return (← peek).getD 0

def bump : Read Unit := modify (· + 1)

def next : Read (Option UInt8) := do
  let b ← peek
  if b.isSome then bump
  return b

def scanWhile (src : Array UInt8) (p : UInt8 → Bool) (i : Nat) : Nat :=
  if h : i < src.size then
    if p src[i] then scanWhile src p (i + 1) else i
  else i
termination_by src.size - i

def skipWhile (p : UInt8 → Bool) : Read Unit := do
  let src ← read
  modify (scanWhile src p ·)

def isBlank (b : UInt8) : Bool := b == 0x20 || b == 0x0a || b == 0x09 || b == 0x0d

def isDigitByte (b : UInt8) : Bool := 0x30 ≤ b && b ≤ 0x39

def skipBlanks : Read (Option UInt8) := do
  skipWhile isBlank
  peek

/-- Moves past the given bytes, which must follow; a different byte fails after it, and
the end fails as an unfinished value. -/
def ident : List UInt8 → Read Unit
  | [] => pure ()
  | e :: es => do
    match ← next with
    | none => failAt .eofValue
    | some b => if b == e then ident es else failAt .expectedIdent

def finish : Read Unit := do
  if (← skipBlanks).isSome then failAhead .trailingCharacters

def readText {α : Type} (x : Read α) (text : String) : Except ReadError α :=
  match ((do let v ← x; finish; pure v : Read α) text.toUTF8.data) 0 with
  | .ok v _ => .ok v
  | .error e _ => .error e

end FrameRpc.Json
