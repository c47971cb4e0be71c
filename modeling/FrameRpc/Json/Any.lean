import FrameRpc.Json.Typed

/-!
Reading a JSON value of any kind from text.

Integers that fit in 64 bits (unsigned, or negative down to `-2^63`) stay integers;
other numbers become binary64. An object keeps its keys in the order they first appear;
a key given again replaces the earlier value in place. Lists and objects may nest at
most 127 deep.
-/

namespace FrameRpc.Json

def setMember (ms : List (String × Value)) (key : String) (v : Value) : List (String × Value) :=
  if ms.any (·.1 == key) then ms.map fun (k, w) => if k == key then (k, v) else (k, w)
  else ms ++ [(key, v)]

def Number.value : Number → Value
  | .unsigned n => .int n
  | .negative n => .int n
  | .float x => .float x

mutual

/-- One value of any kind. `depth` is the nesting still allowed; `fuel` bounds the
recursion and is never used up, since each call moves past at least one byte. -/
def anyValue : Nat → Nat → Read Value
  | 0, _ => failAt .eofValue
  | fuel + 1, depth => placed do
    let b ← valueStart
    if b == 0x6e then bump; ident [0x75, 0x6c, 0x6c]; pure .null
    else if b == 0x74 then bump; ident [0x72, 0x75, 0x65]; pure (.bool true)
    else if b == 0x66 then bump; ident [0x61, 0x6c, 0x73, 0x65]; pure (.bool false)
    else if b == 0x2d then bump; return (← readNumber false).value
    else if isDigitByte b then return (← readNumber true).value
    else if b == 0x22 then bump; return .str (← strBody)
    else if b == 0x5b then
      if depth ≤ 1 then failAhead .recursionLimit
      else
        bump
        finishing (.arr <$> anyItems fuel (depth - 1) true []) closeList
    else if b == 0x7b then
      if depth ≤ 1 then failAhead .recursionLimit
      else
        bump
        finishing (.obj <$> anyMembers fuel (depth - 1) true []) closeObject
    else failAhead .expectedValue

def anyItems : Nat → Nat → Bool → List Value → Read (List Value)
  | 0, _, _, acc => pure acc.reverse
  | fuel + 1, depth, first, acc => do
    if ← nextItem first then anyItems fuel depth false ((← anyValue fuel depth) :: acc)
    else pure acc.reverse

def anyMembers : Nat → Nat → Bool → List (String × Value) → Read (List (String × Value))
  | 0, _, _, acc => pure acc
  | fuel + 1, depth, first, acc => do
    match ← nextKey first with
    | none => pure acc
    | some key =>
      colon
      let v ← anyValue fuel depth
      anyMembers fuel depth false (setMember acc key v)

end

def parse (text : String) : Except ReadError Value :=
  readText (do anyValue (2 * (← read).size + 2) 128) text

end FrameRpc.Json
