import FrameRpc.Json.Lexeme
import FrameRpc.Text.Literal
import FrameRpc.Decimal.Shortest
import FrameRpc.Json.Value

/-!
Reading typed values from JSON text.

Each reader wants one kind of value. A value of another kind is still read through, so
that the error can name what was found (`invalid type: string "yes", expected a
boolean`) and stand just past it. A number of the right kind but out of range is an
`invalid value`. Records are read from an object, whose known keys may each appear once
and whose other keys are read and ignored, or from a list holding the fields in their
declared order; fields left out keep the values they start with.

A `Decoder` reads a value of one type in two ways: from text, where errors carry their
line and column, and from an already parsed `Value`, where they carry none. An object
value is taken in the order of its sorted keys.
-/

namespace FrameRpc.Json

inductive Unexpected where
  | bool (b : Bool)
  | unsigned (n : Nat)
  | signed (n : Int)
  | float (x : Float)
  | str (s : String)
  | unit
  | seq
  | map

/-- How a found value is named in an error. Floats are written in full positional form
and always show a decimal point. -/
def Unexpected.text : Unexpected → String
  | .bool b => "boolean `" ++ toString b ++ "`"
  | .unsigned n => "integer `" ++ toString n ++ "`"
  | .signed n => "integer `" ++ toString n ++ "`"
  | .float x => "floating point `" ++ (Decimal.render Decimal.Style.json x).getD "NaN" ++ "`"
  | .str s => "string " ++ Text.debugQuote s
  | .unit => "null"
  | .seq => "sequence"
  | .map => "map"

def invalidType (u : Unexpected) (expected : String) : Problem :=
  .other ("invalid type: " ++ u.text ++ ", expected " ++ expected)

def invalidValue (u : Unexpected) (expected : String) : Problem :=
  .other ("invalid value: " ++ u.text ++ ", expected " ++ expected)

def Number.unexpected : Number → Unexpected
  | .unsigned n => .unsigned n
  | .negative n => .signed n
  | .float x => .float x

/-- Reads through the value at the offset reached and fails naming it. Lists and objects
are not read: the error stands at their opening bracket. -/
def rejectValue {α : Type} (expected : String) : Read α := placed do
  let b ← peekOrNull
  if b == 0x6e then
    bump; ident [0x75, 0x6c, 0x6c]; failUnplaced (invalidType .unit expected)
  else if b == 0x74 then
    bump; ident [0x72, 0x75, 0x65]; failUnplaced (invalidType (.bool true) expected)
  else if b == 0x66 then
    bump; ident [0x61, 0x6c, 0x73, 0x65]; failUnplaced (invalidType (.bool false) expected)
  else if b == 0x2d then
    bump
    let n ← readNumber false
    failUnplaced (invalidType n.unexpected expected)
  else if isDigitByte b then
    let n ← readNumber true
    failUnplaced (invalidType n.unexpected expected)
  else if b == 0x22 then
    bump
    let s ← strBody
    failUnplaced (invalidType (.str s) expected)
  else if b == 0x5b then failUnplaced (invalidType .seq expected)
  else if b == 0x7b then failUnplaced (invalidType .map expected)
  else failAhead .expectedValue

def valueStart : Read UInt8 := do
  match ← skipBlanks with
  | some b => pure b
  | none => failAhead .eofValue

def readString : Read String := placed do
  if (← valueStart) == 0x22 then
    bump
    strBody
  else rejectValue "a string"

def readBool : Read Bool := placed do
  let b ← valueStart
  if b == 0x74 then
    bump; ident [0x72, 0x75, 0x65]; pure true
  else if b == 0x66 then
    bump; ident [0x61, 0x6c, 0x73, 0x65]; pure false
  else rejectValue "a boolean"

def readUnsigned (typeName : String) (max : Nat) : Read Nat := placed do
  let b ← valueStart
  let n ← if b == 0x2d then do bump; readNumber false
    else if isDigitByte b then readNumber true
    else rejectValue typeName
  match n with
  | .unsigned v =>
    if v ≤ max then pure v else failUnplaced (invalidValue (.unsigned v) typeName)
  | .negative v => failUnplaced (invalidValue (.signed v) typeName)
  | .float x => failUnplaced (invalidType (.float x) typeName)

def Value.unexpected : Value → Unexpected
  | .null => .unit
  | .bool b => .bool b
  | .int n => if n ≥ 0 then .unsigned n.toNat else .signed n
  | .float x => .float x
  | .str s => .str s
  | .arr _ => .seq
  | .obj _ => .map

structure Decoder (α : Type) where
  read : Read α
  decode : Value → Except Problem α

namespace Decoder

def string : Decoder String where
  read := readString
  decode
    | .str s => .ok s
    | v => .error (invalidType v.unexpected "a string")

def bool : Decoder Bool where
  read := readBool
  decode
    | .bool b => .ok b
    | v => .error (invalidType v.unexpected "a boolean")

def unsigned (typeName : String) (max : Nat) : Decoder Nat where
  read := readUnsigned typeName max
  decode
    | .int n =>
      if n < 0 then .error (invalidValue (.signed n) typeName)
      else if n.toNat ≤ max then .ok n.toNat
      else .error (invalidValue (.unsigned n.toNat) typeName)
    | v => .error (invalidType v.unexpected typeName)

def map {α β : Type} (f : α → β) (d : Decoder α) : Decoder β where
  read := f <$> d.read
  decode v := f <$> d.decode v

/-- The decoded value checked by `f`, whose message becomes the error. In text the error
is placed when the enclosing record is left. -/
def refine {α β : Type} (f : α → Except String β) (d : Decoder α) : Decoder β where
  read := do
    match f (← d.read) with
    | .ok b => pure b
    | .error m => failUnplaced (.other m)
  decode v := do
    match f (← d.decode v) with
    | .ok b => .ok b
    | .error m => .error (.other m)

end Decoder

structure Field (σ : Type) where
  key : String
  decoder : σ → Decoder σ

/-- Looks for the next item of a list: `false` at the closing bracket (which stays to be
read), `true` at the start of an item. -/
def nextItem (first : Bool) : Read Bool := do
  match ← skipBlanks with
  | none => failAhead .eofList
  | some b =>
    if b == 0x5d then pure false
    else if first then pure true
    else if b != 0x2c then failAhead .expectedListCommaOrEnd
    else
      bump
      match ← skipBlanks with
      | none => failAhead .eofValue
      | some c => if c == 0x5d then failAhead .trailingComma else pure true

/-- Looks for the next key of an object and reads it: `none` at the closing brace (which
stays to be read). -/
def nextKey (first : Bool) : Read (Option String) := do
  match ← skipBlanks with
  | none => failAhead .eofObject
  | some b =>
    if b == 0x7d then pure none
    else
      let c ← if first then pure b
        else if b != 0x2c then failAhead .expectedObjectCommaOrEnd
        else do
          bump
          match ← skipBlanks with
          | none => failAhead .eofValue
          | some c => pure c
      if c == 0x22 then
        bump
        some <$> strBody
      else if c == 0x7d then failAhead .trailingComma
      else failAhead .keyMustBeString

def colon : Read Unit := do
  match ← skipBlanks with
  | none => failAhead .eofObject
  | some b => if b == 0x3a then bump else failAhead .expectedColon

def closeList : Read Unit := do
  match ← skipBlanks with
  | none => failAhead .eofList
  | some b =>
    if b == 0x5d then bump
    else if b == 0x2c then
      bump
      if (← skipBlanks) == some 0x5d then failAhead .trailingComma
      else failAhead .trailingCharacters
    else failAhead .trailingCharacters

def closeObject : Read Unit := do
  match ← skipBlanks with
  | none => failAhead .eofObject
  | some b =>
    if b == 0x7d then bump
    else if b == 0x2c then failAhead .trailingComma
    else failAhead .trailingCharacters

/-- The fields of a record given as list items, in order; the list may stop early. -/
def positional {σ : Type} : List (Field σ) → Bool → σ → Read σ
  | [], _, acc => pure acc
  | f :: fs, first, acc => do
    if ← nextItem first then positional fs false (← (f.decoder acc).read)
    else pure acc

/-- The members of an object holding a record's fields. Each member moves past at least
its key, so `fuel` at the length of the text is never used up. -/
def members {σ : Type} (fields : List (Field σ)) : Nat → List String → Bool → σ → Read σ
  | 0, _, _, acc => pure acc
  | fuel + 1, seen, first, acc => do
    match ← nextKey first with
    | none => pure acc
    | some key =>
      match fields.find? (·.key == key) with
      | some f =>
        if seen.contains key then failUnplaced (.other ("duplicate field `" ++ key ++ "`"))
        else
          colon
          members fields fuel (key :: seen) false (← (f.decoder acc).read)
      | none =>
        colon
        skipAny
        members fields fuel seen false acc

/-- A record from text: an object or a list. The closing bracket is looked for even after
an error inside, and an error with no place yet is placed where that leaves the offset. -/
def readRecord {σ : Type} (name : String) (fields : List (Field σ)) (init : σ) : Read σ :=
  placed do
    let b ← valueStart
    if b == 0x5b then
      bump
      finishing (positional fields true init) closeList
    else if b == 0x7b then
      bump
      let fuel := (← read).size + 1
      finishing (members fields fuel [] true init) closeObject
    else rejectValue ("struct " ++ name)

/-- The fields of a record from the items of a parsed list, in order; items left over
are an error. -/
def positionalValues {σ : Type} (total : Nat) : List (Field σ) → List Value → σ → Except Problem σ
  | _, [], acc => .ok acc
  | [], _ :: _, _ =>
    .error (.other ("invalid length " ++ toString total ++ ", expected fewer elements in array"))
  | f :: fs, v :: vs, acc => do positionalValues total fs vs (← (f.decoder acc).decode v)

/-- The members of a parsed object, in sorted key order; unknown keys are ignored. -/
def memberValues {σ : Type} (fields : List (Field σ)) (members : List (String × Value)) (init : σ) :
    Except Problem σ :=
  let sorted := members.mergeSort (fun a b => decide (a.1 ≤ b.1))
  sorted.foldlM (fun acc (k, v) =>
    match fields.find? (·.key == k) with
    | some f => (f.decoder acc).decode v
    | none => .ok acc) init

def Decoder.record {σ : Type} (name : String) (fields : List (Field σ)) (init : σ) : Decoder σ where
  read := readRecord name fields init
  decode
    | .obj ms => memberValues fields ms init
    | .arr vs => positionalValues vs.length fields vs init
    | v => .error (invalidType v.unexpected ("struct " ++ name))

def Decoder.ofText {α : Type} (d : Decoder α) (text : String) : Except ReadError α :=
  readText d.read text

def Decoder.ofValue {α : Type} (d : Decoder α) (v : Value) : Except ReadError α :=
  match d.decode v with
  | .ok a => .ok a
  | .error p => .error ⟨p, none⟩

end FrameRpc.Json
