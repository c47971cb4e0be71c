import FrameRpc.Json.Cursor
import FrameRpc.Text.Chars
import FrameRpc.Decimal.Nearest

/-!
The lexemes of JSON text: strings, numbers and whole values that are read only to be
passed over.

Strings may not hold raw control characters. Escapes are the usual ones; `\u` takes four
hex digits, a trailing surrogate alone is refused, and a leading surrogate must be
followed at once by an escaped trailing one.

A number without fraction or exponent stays an integer while it fits in 64 bits
(unsigned, or negative down to `-2^63`); `-0`, larger integers and every number with a
fraction or an exponent are binary64. The binary64 value is found as the text reads: the
first nineteen or twenty significant digits become an integer (later digits only move
the exponent), that integer is rounded to binary64 and is then multiplied or divided by
the binary64 power of ten for the exponent. A product that overflows is an error; an
exponent too large to hold in 32 bits is an error unless the digits are zero or the
exponent is negative, when the value is zero.
-/

namespace FrameRpc.Json

def u64Max : Nat := Nat.pow 2 64 - 1

def i32Max : Nat := Nat.pow 2 31 - 1

def hexValue? (b : UInt8) : Option Nat := Hex.digitValue? (Char.ofNat b.toNat)

def hex4Value? (a b c d : UInt8) : Option Nat := do
  return (((← hexValue? a) * 16 + (← hexValue? b)) * 16 + (← hexValue? c)) * 16 + (← hexValue? d)

/-- Four hex digits of a `\u` escape; the offset moves past all four before they are
checked, and to the end when fewer remain. -/
def hex4 : Read Nat := do
  let src ← read
  let i ← get
  if h : i + 4 ≤ src.size then
    set (i + 4)
    match hex4Value? src[i] src[i + 1] src[i + 2] src[i + 3] with
    | some v => pure v
    | none => failAt .invalidEscape
  else
    set src.size
    failAt .eofString

def utf8Of (n : Nat) : Array UInt8 := (String.singleton (Char.ofNat n)).toUTF8.data

/-- The byte that must come next inside a surrogate pair; the byte is passed over either
way. -/
def expectInPair (b : UInt8) : Read Unit := do
  match ← peek with
  | none => failAt .eofString
  | some c =>
    bump
    if c != b then failAt .unexpectedEndOfHexEscape

def unicodeEscape (acc : Array UInt8) : Read (Array UInt8) := do
  let n ← hex4
  if 0xDC00 ≤ n ∧ n ≤ 0xDFFF then failAt .loneLeadingSurrogate
  else if n < 0xD800 ∨ n > 0xDBFF then pure (acc ++ utf8Of n)
  else
    expectInPair 0x5c
    expectInPair 0x75
    let n2 ← hex4
    if n2 < 0xDC00 ∨ n2 > 0xDFFF then failAt .loneLeadingSurrogate
    else pure (acc ++ utf8Of ((n - 0xD800) * 0x400 + (n2 - 0xDC00) + 0x10000))

def simpleEscape? (c : UInt8) : Option UInt8 :=
  if c == 0x22 || c == 0x5c || c == 0x2f then some c
  else if c == 0x62 then some 0x08
  else if c == 0x66 then some 0x0c
  else if c == 0x6e then some 0x0a
  else if c == 0x72 then some 0x0d
  else if c == 0x74 then some 0x09
  else none

def escape (acc : Array UInt8) : Read (Array UInt8) := do
  match ← next with
  | none => failAt .eofString
  | some c =>
    match simpleEscape? c with
    | some b => pure (acc.push b)
    | none => if c == 0x75 then unicodeEscape acc else failAt .invalidEscape

def isPlainStringByte (b : UInt8) : Bool := b != 0x22 && b != 0x5c && b ≥ 0x20

/-- The bytes of a string after its opening quote, up to and past the closing quote. At
most `fuel` escapes are read; each moves past at least two bytes. -/
def strBytes : Nat → Array UInt8 → Read (Array UInt8)
  | 0, _ => failAt .eofString
  | fuel + 1, acc => do
    let src ← read
    let i ← get
    let j := scanWhile src isPlainStringByte i
    set j
    let acc := acc ++ src.extract i j
    match src[j]? with
    | none => failAt .eofString
    | some b =>
      if b == 0x22 then bump; pure acc
      else if b == 0x5c then bump; strBytes fuel (← escape acc)
      else bump; failAt .controlCharacter

def strBody : Read String := do
  let bytes ← strBytes ((← read).size + 1) #[]
  pure ((String.fromUTF8? (ByteArray.mk bytes)).getD "")

def skipEscape : Read Unit := do
  match ← next with
  | none => failAt .eofString
  | some c =>
    if (simpleEscape? c).isSome then pure ()
    else if c == 0x75 then discard hex4
    else failAt .invalidEscape

def skipStrBody : Nat → Read Unit
  | 0 => failAt .eofString
  | fuel + 1 => do
    skipWhile isPlainStringByte
    match ← peek with
    | none => failAt .eofString
    | some b =>
      if b == 0x22 then bump
      else if b == 0x5c then bump; skipEscape; skipStrBody fuel
      else failAt .controlCharacter

/-- A number as read: an unsigned integer of at most 64 bits, a negative integer of at
most 64 bits, or a binary64 value. -/
inductive Number where
  | unsigned (n : Nat)
  | negative (n : Int)
  | float (x : Float)

/-- Accumulates decimal digits from offset `i` onto `acc` while the value stays at most
`limit`; gives the offset where it stopped, the value and the number of digits taken. -/
def accumulate (src : Array UInt8) (limit : Nat) (i acc taken : Nat) : Nat × Nat × Nat :=
  if h : i < src.size then
    let b := src[i]
    if isDigitByte b then
      let v := acc * 10 + (b.toNat - 0x30)
      if v > limit then (i, acc, taken) else accumulate src limit (i + 1) v (taken + 1)
    else (i, acc, taken)
  else (i, acc, taken)
termination_by src.size - i

def pow10 (k : Nat) : Float := Decimal.nearest (Nat.pow 10 k) 1

/-- Scales `x` by `10^exponent` with binary64 steps; `none` when the product overflows.
Exponents beyond 308 divide by `10^308` until they are in range or the value is zero. -/
def scale (x : Float) (exponent : Int) : Nat → Option Float
  | 0 => some x
  | fuel + 1 =>
    let k := exponent.natAbs
    if k ≤ 308 then
      if exponent ≥ 0 then
        let y := x * pow10 k
        if y.isInf then none else some y
      else some (x / pow10 k)
    else if x == 0 then some x
    else if exponent ≥ 0 then none
    else scale (x / pow10 308) (exponent + 308) fuel

def fromParts (positive : Bool) (significand : Nat) (exponent : Int) : Read Float :=
  match scale (Decimal.nearest significand 1) exponent 8 with
  | some x => pure (if positive then x else -x)
  | none => failAt .numberOutOfRange

def saturate32 (e : Int) : Int := max (-(i32Max : Int) - 1) (min e i32Max)

def readExponent (positive : Bool) (significand : Nat) (start : Int) : Read Float := do
  bump
  let c ← peekOrNull
  let positiveExp := c != 0x2d
  if c == 0x2b || c == 0x2d then bump
  match ← next with
  | none => failAt .eofValue
  | some d =>
    if !isDigitByte d then failAt .invalidNumber
    else
      let src ← read
      let (j, e, _) := accumulate src i32Max (← get) (d.toNat - 0x30) 0
      set j
      if isDigitByte ((src[j]?).getD 0) then
        bump
        if significand ≠ 0 ∧ positiveExp then failAt .numberOutOfRange
        else
          skipWhile isDigitByte
          pure (if positive then 0 else -0)
      else
        fromParts positive significand
          (saturate32 (if positiveExp then start + e else start - e))

def readFraction (positive : Bool) (significand : Nat) (before : Int) : Read Float := do
  bump
  let src ← read
  let (j, sig, taken) := accumulate src u64Max (← get) significand 0
  set j
  let exponent := before - taken
  if isDigitByte ((src[j]?).getD 0) then
    skipWhile isDigitByte
    let c ← peekOrNull
    if c == 0x65 || c == 0x45 then readExponent positive sig exponent
    else fromParts positive sig exponent
  else if taken = 0 then
    if (← peek).isSome then failAhead .invalidNumber else failAhead .eofValue
  else
    let c ← peekOrNull
    if c == 0x65 || c == 0x45 then readExponent positive sig exponent
    else fromParts positive sig exponent

def numberTail (positive : Bool) (significand : Nat) : Read Number := do
  let c ← peekOrNull
  if c == 0x2e then .float <$> readFraction positive significand 0
  else if c == 0x65 || c == 0x45 then .float <$> readExponent positive significand 0
  else if positive then pure (.unsigned significand)
  else if 0 < significand ∧ significand ≤ Nat.pow 2 63 then pure (.negative (-(significand : Int)))
  else pure (.float (-(Decimal.nearest significand 1)))

/-- Integer digits that no longer fit: they only raise the exponent. -/
def longInteger (positive : Bool) (significand : Nat) : Read Float := do
  let i ← get
  skipWhile isDigitByte
  let extra : Int := (← get) - i
  let c ← peekOrNull
  if c == 0x2e then readFraction positive significand extra
  else if c == 0x65 || c == 0x45 then readExponent positive significand extra
  else fromParts positive significand extra

/-- A number after its sign: a single leading zero, or digits from 1 to 9 on. -/
def readNumber (positive : Bool) : Read Number := do
  match ← next with
  | none => failAt .eofValue
  | some b =>
    if b == 0x30 then
      if isDigitByte (← peekOrNull) then failAhead .invalidNumber
      else numberTail positive 0
    else if isDigitByte b then
      let src ← read
      let (j, sig, _) := accumulate src u64Max (← get) (b.toNat - 0x30) 0
      set j
      if isDigitByte ((src[j]?).getD 0) then .float <$> longInteger positive sig
      else numberTail positive sig
    else failAt .invalidNumber

def skipExponent : Read Unit := do
  bump
  let c ← peekOrNull
  if c == 0x2b || c == 0x2d then bump
  if isDigitByte ((← next).getD 0) then skipWhile isDigitByte
  else failAt .invalidNumber

def skipNumber : Read Unit := do
  let b := (← next).getD 0
  if b == 0x30 then
    if isDigitByte (← peekOrNull) then failAhead .invalidNumber
  else if isDigitByte b then skipWhile isDigitByte
  else failAt .invalidNumber
  let c ← peekOrNull
  if c == 0x2e then
    bump
    let i ← get
    skipWhile isDigitByte
    if (← get) = i then failAhead .invalidNumber
    let c ← peekOrNull
    if c == 0x65 || c == 0x45 then skipExponent
  else if c == 0x65 || c == 0x45 then skipExponent

mutual

/-- Passes over one value of any kind. Each call moves past at least one byte before the
next, so `fuel` at twice the length of the text is never used up. -/
def skipValue : Nat → Read Unit
  | 0 => failAt .eofValue
  | fuel + 1 => do
    match ← skipBlanks with
    | none => failAhead .eofValue
    | some b =>
      if b == 0x6e then bump; ident [0x75, 0x6c, 0x6c]
      else if b == 0x74 then bump; ident [0x72, 0x75, 0x65]
      else if b == 0x66 then bump; ident [0x61, 0x6c, 0x73, 0x65]
      else if b == 0x2d then bump; skipNumber
      else if isDigitByte b then skipNumber
      else if b == 0x22 then bump; skipStrBody ((← read).size + 1)
      else if b == 0x5b then bump; skipItems fuel true
      else if b == 0x7b then bump; skipMembers fuel true
      else failAhead .expectedValue

def skipItems : Nat → Bool → Read Unit
  | 0, _ => failAt .eofValue
  | fuel + 1, first => do
    match ← skipBlanks with
    | none => failAhead .eofList
    | some b =>
      if b == 0x5d then bump
      else if first then skipValue fuel; skipItems fuel false
      else if b == 0x2c then bump; skipValue fuel; skipItems fuel false
      else failAhead .expectedListCommaOrEnd

def skipMembers : Nat → Bool → Read Unit
  | 0, _ => failAt .eofValue
  | fuel + 1, first => do
    match ← skipBlanks with
    | none => failAhead .eofObject
    | some b =>
      if b == 0x7d then bump
      else if !first && b != 0x2c then failAhead .expectedObjectCommaOrEnd
      else
        if !first then bump
        match ← skipBlanks with
        | none => failAhead .eofObject
        | some k =>
          if k != 0x22 then failAhead .keyMustBeString
          else
            bump
            skipStrBody ((← read).size + 1)
            match ← skipBlanks with
            | none => failAhead .eofObject
            | some c =>
              if c != 0x3a then failAhead .expectedColon
              else
                bump
                skipValue fuel
                skipMembers fuel false

end

def skipAny : Read Unit := do
  skipValue (2 * (← read).size + 2)

end FrameRpc.Json
