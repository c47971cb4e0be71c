import FrameRpc.Text.Chars

/-!
Text conventions shared by the configuration reader and the command line: which
characters count as white space, how a string is shown quoted for a reader, how a
decimal integer is read from text, and how alike two words are.

Quoting escapes the quote, the backslash, `\t`, `\r`, `\n` and `\0` with a backslash;
characters that extend the grapheme before them and characters that print nothing are
written `\u{hex}` with lowercase digits and no leading zeros; everything else stands as
it is.
-/

namespace FrameRpc.Text

/-- White space in the Unicode sense: the ASCII blanks and controls `\t` to `\r`, the
next-line control, no-break space and the other space separators, and the line and
paragraph separators. -/
def isSpace (c : Char) : Bool :=
  let n := c.toNat
  (0x09 ≤ n && n ≤ 0x0d) || n == 0x20 || n == 0x85 || n == 0xa0 || n == 0x1680 ||
    (0x2000 ≤ n && n ≤ 0x200a) || n == 0x2028 || n == 0x2029 || n == 0x202f ||
    n == 0x205f || n == 0x3000

def trimSpace (s : String) : String :=
  String.ofList ((s.toList.dropWhile isSpace).reverse.dropWhile isSpace).reverse

def unicodeEscape (n : Nat) : String :=
  "\\u\x7b" ++ String.ofList (Hex.natDigits n) ++ "\x7d"

/-- One character as it stands between the quotes `quote`: the quote itself, the
backslash, `\t`, `\r`, `\n` and `\0` get a backslash, characters that extend a grapheme
or print nothing are written `\u{hex}`, and the rest stands as it is. -/
def quoteCharIn (quote : Char) (c : Char) : String :=
  match c with
  | '\\' => "\\\\"
  | '\t' => "\\t"
  | '\r' => "\\r"
  | '\n' => "\\n"
  | c =>
    if c == quote then "\\" ++ c.toString
    else if c.toNat == 0 then "\\0"
    else if isGraphemeExtend c || isUnprintable c then unicodeEscape c.toNat
    else c.toString

def quoteChar (c : Char) : String := quoteCharIn '"' c

def debugQuote (s : String) : String :=
  "\"" ++ String.join (s.toList.map quoteChar) ++ "\""

def charQuote (c : Char) : String :=
  "'" ++ quoteCharIn '\'' c ++ "'"

inductive IntError where
  | empty
  | invalidDigit
  | tooLarge
  | tooSmall
  deriving DecidableEq

def IntError.text : IntError → String
  | .empty => "cannot parse integer from empty string"
  | .invalidDigit => "invalid digit found in string"
  | .tooLarge => "number too large to fit in target type"
  | .tooSmall => "number too small to fit in target type"

/-- The value of decimal digits continuing `acc`, read from the left: the first character
that is not a digit, or the first digit that takes the value past `max`, decides the
error. -/
def digitsValue (max : Nat) : List Char → Nat → Except IntError Nat
  | [], acc => .ok acc
  | c :: cs, acc =>
    if c.isDigit then
      let v := acc * 10 + (c.toNat - '0'.toNat)
      if v > max then .error .tooLarge else digitsValue max cs v
    else .error .invalidDigit

/-- An unsigned integer of at most `max`, written in decimal with an optional leading `+`.
A sign with nothing after it is an invalid digit; empty text is its own error. -/
def parseNat (s : String) (max : Nat) : Except IntError Nat :=
  match s.toList with
  | [] => .error .empty
  | ['+'] | ['-'] => .error .invalidDigit
  | '+' :: ds => digitsValue max ds 0
  | ds => digitsValue max ds 0

/-- A signed integer from `-maxNeg` to `maxPos`, written in decimal with an optional sign.
Digits are read from the left as for `parseNat`; a negative value past its bound is too
small. -/
def parseInt (s : String) (maxPos maxNeg : Nat) : Except IntError Int :=
  match s.toList with
  | [] => .error .empty
  | ['+'] | ['-'] => .error .invalidDigit
  | '-' :: ds =>
    match digitsValue maxNeg ds 0 with
    | .ok v => .ok (-(v : Int))
    | .error .tooLarge => .error .tooSmall
    | .error e => .error e
  | '+' :: ds => (digitsValue maxPos ds 0).map Int.ofNat
  | ds => (digitsValue maxPos ds 0).map Int.ofNat

def dropSign : List Char → List Char
  | '+' :: r | '-' :: r => r
  | r => r

def isSignedDigits (cs : List Char) : Bool :=
  let r := dropSign cs
  !r.isEmpty && r.all Char.isDigit

def isExponentPart : List Char → Bool
  | [] => true
  | c :: r => (c == 'e' || c == 'E') && isSignedDigits r

/-- Whether characters are a decimal number without sign: digits, an optional point with
digits after it, at least one digit in all, then an optional exponent. -/
def isUnsignedDecimal (cs : List Char) : Bool :=
  let whole := cs.takeWhile Char.isDigit
  match cs.dropWhile Char.isDigit with
  | '.' :: r =>
    let fraction := r.takeWhile Char.isDigit
    (whole.length + fraction.length > 0) && isExponentPart (r.dropWhile Char.isDigit)
  | r => !whole.isEmpty && isExponentPart r

/-- Whether text reads as a floating-point number: an optional sign, then a decimal
number or `inf`, `infinity` or `nan` in any case. -/
def isFloatText (s : String) : Bool :=
  let cs := dropSign s.toList
  let word := (String.ofList cs).toLower
  word == "inf" || word == "infinity" || word == "nan" || isUnsignedDecimal cs

/-! ## Words alike

How alike two words are, for suggesting a known word in place of a mistyped one.

The measure is Jaro similarity. A character of the first word matches an equal, not yet
matched character of the second at most `max(|a|, |b|) / 2 - 1` places away, the nearest
such from the left. With `m` matches, of which `t` pairs stand in a different order, the
similarity is `(m/|a| + m/|b| + (m - t)/m) / 3`; two empty words are alike and an empty
word is unlike any other. It is computed in binary64 arithmetic, in that order, so that
the threshold test below decides borderline cases the usual way.

A known word is suggested when its similarity exceeds 0.7. Suggestions are listed from
the least to the most alike, words equally alike keeping their given order.
-/

/-- Matches each character of `a` to a free equal character of `b` within `window`
places: the flags of `b`'s matched positions, and `a`'s matched characters in order. -/
def jaroMatches (a b : List Char) (window : Nat) : List Bool × List Char :=
  let step := fun (acc : List Bool × List Char) (ic : Nat × Char) =>
    let (flags, found) := acc
    let (i, c) := ic
    let lo := i - window
    let hi := min b.length (i + window + 1)
    let pick := (List.range (hi - lo)).map (· + lo) |>.find? fun j =>
      b[j]? == some c && flags[j]? == some false
    match pick with
    | some j => (flags.set j true, found ++ [c])
    | none => (flags, found)
  (a.zipIdx.map fun (c, i) => (i, c)).foldl step (List.replicate b.length false, [])

def jaro (a b : List Char) : Float :=
  if a.isEmpty && b.isEmpty then 1.0
  else if a.isEmpty || b.isEmpty then 0.0
  else
    let window := max a.length b.length / 2 - 1
    let (flags, fromA) := jaroMatches a b window
    let fromB := (b.zip flags).filterMap fun (c, f) => if f then some c else none
    let m := fromA.length
    if m = 0 then 0.0
    else
      let t := ((fromA.zip fromB).filter fun (x, y) => x != y).length / 2
      let mf := m.toFloat
      (mf / a.length.toFloat + mf / b.length.toFloat + (m - t).toFloat / mf) / 3.0

def suggestions (word : String) (known : List String) : List String :=
  let scored := known.filterMap fun k =>
    let s := jaro word.toList k.toList
    if s > 0.7 then some (s, k) else none
  (scored.mergeSort fun x y => x.1 ≤ y.1).map (·.2)

end FrameRpc.Text
