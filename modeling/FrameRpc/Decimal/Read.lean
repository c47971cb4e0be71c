import FrameRpc.Decimal.Nearest

/-!
Reading a binary64 value from decimal text.

The text is an optional sign followed by `inf`, `infinity` or `nan` in any case, or by
decimal digits with an optional point and an optional exponent (`e` or `E`, an optional
sign and digits). At least one digit must stand before or after the point. The value is
the nearest binary64 value to the exact decimal, a tie going to the even mantissa.

Exponents are capped before any power is formed: a nonzero mantissa times `10^e` with
`e` above 400 is past every finite value, and one whose leading digit stands more than
400 places after the point is below half of the least one, so both round the same way
as the exact value would.
-/

namespace FrameRpc.Decimal

inductive FloatError where
  | empty
  | invalid
  deriving DecidableEq, Repr

def FloatError.text : FloatError → String
  | .empty => "cannot parse float from empty string"
  | .invalid => "invalid float literal"

def spanDigits (cs : List Char) : List Char × List Char :=
  (cs.takeWhile Char.isDigit, cs.dropWhile Char.isDigit)

def digitsNat (ds : List Char) : Nat :=
  ds.foldl (fun acc c => acc * 10 + (c.toNat - '0'.toNat)) 0

def cappedExponent (ds : List Char) : Nat :=
  ds.foldl (fun acc c => min 100000 (acc * 10 + (c.toNat - '0'.toNat))) 0

def ofScientific (m : Nat) (e : Int) : Float :=
  if m = 0 then nearest 0 1
  else if e > 400 then Float.ofBits infinityBits
  else if e + (Nat.toDigits 10 m).length < -400 then nearest 0 1
  else if e ≥ 0 then nearest (m * Nat.pow 10 e.toNat) 1
  else nearest m (Nat.pow 10 (-e).toNat)

def readExponent : List Char → Option Int
  | [] => some 0
  | c :: rest =>
    if c == 'e' || c == 'E' then
      let (neg, ds) := match rest with
        | '+' :: ds => (false, ds)
        | '-' :: ds => (true, ds)
        | ds => (false, ds)
      if ds.isEmpty || !ds.all Char.isDigit then none
      else
        let v : Int := cappedExponent ds
        some (if neg then -v else v)
    else none

def readUnsigned (cs : List Char) : Option Float :=
  let word := String.ofList (cs.map Char.toLower)
  if word == "inf" || word == "infinity" then some (Float.ofBits infinityBits)
  else if word == "nan" then some (Float.ofBits 0x7FF8000000000000)
  else
    let (whole, rest) := spanDigits cs
    let (frac, rest) := match rest with
      | '.' :: more => spanDigits more
      | _ => ([], rest)
    if whole.isEmpty && frac.isEmpty then none
    else
      (readExponent rest).map fun e => ofScientific (digitsNat (whole ++ frac)) (e - frac.length)

def readFloat (s : String) : Except FloatError Float :=
  let (neg, body) := match s.toList with
    | '+' :: rest => (false, rest)
    | '-' :: rest => (true, rest)
    | cs => (false, cs)
  if s.isEmpty then .error .empty
  else match readUnsigned body with
    | some x => .ok (if neg then -x else x)
    | none => .error .invalid

end FrameRpc.Decimal
