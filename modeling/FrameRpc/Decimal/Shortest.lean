/-!
Decimal text of binary64 values.

A finite nonzero value is `m · 2^q`. The reals that round to it form an interval around
it, reaching half way to each neighbour, with both ends included exactly when `m` is even
(ties round to an even mantissa). The shortest text is the first decimal grid, from one
significant digit to seventeen, that has a point in that interval; when both neighbours
of the value on that grid lie inside, the nearer wins and an exact tie goes to the even
digit. All arithmetic is on natural numbers.

`Style` records the decisions of one printer: where positional notation ends, and how the
exponent is written.
-/

namespace FrameRpc.Decimal

inductive Parts where
  | nan
  | infinite (negative : Bool)
  | zero (negative : Bool)
  /-- `m · 2^q`; `lowerCloser` when the next value below is nearer than the next above. -/
  | finite (negative : Bool) (m : Nat) (q : Int) (lowerCloser : Bool)

def parts (x : Float) : Parts :=
  let b := x.toBits.toNat
  let negative := b / Nat.pow 2 63 % 2 == (1 : Nat)
  let e : Nat := b / Nat.pow 2 52 % Nat.pow 2 11
  let f : Nat := b % Nat.pow 2 52
  if e == Nat.pow 2 11 - 1 then (if f == 0 then .infinite negative else .nan)
  else if e == 0 then (if f == 0 then .zero negative else .finite negative f (-1074) false)
  else .finite negative (f + Nat.pow 2 52) ((e : Int) - 1075) (f == 0 && e > 1)

def pow10 (e : Int) : Nat × Nat :=
  if e ≥ 0 then (Nat.pow 10 e.toNat, 1) else (1, Nat.pow 10 (-e).toNat)

def pow2 (e : Int) : Nat × Nat :=
  if e ≥ 0 then (Nat.pow 2 e.toNat, 1) else (1, Nat.pow 2 (-e).toNat)

/-- The rounding interval of `m · 2^q`, scaled by `2^(2-q)`: its low end, the value
itself and its high end, and whether the ends belong to it. -/
structure Interval where
  low : Nat
  mid : Nat
  high : Nat
  unit : Nat × Nat
  closed : Bool

def interval (m : Nat) (q : Int) (lowerCloser : Bool) : Interval :=
  { low := if lowerCloser then 4 * m - 1 else 4 * m - 2, mid := 4 * m, high := 4 * m + 2,
    unit := pow2 (q - 2), closed := m % 2 == 0 }

def Interval.holds (i : Interval) (c : Nat) (e : Int) : Bool :=
  let (p, d) := pow10 e
  let (a, b) := i.unit
  let x := c * p * b
  let lo := i.low * a * d
  let hi := i.high * a * d
  if i.closed then lo ≤ x && x ≤ hi else lo < x && x < hi

def Interval.atLeastPow (i : Interval) (t : Int) : Bool :=
  let (p, d) := pow10 t
  let (a, b) := i.unit
  p * b ≤ i.mid * a * d

/-- The exponent of the leading digit of the middle value, found from an estimate by
moving one step at a time (at most `fuel` steps). -/
def Interval.leadExp (i : Interval) : Nat → Int → Int
  | 0, t => t
  | fuel + 1, t =>
    if !i.atLeastPow t then i.leadExp fuel (t - 1)
    else if i.atLeastPow (t + 1) then i.leadExp fuel (t + 1)
    else t

def Interval.floorOn (i : Interval) (e : Int) : Nat :=
  let (p, d) := pow10 e
  let (a, b) := i.unit
  i.mid * a * d / (b * p)

/-- Of two candidates inside the interval, the nearer to the middle value; a tie goes to
the even one. -/
def Interval.nearer (i : Interval) (c : Nat) (e : Int) : Nat :=
  let (p, d) := pow10 e
  let (a, b) := i.unit
  let below := i.mid * a * d - c * p * b
  let above := (c + 1) * p * b - i.mid * a * d
  if below < above then c else if above < below then c + 1
  else if c % 2 == 0 then c else c + 1

def trim : Nat → Nat → Int → Nat × Int
  | 0, c, e => (c, e)
  | fuel + 1, c, e => if c ≠ 0 ∧ c % 10 == 0 then trim fuel (c / 10) (e + 1) else (c, e)

/-- The first grid with a point in the interval, trying `n` to 17 significant digits. -/
def Interval.search (i : Interval) (lead : Int) : Nat → Nat → Nat × Int
  | 0, _ => (i.floorOn (lead - 16), lead - 16)
  | fuel + 1, n =>
    let e := lead - (n : Int) + 1
    let c := i.floorOn e
    let lo := i.holds c e
    let hi := i.holds (c + 1) e
    if lo && hi then (i.nearer c e, e)
    else if lo then (c, e)
    else if hi then (c + 1, e)
    else i.search lead fuel (n + 1)

/-- The shortest digits and exponent of `m · 2^q`: `digits · 10^exponent` reads back as
the value, and no text with fewer significant digits does. -/
def shortest (m : Nat) (q : Int) (lowerCloser : Bool) : Nat × Int :=
  let i := interval m q lowerCloser
  let estimate : Int := ((Nat.log2 (i.mid * i.unit.1) : Int) - Nat.log2 i.unit.2) * 3 / 10
  let lead := i.leadExp 700 estimate
  let (c, e) := i.search lead 17 1
  trim 20 c e

structure Style where
  /-- Positional notation is used while the decimal point stands after at most this many
  digits. -/
  maxPoint : Int
  minPoint : Int
  plusExponent : Bool

/-- The layout of binary64 numbers in JSON text and in messages about them: positional
while the point stands within 16 digits and no more than four zeros follow it, otherwise
`d.ddde<exp>` with the exponent's sign always written. -/
def Style.json : Style := ⟨16, -5, true⟩

/-- The text of the digits `c · 10^e` (without sign). Integral values in positional form
end in `.0`. -/
def layout (st : Style) (c : Nat) (e : Int) : String :=
  let ds := (Nat.toDigits 10 c)
  let len : Int := ds.length
  let kk := len + e
  if 0 ≤ e ∧ kk ≤ st.maxPoint then
    String.ofList (ds ++ List.replicate e.toNat '0') ++ ".0"
  else if 0 < kk ∧ kk ≤ st.maxPoint then
    String.ofList (ds.take kk.toNat) ++ "." ++ String.ofList (ds.drop kk.toNat)
  else if st.minPoint < kk ∧ kk ≤ 0 then
    "0." ++ String.ofList (List.replicate (-kk).toNat '0' ++ ds)
  else
    let mant := match ds with
      | [d] => String.ofList [d]
      | d :: rest => String.ofList [d] ++ "." ++ String.ofList rest
      | [] => "0"
    let exp := kk - 1
    mant ++ "e" ++ (if st.plusExponent && 0 ≤ exp then "+" else "") ++ toString exp

/-- The text of a value in the given style; `none` for a value that is not finite. -/
def render (st : Style) (x : Float) : Option String :=
  match parts x with
  | .nan | .infinite _ => none
  | .zero neg => some ((if neg then "-" else "") ++ "0.0")
  | .finite neg m q lc =>
    let (c, e) := shortest m q lc
    some ((if neg then "-" else "") ++ layout st c e)

end FrameRpc.Decimal
