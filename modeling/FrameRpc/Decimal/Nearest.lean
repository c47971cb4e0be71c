/-!
The binary64 value nearest to a fraction.

`nearest n d` rounds the exact quotient `n / d` to the closest binary64 value, a tie going
to the even mantissa, and gives infinity past the largest finite value. Everything is
computed on natural numbers and only the final bit pattern becomes a `Float`, so the
result does not depend on how the platform rounds intermediate steps.
-/

namespace FrameRpc.Decimal

/-- `a / b` rounded to an integer; a tie goes to the even neighbour. -/
def roundHalfEven (a b : Nat) : Nat :=
  let q := a / b
  let r := a % b
  if 2 * r < b then q
  else if 2 * r > b then q + 1
  else if q % 2 == 0 then q
  else q + 1

def belowPow2 (n d : Nat) (k : Int) : Bool :=
  if k ≥ 0 then n < d * Nat.pow 2 k.toNat else n * Nat.pow 2 (-k).toNat < d

/-- The exponent `k` with `2^k ≤ n / d < 2^(k+1)`, for positive `n` and `d`: the difference
of the two binary logarithms, or one less. -/
def floorLog2 (n d : Nat) : Int :=
  let k : Int := (Nat.log2 n : Int) - Nat.log2 d
  if belowPow2 n d k then k - 1 else k

def scaledMantissa (n d : Nat) (e : Int) : Nat :=
  if e ≥ 0 then roundHalfEven n (d * Nat.pow 2 e.toNat) else roundHalfEven (n * Nat.pow 2 (-e).toNat) d

def infinityBits : UInt64 := 0x7FF0000000000000

/-- The bit pattern of the binary64 value nearest to `n / d`. The mantissa is taken with
53 significant bits, or fewer below the normal range where the exponent stays at its
least value; a mantissa that rounds up to `2^53` moves to the next exponent. -/
def nearestBits (n d : Nat) : UInt64 :=
  if n = 0 ∨ d = 0 then 0
  else
    let e := max (floorLog2 n d - 52) (-1074)
    let m := scaledMantissa n d e
    let (m, e) := if m = Nat.pow 2 53 then (Nat.pow 2 52, e + 1) else (m, e)
    if e + 1075 ≥ 2047 then infinityBits
    else if m < Nat.pow 2 52 then m.toUInt64
    else ((e + 1075).toNat * Nat.pow 2 52 + (m - Nat.pow 2 52)).toUInt64

def nearest (n d : Nat) : Float := Float.ofBits (nearestBits n d)

theorem nearestBits_zero (d : Nat) : nearestBits 0 d = 0 := by
  simp [nearestBits]

end FrameRpc.Decimal
