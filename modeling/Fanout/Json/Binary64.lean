/-! Finite binary floating point numbers of 64 bits, as integers. A number is
`± significand · 2 ^ exponent`; every operation is the exact rational result
rounded to the nearest such number, a tie going to the even significand. -/
namespace Fanout.Json

/-- A finite number of the binary64 format. Numbers made here have a significand
below `2 ^ 53` and an exponent from `-1074` to `971`, and a significand of at
least `2 ^ 52` unless the exponent is `-1074`. -/
structure Binary64 where
  negative : Bool
  significand : Nat
  exponent : Int
  deriving DecidableEq, Repr

namespace Binary64

/-- The number zero, which keeps a sign. -/
def zero (negative : Bool) : Binary64 := ⟨negative, 0, -1074⟩

/-- The least significand of full length, `2 ^ 52`. -/
def leastFull : Nat := 4503599627370496

def isZero (x : Binary64) : Bool := x.significand == 0

/-- The same magnitude under the given sign. -/
def withSign (x : Binary64) (negative : Bool) : Binary64 := { x with negative }

/-- A nonnegative quotient rounded to an integer, a tie going to the even one. -/
def divNearest (num den : Nat) : Nat :=
  let q := num / den
  let r := num % den
  if 2 * r < den then q else if den < 2 * r then q + 1 else q + q % 2

/-- `num · 2 ^ e / den`, as a numerator and a denominator. -/
def shifted (num den : Nat) (e : Int) : Nat × Nat :=
  (num <<< e.toNat, den <<< (-e).toNat)

/-- The greatest `e` with `2 ^ e ≤ num / den`, for positive `num` and `den`. -/
def floorLog2 (num den : Nat) : Int :=
  let e : Int := (Nat.log2 num : Int) - Nat.log2 den
  let (n, d) := shifted num den (-e)
  if n < d then e - 1 else e

/-- The number nearest to `num / den`, for a positive `den`; none when that lies
beyond the greatest finite number. -/
def nearest (num den : Nat) : Option Binary64 :=
  if num = 0 then some (zero false)
  else
    let e := max (floorLog2 num den - 52) (-1074)
    let (n, d) := shifted num den (-e)
    let m := divNearest n d
    let (m, e) := if m = 2 * leastFull then (leastFull, e + 1) else (m, e)
    if 971 < e then none else some ⟨false, m, e⟩

/-- The magnitude as a numerator and a denominator. -/
def ratio (x : Binary64) : Nat × Nat := shifted x.significand 1 x.exponent

/-- The number nearest to a power of ten, for powers up to `10 ^ 308`. -/
def pow10 (k : Nat) : Binary64 := (nearest (Nat.pow 10 k) 1).getD (zero false)

/-- The product of two magnitudes; none when it is not finite. -/
def mul (x y : Binary64) : Option Binary64 :=
  nearest (x.ratio.1 * y.ratio.1) (x.ratio.2 * y.ratio.2)

/-- The quotient of two magnitudes, the second not zero. -/
def div (x y : Binary64) : Option Binary64 :=
  nearest (x.ratio.1 * y.ratio.2) (x.ratio.2 * y.ratio.1)

/-- The magnitude divided by `10 ^ k`: at most `308` powers in one division, and
more of them in steps, until nothing is left of the number. -/
def divPow10 (x : Binary64) (k : Nat) : Option Binary64 :=
  if k ≤ 308 then x.div (pow10 k)
  else if x.isZero then some x
  else (x.div (pow10 308)).bind fun y => divPow10 y (k - 308)
  termination_by k

/-- `significand · 10 ^ e` as the reading of a decimal numeral computes it: the
significand is rounded first, then comes one multiplication or division by a
rounded power of ten. None when the result is not finite. -/
def ofDecimal (significand : Nat) (e : Int) : Option Binary64 :=
  (nearest significand 1).bind fun x =>
    if e < 0 then x.divPow10 (-e).toNat
    else if e ≤ 308 then x.mul (pow10 e.toNat)
    else if x.isZero then some x
    else none

end Binary64

end Fanout.Json
