import Fanout.Json.Binary64

/-! The shortest decimal that reads back as a given binary number. For one digit,
two digits and so on up to seventeen, the two neighbours of the value on that
decimal grid are tested against the interval of reals that round to the value;
the first grid with a hit wins, and of two hits the nearer one. -/
namespace Fanout.Json

/-- The decimal number `digits · 10 ^ exponent`. -/
structure Decimal where
  digits : Nat
  exponent : Int
  deriving DecidableEq, Repr

/-- The same decimal without zeros at the end of its digits. The first argument
bounds the zeros that are taken away. -/
def Decimal.strip : Nat → Decimal → Decimal
  | 0, d => d
  | fuel + 1, d =>
    if d.digits ≠ 0 ∧ d.digits % 10 = 0 then strip fuel ⟨d.digits / 10, d.exponent + 1⟩ else d

namespace Binary64

/-- The interval that rounds to a positive number, in units of a quarter of its
last binary place: its lower end, the number and its upper end. Below a power of
two the binary places are half as wide. -/
def quarters (x : Binary64) : Nat × Nat × Nat :=
  let m := 4 * x.significand
  let below := if x.significand = leastFull ∧ x.exponent ≠ -1074 then 1 else 2
  (m - below, m, m + 2)

/-- The greatest `p` with `10 ^ p ≤ num / den`, for positive `num` and `den`. -/
def floorLog10 (num den : Nat) : Int :=
  let guess := floorLog2 num den * 30103 / 100000
  let atLeast (p : Int) : Bool := den * Nat.pow 10 p.toNat ≤ num * Nat.pow 10 (-p).toNat
  if atLeast (guess + 1) then guess + 1 else if atLeast guess then guess else guess - 1

/-- The decimal with `n` digits that rounds to the positive number `x` and is
nearest to it, if there is one. -/
def onGrid (x : Binary64) (n : Nat) : Option Decimal :=
  let (num, den) := x.ratio
  let g : Int := floorLog10 num den + 1 - n
  let (low, mid, high) := x.quarters
  let e := x.exponent - 2
  let unit := Nat.pow 10 g.toNat <<< (-e).toNat
  let scale := Nat.pow 10 (-g).toNat <<< e.toNat
  let hits (d : Nat) : Bool :=
    if x.significand % 2 = 0 then low * scale ≤ d * unit && d * unit ≤ high * scale
    else low * scale < d * unit && d * unit < high * scale
  let d := mid * scale / unit
  let below := mid * scale - d * unit
  let above := (d + 1) * unit - mid * scale
  match hits d, hits (d + 1) with
  | true, false => some ⟨d, g⟩
  | false, true => some ⟨d + 1, g⟩
  | true, true =>
    if below < above ∨ (below = above ∧ d % 2 = 0) then some ⟨d, g⟩ else some ⟨d + 1, g⟩
  | false, false => none

/-- The shortest decimal that reads back as the magnitude of `x`. -/
def shortest (x : Binary64) : Decimal :=
  if x.isZero then ⟨0, 0⟩
  else
    (((List.range 17).findSome? fun n => x.onGrid (n + 1)).getD ⟨0, 0⟩).strip 20

end Binary64

end Fanout.Json
