import EndpointUri.Number.Binary64

/-!
The shortest decimal that reads back as a given magnitude: the coarsest decimal grid that has a
point in the interval of reals which round to the magnitude, and of its points there the nearest.
-/
namespace EndpointUri

/-- The number `digits * 10 ^ exponent`. -/
structure Decimal where
  digits : Nat
  exponent : Int
  deriving DecidableEq, Repr

namespace Magnitude

/-- The fraction `num * 2 ^ binary / 10 ^ decimal` as numerator and denominator. -/
def onGrid (num : Nat) (binary decimal : Int) : Nat × Nat :=
  let (n, d) := scaled num 1 binary
  if 0 ≤ decimal then (n, d * Nat.pow 10 decimal.toNat) else (n * Nat.pow 10 (-decimal).toNat, d)

/-- Distance to the lower end of the interval, in quarters of a unit: the gap below a power of
two is half as wide. -/
def lowerGap (x : Magnitude) : Nat :=
  if x.mantissa = hiddenBit ∧ minExponent < x.exponent then 1 else 2

/-- The point of the grid of step `10 ^ grid` that reads back as `x`, if there is one. The ends of
the interval round to an even mantissa, and a tie goes to the even point. -/
def pointOnGrid? (x : Magnitude) (grid : Int) : Option Nat :=
  let quarter := x.exponent - 2
  let (value, unit) := onGrid (4 * x.mantissa) quarter grid
  let (low, _) := onGrid (4 * x.mantissa - x.lowerGap) quarter grid
  let (high, _) := onGrid (4 * x.mantissa + 2) quarter grid
  let inside (point : Nat) : Bool :=
    if x.mantissa % 2 = 0 then low ≤ point * unit && point * unit ≤ high
    else low < point * unit && point * unit < high
  let below := value / unit
  let above := below + 1
  match inside below, inside above with
  | true, true =>
    let down := value - below * unit
    let up := above * unit - value
    if down < up || (down == up && below % 2 == 0) then some below else some above
  | true, false => some below
  | false, true => some above
  | false, false => none

/-- Searches the next `steps` grids from `grid` on, each ten times as fine as the one before. -/
def searchGrids (x : Magnitude) : Nat → Int → Decimal
  | 0, grid => ⟨0, grid⟩
  | steps + 1, grid =>
    match x.pointOnGrid? grid with
    | some digits => ⟨digits, grid⟩
    | none => searchGrids x steps (grid - 1)

/-- No magnitude reaches `10 ^ 309`, and a step of `10 ^ (-342)` is finer than any interval. -/
def shortest (x : Magnitude) : Decimal := searchGrids x 652 309

end Magnitude
end EndpointUri
