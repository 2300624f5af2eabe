/-!
Finite binary64 numbers in exact integer arithmetic. A number is a sign and a magnitude
`mantissa * 2 ^ exponent`; every operation rounds its exact result to the nearest magnitude, a tie
to the even mantissa, and gives `none` where the result is too large.
-/
namespace EndpointUri

/-- A magnitude has at most 53 bits of mantissa, and all 53 unless it is subnormal. -/
structure Magnitude where
  mantissa : Nat
  exponent : Int
  deriving DecidableEq, Repr

structure Binary64 where
  negative : Bool
  magnitude : Magnitude
  deriving DecidableEq, Repr

namespace Magnitude

def hiddenBit : Nat := Nat.pow 2 52

def minExponent : Int := -1074

def maxExponent : Int := 971

def zero : Magnitude := ⟨0, minExponent⟩

/-- `num / den` to the nearest integer, a half to the even one. -/
def roundDiv (num den : Nat) : Nat :=
  let q := num / den
  let r := num % den
  if 2 * r < den then q else if den < 2 * r then q + 1 else q + q % 2

/-- The fraction `num / den * 2 ^ shift` as numerator and denominator. -/
def scaled (num den : Nat) (shift : Int) : Nat × Nat :=
  if 0 ≤ shift then (num * Nat.pow 2 shift.toNat, den) else (num, den * Nat.pow 2 (-shift).toNat)

/-- The greatest `e` with `2 ^ e ≤ num / den`, for positive `num` and `den`. -/
def floorLog2 (num den : Nat) : Int :=
  let e : Int := num.log2 - den.log2
  let (n, d) := scaled num den (-e)
  if n < d then e - 1 else e

/-- The magnitude nearest to `num / den`. -/
def round (num den : Nat) : Option Magnitude :=
  if num = 0 then some zero
  else
    let exponent := max (floorLog2 num den - 52) minExponent
    let (n, d) := scaled num den (-exponent)
    let mantissa := roundDiv n d
    let result : Magnitude :=
      if mantissa = 2 * hiddenBit then ⟨hiddenBit, exponent + 1⟩ else ⟨mantissa, exponent⟩
    if result.exponent ≤ maxExponent then some result else none

def ofNat (n : Nat) : Option Magnitude := round n 1

def mul (x y : Magnitude) : Option Magnitude :=
  let (n, d) := scaled (x.mantissa * y.mantissa) 1 (x.exponent + y.exponent)
  round n d

/-- The divisor is not zero where this is used. -/
def div (x y : Magnitude) : Option Magnitude :=
  let (n, d) := scaled x.mantissa y.mantissa (x.exponent - y.exponent)
  round n d

def maxPower : Nat := 308

/-- Divides by `10 ^ e`, in steps of the greatest power of ten, until nothing is left. -/
def divPower (x : Magnitude) (e : Nat) : Option Magnitude := do
  if x.mantissa = 0 then return x
  if e ≤ maxPower then x.div (← ofNat (Nat.pow 10 e))
  else (← x.div (← ofNat (Nat.pow 10 maxPower))).divPower (e - maxPower)
termination_by e
decreasing_by simp_wf; simp only [maxPower] at *; omega

def mulPower (x : Magnitude) (e : Nat) : Option Magnitude := do
  if x.mantissa = 0 then return x
  if e ≤ maxPower then x.mul (← ofNat (Nat.pow 10 e)) else none

/-- The value of a decimal literal. The significand is rounded before it is scaled by the rounded
power of ten, so a long literal may miss the nearest magnitude by a unit. -/
def ofDecimal (significand : Nat) (exponent : Int) : Option Magnitude := do
  let x ← ofNat significand
  if 0 ≤ exponent then x.mulPower exponent.toNat else x.divPower (-exponent).toNat

end Magnitude
end EndpointUri
