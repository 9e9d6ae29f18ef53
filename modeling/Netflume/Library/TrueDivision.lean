import Mathlib.Algebra.Ring.Nat
import Mathlib.Data.Nat.Log

/-! # True division of natural numbers

`a / b` on integers as Python computes it: the exact quotient rounded to the
nearest IEEE double, ties to even, and an overflow where that rounding leaves the
range.  A finite nonnegative double is its integer significand and exponent. -/

namespace Netflume.Library

/-- The double `significand * 2 ^ exponent`. -/
structure Double where
  significand : Nat
  exponent : Int
  deriving DecidableEq, Repr

/-- The integer nearest to `a / b`, ties to even. -/
def divHalfEven (a b : Nat) : Nat :=
  let quotient := a / b
  let twice := 2 * (a % b)
  if twice < b ∨ (twice = b ∧ quotient % 2 = 0) then quotient else quotient + 1

/-- `a / (b * 2 ^ exponent)` to the nearest integer. -/
def scaledDiv (a b : Nat) (exponent : Int) : Nat :=
  if 0 ≤ exponent then divHalfEven a (b * 2 ^ exponent.toNat)
  else divHalfEven (a * 2 ^ (-exponent).toNat) b

/-- The exponent that gives the quotient a 53-bit significand, or the subnormal one. -/
def quotientExponent (a b : Nat) : Int :=
  let guess : Int := (Nat.log2 a : Int) - Nat.log2 b - 53
  let floor := if 0 ≤ guess then a / (b * 2 ^ guess.toNat) else a * 2 ^ (-guess).toNat / b
  max (if floor < 2 ^ 53 then guess else guess + 1) (-1074)

/-- The quotient rounds to `2 ^ 1024` or beyond.  The largest double is
`2 ^ 1024 - 2 ^ 971`; the midpoint to `2 ^ 1024` rounds up to the even side. -/
def quotientOverflows (a b : Nat) : Bool := decide ((2 ^ 1024 - 2 ^ 970) * b ≤ a)

/-- `a / b`, or `none` for the `OverflowError` of a quotient too large for a double. -/
def trueDiv (a b : Nat) : Option Double :=
  if quotientOverflows a b then none
  else
    let exponent := quotientExponent a b
    some ⟨scaledDiv a b exponent, exponent⟩

/-- `int(round(double))`. -/
def Double.round (double : Double) : Nat :=
  if 0 ≤ double.exponent then double.significand * 2 ^ double.exponent.toNat
  else divHalfEven double.significand (2 ^ (-double.exponent).toNat)

theorem trueDiv_eq_none_iff {a b : Nat} : trueDiv a b = none ↔ quotientOverflows a b = true := by
  rw [trueDiv]
  split <;> simp_all

end Netflume.Library
