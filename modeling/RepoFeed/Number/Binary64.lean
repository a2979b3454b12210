import RepoFeed.Number.Power

/-
Finite binary64 numbers as exact data.

A number is a sign, a significand and a power of two, so equality is decidable
and products and quotients are exact ratios of naturals before they are rounded
once, to the nearest number and on a tie to the even significand.  Infinity and
NaN are not numbers here: an operation whose result is too large has no result.
-/

namespace RepoFeed

/-- The number `± significand * 2 ^ exponent`.  Built by rounding only, so the
significand has 53 bits unless the exponent is the least one, -1074. -/
structure Binary64 where
  negative : Bool
  significand : Nat
  exponent : Int
deriving DecidableEq, Repr, Inhabited

namespace Binary64

def leastExponent : Int := -1074

def greatestExponent : Int := 971

def zero (negative : Bool) : Binary64 := ⟨negative, 0, leastExponent⟩

def isZero (x : Binary64) : Bool := x.significand == 0

/-- The whole number nearest to `num / den`; a tie goes to the even one. -/
def roundDiv (num den : Nat) : Nat :=
  let quotient := num / den
  let rest := num % den
  if 2 * rest < den ∨ (2 * rest = den ∧ quotient % 2 = 0) then quotient else quotient + 1

/-- `num / den` measured in units of `2 ^ exponent`, rounded. -/
def inUnits (num den : Nat) (exponent : Int) : Nat :=
  if 0 ≤ exponent then roundDiv num (den * twoPow exponent.toNat)
  else roundDiv (num * twoPow (-exponent).toNat) den

/-- The exponent of the largest power of two that is at most `num / den`. -/
def magnitude (num den : Nat) : Int :=
  let guess : Int := (num.log2 : Int) - (den.log2 : Int)
  let reached :=
    if 0 ≤ guess then decide (den * twoPow guess.toNat ≤ num)
    else decide (den ≤ num * twoPow (-guess).toNat)
  if reached then guess else guess - 1

/-- The number nearest to `± num / den`, unless that is too large. -/
def ofRatio? (negative : Bool) (num den : Nat) : Option Binary64 :=
  if num = 0 then some (zero negative)
  else
    let unit := max (magnitude num den - 52) leastExponent
    let significand := inUnits num den unit
    -- Rounding up can reach the next power of two.
    let (significand, unit) :=
      if significand = twoPow 53 then (twoPow 52, unit + 1) else (significand, unit)
    if unit > greatestExponent then none else some ⟨negative, significand, unit⟩

/-- A number without its sign as a ratio of naturals. -/
def ratio (x : Binary64) : Nat × Nat :=
  if 0 ≤ x.exponent then (x.significand * twoPow x.exponent.toNat, 1)
  else (x.significand, twoPow (-x.exponent).toNat)

def ofNat? (n : Nat) : Option Binary64 := ofRatio? false n 1

def mul? (x y : Binary64) : Option Binary64 :=
  ofRatio? (x.negative != y.negative) (x.ratio.1 * y.ratio.1) (x.ratio.2 * y.ratio.2)

/-- The quotient, for a divisor other than zero. -/
def div? (x y : Binary64) : Option Binary64 :=
  ofRatio? (x.negative != y.negative) (x.ratio.1 * y.ratio.2) (x.ratio.2 * y.ratio.1)

end Binary64
end RepoFeed
