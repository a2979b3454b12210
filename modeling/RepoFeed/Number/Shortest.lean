import RepoFeed.Number.Binary64

/-
The shortest decimal text of a binary64 number.

Among the decimals that round back to the number, those with the fewest digits
are wanted, and of these the nearest one.  For a given count of digits only the
two neighbours of the number on the decimal grid can be nearest, so the search
tries the grids from coarse to fine in exact arithmetic.  How the digits are
then laid out is a separate matter, held by one record.
-/

namespace RepoFeed
namespace Binary64

/-- Compares `a * 10 ^ p` with `b * 2 ^ q`. -/
def compareScaled (a : Nat) (p : Int) (b : Nat) (q : Int) : Ordering :=
  compare (a * tenPow p.toNat * twoPow (-q).toNat) (b * twoPow q.toNat * tenPow (-p).toNat)

/-- Whether the decimal `digits * 10 ^ p` rounds to a number.  The bounds are
half way to the neighbours; below a power of two the neighbour is nearer.  A
bound itself rounds to the number when the significand is even. -/
def roundsBack (x : Binary64) (digits : Nat) (p : Int) : Bool :=
  let low :=
    if x.significand = twoPow 52 ∧ x.exponent > leastExponent then 4 * x.significand - 1
    else 4 * x.significand - 2
  let high := 4 * x.significand + 2
  let unit := x.exponent - 2
  let closed := x.significand % 2 == 0
  let aboveLow := match compareScaled digits p low unit with
    | .gt => true
    | .eq => closed
    | .lt => false
  let belowHigh := match compareScaled digits p high unit with
    | .lt => true
    | .eq => closed
    | .gt => false
  aboveLow && belowHigh

/-- `steps` counts how often `num / den` can be multiplied by ten before it
reaches one. -/
def leadingZeros (num den : Nat) : Nat → Nat
  | 0 => 0
  | steps + 1 => if den ≤ num then 0 else leadingZeros (num * 10) den steps + 1

/-- The exponent of the leading decimal digit of a number other than zero. -/
def decimalExponent (x : Binary64) : Int :=
  let (num, den) := x.ratio
  if den ≤ num then ((Nat.toDigits 10 (num / den)).length : Int) - 1
  else -(leadingZeros num den 400 : Int)

/-- The nearer of the two neighbours on the grid `10 ^ p` that round back. -/
def onGrid? (x : Binary64) (p : Int) : Option Nat :=
  let (num, den) := x.ratio
  let num := num * tenPow (-p).toNat
  let den := den * tenPow p.toNat
  let below := num / den
  let twiceRest := 2 * (num % den)
  match roundsBack x below p, roundsBack x (below + 1) p with
  | true, true =>
    if twiceRest < den ∨ (twiceRest = den ∧ below % 2 = 0) then some below else some (below + 1)
  | true, false => some below
  | false, true => some (below + 1)
  | false, false => none

/-- Tries grids of `count`, `count + 1`, … digits.  The upper neighbour can be
the next power of ten, which has a single digit. -/
def searchDigits (x : Binary64) (leading : Int) : (count steps : Nat) → Nat × Int
  | _, 0 => (x.significand, leading)
  | count, steps + 1 =>
    let p := leading - ((count : Int) - 1)
    match onGrid? x p with
    | some digits => if digits = tenPow count then (1, leading + 1) else (digits, p)
    | none => searchDigits x leading (count + 1) steps

/-- Digits and exponent of the shortest decimal; seventeen digits suffice. -/
def shortest (x : Binary64) : Nat × Int :=
  searchDigits x x.decimalExponent 1 17

/-- How the digits of a number are laid out. -/
structure Layout where
  /-- The least and greatest exponent of the leading digit written without an
  exponent. -/
  positionalFrom : Int
  positionalTo : Int
  /-- What marks a whole number as not being an integer. -/
  wholeMark : List Char
  exponentMark : List Char
  positiveSign : List Char

def Layout.write (layout : Layout) (digits : List Char) (leading : Int) : List Char :=
  if layout.positionalFrom ≤ leading ∧ leading ≤ layout.positionalTo then
    if leading < 0 then
      ['0', '.'] ++ List.replicate ((-leading).toNat - 1) '0' ++ digits
    else
      let whole := leading.toNat + 1
      if digits.length ≤ whole then
        digits ++ List.replicate (whole - digits.length) '0' ++ layout.wholeMark
      else digits.take whole ++ '.' :: digits.drop whole
  else
    let sign := if leading < 0 then ['-'] else layout.positiveSign
    let fraction := match digits.drop 1 with
      | [] => []
      | rest => '.' :: rest
    digits.take 1 ++ fraction ++ layout.exponentMark ++ sign ++ Nat.toDigits 10 leading.natAbs

/-- Numbers from 10⁻⁵ up to 10¹⁶ have no exponent, whole numbers end in `.0`,
and an exponent has its sign. -/
def layout : Layout where
  positionalFrom := -5
  positionalTo := 15
  wholeMark := ['.', '0']
  exponentMark := ['e']
  positiveSign := ['+']

/-- The text of a number. -/
def render (x : Binary64) : List Char :=
  let sign := if x.negative then ['-'] else []
  if x.isZero then sign ++ ['0'] ++ layout.wholeMark
  else
    let (digits, p) := x.shortest
    let text := Nat.toDigits 10 digits
    sign ++ layout.write text (p + (text.length - 1 : Nat))

end Binary64
end RepoFeed
