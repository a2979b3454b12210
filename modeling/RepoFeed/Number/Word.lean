import RepoFeed.Number.Power

/-
Whole numbers that have to fit a word of some count of bits.

Numbers are unbounded in this library.  Where a width shows, because a number
that does not fit is refused or read with another sign, it is asked for here.
-/

namespace RepoFeed
namespace Word

/-- Whether a number has a place among the words without a sign. -/
def fitsUnsigned (bits : Nat) (n : Int) : Bool :=
  0 ≤ n && n < twoPow bits

/-- Whether a number has a place among the words with a sign. -/
def fitsSigned (bits : Nat) (n : Int) : Bool :=
  -(twoPow (bits - 1) : Int) ≤ n && n < twoPow (bits - 1)

/-- What a word without a sign is worth when its first bit is taken for a
sign. -/
def toSigned (bits n : Nat) : Int :=
  if n < twoPow (bits - 1) then n else (n : Int) - twoPow bits

end Word
end RepoFeed
