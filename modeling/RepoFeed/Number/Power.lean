/-
Powers of two and of ten, the scales of binary and of decimal numbers.
-/

namespace RepoFeed

def twoPow (n : Nat) : Nat := Nat.pow 2 n

def tenPow (n : Nat) : Nat := Nat.pow 10 n

end RepoFeed
