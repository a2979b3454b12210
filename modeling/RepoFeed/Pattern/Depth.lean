/-
How deep the parts of a pattern lie.

A pattern is a tree.  Its depth counts the inner nodes on the longest way down,
and a pattern that is too deep is refused.
-/

namespace RepoFeed
namespace Pattern

/-- The depth of a pattern at most. -/
def depthLimit : Nat := 250

/-- The depth of parts that stand together.  Two or more of them need a node to
hold them. -/
def depthOfParts : List Nat → Nat
  | [] => 0
  | [depth] => depth
  | depths => depths.foldl Nat.max 0 + 1

end Pattern
end RepoFeed
