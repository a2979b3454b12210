/-
Cutting a text at separators.
-/

namespace RepoFeed
namespace Text

/-- The parts between separators, of which there is one more than separators. -/
def split (isSeparator : Char → Bool) : List Char → List (List Char)
  | [] => [[]]
  | c :: text =>
    if isSeparator c then [] :: split isSeparator text
    else
      match split isSeparator text with
      | [] => [[c]]
      | part :: parts => (c :: part) :: parts

/-- The part before the first separator and the part behind it, if there is
one. -/
def cut (isSeparator : Char → Bool) : List Char → List Char × Option (List Char)
  | [] => ([], none)
  | c :: text =>
    if isSeparator c then ([], some text)
    else
      let (before, behind) := cut isSeparator text
      (c :: before, behind)

end Text
end RepoFeed
