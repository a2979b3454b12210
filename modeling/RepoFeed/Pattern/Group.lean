import RepoFeed.Pattern.Flags
import RepoFeed.Text.Alphanumeric

/-
What can follow an opening parenthesis.

A group is written `(…)`, with a name `(?<name>…)` or `(?P<name>…)`, and with
flags of its own `(?flags:…)`.  Without a colon, as in `(?flags)`, the flags are
set for the rest of the group around them.
-/

namespace RepoFeed
namespace Pattern

inductive Opening where
  | group (flags : Flags) (name : Option (List Char))
  | setting (flags : Flags)
deriving DecidableEq, Repr

namespace Opening

def isNameStart (c : Char) : Bool :=
  c == '_' || Text.isAlphabetic c

def isNamePart (c : Char) : Bool :=
  c == '_' || c == '.' || c == '[' || c == ']' || Text.isAlphanumeric c

def isName : List Char → Bool
  | [] => false
  | c :: name => isNameStart c && name.all isNamePart

/-- Reads the name of a group. -/
def named? (flags : Flags) (text : List Char) : Option (Opening × List Char) :=
  let name := text.takeWhile (· != '>')
  match text.dropWhile (· != '>') with
  | [] => none
  | _ :: rest => if isName name then some (.group flags (some name), rest) else none

/-- Reads flags and the sign that ends them. -/
def flagged? (flags : Flags) (text : List Char) : Option (Opening × List Char) :=
  let isLetter (c : Char) := c != ':' && c != ')'
  let letters := text.takeWhile isLetter
  if !areFlags letters then none
  else
    match text.dropWhile isLetter with
    | [] => none
    | ':' :: rest => some (.group (flags.set letters) none, rest)
    | _ :: rest => if letters.isEmpty then none else some (.setting (flags.set letters), rest)

/-- Reads on behind an opening parenthesis. -/
def read? (flags : Flags) (text : List Char) : Option (Opening × List Char) :=
  match flags.skip text with
  | '?' :: '<' :: rest => named? flags rest
  | '?' :: 'P' :: '<' :: rest => named? flags rest
  | '?' :: rest => flagged? flags rest
  | rest => some (.group flags none, rest)

end Opening
end Pattern
end RepoFeed
