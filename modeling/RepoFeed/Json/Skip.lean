import RepoFeed.Json.Numeral
import RepoFeed.Json.Structure

/-
Passing over a value nobody asks for.

The value of an unknown field is held to the grammar only: it may be nested as
deeply as the text is long, and its numbers and escapes need not mean anything.
-/

namespace RepoFeed
namespace Json

/-- Passes over the items of a list and its closing bracket. -/
def skipItems (item : List Char → Except Failure (List Char)) :
    (fuel : Nat) → (isFirst : Bool) → List Char → Except Failure (List Char)
  | 0, _, text => .error (atRest (.ended .list) text)
  | fuel + 1, isFirst, text =>
    match skipSpace text with
    | [] => .error (atRest (.ended .list) [])
    | c :: rest =>
      if c = ']' then .ok rest
      else if isFirst then do
        skipItems item fuel false (← item (c :: rest))
      else if c = ',' then do
        skipItems item fuel false (← item rest)
      else .error (atNext .expectedCommaInList (c :: rest))

/-- Passes over the name of a member, from before its opening quote to after
the colon. -/
def skipName (text : List Char) : Except Failure (List Char) :=
  match skipSpace text with
  | [] => .error (atRest (.ended .object) [])
  | c :: rest =>
    if c = '"' then do readColon (← Literal.skip rest)
    else .error (atNext .nameNotText (c :: rest))

/-- Passes over the members of an object and its closing bracket. -/
def skipMembers (value : List Char → Except Failure (List Char)) :
    (fuel : Nat) → (isFirst : Bool) → List Char → Except Failure (List Char)
  | 0, _, text => .error (atRest (.ended .object) text)
  | fuel + 1, isFirst, text =>
    match skipSpace text with
    | [] => .error (atRest (.ended .object) [])
    | c :: rest =>
      if c = '\x7d' then .ok rest
      else if isFirst then do
        skipMembers value fuel false (← value (← skipName (c :: rest)))
      else if c = ',' then do
        skipMembers value fuel false (← value (← skipName rest))
      else .error (atNext .expectedCommaInObject (c :: rest))

def skipScalar (text : List Char) : Except Failure (List Char) :=
  match text with
  | [] => .error (atRest (.ended .value) [])
  | c :: rest =>
    if c = 'n' then readWord ['u', 'l', 'l'] rest
    else if c = 't' then readWord ['r', 'u', 'e'] rest
    else if c = 'f' then readWord ['a', 'l', 's', 'e'] rest
    else if Numeral.begins c then Numeral.skip (c :: rest)
    else if c = '"' then Literal.skip rest
    else .error (atNext .expectedValue (c :: rest))

/-- Passes over a value in which lists and objects nest at most `levels` deep. -/
def skipNested : (levels : Nat) → List Char → Except Failure (List Char)
  | levels, text =>
    match skipSpace text with
    | '[' :: rest =>
      match levels with
      | 0 => .error (atNext .tooDeep ('[' :: rest))
      | levels + 1 => skipItems (skipNested levels) (rest.length + 1) true rest
    | '\x7b' :: rest =>
      match levels with
      | 0 => .error (atNext .tooDeep ('\x7b' :: rest))
      | levels + 1 => skipMembers (skipNested levels) (rest.length + 1) true rest
    | text => skipScalar text

/-- Passes over a value.  It cannot be nested more deeply than its text is
long, so the bound is never met. -/
def skipValue (text : List Char) : Except Failure (List Char) :=
  skipNested text.length text

end Json
end RepoFeed
