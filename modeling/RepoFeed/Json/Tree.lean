import RepoFeed.Json.Numeral
import RepoFeed.Json.Structure

/-
Reading a value of any kind.

The reader keeps an object as it stands in the text, with its order and its
repeated names; `Value.normal` forgets both.  `levels` is how many lists and
objects may still be opened, and the recursion follows it.
-/

namespace RepoFeed
namespace Json

/-- Reads the members of an object, which has at most `fuel` of them. -/
def readMembers {α : Type} (value : Reader α) :
    (fuel : Nat) → (isFirst : Bool) → Reader (List (String × α))
  | 0, _, text => .error (atRest (.ended .object) text)
  | fuel + 1, isFirst, text => do
    let (more, text) ← nextMember isFirst text
    if more then
      let (name, text) ← Literal.read text
      let text ← readColon text
      let (a, text) ← value text
      let (rest, text) ← readMembers value fuel false text
      .ok ((String.ofList name, a) :: rest, text)
    else .ok ([], text)

/-- Reads a value that is neither a list nor an object. -/
def readScalar (text : List Char) : Except Failure (Value × List Char) :=
  match text with
  | [] => .error (atRest (.ended .value) [])
  | c :: rest =>
    if c = 'n' then (readWord ['u', 'l', 'l'] rest).map (.null, ·)
    else if c = 't' then (readWord ['r', 'u', 'e'] rest).map (.truth true, ·)
    else if c = 'f' then (readWord ['a', 'l', 's', 'e'] rest).map (.truth false, ·)
    else if Numeral.begins c then
      (Numeral.read (c :: rest)).map fun (n, rest) => (.number n, rest)
    else if c = '"' then
      (Literal.read rest).map fun (s, rest) => (.text (String.ofList s), rest)
    else .error (atNext .expectedValue (c :: rest))

/-- Reads a value of any kind as it stands in the text. -/
def readValue : (levels : Nat) → Reader Value
  | levels, text =>
    match skipSpace text with
    | '[' :: rest =>
      match levels with
      | 0 => .error (atNext .tooDeep ('[' :: rest))
      | levels + 1 =>
        close closeList <|
          (readItems (readValue levels) (rest.length + 1) true rest).map
            fun (items, rest) => (.list items, rest)
    | '\x7b' :: rest =>
      match levels with
      | 0 => .error (atNext .tooDeep ('\x7b' :: rest))
      | levels + 1 =>
        close closeObject <|
          (readMembers (readValue levels) (rest.length + 1) true rest).map
            fun (members, rest) => (.object members, rest)
    | text => readScalar text

/-- Checks that nothing but space is left. -/
def readEnd (text : List Char) : Except Failure Unit :=
  match skipSpace text with
  | [] => .ok ()
  | rest => .error (atNext .trailingText rest)

end Json
end RepoFeed
