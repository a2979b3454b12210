import RepoFeed.Json.Fault

/-
Writing a value as compact text.

Members are written in the order in which they stand.  Only what has to be
escaped is escaped: quotes, backslashes and the controls below U+0020, five of
which have a letter.
-/

namespace RepoFeed
namespace Json

/-- The last two of the four digits of an escape for a control. -/
def controlDigits (n : Nat) : List Char :=
  [(n / 16).digitChar, (n % 16).digitChar]

def renderChar (c : Char) : List Char :=
  match c with
  | '"' => ['\\', '"']
  | '\\' => ['\\', '\\']
  | '\x08' => ['\\', 'b']
  | '\x0c' => ['\\', 'f']
  | '\n' => ['\\', 'n']
  | '\r' => ['\\', 'r']
  | '\t' => ['\\', 't']
  | c => if c.toNat < 0x20 then ['\\', 'u', '0', '0'] ++ controlDigits c.toNat else [c]

def renderText (text : List Char) : List Char :=
  '"' :: text.flatMap renderChar ++ ['"']

mutual

def Value.write : Value → List Char
  | .null => ['n', 'u', 'l', 'l']
  | .truth true => ['t', 'r', 'u', 'e']
  | .truth false => ['f', 'a', 'l', 's', 'e']
  | .number n => n.render
  | .text s => renderText s.toList
  | .list items => '[' :: writeItems items ++ [']']
  | .object members => '\x7b' :: writeMembers members ++ ['\x7d']

def writeItems : List Value → List Char
  | [] => []
  | [item] => item.write
  | item :: items => item.write ++ ',' :: writeItems items

def writeMembers : List (String × Value) → List Char
  | [] => []
  | [(name, value)] => renderText name.toList ++ ':' :: value.write
  | (name, value) :: members =>
    renderText name.toList ++ ':' :: value.write ++ ',' :: writeMembers members

end

/-- The text of a value. -/
def Value.render (value : Value) : String :=
  String.ofList value.write

end Json
end RepoFeed
