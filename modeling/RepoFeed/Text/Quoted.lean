import RepoFeed.Text.Printable

/-
A text in double quotes, as error messages show it.

Quotes and backslashes inside are escaped, four controls have names of their
own, and every other character that is not printable is written as its code
point in hexadecimal between braces.
-/

namespace RepoFeed
namespace Text

/-- Lower case hexadecimal digits without leading zeros. -/
def hex (n : Nat) : List Char :=
  Nat.toDigits 16 n

def quoteChar (c : Char) : List Char :=
  match c with
  | '\x00' => ['\\', '0']
  | '\t' => ['\\', 't']
  | '\r' => ['\\', 'r']
  | '\n' => ['\\', 'n']
  | '\\' => ['\\', '\\']
  | '"' => ['\\', '"']
  | c => if isPrintable c then [c] else ['\\', 'u', '\x7b'] ++ hex c.toNat ++ ['\x7d']

def quote (text : List Char) : List Char :=
  '"' :: text.flatMap quoteChar ++ ['"']

end Text
end RepoFeed
