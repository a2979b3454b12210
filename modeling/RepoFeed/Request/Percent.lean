import RepoFeed.Text.Utf8

/-
Percent encoding.

An octet is written as a percent sign and two hexadecimal digits.  Which
characters have to be written so depends on where in a URL they stand.
-/

namespace RepoFeed
namespace Percent

def hexDigit (n : Nat) : Char :=
  (n.digitChar).toUpper

def octet (b : UInt8) : List Char :=
  ['%', hexDigit (b.toNat / 16), hexDigit (b.toNat % 16)]

/-- Encodes all octets of a character. -/
def encodeChar (c : Char) : List Char :=
  (Utf8.encode [c]).flatMap octet

/-- Encodes the characters that a part of a URL reserves. -/
def encode (isReserved : Char → Bool) (text : List Char) : List Char :=
  text.flatMap fun c => if isReserved c then encodeChar c else [c]

/-- Characters that no part of a URL holds as they are. -/
def isAlwaysReserved (c : Char) : Bool :=
  c.toNat < 0x20 || 0x7E < c.toNat

def isReservedInPath (c : Char) : Bool :=
  isAlwaysReserved c || [' ', '"', '#', '<', '>', '?', '`', '\x7b', '\x7d'].contains c

def isReservedInQuery (c : Char) : Bool :=
  isAlwaysReserved c || [' ', '"', '#', '<', '>', '\''].contains c

def isReservedInFragment (c : Char) : Bool :=
  isAlwaysReserved c || [' ', '"', '<', '>', '`'].contains c

/-! ## Forms -/

/-- Characters of a form value that stand for themselves. -/
def isPlainInForm (c : Char) : Bool :=
  c.isAlphanum || c == '*' || c == '-' || c == '.' || c == '_'

/-- Encodes a value for a form: a space becomes a plus sign. -/
def encodeForm (text : List Char) : List Char :=
  text.flatMap fun c =>
    if c = ' ' then ['+'] else if isPlainInForm c then [c] else encodeChar c

end Percent
end RepoFeed
