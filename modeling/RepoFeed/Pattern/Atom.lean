import RepoFeed.Pattern.Flags
import RepoFeed.Text.Digit

/-
The smallest parts of a pattern: characters and escapes.

Patterns do without tables of Unicode.  So where characters are matched, the
escapes for kinds of characters and for the edges of words are refused, and so
is a character whose case does not matter.  Where octets are matched, what could
match a part of a character is refused.
-/

namespace RepoFeed
namespace Pattern

inductive Atom where
  /-- A character.  One that is given by two hexadecimal digits is an octet where
  octets are matched. -/
  | literal (c : Char) (isOctet : Bool)
  /-- A kind of characters, such as digits, or all that are not of the kind. -/
  | kind (negated : Bool)
  /-- The start or the end of the text. -/
  | textEnd
  /-- An edge of a word, or a place that is none. -/
  | wordEdge
deriving DecidableEq, Repr

namespace Atom

/-- Reads hexadecimal digits, adding them to a value. -/
def hexadecimal? (flags : Flags) : (count value : Nat) → List Char → Option (Nat × List Char)
  | 0, value, text => some (value, text)
  | count + 1, value, text =>
    match flags.skip text with
    | [] => none
    | c :: rest => do hexadecimal? flags count (value * 16 + (← Text.hexDigit? c)) rest

/-- Reads the hexadecimal digits of a character. -/
def numbered? (flags : Flags) (count : Nat) (text : List Char) : Option (Atom × List Char) := do
  let (value, rest) ← hexadecimal? flags count 0 text
  if value.isValidChar then return (.literal (Char.ofNat value) (count == 2), rest) else none

/-- Reads on behind a backslash.  It makes a literal of any sign, but letters and
digits need a meaning of their own. -/
def escape? (flags : Flags) : List Char → Option (Atom × List Char)
  | [] => none
  | c :: rest =>
    match c with
    | 'x' => numbered? flags 2 rest
    | 'u' => numbered? flags 4 rest
    | 'U' => numbered? flags 8 rest
    | 'd' | 's' | 'w' => some (.kind false, rest)
    | 'D' | 'S' | 'W' => some (.kind true, rest)
    | 'A' | 'z' => some (.textEnd, rest)
    | 'b' | 'B' | '<' | '>' => some (.wordEdge, rest)
    | 'a' => some (.literal '\x07' false, rest)
    | 'f' => some (.literal '\x0c' false, rest)
    | 'n' => some (.literal '\n' false, rest)
    | 'r' => some (.literal '\r' false, rest)
    | 't' => some (.literal '\t' false, rest)
    | 'v' => some (.literal '\x0b' false, rest)
    | c => if c.isAlphanum || 0x80 ≤ c.toNat then none else some (.literal c false, rest)

/-- Whether an atom can stand on its own. -/
def isItem (flags : Flags) : Atom → Bool
  | .literal c isOctet => if flags.unicode then !flags.anyCase else !(isOctet && 0x80 ≤ c.toNat)
  | .kind negated => !flags.unicode && !negated
  | .textEnd => true
  | .wordEdge => !flags.unicode

/-- Whether an atom can be a member of a set of characters. -/
def isMember (flags : Flags) : Atom → Bool
  | .literal c _ => if flags.unicode then !flags.anyCase else c.toNat < 0x80
  | .kind negated => !flags.unicode && !negated
  | .textEnd => false
  | .wordEdge => false

/-- Whether two atoms are the ends of a range of characters. -/
def isRange : (low high : Atom) → Bool
  | .literal low _, .literal high _ => low ≤ high
  | _, _ => false

end Atom
end Pattern
end RepoFeed
