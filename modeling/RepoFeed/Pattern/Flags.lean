import RepoFeed.Text.Blank

/-
Flags of a pattern.

A pattern is a regular expression.  Flags say how the rest of a group is meant,
as in `(?x)`, or how one group is, as in `(?x:a b)`.  A minus sign takes back
those that follow it.  Three of the flags bear on what may be written; the
others only on what is matched.
-/

namespace RepoFeed
namespace Pattern

structure Flags where
  /-- Letters match in either case (`i`). -/
  anyCase : Bool := false
  /-- Characters are matched, not octets (`u`). -/
  unicode : Bool := true
  /-- Blanks and comments stand for nothing (`x`). -/
  spaced : Bool := false
deriving DecidableEq, Repr

/-- The letters of all flags, and the minus sign. -/
def flagLetters : List Char := "imsUuRx-".toList

/-- Whether a text sets flags.  None of them comes twice, and a minus sign has
something to take back. -/
def areFlags (letters : List Char) : Bool :=
  letters.all flagLetters.contains && letters.eraseDups == letters &&
    letters.getLast? != some '-'

/-- Drops blanks and comments in front of a text.  A comment goes from `#` to the
end of its line. -/
def dropIdle (inComment : Bool) : List Char → List Char
  | [] => []
  | c :: text =>
    if inComment then dropIdle (c != '\n') text
    else if c == '#' then dropIdle true text
    else if Text.isBlank c then dropIdle false text
    else c :: text

namespace Flags

/-- The flags that hold once some are set and others are taken back. -/
def set (flags : Flags) (letters : List Char) : Flags :=
  let given := letters.takeWhile (· != '-')
  let taken := letters.dropWhile (· != '-')
  let state (letter : Char) (before : Bool) := given.contains letter ||
    before && !taken.contains letter
  { anyCase := state 'i' flags.anyCase
    unicode := state 'u' flags.unicode
    spaced := state 'x' flags.spaced }

/-- Drops what stands for nothing in front of a text. -/
def skip (flags : Flags) (text : List Char) : List Char :=
  if flags.spaced then dropIdle false text else text

end Flags
end Pattern
end RepoFeed
