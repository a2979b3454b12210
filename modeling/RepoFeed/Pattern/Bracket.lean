import RepoFeed.Pattern.Atom
import RepoFeed.Pattern.Depth

/-
Sets of characters in brackets.

A set has members: characters, ranges, kinds and further sets.  The signs `&&`,
`--` and `~~` put the members before them and those behind them together, from
the left.  Behind the opening bracket and a negation, hyphens are members, and so
is a closing bracket that comes before any member.
-/

namespace RepoFeed
namespace Pattern

structure Bracket where
  /-- The depth of what stands before the last sign between members. -/
  left : Option Nat := none
  /-- The depths of the members behind it. -/
  members : List Nat := []
  /-- Nothing but hyphens was read. -/
  isOpening : Bool := true
deriving DecidableEq, Repr

namespace Bracket

/-- The depth of a set, without the brackets around it. -/
def depth (bracket : Bracket) : Nat :=
  match bracket.left with
  | none => depthOfParts bracket.members
  | some left => Nat.max left (depthOfParts bracket.members) + 1

def add (bracket : Bracket) (depth : Nat) : Bracket :=
  { bracket with members := depth :: bracket.members }

/-- Makes all that was read what stands before a sign. -/
def divide (bracket : Bracket) : Bracket :=
  { bracket with left := some bracket.depth, members := [] }

/-! ## Members -/

/-- The names of kinds, which are written as in `[:alpha:]`. -/
def kindNames : List String :=
  ["alnum", "alpha", "ascii", "blank", "cntrl", "digit", "graph", "lower", "print", "punct",
   "space", "upper", "word", "xdigit"]

/-- Reads the name of a kind behind its bracket, and whether it is negated. -/
def kind? : List Char → Option (Bool × List Char)
  | ':' :: text =>
    let (negated, text) :=
      match text with
      | '^' :: text => (true, text)
      | text => (false, text)
    match text.dropWhile (· != ':') with
    | ':' :: ']' :: rest =>
      if kindNames.contains (String.ofList (text.takeWhile (· != ':'))) then some (negated, rest)
      else none
    | _ => none
  | _ => none

/-- Whether the kind of a name can be a member. -/
def isKindMember (flags : Flags) (negated : Bool) : Bool :=
  if flags.unicode then !flags.anyCase else !negated

/-- What comes behind a hyphen.  One `#` is passed over with the blanks around
it; if nothing else follows, it is the next character in any case. -/
def behindHyphen? (flags : Flags) (text : List Char) : Option Char :=
  if !flags.spaced then text.head?
  else
    let rest :=
      match text.dropWhile Text.isBlank with
      | '#' :: rest => rest.dropWhile Text.isBlank
      | rest => rest
    rest.head?.or text.head?

def atom? (flags : Flags) : List Char → Option (Atom × List Char)
  | [] => none
  | '\\' :: rest => Atom.escape? flags rest
  | c :: rest => some (.literal c false, rest)

/-- Reads a character, a kind or a range.  A hyphen makes a range unless the set
ends behind it or another hyphen comes. -/
def member? (flags : Flags) (text : List Char) : Option (List Char) := do
  let (low, rest) ← atom? flags text
  let single := if low.isMember flags then some rest else none
  match flags.skip rest with
  | '-' :: behind =>
    let next := behindHyphen? flags behind
    if next = some ']' ∨ next = some '-' then single
    else
      let (high, rest) ← atom? flags (flags.skip behind)
      if low.isMember flags && high.isMember flags && low.isRange high then some rest else none
  | _ => single

/-! ## Sets -/

/-- Opens a set behind its bracket.  The opposite of a set has octets that are no
character. -/
def opened? (flags : Flags) (text : List Char) : Option (List Char) :=
  match flags.skip text with
  | '^' :: rest => if flags.unicode then some rest else none
  | rest => some rest

/-- Where reading has come to. -/
inductive Progress where
  /-- In a set that stands in other ones, the inmost of them first. -/
  | inside (bracket : Bracket) (outer : List Bracket)
  /-- Behind the outermost set, which has a depth. -/
  | behind (depth : Nat)
deriving DecidableEq, Repr

/-- Reads one member, sign or bracket, which starts with `c`. -/
def step? (flags : Flags) (bracket : Bracket) (outer : List Bracket) (c : Char)
    (rest : List Char) : Option (Progress × List Char) :=
  let isHyphen := bracket.isOpening && c == '-'
  if isHyphen || bracket.isOpening && bracket.members.isEmpty && c == ']' then
    if (Atom.literal c false).isMember flags then
      some (.inside { bracket.add 0 with isOpening := isHyphen } outer, rest)
    else none
  else
    let bracket := { bracket with isOpening := false }
    if c == '[' then
      match kind? rest with
      | some (negated, rest) =>
        if isKindMember flags negated then some (.inside (bracket.add 0) outer, rest) else none
      | none => (opened? flags rest).map (.inside {} (bracket :: outer), ·)
    else if c == ']' then
      match outer with
      | [] => some (.behind (bracket.depth + 1), rest)
      | around :: outer => some (.inside (around.add (bracket.depth + 1)) outer, rest)
    else if ['&', '-', '~'].contains c && rest.head? == some c then
      some (.inside bracket.divide outer, rest.drop 1)
    else (member? flags (c :: rest)).map (.inside (bracket.add 0) outer, ·)

/-- Reads on to the end of the outermost set.  Each step takes a character at
least. -/
def readWithin (flags : Flags) : (steps : Nat) → Bracket → List Bracket → List Char →
    Option (Nat × List Char)
  | 0, _, _, _ => none
  | steps + 1, bracket, outer, text =>
    match flags.skip text with
    | [] => none
    | c :: rest =>
      match step? flags bracket outer c rest with
      | none => none
      | some (.inside bracket outer, rest) => readWithin flags steps bracket outer rest
      | some (.behind depth, rest) => some (depth, rest)

/-- Reads a set behind its opening bracket, and gives its depth. -/
def read? (flags : Flags) (text : List Char) : Option (Nat × List Char) := do
  readWithin flags text.length {} [] (← opened? flags text)

end Bracket
end Pattern
end RepoFeed
