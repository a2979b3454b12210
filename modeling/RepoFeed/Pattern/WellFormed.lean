import RepoFeed.Pattern.Bracket
import RepoFeed.Pattern.Group

/-
Whether a text is a pattern.

The text is read item by item.  Groups are kept on a stack, each with the flags
that hold around it, so that the flags that are set in a group end with it.

Repetitions cannot be counted: an opening brace is refused, since the text that
is read stands in braces itself and never has the closing one.
-/

namespace RepoFeed
namespace Pattern

inductive Item where
  /-- Flags, which nothing can repeat. -/
  | setting
  /-- A part that matches something, with its depth. -/
  | part (depth : Nat)
deriving DecidableEq, Repr

def Item.depth : Item → Nat
  | .setting => 0
  | .part depth => depth

/-- What was read of a group, or of the text outside of all groups. -/
structure Level where
  /-- The depths of the branches that a bar has ended. -/
  branches : List Nat := []
  /-- The items of the last branch, the latest first. -/
  items : List Item := []
deriving DecidableEq, Repr

namespace Level

def add (level : Level) (item : Item) : Level :=
  { level with items := item :: level.items }

/-- The depths of all branches. -/
def depths (level : Level) : List Nat :=
  depthOfParts (level.items.map Item.depth) :: level.branches

def depth (level : Level) : Nat :=
  depthOfParts level.depths

/-- Ends a branch. -/
def branch (level : Level) : Level := ⟨level.depths, []⟩

/-- Repeats the latest item. -/
def repeat? (level : Level) : Option Level :=
  match level.items with
  | .part depth :: items => some { level with items := .part (depth + 1) :: items }
  | _ => none

end Level

/-- What was read of a pattern. -/
structure Reading where
  flags : Flags := {}
  level : Level := {}
  /-- The flags and the levels around the open groups, the inmost group first. -/
  around : List (Flags × Level) := []
  /-- The names of groups. -/
  names : List (List Char) := []
deriving DecidableEq, Repr

namespace Reading

def add (reading : Reading) (depth : Nat) : Reading :=
  { reading with level := reading.level.add (.part depth) }

/-- Adds an atom if it can stand on its own. -/
def addAtom? (reading : Reading) (atom : Atom) : Option Reading :=
  if atom.isItem reading.flags then some (reading.add 0) else none

/-- Opens a group or sets flags.  No two groups have the same name. -/
def opened? (reading : Reading) : Opening → Option Reading
  | .setting flags => some { reading with flags := flags, level := reading.level.add .setting }
  | .group flags name =>
    if name.any reading.names.contains then none
    else
      some { flags := flags
             level := {}
             around := (reading.flags, reading.level) :: reading.around
             names := name.toList ++ reading.names }

/-- Closes a group. -/
def closed? (reading : Reading) : Option Reading :=
  match reading.around with
  | [] => none
  | (flags, level) :: around =>
    some { reading with
      flags := flags
      level := level.add (.part (reading.level.depth + 1))
      around := around }

/-- Reads one item, bar, parenthesis or repetition, which starts with `c`.  A
question mark right behind a repetition belongs to it. -/
def step? (reading : Reading) (c : Char) (rest : List Char) : Option (Reading × List Char) :=
  match c with
  | '(' => do
    let (opening, rest) ← Opening.read? reading.flags rest
    return (← reading.opened? opening, rest)
  | ')' => reading.closed?.map (·, rest)
  | '|' => some ({ reading with level := reading.level.branch }, rest)
  | '[' => do
    let (depth, rest) ← Bracket.read? reading.flags rest
    return (reading.add depth, rest)
  | '?' | '*' | '+' => do
    let level ← reading.level.repeat?
    return ({ reading with level := level }, if rest.head? == some '?' then rest.drop 1 else rest)
  | '\x7b' => none
  | '\\' => do
    let (atom, rest) ← Atom.escape? reading.flags rest
    return (← reading.addAtom? atom, rest)
  | '^' | '$' => (reading.addAtom? .textEnd).map (·, rest)
  | '.' => if reading.flags.unicode then some (reading.add 0, rest) else none
  | c => (reading.addAtom? (.literal c false)).map (·, rest)

/-- Reads on to the end of a text.  Each step takes a character at least. -/
def readWithin : (steps : Nat) → Reading → List Char → Option Reading
  | steps, reading, text =>
    match steps, reading.flags.skip text with
    | _, [] => some reading
    | 0, _ => none
    | steps + 1, c :: rest =>
      match reading.step? c rest with
      | none => none
      | some (reading, rest) => readWithin steps reading rest

end Reading

/-- Whether a text is a pattern: all groups are closed, and it is not too
deep. -/
def isWellFormed (text : List Char) : Bool :=
  match Reading.readWithin text.length {} text with
  | none => false
  | some reading => reading.around.isEmpty && reading.level.depth ≤ depthLimit

end Pattern
end RepoFeed
