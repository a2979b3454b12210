import RepoFeed.Json.Fault
import RepoFeed.Text.Digit

/-
The ground under the readers.

A reader takes the characters that are left and gives back what it read and
what is left then.  Readers count nothing: a failure keeps what was left when it
arose, and only the outermost reader turns that into a line and a column, by
comparing it with the whole text.
-/

namespace RepoFeed
namespace Json

open Text (digitValue)

/-- A place in a text: `ahead` octets into what is left of it. -/
structure Spot where
  rest : List Char
  ahead : Nat
deriving DecidableEq, Repr

inductive Failure where
  /-- A fault with its place. -/
  | placed (fault : Fault) (spot : Spot)
  /-- A fault whose place is still to be settled by the list or object around
  it, found when `rest` was left. -/
  | floating (fault : Fault) (rest : List Char)
deriving DecidableEq, Repr

abbrev Reader (α : Type) := List Char → Except Failure (α × List Char)

/-- A fault found before the next octet. -/
def atRest (fault : Fault) (rest : List Char) : Failure :=
  .placed fault ⟨rest, 0⟩

/-- A fault found in looking at the next octet. -/
def atNext (fault : Fault) (rest : List Char) : Failure :=
  .placed fault ⟨rest, 1⟩

/-! ## Positions -/

def octetLength (text : List Char) : Nat :=
  text.foldr (fun c count => c.utf8Size + count) 0

/-- The position `octets` further on, or at the end of the text if that is
nearer.  A place inside a character counts the octets before it. -/
def Position.advance (p : Position) : (octets : Nat) → List Char → Position
  | _, [] => p
  | octets, c :: text =>
    if octets = 0 then p
    else if c = '\n' then advance ⟨p.line + 1, 0⟩ (octets - 1) text
    else if octets < c.utf8Size then ⟨p.line, p.column + octets⟩
    else advance ⟨p.line, p.column + c.utf8Size⟩ (octets - c.utf8Size) text

/-- The position of a spot in the whole text. -/
def Spot.position (whole : List Char) (spot : Spot) : Position :=
  Position.advance ⟨1, 0⟩ (octetLength whole - octetLength spot.rest + spot.ahead) whole

def Failure.toError (whole : List Char) : Failure → Error
  | .placed fault spot => ⟨fault, some (spot.position whole)⟩
  | .floating fault _ => ⟨fault, none⟩

/-! ## Characters -/

/-- The four characters that JSON allows between its tokens. -/
def isSpace (c : Char) : Bool :=
  c == ' ' || c == '\n' || c == '\t' || c == '\r'

def skipSpace (text : List Char) : List Char :=
  text.dropWhile isSpace

/-- Takes the letters of a word that has begun. -/
def readWord : (letters text : List Char) → Except Failure (List Char)
  | [], text => .ok text
  | _ :: _, [] => .error (atRest (.ended .value) [])
  | l :: letters, c :: text =>
    if l = c then readWord letters text else .error (atNext .expectedWord (c :: text))

def startsWithDigit : List Char → Bool
  | c :: _ => c.isDigit
  | [] => false

/-- Appends decimal digits to `value` as long as the result stays below
`limit`.  Gives the result, the count of digits taken and what is left. -/
def takeDigits (limit : Nat) : (value : Nat) → List Char → Nat × Nat × List Char
  | value, [] => (value, 0, [])
  | value, c :: text =>
    if c.isDigit ∧ value * 10 + digitValue c < limit then
      let (result, count, rest) := takeDigits limit (value * 10 + digitValue c) text
      (result, count + 1, rest)
    else (value, 0, c :: text)

end Json
end RepoFeed
