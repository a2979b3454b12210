import RepoFeed.Json.Value
import RepoFeed.Number.Shortest
import RepoFeed.Text.Quoted
import RepoFeed.Time.Fault

/-
What can be wrong with a JSON document, and where.

A fault is a cause; its wording is one function.  Faults of the grammar are
always found at a place in a text.  Faults of shape (a value of the wrong kind,
a missing field) also arise from values that have no text, and then they have no
position.
-/

namespace RepoFeed
namespace Json

/-- What was still open when the text ended. -/
inductive Within where
  | value | text | list | object
deriving DecidableEq, Repr

/-- A value of the wrong kind, as far as the message shows it. -/
inductive Found where
  | null
  | truth (value : Bool)
  | number (value : Number)
  | text (value : String)
  | list
  | object
deriving DecidableEq, Repr

/-- What a schema asks for. -/
inductive Wanted where
  | text
  | date
  | list
  | natural16
  | integer64
  | record (name : String)
  | recordOfLength (name : String) (length : Nat)
  | shorterList
deriving DecidableEq, Repr

inductive Fault where
  | ended (within : Within)
  | expectedValue
  | expectedWord
  | expectedColon
  | expectedCommaInList
  | expectedCommaInObject
  | nameNotText
  | trailingComma
  | trailingText
  | badNumber
  | numberTooLarge
  | badEscape
  | loneSurrogate
  | brokenSurrogatePair
  | controlCharacter
  | tooDeep
  | wrongKind (found : Found) (wanted : Wanted)
  | outsideRange (value : Int) (wanted : Wanted)
  | missingField (name : String)
  | repeatedField (name : String)
  | wrongLength (length : Nat) (wanted : Wanted)
  | badDate (fault : Time.Fault)
deriving DecidableEq, Repr

/-- A line, counted from one, and a count of octets in it. -/
structure Position where
  line : Nat
  column : Nat
deriving DecidableEq, Repr

structure Error where
  fault : Fault
  position : Option Position
deriving DecidableEq, Repr

/-! ## Wording -/

def Within.message : Within → String
  | .value => "a value"
  | .text => "a string"
  | .list => "a list"
  | .object => "an object"

def Number.render : Number → List Char
  | .whole n => (toString n).toList
  | .binary x => x.render

def Found.message : Found → String
  | .null => "null"
  | .truth b => "boolean `" ++ toString b ++ "`"
  | .number (.whole n) => "integer `" ++ toString n ++ "`"
  | .number (.binary x) => "floating point `" ++ String.ofList x.render ++ "`"
  | .text s => "string " ++ String.ofList (Text.quote s.toList)
  | .list => "sequence"
  | .object => "map"

def Wanted.message : Wanted → String
  | .text => "a string"
  | .date => "an RFC 3339 formatted date and time string"
  | .list => "a sequence"
  | .natural16 => "u16"
  | .integer64 => "i64"
  | .record name => "struct " ++ name
  | .recordOfLength name 1 => "struct " ++ name ++ " with 1 element"
  | .recordOfLength name n => "struct " ++ name ++ " with " ++ toString n ++ " elements"
  | .shorterList => "fewer elements in array"

def Fault.message : Fault → String
  | .ended within => "EOF while parsing " ++ within.message
  | .expectedValue => "expected value"
  | .expectedWord => "expected ident"
  | .expectedColon => "expected `:`"
  | .expectedCommaInList => "expected `,` or `]`"
  | .expectedCommaInObject => "expected `,` or `\x7d`"
  | .nameNotText => "key must be a string"
  | .trailingComma => "trailing comma"
  | .trailingText => "trailing characters"
  | .badNumber => "invalid number"
  | .numberTooLarge => "number out of range"
  | .badEscape => "invalid escape"
  | .loneSurrogate => "lone leading surrogate in hex escape"
  | .brokenSurrogatePair => "unexpected end of hex escape"
  | .controlCharacter =>
    "control character (\\u0000-\\u001F) found while parsing a string"
  | .tooDeep => "recursion limit exceeded"
  | .wrongKind found wanted => "invalid type: " ++ found.message ++ ", expected " ++ wanted.message
  | .outsideRange n wanted =>
    "invalid value: integer `" ++ toString n ++ "`, expected " ++ wanted.message
  | .missingField name => "missing field `" ++ name ++ "`"
  | .repeatedField name => "duplicate field `" ++ name ++ "`"
  | .wrongLength n wanted =>
    "invalid length " ++ toString n ++ ", expected " ++ wanted.message
  | .badDate fault => fault.message

def Error.message (e : Error) : String :=
  match e.position with
  | none => e.fault.message
  | some p =>
    e.fault.message ++ " at line " ++ toString p.line ++ " column " ++ toString p.column

/-- What a schema finds when it is offered a value of the wrong kind. -/
def Found.ofValue : Value → Found
  | .null => .null
  | .truth b => .truth b
  | .number n => .number n
  | .text s => .text s
  | .list _ => .list
  | .object _ => .object

end Json
end RepoFeed
