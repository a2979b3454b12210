import RepoFeed.Number.Word
import RepoFeed.Text.Blank
import RepoFeed.Text.Digit
import RepoFeed.Time.Fault
import RepoFeed.Time.Instant

/-
Date stamps: RFC 3339 texts of instants.

Reading is lenient: blanks may stand before every number and separator, numbers
may have fewer digits, and the offset may be written `UTC` or with any run of
colons and blanks in it.  Writing is strict: UTC, the letter `Z`, and as many
groups of three digits after the point as are needed.
-/

namespace RepoFeed
namespace Time
namespace Stamp

open Text (digitValue isBlank trimStart)

/-- A reader takes what is left and gives what it read and what is left then. -/
abbrev Reader (α : Type) := List Char → Except Fault (α × List Char)

/-- Reads further digits of a number of which `value` has been read. -/
def moreDigits : (width value : Nat) → Reader Nat
  | 0, value, text => .ok (value, text)
  | _ + 1, value, [] => .ok (value, [])
  | width + 1, value, c :: text =>
    if c.isDigit then
      let value := value * 10 + digitValue c
      if Word.fitsSigned 64 value then moreDigits width value text else .error .outOfRange
    else .ok (value, c :: text)

/-- Reads a number of one to `width` digits. -/
def number (width : Nat) : Reader Nat
  | [] => .error .endsEarly
  | c :: text =>
    if c.isDigit then moreDigits width 0 (c :: text) else .error .unexpectedCharacter

/-- Reads a number whose value lies between two bounds. -/
def bounded (low high : Nat) : Reader Nat := fun text => do
  let (n, text) ← number 2 (trimStart text)
  if low ≤ n ∧ n ≤ high then .ok (n, text) else .error .outOfRange

/-- Reads a year: four digits at most, or any number of them after a sign. -/
def year : Reader Int := fun text => do
  let text := trimStart text
  let (y, text) ← (match text with
    | '-' :: digits => do
      let (n, rest) ← number digits.length digits
      .ok (-(n : Int), rest)
    | '+' :: digits => do
      let (n, rest) ← number digits.length digits
      .ok ((n : Int), rest)
    | digits => do
      let (n, rest) ← number 4 digits
      .ok ((n : Int), rest) : Except Fault (Int × List Char))
  if Word.fitsSigned 32 y then .ok (y, text) else .error .outOfRange

/-- Takes a separator, after any blanks. -/
def separator (expected : Char) (text : List Char) : Except Fault (List Char) :=
  match trimStart text with
  | [] => .error .endsEarly
  | c :: text => if c = expected then .ok text else .error .unexpectedCharacter

/-- Takes the letter or the blank between the date and the time. -/
def timeMark (text : List Char) : Except Fault (List Char) :=
  match text with
  | [] => .error .endsEarly
  | 'T' :: rest | 't' :: rest | ' ' :: rest => .ok rest
  | _ => .error .unexpectedCharacter

/-- Reads the fraction of a second, if there is a point: nine digits count, all
others are passed over. -/
def fraction (text : List Char) : Except Fault (Nat × List Char) :=
  match text with
  | '.' :: digits => do
    let (n, rest) ← number 9 digits
    let taken := digits.length - rest.length
    .ok (n * tenPow (9 - taken), rest.dropWhile Char.isDigit)
  | _ => .ok (0, text)

/-- Whether a text starts with `UTC` in any case. -/
def afterUtc? : List Char → Option (List Char)
  | u :: t :: c :: rest =>
    if u.toUpper = 'U' ∧ t.toUpper = 'T' ∧ c.toUpper = 'C' then some rest else none
  | _ => none

/-- Reads two digits.  A single character of several octets is no digit, but
neither is it the end of the text. -/
def twoDigits (text : List Char) : Except Fault (Nat × Nat × List Char) :=
  match text with
  | a :: b :: rest =>
    if a.isDigit ∧ b.isDigit then .ok (digitValue a, digitValue b, rest)
    else .error .unexpectedCharacter
  | [a] => if a.utf8Size = 1 then .error .endsEarly else .error .unexpectedCharacter
  | [] => .error .endsEarly

/-- Reads a signed offset from UTC in seconds, after its sign. -/
def unsignedOffset : Reader Nat := fun text => do
  let (h₁, h₂, text) ← twoDigits text
  let text := text.dropWhile fun c => c == ':' || isBlank c
  let (m₁, m₂, text) ← twoDigits text
  if 6 ≤ m₁ then .error .outOfRange
  else .ok ((h₁ * 10 + h₂) * 3600 + (m₁ * 10 + m₂) * 60, text)

def offset : Reader Int := fun text =>
  match afterUtc? text with
  | some rest => .ok (0, rest)
  | none =>
    match text with
    | [] => .error .endsEarly
    | 'Z' :: rest | 'z' :: rest => .ok (0, rest)
    | '+' :: rest => (unsignedOffset rest).map fun (n, rest) => ((n : Int), rest)
    | '-' :: rest | '\u2212' :: rest =>
      (unsignedOffset rest).map fun (n, rest) => (-(n : Int), rest)
    | _ => .error .unexpectedCharacter

/-! ## From fields to an instant -/

/-- The fields of a stamp, each within its own range. -/
structure Fields where
  date : Date
  hour : Nat
  minute : Nat
  /-- Sixty in a leap second. -/
  second : Nat
  nanos : Nat
  offset : Int
deriving DecidableEq, Repr

def fields (text : List Char) : Except Fault Fields := do
  let (year, text) ← year text
  let text ← separator '-' text
  let (month, text) ← bounded 1 12 text
  let text ← separator '-' text
  let (day, text) ← bounded 1 31 text
  let text ← timeMark text
  let (hour, text) ← bounded 0 23 text
  let text ← separator ':' text
  let (minute, text) ← bounded 0 59 text
  let text ← separator ':' text
  let (second, text) ← bounded 0 60 text
  let (nanos, text) ← fraction text
  let (offset, text) ← offset (trimStart text)
  if (trimStart text).isEmpty then
    return { date := { year, month, day }, hour, minute, second, nanos, offset }
  else .error .trailingInput

/-- The years in which instants are supported. -/
def leastYear : Int := -262143

def greatestYear : Int := 262142

/-- The first supported second. -/
def leastSecond : Int :=
  (Date.dayNumber ⟨leastYear, 1, 1⟩) * secondsPerDay

/-- The last supported second. -/
def greatestSecond : Int :=
  (Date.dayNumber ⟨greatestYear, 12, 31⟩) * secondsPerDay + secondsPerDay - 1

/-- The instant of some fields. -/
def Fields.instant (f : Fields) : Except Fault Instant :=
  if !f.date.isValid ∨ f.date.year < leastYear ∨ greatestYear < f.date.year then
    .error .outOfRange
  else if secondsPerDay ≤ f.offset.natAbs then .error .outOfRange
  else
    let isLeap := f.second = 60
    let second := if isLeap then 59 else f.second
    let seconds := f.date.dayNumber * secondsPerDay +
      (f.hour * 3600 + f.minute * 60 + second : Nat) - f.offset
    if seconds < leastSecond ∨ greatestSecond < seconds then .error .impossible
    else .ok ⟨seconds, f.nanos + if isLeap then nanosPerSecond else 0⟩

end Stamp

/-- Reads a date stamp. -/
def Instant.parse (text : String) : Except Fault Instant := do
  (← Stamp.fields text.toList).instant

/-! ## Writing -/

namespace Stamp

/-- The digits after the point: none, or three, six or nine of them. -/
def renderFraction (nanos : Nat) : List Char :=
  if nanos = 0 then []
  else if nanos % 1000000 = 0 then '.' :: padded 3 (nanos / 1000000)
  else if nanos % 1000 = 0 then '.' :: padded 6 (nanos / 1000)
  else '.' :: padded 9 nanos

end Stamp

/-- Writes a date stamp. -/
def Instant.render (t : Instant) : String :=
  String.ofList <| t.renderDate 0 ++ 'T' :: t.renderClock 0 ++
    Stamp.renderFraction (t.nanos % nanosPerSecond) ++ ['Z']

end Time
end RepoFeed
