import RepoFeed.Notice
import RepoFeed.Number.Decimal
import RepoFeed.Panic
import RepoFeed.Pattern.WellFormed
import RepoFeed.Text.Alphanumeric
import RepoFeed.Text.Blank
import RepoFeed.Text.Digit
import RepoFeed.Text.Utf8

/-
Directives of a log filter.

A directive gives a level to the notices that it applies to.  It is written
`level`, `name`, `name=level` or `name[span{field}]=level`; of the last form every
part but the brackets can be left out.  No run opens a span, so a directive that
asks for one applies to nothing.

Marks are looked for in the text without the blanks at its ends, but the parts
between marks are counted off, in octets, from the text as it stands.  Blanks are
therefore harmless behind a closing bracket only, and blanks of several octets can
put a cut into the middle of a character, which is a panic.
-/

namespace RepoFeed
namespace CommandLine

structure Directive where
  /-- How an origin has to start; `none` leaves it open. -/
  name : Option String
  /-- The span that has to be open. -/
  span : Option String
  /-- The field that has to be there, perhaps with a number or a pattern for its
  value behind an equals sign. -/
  field : Option String
  /-- The finest level that is logged; `none` is silence. -/
  level : Option Level
deriving DecidableEq, Repr

namespace Directive

/-- A level for everything. -/
def ofLevel (level : Option Level) : Directive := ⟨none, none, none, level⟩

/-- A level for the origins that start with a name. -/
def ofName (name : String) (level : Option Level) : Directive := ⟨some name, none, none, level⟩

/-! ## Reading -/

/-- What keeps a text from being read as a directive. -/
inductive Fault where
  | malformed
  | panic (panic : Panic)
deriving DecidableEq, Repr

/-- The level that a word or a number stands for. -/
def readLevel (text : List Char) : Except Fault (Option Level) :=
  match String.ofList (text.map Char.toLower) with
  | "off" => .ok none
  | "error" => .ok (some .error)
  | "warn" => .ok (some .warn)
  | "info" => .ok (some .info)
  | "debug" => .ok (some .debug)
  | "trace" => .ok (some .trace)
  | _ =>
    match Text.natural? text with
    | some 0 => .ok none
    | some 1 => .ok (some .error)
    | some 2 => .ok (some .warn)
    | some 3 => .ok (some .info)
    | some 4 => .ok (some .debug)
    | some 5 => .ok (some .trace)
    | _ => .error .malformed

/-- The level behind an equals sign; nothing there stands for every level. -/
def readLevelOrAll (text : List Char) : Except Fault (Option Level) :=
  if text.isEmpty then .ok (some .trace) else readLevel text

/-- Characters that a level or a name can start with. -/
def canStart (c : Char) : Bool :=
  c == '-' || c == ':' || c == '_' || Text.isAlphanumeric c

/-- A mark in the text without the blanks at its ends. -/
structure Mark where
  /-- How many octets stand before it. -/
  place : Nat
  sign : Char
  /-- What stands behind it. -/
  rest : List Char
deriving DecidableEq, Repr

/-- Looks for a mark in what stands behind a number of octets. -/
def findMark (isMark : Char → Bool) (start : Nat) (text : List Char) : Except Fault Mark :=
  match text.dropWhile (! isMark ·) with
  | [] => .error .malformed
  | sign :: rest =>
    .ok ⟨start + (Utf8.encode (text.takeWhile (! isMark ·))).length, sign, rest⟩

/-- Checks that a number of octets are whole characters. -/
def checkCut (text : List Char) (place : Nat) : Except Fault Unit :=
  if (Utf8.decode? ((Utf8.encode text).take place)).isSome then .ok ()
  else .error (.panic .logFilter)

/-- The part of a text from one place up to another. -/
def part (text : List Char) (start stop : Nat) : Except Fault (List Char) := do
  checkCut text start
  checkCut text stop
  return Utf8.decodeLossy (((Utf8.encode text).take stop).drop start)

/-- The part of a text behind a number of octets. -/
def behind (text : List Char) (start : Nat) : Except Fault (List Char) :=
  part text start (Utf8.encode text).length

/-- Reads what follows a closing bracket: nothing or a level. -/
def ending (whole : List Char) (start : Nat) : List Char → Except Fault (Option Level)
  | [] => .ok (some .trace)
  | '=' :: _ => do readLevelOrAll (← behind whole (start + 1))
  | _ => .error .malformed

/-- Whether a field can be asked for.  A value, which an equals sign parts off, has
to be a number or a pattern.  What a second equals sign parts off is passed
over. -/
def isField (field : List Char) : Bool :=
  match field.dropWhile (· != '=') with
  | [] => true
  | _ :: rest =>
    let value := rest.takeWhile (· != '=')
    Decimal.isNumber value || Pattern.isWellFormed value

/-- Reads on behind an opening bracket. -/
def bracketed (whole : List Char) (name : Option String) (start : Nat) (text : List Char) :
    Except Fault Directive := do
  let close ← findMark (fun c => c == ']' || c == '\x7b') start text
  let span ← part whole start close.place
  if close.sign == ']' then
    return ⟨name, some (String.ofList span), none,
      ← ending whole (close.place + 1) close.rest⟩
  let fieldClose ← findMark (· == '\x7d') (close.place + 1) close.rest
  let field ← part whole (close.place + 1) fieldClose.place
  match fieldClose.rest with
  | ']' :: rest =>
    if field.isEmpty ∨ !isField field then .error .malformed
    else
      return ⟨name, if span.isEmpty then none else some (String.ofList span),
        some (String.ofList field), ← ending whole (fieldClose.place + 2) rest⟩
  | _ => .error .malformed

/-- Reads a directive. -/
def parse (text : List Char) : Except Fault Directive :=
  match Text.trim text with
  | [] => .error .malformed
  | '[' :: rest => bracketed text none 1 rest
  | c :: rest =>
    if !canStart c then .error .malformed
    else
      match findMark (fun c => c == '=' || c == '[') 0 (c :: rest) with
      | .error _ =>
        match readLevel text with
        | .ok level => .ok (ofLevel level)
        | .error _ => .ok (ofName (String.ofList text) (some .trace))
      | .ok mark => do
        let name := String.ofList (← part text 0 mark.place)
        if mark.sign == '=' then
          return ofName name (← readLevelOrAll (← behind text (mark.place + 1)))
        else bracketed text (some name) (mark.place + 1) mark.rest

/-! ## Meaning -/

/-- Whether a notice has a field.  The message is one; values are known only
when a notice is made, so a field with a value is never there. -/
def isFieldOf (field : String) (notice : Notice) : Bool :=
  ("message" :: notice.values.map (·.1)).contains field

def appliesTo (directive : Directive) (notice : Notice) : Bool :=
  directive.span.isNone &&
    directive.name.all (·.toList.isPrefixOf notice.origin.toList) &&
    directive.field.all (isFieldOf · notice)

/-- How much of an origin a directive names. -/
def reach (directive : Directive) : Nat :=
  (directive.name.map String.length).getD 0

/-- Whether a directive gives way to another one that applies as well.  A longer
name is more specific, then a field is, then a field that comes later in the
order of texts. -/
def yieldsTo (directive other : Directive) : Bool :=
  if directive.reach = other.reach then
    directive.field.getD "" ≤ other.field.getD ""
  else directive.reach < other.reach

end Directive
end CommandLine
end RepoFeed
