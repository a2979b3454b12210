import RepoFeed.Json.Skip
import RepoFeed.Json.Tree
import RepoFeed.Number.Word

/-
Reading values of a known shape.

A schema reads the same domain value from two sources: straight from a text,
without building a tree first, and from a value that has already been read.  The
two differ in what they report, because only a text has places, and in how much
they look at, because a text is read up to its first fault.  Every schema of the
library is put together from the few below, so that what holds of these for both
sources holds of all.
-/

namespace RepoFeed
namespace Json

structure Schema (α : Type) where
  /-- Reads from a text in which `levels` lists and objects may still be
  opened. -/
  read : (levels : Nat) → Reader α
  ofValue : Value → Except Fault α

namespace Schema

/-! ## Values without parts -/

/-- The failure to find what is wanted at the start of a text.  A value without
parts is read first, so its own faults come before that of being out of place. -/
def wrongKind (wanted : Wanted) (text : List Char) : Failure :=
  match text with
  | '[' :: _ => atRest (.wrongKind .list wanted) text
  | '\x7b' :: _ => atRest (.wrongKind .object wanted) text
  | _ =>
    match readScalar text with
    | .ok (value, rest) => atRest (.wrongKind (.ofValue value) wanted) rest
    | .error failure => failure

/-- Places a fault of what has just been read. -/
def settle {α : Type} (rest : List Char) : Except Fault α → Except Failure (α × List Char)
  | .ok a => .ok (a, rest)
  | .error fault => .error (atRest fault rest)

/-- A text that means something else. -/
def textual {α : Type} (wanted : Wanted) (convert : String → Except Fault α) : Schema α where
  read _ text :=
    match skipSpace text with
    | '"' :: rest => do
      let (s, rest) ← Literal.read rest
      settle rest (convert (String.ofList s))
    | text => .error (wrongKind wanted text)
  ofValue
    | .text s => convert s
    | value => .error (.wrongKind (.ofValue value) wanted)

def text : Schema String :=
  textual .text .ok

/-- A whole number for which `accepts` holds. -/
def wholeNumber (wanted : Wanted) (accepts : Int → Bool) : Number → Except Fault Int
  | .whole n => if accepts n then .ok n else .error (.outsideRange n wanted)
  | .binary x => .error (.wrongKind (.number (.binary x)) wanted)

def whole (wanted : Wanted) (accepts : Int → Bool) : Schema Int where
  read _ text :=
    match skipSpace text with
    | [] => .error (wrongKind wanted [])
    | c :: rest =>
      if Numeral.begins c then do
        let (n, rest) ← Numeral.read (c :: rest)
        settle rest (wholeNumber wanted accepts n)
      else .error (wrongKind wanted (c :: rest))
  ofValue
    | .number n => wholeNumber wanted accepts n
    | value => .error (.wrongKind (.ofValue value) wanted)

/-- A number from 0 to 2¹⁶ - 1. -/
def natural16 : Schema Int :=
  whole .natural16 (Word.fitsUnsigned 16)

/-- A number from -2⁶³ to 2⁶³ - 1. -/
def integer64 : Schema Int :=
  whole .integer64 (Word.fitsSigned 64)

/-- Any value, kept in normal form. -/
def anything : Schema Value where
  read levels text := (readValue levels text).map fun (value, rest) => (value.normal, rest)
  ofValue value := .ok value.normal

/-! ## Values built from others -/

def map {α β : Type} (f : α → β) (schema : Schema α) : Schema β where
  read levels text := (schema.read levels text).map fun (a, rest) => (f a, rest)
  ofValue value := (schema.ofValue value).map f

/-- What a schema reads, converted once it is complete.  A fault of the
conversion has no place of its own. -/
def refine {α β : Type} (schema : Schema α) (convert : α → Except Fault β) : Schema β where
  read levels text := do
    let (a, rest) ← schema.read levels text
    match convert a with
    | .ok b => .ok (b, rest)
    | .error fault => .error (.floating fault rest)
  ofValue value := do convert (← schema.ofValue value)

/-- A value or null. -/
def optional {α : Type} (schema : Schema α) : Schema (Option α) where
  read levels text :=
    match skipSpace text with
    | 'n' :: rest => (readWord ['u', 'l', 'l'] rest).map (none, ·)
    | text => (schema.read levels text).map fun (a, rest) => (some a, rest)
  ofValue
    | .null => .ok none
    | value => (schema.ofValue value).map some

def listOf {α : Type} (schema : Schema α) : Schema (List α) where
  read levels text :=
    match skipSpace text with
    | '[' :: rest =>
      match levels with
      | 0 => .error (atNext .tooDeep ('[' :: rest))
      | levels + 1 =>
        close closeList (readItems (schema.read levels) (rest.length + 1) true rest)
    | text => .error (wrongKind .list text)
  ofValue
    | .list items => items.mapM schema.ofValue
    | value => .error (.wrongKind (.ofValue value) .list)

end Schema

/-! ## Records

A record stands in an object, under the names of its fields, or in a list, in
their order.  While it is read its fields gather in a draft. -/

/-- A field of a record whose drafts have type `δ`. -/
structure Field (δ : Type) where
  name : String
  /-- Whether a draft has the field. -/
  isSet : δ → Bool
  /-- What the field's value does to a draft. -/
  schema : Schema (δ → δ)
  /-- Whether a list may end before the field. -/
  hasDefault : Bool

structure Record (δ α : Type) where
  name : String
  fields : List (Field δ)
  blank : δ
  /-- The record of a draft, unless a field it needs is missing. -/
  complete : δ → Except Fault α

namespace Record

variable {δ α : Type}

def field? (record : Record δ α) (name : String) : Option (Field δ) :=
  record.fields.find? (·.name == name)

/-- The fault of a list that ends too early. -/
def tooShort (record : Record δ α) (length : Nat) : Fault :=
  .wrongLength length (.recordOfLength record.name record.fields.length)

/-! ### From a text -/

/-- Reads the remaining `fields`, of which the first is number `index`, from the
items of a list. -/
def readSlots (record : Record δ α) (levels : Nat) :
    (fields : List (Field δ)) → (index : Nat) → (isFirst : Bool) → δ → Reader δ
  | [], _, _, draft, text => .ok (draft, text)
  | field :: fields, index, isFirst, draft, text => do
    let (more, text) ← nextItem isFirst text
    if more then
      let (update, text) ← field.schema.read levels text
      record.readSlots levels fields (index + 1) false (update draft) text
    else if field.hasDefault then
      record.readSlots levels fields (index + 1) isFirst draft text
    else .error (.floating (record.tooShort index) text)

/-- Reads the members of an object into a draft.  Unknown names are skipped with
their values; a field may appear once. -/
def readNamed (record : Record δ α) (levels : Nat) :
    (fuel : Nat) → (isFirst : Bool) → δ → Reader δ
  | 0, _, _, text => .error (atRest (.ended .object) text)
  | fuel + 1, isFirst, draft, text => do
    let (more, text) ← nextMember isFirst text
    if more then
      let (name, text) ← Literal.read text
      match record.field? (String.ofList name) with
      | none =>
        let text ← skipValue (← readColon text)
        record.readNamed levels fuel false draft text
      | some field =>
        if field.isSet draft then .error (.floating (.repeatedField field.name) text)
        else
          let (update, text) ← field.schema.read levels (← readColon text)
          record.readNamed levels fuel false (update draft) text
    else .ok (draft, text)

/-- Completes a draft that has been read. -/
def finish (record : Record δ α) (read : Except Failure (δ × List Char)) :
    Except Failure (α × List Char) := do
  let (draft, text) ← read
  match record.complete draft with
  | .ok a => .ok (a, text)
  | .error fault => .error (.floating fault text)

def read (record : Record δ α) (levels : Nat) : Reader α := fun text =>
  match skipSpace text with
  | '[' :: rest =>
    match levels with
    | 0 => .error (atNext .tooDeep ('[' :: rest))
    | levels + 1 =>
      close closeList
        (record.finish (record.readSlots levels record.fields 0 true record.blank rest))
  | '\x7b' :: rest =>
    match levels with
    | 0 => .error (atNext .tooDeep ('\x7b' :: rest))
    | levels + 1 =>
      close closeObject
        (record.finish (record.readNamed levels (rest.length + 1) true record.blank rest))
  | text => .error (Schema.wrongKind (.record record.name) text)

/-! ### From a value -/

/-- Takes the remaining `fields` from the items of a list; gives the draft and
the items that are left over. -/
def ofItems (record : Record δ α) :
    (fields : List (Field δ)) → (index : Nat) → δ → List Value → Except Fault (δ × List Value)
  | [], _, draft, items => .ok (draft, items)
  | field :: fields, index, draft, [] =>
    if field.hasDefault then record.ofItems fields (index + 1) draft []
    else .error (record.tooShort index)
  | field :: fields, index, draft, item :: items => do
    let update ← field.schema.ofValue item
    record.ofItems fields (index + 1) (update draft) items

def ofMembers (record : Record δ α) : δ → List (String × Value) → Except Fault δ
  | draft, [] => .ok draft
  | draft, (name, value) :: members =>
    match record.field? name with
    | none => record.ofMembers draft members
    | some field =>
      if field.isSet draft then .error (.repeatedField field.name)
      else do
        let update ← field.schema.ofValue value
        record.ofMembers (update draft) members

def ofValue (record : Record δ α) : Value → Except Fault α
  | .list items => do
    let (draft, left) ← record.ofItems record.fields 0 record.blank items
    if left.isEmpty then record.complete draft
    else .error (.wrongLength items.length .shorterList)
  | .object members => do record.complete (← record.ofMembers record.blank members)
  | value => .error (.wrongKind (.ofValue value) (.record record.name))

def schema (record : Record δ α) : Schema α where
  read := record.read
  ofValue := record.ofValue

end Record

/-- The value of a field that a draft has to have. -/
def needed {β : Type} (name : String) : Option β → Except Fault β
  | some b => .ok b
  | none => .error (.missingField name)

/-! ## Documents -/

/-- Reads a document: one value, with nothing but space around it. -/
def Schema.decode {α : Type} (schema : Schema α) (document : String) : Except Error α :=
  let whole := document.toList
  let outcome := do
    let (a, rest) ← schema.read depthLimit whole
    readEnd rest
    return a
  outcome.mapError (Failure.toError whole)

/-- Reads from a value. -/
def Schema.convert {α : Type} (schema : Schema α) (value : Value) : Except Error α :=
  (schema.ofValue value).mapError (⟨·, none⟩)

end Json
end RepoFeed
