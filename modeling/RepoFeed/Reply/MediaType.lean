/-
Media types, as a header gives them.

A media type is written `kind/subkind; name=value; name="value"`.  Names and bare
values are tokens; a value in quotes may have any character that is no control,
except for a quote behind its first place.
-/

namespace RepoFeed

structure MediaType where
  kind : List Char
  subkind : List Char
  parameters : List (List Char × List Char)
deriving DecidableEq, Repr

namespace MediaType

def isTokenChar (c : Char) : Bool :=
  c.isAlphanum || "!#$%&'*+-.^_`|~".toList.contains c

def isQuotable (c : Char) : Bool :=
  0x1F < c.toNat && c != '\x7F'

/-- Cuts a value in quotes from what follows the opening quote.  A quote in the
first place is part of the value. -/
def quotedValue? (text : List Char) : Option (List Char × List Char) :=
  match text with
  | [] => none
  | first :: rest =>
    let value := rest.takeWhile (· != '"')
    match rest.dropWhile (· != '"') with
    | [] => none
    | _ :: behind =>
      if (first :: value).all isQuotable then some (first :: value, behind) else none

/-- What follows a value in quotes: blanks, and then a semicolon or the end. -/
def behindQuotes? (text : List Char) : Option (List Char) :=
  match text.dropWhile (· == ' ') with
  | [] => some []
  | ';' :: rest => some rest
  | _ => none

/-- A value and what follows it.  Only at the end can a bare value be empty. -/
def value? (text : List Char) : Option (List Char × List Char) :=
  match text with
  | '"' :: text => do
    let (value, rest) ← quotedValue? text
    return (value, ← behindQuotes? rest)
  | _ =>
    let value := text.takeWhile isTokenChar
    match text.dropWhile isTokenChar with
    | [] => some (value, [])
    | ';' :: rest => if value.isEmpty then none else some (value, rest)
    | _ => none

/-- Reads parameters; each of them takes a character at least. -/
def parametersWithin : (steps : Nat) → List Char → Option (List (List Char × List Char))
  | 0, _ => some []
  | steps + 1, text =>
    match text.dropWhile (· == ' ') with
    | [] => some []
    | text =>
      let name := text.takeWhile isTokenChar
      match text.dropWhile isTokenChar with
      | '=' :: rest =>
        if name.isEmpty then none
        else do
          let (value, rest) ← value? rest
          return (name, value) :: (← parametersWithin steps rest)
      | _ => none

def parameters? (text : List Char) : Option (List (List Char × List Char)) :=
  parametersWithin text.length text

/-- Reads a media type.  Only a semicolon parts the parameters off, right behind
the second token. -/
def parse? (text : List Char) : Option MediaType :=
  let kind := text.takeWhile isTokenChar
  match text.dropWhile isTokenChar with
  | '/' :: text =>
    let subkind := text.takeWhile isTokenChar
    if kind.isEmpty ∨ subkind.isEmpty then none
    else
      match text.dropWhile isTokenChar with
      | [] => some ⟨kind, subkind, []⟩
      | ';' :: rest => (parameters? rest).map (⟨kind, subkind, ·⟩)
      | _ => none
  | _ => none

/-- The value of the first parameter of a name, which is given in lower case. -/
def parameter? (mediaType : MediaType) (name : String) : Option String :=
  (mediaType.parameters.find? (·.1.map Char.toLower == name.toList)).map fun (_, value) =>
    String.ofList value

end MediaType
end RepoFeed
