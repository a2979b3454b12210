import RepoFeed.Text.Split

/-
Paths as they are written.

A path is a text.  Its pieces are what stands between slashes; empty pieces and
single dots say nothing and are left out where a path is taken apart into names.
The extension of a name is what follows its last dot, unless that dot is also
its first character.
-/

namespace RepoFeed
namespace Storage

structure Path where
  text : String
deriving DecidableEq, Repr

namespace Path

def isAbsolute (path : Path) : Bool :=
  path.text.toList.head? == some '/'

/-- The pieces of a path, without empty ones. -/
def pieces (path : Path) : List String :=
  ((Text.split (· == '/') path.text.toList).filter (! ·.isEmpty)).map String.ofList

/-- The pieces that name a place, `..` among them. -/
def names (path : Path) : List String :=
  path.pieces.filter (· != ".")

/-- Whether a path ends in a slash after a name. -/
def endsInSlash (path : Path) : Bool :=
  path.text.toList.getLast? == some '/'

/-- Appends a path to a directory; an absolute path stands on its own. -/
def join (directory : Path) (path : Path) : Path :=
  if path.isAbsolute ∨ directory.text = "" then path
  else if directory.endsInSlash then ⟨directory.text ++ path.text⟩
  else ⟨directory.text ++ "/" ++ path.text⟩

/-- The name of the file a path leads to, if it ends in one. -/
def fileName? (path : Path) : Option String :=
  match path.names.getLast? with
  | some name => if name = ".." then none else some name
  | none => none

/-! ## Extensions -/

/-- The part of a name before its last dot and the part behind it. -/
def splitName (name : List Char) : List Char × Option (List Char) :=
  if name.contains '.' then
    let extension := (name.reverse.takeWhile (· != '.')).reverse
    let stem := name.take (name.length - extension.length - 1)
    if stem.isEmpty then (name, none) else (stem, some extension)
  else (name, none)

def stem (name : List Char) : List Char :=
  (splitName name).1

def extension? (name : List Char) : Option (List Char) :=
  (splitName name).2

/-- A text without the slashes and single dots at its end. -/
def trimEnding (text : List Char) : List Char :=
  go text.reverse.length text.reverse
where
  go : Nat → List Char → List Char
    | steps + 1, '/' :: rest => go steps rest
    | steps + 1, '.' :: '/' :: rest => go steps ('/' :: rest)
    | _, text => text.reverse

/-- The path of the directory that holds a path's last name. -/
def parent (path : Path) : Path :=
  match path.names.getLast? with
  | none => ⟨""⟩
  | some name =>
    let start := trimEnding path.text.toList
    let before := trimEnding (start.take (start.length - name.length))
    if before.isEmpty ∧ path.isAbsolute then ⟨"/"⟩ else ⟨String.ofList before⟩

/-- A path with another extension of its file name. -/
def setExtension (path : Path) (extension : String) : Path :=
  match path.fileName? with
  | none => path
  | some name =>
    let name := name.toList
    let start := trimEnding path.text.toList
    let before := start.take (start.length - name.length)
    ⟨String.ofList (before ++ stem name) ++ "." ++ extension⟩

/-- The path of the file that stands in for a file while it is written.  The old
extension goes first, so of a name that is two dots and an extension only the
dots are left, and these name no file. -/
def withExtension (path : Path) (extension : String) : Path :=
  match path.fileName?.bind fun name => extension? name.toList with
  | none => path.setExtension extension
  | some old =>
    let text := path.text.toList
    Path.setExtension ⟨String.ofList (text.take (text.length - old.length))⟩ extension

end Path
end Storage
end RepoFeed
