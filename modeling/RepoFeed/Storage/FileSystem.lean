import RepoFeed.Storage.Fault
import RepoFeed.Storage.Path
import RepoFeed.Text.Utf8

/-
A file system without links.

Places are lists of names from the root; what stands there is a file or a
directory.  Only a place whose parent is a directory can be reached, so a state
needs no invariant to make sense.  All operations take paths and resolve them
piece by piece, as a kernel does: every piece but the last has to lead to a
directory.
-/

namespace RepoFeed
namespace Storage

/-- The names on the way from the root. -/
abbrev Place := List String

inductive Entry where
  | file (content : Utf8.Octets)
  | directory
deriving DecidableEq, Repr

structure FileSystem where
  entries : List (Place × Entry)
  /-- Where relative paths start. -/
  current : Place
deriving Repr

namespace FileSystem

/-! ## Entries by place -/

/-- What stands at a place. -/
def at? (fs : FileSystem) (place : Place) : Option Entry :=
  if place = [] then some .directory
  else (fs.entries.find? (·.1 == place)).map (·.2)

def put (fs : FileSystem) (place : Place) (entry : Entry) : FileSystem :=
  { fs with entries := (place, entry) :: fs.entries.filter (·.1 != place) }

def remove (fs : FileSystem) (place : Place) : FileSystem :=
  { fs with entries := fs.entries.filter (·.1 != place) }

/-! ## Resolving paths -/

/-- How many octets a text takes. -/
def octetCount (text : String) : Nat :=
  (Utf8.encode text.toList).length

/-- How many octets a name may have. -/
def longestName : Nat := 255

/-- How many octets a path may have, all of its slashes counted. -/
def longestPath : Nat := 4095

/-- Goes from a directory to one of its entries, which need not exist. -/
def child (fs : FileSystem) (directory : Place) (piece : String) : Except Fault Place :=
  match fs.at? directory with
  | none => .error .missing
  | some (.file _) => .error .notDirectory
  | some .directory =>
    if piece = "." then .ok directory
    else if piece = ".." then .ok directory.dropLast
    else if longestName < octetCount piece then .error .nameTooLong
    else .ok (directory ++ [piece])

/-- Goes along pieces, all of which but the last have to exist. -/
def walk (fs : FileSystem) : (start : Place) → (pieces : List String) → Except Fault Place
  | place, [] => .ok place
  | place, piece :: pieces => do walk fs (← fs.child place piece) pieces

def start (fs : FileSystem) (isAbsolute : Bool) : Place :=
  if isAbsolute then [] else fs.current

/-- A path inside the system: where it starts, its pieces, whether it asks for a
directory, and how many octets it is written in. -/
structure Route where
  isAbsolute : Bool
  pieces : List String
  endsInSlash : Bool
  length : Nat
deriving DecidableEq, Repr

namespace Route

def ofPath (path : Path) : Route :=
  ⟨path.isAbsolute, path.pieces, path.endsInSlash, octetCount path.text⟩

/-- The route along names that is written without anything that it could do
without. -/
def ofNames (isAbsolute : Bool) (names : List String) : Route :=
  let length := names.foldr (fun name rest => 1 + octetCount name + rest) 0
  ⟨isAbsolute, names, false, if isAbsolute then length else length - 1⟩

/-- The route to the directory that holds a path's last name. -/
def parent (path : Path) : Route :=
  { ofNames path.isAbsolute path.names.dropLast with length := octetCount path.parent.text }

def hasNul (route : Route) : Bool :=
  route.pieces.any (·.toList.contains '\x00')

/-- Why a system does not even begin to follow a route. -/
def fault? (route : Route) : Option Fault :=
  if route.hasNul then some .nulInName
  else if longestPath < route.length then some .nameTooLong
  else none

end Route

/-- The place a route leads to, whether or not something stands there. -/
def locate (fs : FileSystem) (route : Route) : Except Fault Place :=
  match route.fault? with
  | some fault => .error fault
  | none =>
    if route.pieces.isEmpty ∧ !route.isAbsolute then .error .missing
    else fs.walk (fs.start route.isAbsolute) route.pieces

/-- Whether the last piece of a route is a name of its own and not `.`, `..` or
the root. -/
def Route.endsInName (route : Route) : Bool :=
  match route.pieces.getLast? with
  | some piece => piece != "." && piece != ".."
  | none => false

/-- What a route leads to. -/
def lookup (fs : FileSystem) (route : Route) : Except Fault Entry := do
  match fs.at? (← fs.locate route) with
  | none => .error .missing
  | some (.file content) => if route.endsInSlash then .error .notDirectory else .ok (.file content)
  | some .directory => .ok .directory

def isDirectory (fs : FileSystem) (route : Route) : Bool :=
  match fs.lookup route with
  | .ok .directory => true
  | _ => false

/-! ## Changing the system -/

/-- Makes a directory in a directory that exists. -/
def makeDirectory (fs : FileSystem) (route : Route) : Except Fault FileSystem := do
  let place ← fs.locate route
  if !route.endsInName then .error .exists
  else
    match fs.at? place with
    | some _ => .error .exists
    | none => .ok (fs.put place .directory)

/-- Makes a directory and, before it, the directories it needs, given the names
of the route from the last to the first.  Directories made before a fault
stay. -/
def makeDirectories (fs : FileSystem) (isAbsolute : Bool) :
    (lastFirst : List String) → FileSystem × Except Fault Unit
  | [] => (fs, .ok ())
  | name :: before =>
    let route := Route.ofNames isAbsolute (name :: before).reverse
    match fs.makeDirectory route with
    | .ok fs => (fs, .ok ())
    | .error .missing =>
      match fs.makeDirectories isAbsolute before with
      | (fs, .error fault) => (fs, .error fault)
      | (fs, .ok ()) =>
        match fs.makeDirectory route with
        | .ok fs => (fs, .ok ())
        | .error fault => (fs, if fs.isDirectory route then .ok () else .error fault)
    | .error fault => (fs, if fs.isDirectory route then .ok () else .error fault)

/-- Makes an empty file, or empties one that is there. -/
def create (fs : FileSystem) (route : Route) : Except Fault FileSystem := do
  let place ← fs.locate route
  if !route.endsInName ∨ route.endsInSlash then .error .isDirectory
  else
    match fs.at? place with
    | some .directory => .error .isDirectory
    | _ => .ok (fs.put place (.file []))

/-- Writes over the content of a file that is there, from its start; what is
longer than the new content stays behind it. -/
def fillFile (fs : FileSystem) (route : Route) (content : Utf8.Octets) :
    Except Fault FileSystem := do
  let place ← fs.locate route
  match fs.at? place with
  | none => .error .missing
  | some .directory => .error .isDirectory
  | some (.file old) => .ok (fs.put place (.file (content ++ old.drop content.length)))

/-- Moves a file to another place, where it displaces a file. -/
def rename (fs : FileSystem) (source target : Route) : Except Fault FileSystem := do
  let sourcePlace ← fs.locate source
  let targetPlace ← fs.locate target
  if !target.endsInName then .error .busy
  else
    match fs.at? sourcePlace with
    | none => .error .missing
    | some .directory => .error .isDirectory
    | some (.file content) =>
      if target.endsInSlash then .error .notDirectory
      else if sourcePlace = targetPlace then .ok fs
      else
        match fs.at? targetPlace with
        | some .directory => .error .isDirectory
        | _ => .ok ((fs.remove sourcePlace).put targetPlace (.file content))

end FileSystem
end Storage
end RepoFeed
