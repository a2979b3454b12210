import RepoFeed.Storage.FileSystem

/-
Text files.

A text file is written under a temporary name beside it and then moved into
place, so that a reader finds the old text or the new one.  The steps are values,
so that one can say what a file system looks like between them, and what two
writers do whose steps alternate.
-/

namespace RepoFeed
namespace Storage
namespace TextFile

/-- The file that stands in for a file while it is written. -/
def standIn (path : Path) : Path :=
  path.withExtension "tmp"

inductive Step where
  | makeParents
  | createStandIn
  | fillStandIn
  | syncStandIn
  | publish
deriving DecidableEq, Repr

/-- The steps of a write, in order. -/
def steps : List Step :=
  [.makeParents, .createStandIn, .fillStandIn, .syncStandIn, .publish]

/-- Keeps the state in which a step failed. -/
def attempt (fs : FileSystem) : Except Fault FileSystem → FileSystem × Except Fault Unit
  | .ok fs => (fs, .ok ())
  | .error fault => (fs, .error fault)

/-- Takes one step of writing `text` to `path`. -/
def Step.perform (path : Path) (text : List Char) (fs : FileSystem) :
    Step → FileSystem × Except Fault Unit
  | .makeParents =>
    let parent := FileSystem.Route.parent path
    match parent.fault? with
    | some fault => (fs, .error fault)
    | none => fs.makeDirectories parent.isAbsolute parent.pieces.reverse
  | .createStandIn => attempt fs (fs.create (.ofPath (standIn path)))
  | .fillStandIn => attempt fs (fs.fillFile (.ofPath (standIn path)) (Utf8.encode text))
  | .syncStandIn => (fs, .ok ())
  | .publish => attempt fs (fs.rename (.ofPath (standIn path)) (.ofPath path))

/-- Takes steps up to the first that fails. -/
def run (path : Path) (text : List Char) :
    FileSystem → List Step → FileSystem × Except Fault Unit
  | fs, [] => (fs, .ok ())
  | fs, step :: steps =>
    match step.perform path text fs with
    | (fs, .ok ()) => run path text fs steps
    | (fs, .error fault) => (fs, .error fault)

/-- Writes a text to a file, with the directories that it needs. -/
def write (fs : FileSystem) (path : Path) (text : String) : FileSystem × Except Fault Unit :=
  run path text.toList fs steps

/-- The text of a file, unless nothing is there. -/
def read (fs : FileSystem) (path : Path) : Except Fault (Option String) :=
  match fs.lookup (.ofPath path) with
  | .error _ => .ok none
  | .ok .directory => .error .isDirectory
  | .ok (.file content) =>
    match Utf8.decode? content with
    | some text => .ok (some (String.ofList text))
    | none => .error .notText

end TextFile
end Storage
end RepoFeed
