import RepoFeed.Storage.TextFile

/-
Two writers of one file.

Programs that run at the same time write a file with the same stand-in and know
nothing of each other, so the steps of their writes come in any order.  A writer
that has made the stand-in keeps it open, and what it writes goes into the file that
it opened: into another place if that file has been moved there, and nowhere if
another file has displaced it.
-/

namespace RepoFeed
namespace Storage

inductive Side where
  | left
  | right
deriving DecidableEq, Repr

def Side.other : Side → Side
  | .left => .right
  | .right => .left

/-- Puts something else on one side. -/
def Side.set {α : Type} (side : Side) (value : α) (both : Side → α) : Side → α :=
  fun s => if s = side then value else both s

/-- Two writes under way. -/
structure Writers where
  files : FileSystem
  /-- The steps that each still has to take. -/
  ahead : Side → List TextFile.Step
  /-- Where the file lies that each has open, if it can be found. -/
  opened : Side → Option Place

namespace Writers

/-- The step that a writer takes in its next turn. -/
def next (w : Writers) (side : Side) : Option TextFile.Step :=
  (w.ahead side).head?

def start (fs : FileSystem) : Writers :=
  ⟨fs, fun _ => TextFile.steps, fun _ => none⟩

/-- Where a file lies once what was at one place has been moved to another. -/
def moved (origin goal place : Place) : Option Place :=
  if place = origin then some goal
  else if place = goal then none
  else some place

/-- Writes over the content of a file that is open. -/
def fill (fs : FileSystem) (content : Utf8.Octets) : (opened : Option Place) → FileSystem
  | none => fs
  | some place =>
    match fs.at? place with
    | some (.file old) => fs.put place (.file (content ++ old.drop content.length))
    | _ => fs

/-- Takes one step of a write whose file may have been moved since it was opened. -/
def perform (path : Path) (text : List Char) (fs : FileSystem) (opened : Option Place) :
    TextFile.Step → FileSystem × Except Fault Unit
  | .fillStandIn => (fill fs (Utf8.encode text) opened, .ok ())
  | step => step.perform path text fs

/-- Where the files lie that are open, once a step has been taken. -/
def reopened (path : Path) (w : Writers) (side : Side) : TextFile.Step → Side → Option Place
  | .createStandIn => side.set (w.files.locate (.ofPath (TextFile.standIn path))).toOption w.opened
  | .publish => fun s => do
    let origin ← (w.files.locate (.ofPath (TextFile.standIn path))).toOption
    let goal ← (w.files.locate (.ofPath path)).toOption
    moved origin goal (← w.opened s)
  | _ => w.opened

/-- One writer takes its next step.  It gives up when the step fails. -/
def turn (path : Path) (texts : Side → String) (w : Writers) (side : Side) : Writers :=
  match w.ahead side with
  | [] => w
  | step :: steps =>
    match perform path (texts side).toList w.files (w.opened side) step with
    | (files, .ok ()) => ⟨files, side.set steps w.ahead, reopened path w side step⟩
    | (files, .error _) => ⟨files, side.set [] w.ahead, w.opened⟩

/-- The writers take turns, in a given order. -/
def turns (path : Path) (texts : Side → String) (fs : FileSystem) (order : List Side) : Writers :=
  order.foldl (turn path texts) (start fs)

end Writers
end Storage
end RepoFeed
