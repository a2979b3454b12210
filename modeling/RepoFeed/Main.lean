import RepoFeed.CommandLine.Program
import Std.Time.Zoned.Database

/-
The program.

What a run can look at is loaded from the disk first, the run itself is a
function, and what it changed is then written back.  No transport is linked in:
a request goes unanswered, so that only a cached feed can be shown.  Accounts are not
looked up, so the home directory is the one that is set.
-/

namespace RepoFeed
namespace Main

open Storage (Entry FileSystem Place)

def textOf (place : Place) : String :=
  "/" ++ "/".intercalate place

/-- The places along a route. -/
def trail : Place → List String → List Place
  | _, [] => []
  | place, name :: names =>
    let next := if name = ".." then place.dropLast else place ++ [name]
    next :: trail next names

/-- The paths that a run reads or writes. -/
def paths (invocation : CommandLine.Invocation) : List Storage.Path :=
  match CommandLine.parse invocation.words with
  | .error _ => []
  | .ok options =>
    let entry := (options.cacheAt invocation.environment).map fun directory =>
      Storage.entryPath directory options.cacheKey
    let files := entry.toList ++ (options.output.map Storage.Path.mk).toList
    files ++ files.map Storage.TextFile.standIn

/-- What stands at a place on the disk. -/
def loadEntry (place : Place) : IO (Option Entry) := do
  try
    return some (.file (← IO.FS.readBinFile (textOf place)).toList)
  catch
    | .noFileOrDirectory .. => return none
    | .permissionDenied file code details => throw (.permissionDenied file code details)
    | _ => return some .directory

/-- Loads the places along a route, as far as they exist. -/
def loadTrail (fs : FileSystem) : List Place → IO FileSystem
  | [] => return fs
  | place :: places => do
    match ← loadEntry place with
    | none => return fs
    | some (.file content) => return fs.put place (.file content)
    | some .directory => loadTrail (fs.put place .directory) places

def load (invocation : CommandLine.Invocation) (current : Place) : IO FileSystem := do
  let start : FileSystem := { entries := [], current }
  let start ← loadTrail start (trail [] current)
  (paths invocation).foldlM
    (fun fs path => loadTrail fs (trail (fs.start path.isAbsolute) path.names)) start

/-- Puts a file in place of what is on the disk. -/
def publish (place : Place) (content : Utf8.Octets) : IO Unit := do
  let path := textOf place
  let standIn := (Storage.TextFile.standIn ⟨path⟩).text
  IO.FS.writeBinFile standIn ⟨content.toArray⟩
  IO.FS.rename standIn path

/-- Writes back what differs between two states. -/
def save (before after : FileSystem) : IO Unit := do
  for (place, entry) in after.entries.reverse do
    if before.at? place ≠ some entry then
      match entry with
      | .directory => IO.FS.createDir (textOf place)
      | .file content => publish place content
  for (place, _) in before.entries do
    if after.at? place = none then IO.FS.removeFile (textOf place)

/-- How many seconds local time is ahead of UTC at a second of UTC; where no zone is set
up, local time is UTC. -/
def localZone : IO (Int → Int) := do
  try
    let rules ← Std.Time.Database.defaultGetLocalZoneRules
    return fun second =>
      (rules.timezoneAt (.ofSecondsSinceUnixEpoch (.ofInt second))).offset.second.val
  catch _ => return fun _ => 0

end Main
end RepoFeed

open RepoFeed CommandLine in
/-- Runs with the words of the command line. -/
def main (words : List String) : IO UInt32 := do
  let now ← Std.Time.Timestamp.now
  let invocation : Invocation := {
    words
    environment := {
      home := ← IO.getEnv "HOME"
      accountHome := none
      cacheHome := ← IO.getEnv "XDG_CACHE_HOME"
      token := ← IO.getEnv "GITHUB_TOKEN"
      logFilter := ← IO.getEnv "RUST_LOG" }
    clock := now.toMillisecondsSinceUnixEpoch.val
    zone := ← RepoFeed.Main.localZone
    output := .boundless
    clientFault := none
    reply := none }
  let current := Storage.Path.names ⟨(← IO.currentDir).toString⟩
  let files ← RepoFeed.Main.load invocation current
  let result := run invocation files
  RepoFeed.Main.save files result.files
  (← IO.getStdout).write ⟨result.output.toArray⟩
  for line in result.log do IO.eprintln line
  return UInt32.ofNat result.code
