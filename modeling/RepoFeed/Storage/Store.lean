import RepoFeed.Problem
import RepoFeed.Storage.TextFile

/-
Stores of texts under keys.

A store works on a state of any type, so that one refresh can be run over
entries in memory, over files, or over something that fails.  The files of a
store are named after their keys, with every character that a file name should
not have replaced by the same other one.
-/

namespace RepoFeed
namespace Storage

/-- A store over states of type `σ`.  A failed write may still have changed the
state. -/
structure Store (σ : Type) where
  get : σ → (key : String) → Except Problem (Option String)
  set : σ → (key value : String) → σ × Except Problem Unit

/-! ## Entries in memory -/

/-- Texts by key; each key occurs once. -/
abbrev Entries := List (String × String)

namespace Entries

def get? (entries : Entries) (key : String) : Option String :=
  (entries.find? (·.1 == key)).map (·.2)

def insert (entries : Entries) (key value : String) : Entries :=
  (key, value) :: entries.filter (·.1 != key)

end Entries

def memoryStore : Store Entries where
  get entries key := .ok (entries.get? key)
  set entries key value := (entries.insert key value, .ok ())

/-! ## Files -/

/-- Characters that a file name should not have. -/
def isProblematic (c : Char) : Bool :=
  ['/', '\\', ':', '*', '?', '"', '<', '>', '|'].contains c

def sanitize (key : String) : String :=
  String.ofList (key.toList.map fun c => if isProblematic c then '_' else c)

def entryName (key : String) : String :=
  sanitize key ++ ".json"

/-- The file that holds the value of a key. -/
def entryPath (directory : Path) (key : String) : Path :=
  directory.join ⟨entryName key⟩

def fileStore (directory : Path) : Store FileSystem where
  get fs key := (TextFile.read fs (entryPath directory key)).mapError .storage
  set fs key value :=
    let (fs, outcome) := TextFile.write fs (entryPath directory key) value
    (fs, outcome.mapError .storage)

/-! ## No access -/

/-- A store that refuses everything. -/
def brokenStore {σ : Type} (problem : Problem) : Store σ where
  get _ _ := .error problem
  set s _ _ := (s, .error problem)

/-- The same store as part of a larger state. -/
def Store.within {σ τ : Type} (store : Store σ) (view : τ → σ) (update : τ → σ → τ) :
    Store τ where
  get t key := store.get (view t) key
  set t key value :=
    let (s, outcome) := store.set (view t) key value
    (update t s, outcome)

end Storage
end RepoFeed
