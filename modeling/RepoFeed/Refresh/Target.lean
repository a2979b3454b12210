import RepoFeed.Problem
import RepoFeed.Storage.TextFile

/-
Where a feed is shown.
-/

namespace RepoFeed

/-- A target over states of type `σ`. -/
structure Target (σ : Type) where
  display : σ → (markup : String) → σ × Except Problem Unit
  /-- Whether a later markup takes the place of an earlier one.  If not, a
  refresh shows its final markup only. -/
  replaces : Bool

/-- Where an output goes.  It takes what it is given, or only the beginning of it. -/
structure Sink where
  /-- Tries to take octets behind those that have been taken before.  Along with a fault
  it says how many of them it has taken. -/
  take : (before octets : Utf8.Octets) → Except (Nat × Storage.Fault) Unit

namespace Sink

/-- A sink that takes everything. -/
def boundless : Sink := ⟨fun _ _ => .ok ()⟩

/-- Writes octets behind those that have been taken before. -/
def write (sink : Sink) (before octets : Utf8.Octets) :
    Utf8.Octets × Except Storage.Fault Unit :=
  match sink.take before octets with
  | .ok () => (before ++ octets, .ok ())
  | .error (count, fault) => (before ++ octets.take count, .error fault)

end Sink

namespace Target

/-- A file that holds the markup. -/
def file (path : Storage.Path) : Target Storage.FileSystem where
  display fs markup :=
    let (fs, outcome) := Storage.TextFile.write fs path markup
    (fs, outcome.mapError .storage)
  replaces := true

/-- A page of which one remembers all that it has shown. -/
def page : Target (List String) where
  display shown markup := (shown ++ [markup], .ok ())
  replaces := true

/-- The octets of a markup on lines of its own. -/
def lineOctets (markup : String) : Utf8.Octets :=
  Utf8.encode (markup ++ "\n").toList

/-- An output that goes on line by line and takes nothing back. -/
def stream (sink : Sink) : Target Utf8.Octets where
  display written markup :=
    let (written, outcome) := sink.write written (lineOctets markup)
    (written, outcome.mapError .storage)
  replaces := false

/-- The same target as part of a larger state. -/
def within {σ τ : Type} (target : Target σ) (view : τ → σ) (update : τ → σ → τ) : Target τ where
  display t markup :=
    let (s, outcome) := target.display (view t) markup
    (update t s, outcome)
  replaces := target.replaces

end Target
end RepoFeed
