import RepoFeed.Activity.Codec

/-
The stored form of a feed.

A snapshot is a feed and the time at which it was stored.  Either may be missing
from a stored text; such a snapshot can be read but is of no use.
-/

namespace RepoFeed

structure Snapshot where
  feed : Option Feed
  /-- Milliseconds since 1970-01-01T00:00:00Z. -/
  storedAt : Option Int
deriving DecidableEq, Repr

namespace Snapshot

open Json (Schema Field Record Value)

structure Draft where
  feed : Option (Option Feed) := none
  storedAt : Option (Option Int) := none

def record : Record Draft Snapshot where
  name := "CachedSnapshot"
  fields := [
    { name := "input", isSet := (·.feed.isSome), hasDefault := true,
      schema := (Schema.optional Feed.record.schema).map fun f d => { d with feed := some f } },
    { name := "cachetime", isSet := (·.storedAt.isSome), hasDefault := true,
      schema := (Schema.optional .integer64).map fun t d => { d with storedAt := some t } }]
  blank := {}
  complete d := .ok { feed := d.feed.getD none, storedAt := d.storedAt.getD none }

def toJson (snapshot : Snapshot) : Value :=
  .object [
    ("input", match snapshot.feed with
      | some feed => feed.toJson
      | none => .null),
    ("cachetime", match snapshot.storedAt with
      | some time => .number (.whole time)
      | none => .null)]

/-- The snapshot of events stored at a time. -/
def ofEvents (events : List Event) (time : Int) : Snapshot :=
  ⟨some ⟨events⟩, some time⟩

end Snapshot
end RepoFeed
