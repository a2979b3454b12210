import RepoFeed.Activity.Event
import RepoFeed.Json.Printer
import RepoFeed.Json.Schema
import RepoFeed.Time.Stamp

/-
The JSON form of repository activity.

The payload of an event is read as any value first, because its shape depends
on the type, which may come later.  The type is not stored: it follows from the
kind of the event.  Payloads that are written have their members sorted by name,
as a payload that is kept unread has.
-/

namespace RepoFeed

open Json (Schema Field Record Value needed)

/-- A date stamp. -/
def Time.Instant.schema : Schema Time.Instant :=
  .textual .date fun s => (Time.Instant.parse s).mapError .badDate

/-! ## Actors -/

namespace Actor

structure Draft where
  login : Option String := none

def record : Record Draft Actor where
  name := "Actor"
  fields := [
    { name := "login", isSet := (·.login.isSome), hasDefault := false,
      schema := Schema.text.map fun s d => { d with login := some s } }]
  blank := {}
  complete d := return { login := ← needed "login" d.login }

def toJson (actor : Actor) : Value :=
  .object [("login", .text actor.login)]

end Actor

/-! ## Payloads -/

namespace Commit

structure Draft where
  sha : Option String := none
  message : Option String := none

def record : Record Draft Commit where
  name := "Commit"
  fields := [
    { name := "sha", isSet := (·.sha.isSome), hasDefault := false,
      schema := Schema.text.map fun s d => { d with sha := some s } },
    { name := "message", isSet := (·.message.isSome), hasDefault := false,
      schema := Schema.text.map fun s d => { d with message := some s } }]
  blank := {}
  complete d := return { sha := ← needed "sha" d.sha, message := ← needed "message" d.message }

def toJson (commit : Commit) : Value :=
  .object [("message", .text commit.message), ("sha", .text commit.sha)]

end Commit

namespace Push

structure Draft where
  ref : Option String := none
  commits : Option (List Commit) := none

/-- A push without a list of commits has none. -/
def record : Record Draft Push where
  name := "PushPayload"
  fields := [
    { name := "ref", isSet := (·.ref.isSome), hasDefault := false,
      schema := Schema.text.map fun s d => { d with ref := some s } },
    { name := "commits", isSet := (·.commits.isSome), hasDefault := true,
      schema := (Schema.listOf Commit.record.schema).map fun cs d =>
        { d with commits := some cs } }]
  blank := {}
  complete d := return { ref := ← needed "ref" d.ref, commits := d.commits.getD [] }

def toJson (push : Push) : Value :=
  .object [("commits", .list (push.commits.map Commit.toJson)), ("ref", .text push.ref)]

end Push

namespace Creation

structure Draft where
  ref : Option (Option String) := none
  refType : Option String := none

/-- A missing ref is as good as null. -/
def record : Record Draft Creation where
  name := "CreatePayload"
  fields := [
    { name := "ref", isSet := (·.ref.isSome), hasDefault := true,
      schema := (Schema.optional .text).map fun s d => { d with ref := some s } },
    { name := "ref_type", isSet := (·.refType.isSome), hasDefault := false,
      schema := Schema.text.map fun s d => { d with refType := some s } }]
  blank := {}
  complete d := return { ref := d.ref.getD none, refType := ← needed "ref_type" d.refType }

def toJson (creation : Creation) : Value :=
  .object [
    ("ref", match creation.ref with
      | some ref => .text ref
      | none => .null),
    ("ref_type", .text creation.refType)]

end Creation

/-! ## Events -/

namespace Event

/-- An event whose payload has not been looked at. -/
structure Raw where
  type : String
  actor : Actor
  createdAt : Time.Instant
  payload : Value

namespace Raw

structure Draft where
  type : Option String := none
  actor : Option Actor := none
  createdAt : Option Time.Instant := none
  payload : Option Value := none

/-- A missing payload is null. -/
def record : Record Draft Raw where
  name := "RawEvent"
  fields := [
    { name := "type", isSet := (·.type.isSome), hasDefault := false,
      schema := Schema.text.map fun s d => { d with type := some s } },
    { name := "actor", isSet := (·.actor.isSome), hasDefault := false,
      schema := Actor.record.schema.map fun a d => { d with actor := some a } },
    { name := "created_at", isSet := (·.createdAt.isSome), hasDefault := false,
      schema := Time.Instant.schema.map fun t d => { d with createdAt := some t } },
    { name := "payload", isSet := (·.payload.isSome), hasDefault := true,
      schema := Schema.anything.map fun v d => { d with payload := some v } }]
  blank := {}
  complete d := return {
    type := ← needed "type" d.type
    actor := ← needed "actor" d.actor
    createdAt := ← needed "created_at" d.createdAt
    payload := d.payload.getD .null }

/-- Looks at the payload, as the type demands. -/
def interpret (raw : Raw) : Except Json.Fault Event := do
  let kind ←
    if raw.type = pushType then Kind.push <$> Push.record.ofValue raw.payload
    else if raw.type = createType then Kind.create <$> Creation.record.ofValue raw.payload
    else .ok (.other raw.type raw.payload)
  return { actor := raw.actor, createdAt := raw.createdAt, kind }

end Raw

def schema : Schema Event :=
  Raw.record.schema.refine Raw.interpret

def Kind.payload : Kind → Value
  | .push p => p.toJson
  | .create c => c.toJson
  | .other _ payload => payload

def toJson (event : Event) : Value :=
  .object [
    ("type", .text event.kind.type),
    ("actor", event.actor.toJson),
    ("created_at", .text event.createdAt.render),
    ("payload", event.kind.payload)]

def listSchema : Schema (List Event) :=
  .listOf schema

def listToJson (events : List Event) : Value :=
  .list (events.map toJson)

end Event

/-! ## Feeds -/

/-- A list of events under the name `data`. -/
structure Feed where
  events : List Event
deriving DecidableEq, Repr

namespace Feed

structure Draft where
  events : Option (List Event) := none

def record : Record Draft Feed where
  name := "EventFeed"
  fields := [
    { name := "data", isSet := (·.events.isSome), hasDefault := false,
      schema := Event.listSchema.map fun es d => { d with events := some es } }]
  blank := {}
  complete d := return { events := ← needed "data" d.events }

def toJson (feed : Feed) : Value :=
  .object [("data", Event.listToJson feed.events)]

end Feed
end RepoFeed
