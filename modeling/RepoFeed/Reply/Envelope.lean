import RepoFeed.Json.Schema

/-
The document inside a wrapped reply.

A script that loads a reply sees neither status nor headers, so the document
carries them: `meta` has the status and the quota, `data` has the body proper.
What `data` has to be depends on the status, so it is kept as any value.
-/

namespace RepoFeed

open Json (Schema Field Record Value needed)

/-- Status and quota of a reply.  The quota is text, as in a header. -/
structure ReplyInfo where
  status : Int
  limit : Option String
  remaining : Option String
  reset : Option String
deriving DecidableEq, Repr

namespace ReplyInfo

structure Draft where
  status : Option Int := none
  limit : Option (Option String) := none
  remaining : Option (Option String) := none
  reset : Option (Option String) := none

/-- In an object the quota may be missing; in a list it may only be null. -/
def record : Record Draft ReplyInfo where
  name := "JsonpMeta"
  fields := [
    { name := "status", isSet := (·.status.isSome), hasDefault := false,
      schema := Schema.natural16.map fun n d => { d with status := some n } },
    { name := "X-RateLimit-Limit", isSet := (·.limit.isSome), hasDefault := false,
      schema := (Schema.optional .text).map fun s d => { d with limit := some s } },
    { name := "X-RateLimit-Remaining", isSet := (·.remaining.isSome), hasDefault := false,
      schema := (Schema.optional .text).map fun s d => { d with remaining := some s } },
    { name := "X-RateLimit-Reset", isSet := (·.reset.isSome), hasDefault := false,
      schema := (Schema.optional .text).map fun s d => { d with reset := some s } }]
  blank := {}
  complete d := return {
    status := ← needed "status" d.status
    limit := d.limit.getD none
    remaining := d.remaining.getD none
    reset := d.reset.getD none }

end ReplyInfo

structure Envelope where
  info : ReplyInfo
  data : Value
deriving DecidableEq, Repr

namespace Envelope

structure Draft where
  info : Option ReplyInfo := none
  data : Option Value := none

def record : Record Draft Envelope where
  name := "JsonpEnvelope"
  fields := [
    { name := "meta", isSet := (·.info.isSome), hasDefault := false,
      schema := ReplyInfo.record.schema.map fun m d => { d with info := some m } },
    { name := "data", isSet := (·.data.isSome), hasDefault := false,
      schema := Schema.anything.map fun v d => { d with data := some v } }]
  blank := {}
  complete d := return { info := ← needed "meta" d.info, data := ← needed "data" d.data }

/-- The message in the data of an error, or the empty text. -/
def message (envelope : Envelope) : String :=
  match envelope.data.member? "message" with
  | some (.text s) => s
  | _ => ""

end Envelope
end RepoFeed
