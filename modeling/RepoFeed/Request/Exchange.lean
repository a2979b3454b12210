import RepoFeed.Activity.Codec
import RepoFeed.Notice
import RepoFeed.Reply.Envelope
import RepoFeed.Reply.Quota
import RepoFeed.Reply.Response
import RepoFeed.Reply.Wrapper
import RepoFeed.Request.Endpoint

/-
One exchange with the server: a request, its reply, and what is made of it.

A reply speaks twice, once in its own status and headers and once in the
document that it wraps.  Both are heard in the same way: first the quota is
noted, then a status that is no success becomes a problem.
-/

namespace RepoFeed
namespace Exchange

/-- Statuses of a reply that has a body worth reading. -/
def isAnswered (status : Status) : Bool :=
  status.code == 200 || status.code == 201 || status.code == 202

/-- The problem that a status stands for. -/
def statusProblem (quota : Quota) (status : Status) (resource message : String) : Problem :=
  if status.code = 401 then .unauthorized
  else if status.code = 404 then .notFound resource
  else if status.code = 403 then
    if quota.remaining = 0 then .rateLimited quota.resetClock else .forbidden message
  else .failedStatus status message

def noteHeaders (quota : Quota) (response : Response) : Quota :=
  quota.note (response.header? "x-ratelimit-limit") (response.header? "x-ratelimit-remaining")
    (response.header? "x-ratelimit-reset")

def noteEnvelope (quota : Quota) (envelope : Envelope) : Quota :=
  quota.note envelope.info.limit envelope.info.remaining envelope.info.reset

/-- The document in the body of a reply. -/
def openEnvelope (body callback : String) : Except Problem Envelope := do
  let document ← (Wrapper.unwrap body.toList callback.toList).mapError .badWrapper
  (Envelope.record.schema.decode (String.ofList document)).mapError .badDocument

/-- The events in a document, with the quota as it is after the document. -/
def eventsOf (quota : Quota) (path : String) (envelope : Envelope) :
    Except Problem (List Event) :=
  match Status.ofCode? envelope.info.status with
  | none => .error (.badStatus envelope.info.status)
  | some status =>
    if status.isSuccess then (Event.listSchema.convert envelope.data).mapError .badDocument
    else .error (statusProblem quota status path envelope.message)

/-- What is known after an exchange. -/
structure Outcome where
  quota : Quota
  result : Except Problem (List Event)
deriving Repr

/-- Hears a reply. -/
def hear (endpoint : Endpoint) (quota : Quota) : Reply → Outcome
  | none => ⟨quota, .error (.unanswered endpoint.url)⟩
  | some response =>
    let quota := noteHeaders quota response
    if isAnswered response.status then
      match response.text? with
      | none => ⟨quota, .error .brokenBody⟩
      | some body =>
        match openEnvelope body endpoint.callback with
        | .error problem => ⟨quota, .error problem⟩
        | .ok envelope =>
          let quota := noteEnvelope quota envelope
          ⟨quota, eventsOf quota endpoint.path envelope⟩
    else
      ⟨quota, .error (statusProblem quota response.status
        (response.redirectedTo.getD endpoint.url) (response.text?.getD ""))⟩

/-- What an exchange reports. -/
def notices (endpoint : Endpoint) (outcome : Outcome) : List Notice :=
  .requesting endpoint.address ::
    match outcome.result with
    | .ok events => [.decoded events.length, .quota outcome.quota.remaining outcome.quota.limit]
    | .error _ => []

end Exchange
end RepoFeed
