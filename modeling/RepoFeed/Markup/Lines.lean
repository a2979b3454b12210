import RepoFeed.Activity.Event
import RepoFeed.Markup.Excerpt
import RepoFeed.Markup.Links

/-
The lines of a feed.

An event contributes lines in its own right; the feed takes lines from the
events in order until it is full.  What a line says and how it is written are
apart, so that the limits can be stated without markup.
-/

namespace RepoFeed
namespace Markup

inductive Line where
  | pushed (login ref : String) (createdAt : Time.Instant)
  | created (login : String) (creation : Creation) (createdAt : Time.Instant)
  | commit (commit : Commit)
  | furtherCommits (count : Nat)
deriving DecidableEq, Repr

/-- How many lines a feed has at most. -/
def lineLimit : Nat := 5

/-- How many commits of a push are listed. -/
def commitLimit : Nat := 3

/-- Lines for commits of which `room` may still be listed; the others are
counted in a line of their own. -/
def commitLines : (room : Nat) → List Commit → List Line
  | _, [] => []
  | 0, commits => [.furtherCommits commits.length]
  | room + 1, c :: commits => .commit c :: commitLines room commits

/-- All lines of an event. -/
def eventLines (event : Event) : List Line :=
  match event.kind with
  | .push push =>
    .pushed event.actor.login push.ref event.createdAt :: commitLines commitLimit push.commits
  | .create creation => [.created event.actor.login creation event.createdAt]
  | .other .. => []

/-- The lines of events in a feed with `room` left.  Events behind the line that
fills it are not looked at. -/
def fill : (room : Nat) → List Event → List Line
  | 0, _ => []
  | _ + 1, [] => []
  | room + 1, event :: events =>
    let lines := (eventLines event).take (room + 1)
    lines ++ fill (room + 1 - lines.length) events

/-! ## Writing lines -/

/-- From where and for which repository a feed is seen. -/
structure View where
  repository : Repository
  now : LocalTime

/-- What has been created: a branch as a link, else the ref if there is one. -/
def creationLabel (repository : Repository) (creation : Creation) : String :=
  let ref := creation.ref.getD ""
  if creation.isBranch then branchLink repository ref else ref

def summary (view : View) (login description : String) (createdAt : Time.Instant) :
    Except Panic String := do
  let date ← eventDate createdAt view.now
  return "<li>" ++ anchor (userUrl login) login ++ " " ++ description ++
    " <span class=\"date\">" ++ date ++ "</span></li>"

def Line.render (view : View) : Line → Except Panic String
  | .pushed login ref t => summary view login ("pushed to " ++ refLabel view.repository ref) t
  | .created login creation t =>
    summary view login
      ("created " ++ creation.refType ++ " " ++ creationLabel view.repository creation) t
  | .commit c =>
    .ok ("<li class=\"commit\">" ++ anchor (commitUrl view.repository c.sha) (shortSha c.sha) ++
      " " ++ commitMessage c.message ++ "</li>")
  | .furtherCommits count => .ok ("and " ++ toString count ++ " more commits")

/-- The written lines of a feed.  Only the first line of an event has a date, so the
lines that are cut off could all have been written. -/
def project (view : View) (events : List Event) : Except Panic (List String) :=
  (fill lineLimit events).mapM (·.render view)

/-- The markup of a feed: its lines, each on a line of text. -/
def container : (lines : List String) → String
  | [] => ""
  | [line] => line
  | line :: lines => line ++ "\n" ++ container lines

/-- The markup of events. -/
def page (view : View) (events : List Event) : Except Panic String :=
  (project view events).map container

end Markup
end RepoFeed
