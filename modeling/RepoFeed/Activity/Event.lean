import RepoFeed.Json.Value
import RepoFeed.Time.Instant

/-
Repository activity.

Pushes and creations are what a feed shows.  An event of any other type is kept
with its payload as it came, so that a stored list says no less than the list
that was received.
-/

namespace RepoFeed

structure Actor where
  login : String
deriving DecidableEq, Repr

structure Commit where
  sha : String
  message : String
deriving DecidableEq, Repr

/-- Commits pushed to a ref. -/
structure Push where
  ref : String
  commits : List Commit
deriving DecidableEq, Repr

/-- Something created: a branch, a tag, or a whole repository, which has no
ref. -/
structure Creation where
  ref : Option String
  refType : String
deriving DecidableEq, Repr

def Creation.isBranch (creation : Creation) : Bool :=
  creation.refType == "branch"

namespace Event

def pushType : String := "PushEvent"

def createType : String := "CreateEvent"

inductive Kind where
  | push (push : Push)
  | create (creation : Creation)
  | other (type : String) (payload : Json.Value)
deriving DecidableEq, Repr

def Kind.type : Kind → String
  | .push _ => pushType
  | .create _ => createType
  | .other type _ => type

end Event

structure Event where
  actor : Actor
  createdAt : Time.Instant
  kind : Event.Kind
deriving DecidableEq, Repr

end RepoFeed
