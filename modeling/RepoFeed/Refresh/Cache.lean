import RepoFeed.Activity.Snapshot
import RepoFeed.Json.Printer
import RepoFeed.Notice
import RepoFeed.Number.Word
import RepoFeed.Storage.Store

/-
The cache of a feed.

A cache keeps one snapshot under one key of a store.  It never fails: whatever
keeps a snapshot from being read is noted and counts as having none, and a
snapshot that could not be stored is noted and forgotten.
-/

namespace RepoFeed

/-- Without a store nothing is ever cached. -/
structure Cache (σ : Type) where
  store : Option (Storage.Store σ)
  key : String

/-- A snapshot as it was found. -/
structure Cached where
  events : List Event
  /-- Milliseconds since it was stored; negative if that lies ahead. -/
  age : Int
deriving DecidableEq, Repr

/-- For how many milliseconds a snapshot is fresh. -/
def freshness : Int := 30000

/-- A snapshot from the future is not fresh. -/
def isFreshAge (age : Int) : Bool :=
  0 ≤ age && age ≤ freshness

namespace Cached

def isFresh (cached : Cached) : Bool :=
  isFreshAge cached.age

end Cached

namespace Cache

variable {σ : Type}

/-- Judges a stored text against the clock.  Without a feed or a time it is of
no use, and the time zero stands for none. -/
def judge (now : Int) (text : String) : Option Cached × List Notice :=
  match Snapshot.record.schema.decode text with
  | .error error => (none, [.cacheUnreadable error])
  | .ok snapshot =>
    match snapshot.feed, snapshot.storedAt with
    | some feed, some time =>
      let age := now - time
      if time = 0 then (none, [])
      else if Word.fitsSigned 64 age then (some ⟨feed.events, age⟩, [.cacheAge age])
      else (none, [.cacheTimeOutOfRange time])
    | _, _ => (none, [])

/-- Looks for a snapshot. -/
def load (cache : Cache σ) (now : Int) (state : σ) : Option Cached × List Notice :=
  match cache.store with
  | none => (none, [])
  | some store =>
    match store.get state cache.key with
    | .error problem => (none, [.cacheReadFailed problem])
    | .ok none => (none, [])
    | .ok (some text) => if text = "" then (none, []) else judge now text

/-- Stores a snapshot of events. -/
def save (cache : Cache σ) (events : List Event) (now : Int) (state : σ) : σ × List Notice :=
  match cache.store with
  | none => (state, [])
  | some store =>
    let text := (Snapshot.ofEvents events now).toJson.render
    match store.set state cache.key text with
    | (state, .ok ()) => (state, [])
    | (state, .error problem) => (state, [.cacheWriteFailed problem])

end Cache
end RepoFeed
