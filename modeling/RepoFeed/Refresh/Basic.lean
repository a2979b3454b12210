import RepoFeed.Markup.Lines
import RepoFeed.Refresh.Cache
import RepoFeed.Refresh.Target
import RepoFeed.Request.Exchange

/-
Refreshing a feed.

A fresh snapshot is shown and nothing is asked for.  A stale one is shown where
it can be replaced, so that the target is not empty while the reply is awaited;
then, as without a snapshot, the events are asked for, shown and stored.  The
cache is written last, so that whatever fails before leaves it as it was.  A page
that cannot be written is a panic, and the refresh stops there.
-/

namespace RepoFeed

/-- What stays the same from one refresh to the next. -/
structure Refresher (σ : Type) where
  cache : Cache σ
  target : Target σ
  view : Markup.View
  endpoint : Endpoint
  token : Token

/-- How a feed came to be up to date. -/
inductive Freshening where
  | cached
  | fetched
deriving DecidableEq, Repr

/-- Why a refresh does not come to its end: a problem, which it reports to its caller, or
a panic, which leaves nobody to report to. -/
inductive Setback where
  | problem (problem : Problem)
  | panic (panic : Panic)
deriving DecidableEq, Repr

/-- What a refresh did and what it left behind. -/
structure Refreshed (σ : Type) where
  result : Except Setback Freshening
  state : σ
  quota : Quota
  /-- The markups that the target accepted, in order. -/
  shown : List String
  requests : List Request
  notices : List Notice

namespace Refresher

variable {σ : Type}

/-- Writes the page of events and shows it. -/
def render (r : Refresher σ) (state : σ) (events : List Event) : σ × Except Setback String :=
  match Markup.page r.view events with
  | .error panic => (state, .error (.panic panic))
  | .ok markup =>
    match r.target.display state markup with
    | (state, .error problem) => (state, .error (.problem problem))
    | (state, .ok ()) => (state, .ok markup)

/-- Asks for the events, shows them and stores them, after `shown` and
`notices`. -/
def fetch (r : Refresher σ) (clock : Int) (reply : Reply) (quota : Quota) (state : σ)
    (shown : List String) (notices : List Notice) : Refreshed σ :=
  let outcome := Exchange.hear r.endpoint quota reply
  let requests := [r.endpoint.request r.token]
  let notices := notices ++ Exchange.notices r.endpoint outcome
  match outcome.result with
  | .error problem =>
    { result := .error (.problem problem), state, quota := outcome.quota, shown, requests,
      notices }
  | .ok events =>
    match r.render state events with
    | (state, .error setback) =>
      { result := .error setback, state, quota := outcome.quota, shown, requests, notices }
    | (state, .ok markup) =>
      let (state, saving) := r.cache.save events clock state
      { result := .ok .fetched, state, quota := outcome.quota, shown := shown ++ [markup],
        requests, notices := notices ++ saving }

/-- Refreshes once; `reply` is what comes back if the events are asked for. -/
def refresh (r : Refresher σ) (clock : Int) (reply : Reply) (quota : Quota) (state : σ) :
    Refreshed σ :=
  match r.cache.load clock state with
  | (none, notices) => r.fetch clock reply quota state [] (notices ++ [.cacheMiss])
  | (some cached, notices) =>
    if cached.isFresh ∨ r.target.replaces then
      match r.render state cached.events with
      | (state, .error setback) =>
        { result := .error setback, state, quota, shown := [], requests := [], notices }
      | (state, .ok markup) =>
        if cached.isFresh then
          { result := .ok .cached, state, quota, shown := [markup], requests := [],
            notices := notices ++ [.cacheHit cached.age] }
        else
          r.fetch clock reply quota state [markup] (notices ++ [.cacheStale cached.age])
    else r.fetch clock reply quota state [] (notices ++ [.cacheStale cached.age])

end Refresher
end RepoFeed
