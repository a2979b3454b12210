import RepoFeed.Problem

/-
What a refresh reports about itself.

A notice says what happened; its level, the part of the program that it comes
from and its wording follow from that.
-/

namespace RepoFeed

inductive Level where
  | error | warn | info | debug | trace
deriving DecidableEq, Repr

namespace Level

/-- Finer levels have greater ranks. -/
def rank : Level → Nat
  | .error => 1
  | .warn => 2
  | .info => 3
  | .debug => 4
  | .trace => 5

def label : Level → String
  | .error => "ERROR"
  | .warn => "WARN"
  | .info => "INFO"
  | .debug => "DEBUG"
  | .trace => "TRACE"

end Level

inductive Notice where
  | usingCache (directory : String)
  | cacheDisabled
  | cacheReadFailed (problem : Problem)
  | cacheUnreadable (error : Json.Error)
  | cacheTimeOutOfRange (time : Int)
  | cacheAge (age : Int)
  | cacheHit (age : Int)
  | cacheStale (age : Int)
  | cacheMiss
  | cacheWriteFailed (problem : Problem)
  | requesting (address : String)
  | decoded (count : Nat)
  | quota (remaining limit : Nat)
  | renderedCached
  | renderedFetched
  | refreshFailed (problem : Problem)
deriving DecidableEq, Repr

namespace Notice

def level : Notice → Level
  | .renderedCached | .renderedFetched => .info
  | .refreshFailed _ => .warn
  | _ => .debug

/-- The part of the program that a notice comes from. -/
def origin : Notice → String
  | .usingCache _ | .cacheDisabled | .renderedCached | .renderedFetched | .refreshFailed _ =>
    "activity_feed"
  | .cacheReadFailed _ | .cacheUnreadable _ | .cacheTimeOutOfRange _ | .cacheAge _
  | .cacheHit _ | .cacheStale _ | .cacheMiss | .cacheWriteFailed _ => "activity_feed::cache"
  | .requesting _ => "activity_feed::github::client"
  | .decoded _ => "activity_feed::github::endpoints"
  | .quota .. => "activity_feed::app"

/-- Whether a notice tells of the cache. -/
def isAboutCache (notice : Notice) : Bool :=
  notice.origin == "activity_feed::cache"

def message : Notice → String
  | .usingCache _ => "using snapshot cache"
  | .cacheDisabled => "snapshot cache disabled"
  | .cacheReadFailed problem => "Cache read failed: " ++ problem.message
  | .cacheUnreadable error => "Cache unreadable: " ++ error.message
  | .cacheTimeOutOfRange time => "Cache time out of range: " ++ toString time
  | .cacheAge age => "Age " ++ toString age
  | .cacheHit age => "cache hit (age " ++ toString age ++ " ms)"
  | .cacheStale age => "cache miss (stale, age " ++ toString age ++ " ms)"
  | .cacheMiss => "cache miss"
  | .cacheWriteFailed problem => "Cache write failed: " ++ problem.message
  | .requesting _ => "GET"
  | .decoded _ => "decoded repository events"
  | .quota .. => "GitHub rate limit"
  | .renderedCached => "rendered cached activity"
  | .renderedFetched => "rendered fetched activity"
  | .refreshFailed problem => "activity refresh failed: " ++ problem.message

/-- Values that are logged behind the message, by name. -/
def values : Notice → List (String × String)
  | .usingCache directory => [("dir", directory)]
  | .requesting address => [("url", address)]
  | .decoded count => [("count", toString count)]
  | .quota remaining limit => [("remaining", toString remaining), ("limit", toString limit)]
  | _ => []

end Notice
end RepoFeed
