import RepoFeed.Json.Fault
import RepoFeed.Reply.Status
import RepoFeed.Reply.Wrapper
import RepoFeed.Storage.Fault

/-
Everything that can keep a feed from being refreshed.
-/

namespace RepoFeed

inductive Problem where
  /-- No reply was received to the request for `url`. -/
  | unanswered (url : String)
  /-- A reply broke off before the end of its body. -/
  | brokenBody
  | unauthorized
  | notFound (resource : String)
  | rateLimited (resetAt : String)
  | badWrapper (fault : Wrapper.Fault)
  | badStatus (status : Int)
  | badDocument (error : Json.Error)
  | storage (fault : Storage.Fault)
  | forbidden (message : String)
  | failedStatus (status : Status) (message : String)
  | badToken
  /-- A store that cannot be used, for the given reason. -/
  | unavailable (reason : String)
deriving DecidableEq, Repr

namespace Problem

def message : Problem → String
  | .unanswered url => "GitHub API error: error sending request for url (" ++ url ++ ")"
  | .brokenBody => "GitHub API error: error decoding response body"
  | .unauthorized => "Authentication failed: invalid or expired token"
  | .notFound resource => "Resource not found: " ++ resource
  | .rateLimited resetAt => "Rate limit exceeded, resets at " ++ resetAt
  | .badWrapper fault => "Malformed JSON-P response: " ++ fault.message
  | .badStatus status => "Malformed JSON-P response: invalid status " ++ toString status
  | .badDocument error => "JSON parsing error: " ++ error.message
  | .storage fault => "IO error: " ++ fault.message
  | .forbidden message => "Forbidden: " ++ message
  | .failedStatus status message => "HTTP " ++ status.render ++ ": " ++ message
  | .badToken => "failed to parse header value"
  | .unavailable reason => reason

end Problem
end RepoFeed
