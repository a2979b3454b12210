import RepoFeed.Markup.Links
import RepoFeed.Request.Url

/-
Requests for the events of a repository.
-/

namespace RepoFeed

structure Request where
  url : String
  headers : List (String × String)
deriving DecidableEq, Repr

/-- A token that may be sent along with requests. -/
abbrev Token := Option String

namespace Token

/-- Controls cannot stand in a header, except for the tab. -/
def isHeaderChar (c : Char) : Bool :=
  c == '\t' || (0x20 ≤ c.toNat && c.toNat != 0x7F)

def isValid (token : Token) : Bool :=
  match token with
  | some text => text.toList.all isHeaderChar
  | none => true

end Token

/-- The events of a repository, wrapped in a call of `callback`. -/
structure Endpoint where
  repository : Repository
  callback : String
deriving DecidableEq, Repr

namespace Endpoint

def host : String := "api.github.com"

/-- The path as it is put together, with nothing encoded. -/
def path (endpoint : Endpoint) : String :=
  "/repos/" ++ endpoint.repository.owner ++ "/" ++ endpoint.repository.name ++ "/events"

/-- The address as it is logged. -/
def address (endpoint : Endpoint) : String :=
  "https://" ++ host ++ endpoint.path

/-- The URL as it is sent. -/
def url (endpoint : Endpoint) : String :=
  ((Url.parse endpoint.path.toList).addPair "callback".toList endpoint.callback.toList).render host

/-- The request, with its headers sorted by name. -/
def request (endpoint : Endpoint) (token : Token) : Request where
  url := endpoint.url
  headers :=
    [("accept", "application/vnd.github+json")] ++
      (match token with
        | some text => [("authorization", "Bearer " ++ text)]
        | none => []) ++
      [("user-agent", "activity-feed"), ("x-github-api-version", "2022-11-28")]

end Endpoint
end RepoFeed
