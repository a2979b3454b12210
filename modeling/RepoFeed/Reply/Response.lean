import RepoFeed.Charset.Encoding
import RepoFeed.Reply.MediaType
import RepoFeed.Reply.Status

/-
Replies to a request.
-/

namespace RepoFeed

structure Response where
  status : Status
  headers : List (String × String)
  /-- The octets of the body, unless it broke off. -/
  body : Option Utf8.Octets
  /-- The URL that the reply is from, if redirects have led away from the one that was
  asked for. -/
  redirectedTo : Option String := none
deriving DecidableEq, Repr

/-- What came back; `none` if the request could not be sent. -/
abbrev Reply := Option Response

namespace Response

/-- Characters that a header may have to count as text. -/
def isVisible (c : Char) : Bool :=
  c == '\t' || (0x20 ≤ c.toNat && c.toNat < 0x7F)

def lowerCase (name : String) : List Char :=
  name.toList.map Char.toLower

/-- The value of the first header of a name, if it is text.  The name is given
in lower case. -/
def header? (response : Response) (name : String) : Option String :=
  match response.headers.find? (lowerCase ·.1 == name.toList) with
  | some (_, value) => if value.toList.all isVisible then some value else none
  | none => none

/-- The encoding that the reply says its body is in; without a word on it, or with
one that is not understood, UTF-8. -/
def encoding (response : Response) : Encoding :=
  let said := do
    let mediaType ← MediaType.parse? (← response.header? "content-type").toList
    Encoding.ofLabel? (← mediaType.parameter? "charset")
  said.getD .utf8

/-- The body as text. -/
def text? (response : Response) : Option String :=
  response.body.map fun octets => String.ofList (response.encoding.read octets)

end Response
end RepoFeed
