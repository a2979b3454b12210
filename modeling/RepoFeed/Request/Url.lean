import RepoFeed.Request.Percent
import RepoFeed.Text.Split

/-
URLs on one host.

The text after the host is taken apart as browsers do: tabs and line breaks are
dropped, a backslash is as good as a slash, and dot segments are resolved while
the path is read.  What the user puts into the text can therefore end the path
early, but it cannot change the host.
-/

namespace RepoFeed

/-- A URL after its host; the parts are encoded. -/
structure Url where
  path : List (List Char)
  query : Option (List Char)
  fragment : Option (List Char)
deriving DecidableEq, Repr

namespace Url

def isDropped (c : Char) : Bool :=
  c == '\t' || c == '\n' || c == '\r'

def isSlash (c : Char) : Bool :=
  c == '/' || c == '\\'

/-- A segment with its encoded dots as dots and in lower case. -/
def plainDots : List Char → List Char
  | '%' :: '2' :: 'e' :: rest | '%' :: '2' :: 'E' :: rest => '.' :: plainDots rest
  | c :: rest => c :: plainDots rest
  | [] => []

def isSingleDot (segment : List Char) : Bool :=
  plainDots segment == ['.']

def isDoubleDot (segment : List Char) : Bool :=
  plainDots segment == ['.', '.']

/-- A letter and a colon, or the bar that may stand for it. -/
def isDriveLetter (segment : List Char) : Bool :=
  match segment with
  | [letter, mark] => letter.isAlpha && (mark == ':' || mark == '|')
  | _ => false

/-- A path without its last segment.  A drive letter is never taken back. -/
def shorten (path : List (List Char)) : List (List Char) :=
  match path.getLast? with
  | some segment => if isDriveLetter segment then path else path.dropLast
  | none => []

/-- Adds segments to a path.  A dot segment at the end leaves an empty one. -/
def addSegments : (path : List (List Char)) → (segments : List (List Char)) → List (List Char)
  | path, [] => path
  | path, segment :: rest =>
    let path :=
      if isDoubleDot segment then shorten path ++ (if rest.isEmpty then [[]] else [])
      else if isSingleDot segment then path ++ (if rest.isEmpty then [[]] else [])
      else path ++ [Percent.encode Percent.isReservedInPath segment]
    addSegments path rest

/-- Reads what follows the host; a slash comes first. -/
def parse (text : List Char) : Url :=
  let text := text.filter (! isDropped ·)
  let (text, fragment) := Text.cut (· == '#') text
  let (text, query) := Text.cut (· == '?') text
  { path := addSegments [] ((Text.split isSlash text).drop 1)
    query := query.map (Percent.encode Percent.isReservedInQuery)
    fragment := fragment.map (Percent.encode Percent.isReservedInFragment) }

/-- Appends a name and a value to the query. -/
def addPair (url : Url) (name value : List Char) : Url :=
  let pair := Percent.encodeForm name ++ '=' :: Percent.encodeForm value
  let query := match url.query with
    | none | some [] => pair
    | some query => query ++ '&' :: pair
  { url with query := some query }

def render (host : String) (url : Url) : String :=
  let path := url.path.flatMap fun segment => '/' :: segment
  let query := match url.query with
    | some query => '?' :: query
    | none => []
  let fragment := match url.fragment with
    | some fragment => '#' :: fragment
    | none => []
  "https://" ++ host ++ String.ofList (path ++ query ++ fragment)

end Url
end RepoFeed
