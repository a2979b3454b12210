import RepoFeed.Json.Literal

/-
The punctuation of lists and objects.

Whoever reads the items of a list or the members of an object asks here whether
another one follows, and afterwards has the closing bracket checked here.  That
check runs even when reading the items has failed: a fault without a place of
its own is placed where the check ended.
-/

namespace RepoFeed
namespace Json

/-- How many lists and objects may be open inside one another. -/
def depthLimit : Nat := 127

/-- Whether another item of a list follows, and what is left: from the item on,
or from the closing bracket on. -/
def nextItem (isFirst : Bool) (text : List Char) : Except Failure (Bool × List Char) :=
  match skipSpace text with
  | [] => .error (atRest (.ended .list) [])
  | c :: rest =>
    if c = ']' then .ok (false, c :: rest)
    else if isFirst then .ok (true, c :: rest)
    else if c = ',' then
      match skipSpace rest with
      | [] => .error (atRest (.ended .value) [])
      | d :: rest =>
        if d = ']' then .error (atNext .trailingComma (d :: rest)) else .ok (true, d :: rest)
    else .error (atNext .expectedCommaInList (c :: rest))

/-- Whether another member of an object follows, and what is left: from inside
the quotes of its name on, or from the closing bracket on. -/
def nextMember (isFirst : Bool) (text : List Char) : Except Failure (Bool × List Char) :=
  match skipSpace text with
  | [] => .error (atRest (.ended .object) [])
  | c :: rest =>
    if c = '\x7d' then .ok (false, c :: rest)
    else if isFirst then
      if c = '"' then .ok (true, rest) else .error (atNext .nameNotText (c :: rest))
    else if c = ',' then
      match skipSpace rest with
      | [] => .error (atRest (.ended .value) [])
      | d :: rest =>
        if d = '"' then .ok (true, rest)
        else if d = '\x7d' then .error (atNext .trailingComma (d :: rest))
        else .error (atNext .nameNotText (d :: rest))
    else .error (atNext .expectedCommaInObject (c :: rest))

/-- Takes the colon between a name and its value. -/
def readColon (text : List Char) : Except Failure (List Char) :=
  match skipSpace text with
  | [] => .error (atRest (.ended .object) [])
  | c :: rest => if c = ':' then .ok rest else .error (atNext .expectedColon (c :: rest))

/-- What is left where the check for a closing bracket ended, and what it
objected to. -/
abbrev Closing := List Char → List Char × Option Failure

def closeList : Closing := fun text =>
  match skipSpace text with
  | [] => ([], some (atRest (.ended .list) []))
  | c :: rest =>
    if c = ']' then (rest, none)
    else if c = ',' then
      let rest := skipSpace rest
      match rest with
      | ']' :: _ => (rest, some (atNext .trailingComma rest))
      | _ => (rest, some (atNext .trailingText rest))
    else (c :: rest, some (atNext .trailingText (c :: rest)))

def closeObject : Closing := fun text =>
  match skipSpace text with
  | [] => ([], some (atRest (.ended .object) []))
  | c :: rest =>
    if c = '\x7d' then (rest, none)
    else if c = ',' then (c :: rest, some (atNext .trailingComma (c :: rest)))
    else (c :: rest, some (atNext .trailingText (c :: rest)))

/-- Ends a list or an object whose contents have been read, or have failed. -/
def close (closing : Closing) {α : Type} :
    Except Failure (α × List Char) → Except Failure (α × List Char)
  | .ok (a, text) =>
    match closing text with
    | (rest, none) => .ok (a, rest)
    | (_, some failure) => .error failure
  | .error (.floating fault text) => .error (atRest fault (closing text).1)
  | .error failure => .error failure

/-- Reads the items of a list, which has at most `fuel` of them. -/
def readItems {α : Type} (item : Reader α) : (fuel : Nat) → (isFirst : Bool) → Reader (List α)
  | 0, _, text => .error (atRest (.ended .list) text)
  | fuel + 1, isFirst, text => do
    let (more, text) ← nextItem isFirst text
    if more then
      let (a, text) ← item text
      let (rest, text) ← readItems item fuel false text
      .ok (a :: rest, text)
    else .ok ([], text)

end Json
end RepoFeed
