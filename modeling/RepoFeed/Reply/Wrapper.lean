import RepoFeed.Text.Blank

/-
The call around a reply.

A reply that was asked for under a callback name comes as a call of that name
with the document as its argument.  The server puts an empty comment in front;
a semicolon may follow.  Only these are taken off: what stands between the
brackets is given back as it is.
-/

namespace RepoFeed
namespace Wrapper

open Text (after? before? trim trimEnd trimStart)

inductive Fault where
  | missingCallback (name : String)
  | missingOpening
  | missingClosing
deriving DecidableEq, Repr

def Fault.message : Fault → String
  | .missingCallback name => "expected callback `" ++ name ++ "`"
  | .missingOpening => "missing `(` after callback name"
  | .missingClosing => "missing closing `)`"

/-- The comment that may stand in front of the call. -/
def guard : List Char := ['/', '*', '*', '/']

/-- What is left once the first part has been found, or else a fault. -/
def expecting (fault : Fault) : Option (List Char) → Except Fault (List Char)
  | some rest => .ok rest
  | none => .error fault

/-- The argument of the call of `callback` in a body. -/
def unwrap (body callback : List Char) : Except Fault (List Char) := do
  let rest := trim body
  let rest := trimStart ((after? guard rest).getD rest)
  let rest ← expecting (.missingCallback (String.ofList callback)) (after? callback rest)
  let rest ← expecting .missingOpening (after? ['('] (trimStart rest))
  let rest := trimEnd rest
  let rest := trimEnd ((before? [';'] rest).getD rest)
  expecting .missingClosing (before? [')'] rest)

end Wrapper
end RepoFeed
