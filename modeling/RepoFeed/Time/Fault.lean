/-
What can be wrong with the text of an instant.
-/

namespace RepoFeed
namespace Time

inductive Fault where
  /-- A number leaves the range of its field, or the day is not in the calendar. -/
  | outOfRange
  /-- The instant in UTC lies outside the supported years. -/
  | impossible
  | endsEarly
  | unexpectedCharacter
  | trailingInput
deriving DecidableEq, Repr

def Fault.message : Fault → String
  | .outOfRange => "input is out of range"
  | .impossible => "no possible date and time matching input"
  | .endsEarly => "premature end of input"
  | .unexpectedCharacter => "input contains invalid characters"
  | .trailingInput => "trailing input"

end Time
end RepoFeed
