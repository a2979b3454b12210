import RepoFeed.Number.Word
import RepoFeed.Text.Digit
import RepoFeed.Time.Stamp

/-
The quota of requests, as far as replies have told it.
-/

namespace RepoFeed

structure Quota where
  limit : Nat
  remaining : Nat
  /-- Seconds since 1970-01-01T00:00:00Z. -/
  reset : Nat
deriving DecidableEq, Repr

namespace Quota

/-- Before any reply nothing is known to remain. -/
def unknown : Quota := ⟨0, 0, 0⟩

/-- Reads a natural of 64 bits; a plus sign may stand in front. -/
def readCount? (text : String) : Option Nat :=
  (Text.natural? text.toList).filter fun n => Word.fitsUnsigned 64 n

/-- What a field is after an observation of it: a text that is not a count says
nothing. -/
def observe (old : Nat) (seen : Option String) : Nat :=
  (seen.bind readCount?).getD old

/-- Takes note of what a reply said. -/
def note (quota : Quota) (limit remaining reset : Option String) : Quota where
  limit := observe quota.limit limit
  remaining := observe quota.remaining remaining
  reset := observe quota.reset reset

/-- The instant of the reset.  The count is taken as a signed number of 64
bits. -/
def resetInstant? (quota : Quota) : Option Time.Instant :=
  let seconds := Word.toSigned 64 quota.reset
  if Time.Stamp.leastSecond ≤ seconds ∧ seconds ≤ Time.Stamp.greatestSecond then
    some ⟨seconds, 0⟩
  else none

/-- The time of day of the reset in UTC. -/
def resetClock (quota : Quota) : String :=
  match quota.resetInstant? with
  | some t => String.ofList (t.renderClock 0)
  | none => "unknown"

end Quota
end RepoFeed
