import Mathlib.Tactic.SplitIfs
import RepoFeed.Markup.Excerpt
import RepoFeed.Proofs.Time.Clock

/-
When an event happened, as a feed says it.

A feed shows a time of day or a date, and never both: a time has colons and a date has
none.  So what is shown also tells whether the event was on the local day of the feed.
The local day of an instant is the floor of a quotient, and that is what the division of
integers gives, before 1970 as well.  Instants have dates from the year -262143 to the
year 262142, and local time can leave these years by less than a day.
-/

namespace RepoFeed
namespace Markup

/-- The text of a time of day with the seconds of a leap second, if it is one. -/
def clockOf (hour minute second : Nat) : List Char :=
  Time.twoDigits hour ++ ':' :: Time.twoDigits minute ++ ':' :: Time.twoDigits second

/-- The seconds since 1970 that lie in a year which has dates. -/
def HasDate (seconds : Int) : Prop :=
  -8334601228800 ≤ seconds ∧ seconds ≤ 8210266876799

instance (seconds : Int) : Decidable (HasDate seconds) :=
  inferInstanceAs (Decidable (_ ∧ _))

/-! ## Years -/

/-- A local day is found exactly where local time has a date. -/
theorem dayOf_eq (now : LocalTime) (t : Time.Instant) :
    now.dayOf t =
      if HasDate (t.seconds + now.zone t.seconds) then
        .ok ((t.seconds + now.zone t.seconds) / 86400)
      else .error .localDate := by
  have hleast : Time.Stamp.leastSecond = -8334601228800 := by decide
  have hgreatest : Time.Stamp.greatestSecond = 8210266876799 := by decide
  simp only [LocalTime.dayOf, LocalTime.offsetAt, hleast, hgreatest]
  rfl

theorem eventDate_of_hasDate {createdAt : Time.Instant} {now : LocalTime}
    (h : HasDate (createdAt.seconds + now.zone createdAt.seconds) ∧
      HasDate (now.instant.seconds + now.zone now.instant.seconds)) :
    eventDate createdAt now = .ok ("on " ++ String.ofList
      (if (createdAt.seconds + now.zone createdAt.seconds) / 86400 =
          (now.instant.seconds + now.zone now.instant.seconds) / 86400 then
        createdAt.renderClock (now.zone createdAt.seconds)
      else createdAt.renderDate (now.zone createdAt.seconds))) := by
  simp only [eventDate, dayOf_eq, if_pos h.1, if_pos h.2]
  rfl

end Markup
end RepoFeed
