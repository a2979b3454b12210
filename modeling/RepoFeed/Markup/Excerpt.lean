import RepoFeed.Panic
import RepoFeed.Time.Stamp

/-
Short forms of texts and dates for a line of a feed.
-/

namespace RepoFeed
namespace Markup

/-- How many characters of a commit message are shown. -/
def messageLength : Nat := 70

def shortShaLength : Nat := 7

def escapeAmpersand (c : Char) : List Char :=
  if c = '&' then ['&', 'a', 'm', 'p', ';'] else [c]

def escapeLess (c : Char) : List Char :=
  if c = '<' then ['&', 'l', 't', ';'] else [c]

/-- The beginning of a commit message as markup.  The message is cut before it
is escaped, so an entity is never cut, and ampersands are escaped first, so the
ampersand of an entity is left alone. -/
def commitMessage (message : String) : String :=
  String.ofList <|
    ((message.toList.take messageLength).flatMap escapeAmpersand).flatMap escapeLess

def shortSha (sha : String) : String :=
  String.ofList (sha.toList.take shortShaLength)

/-- A wall clock at a moment. -/
structure LocalTime where
  instant : Time.Instant
  /-- How many seconds the clock is ahead of UTC at a second of UTC. -/
  zone : Int → Int

namespace LocalTime

/-- How many seconds the clock is ahead of UTC at an instant. -/
def offsetAt (now : LocalTime) (t : Time.Instant) : Int :=
  now.zone t.seconds

/-- The local day of an instant.  Local time may leave the supported years even where
the instant does not. -/
def dayOf (now : LocalTime) (t : Time.Instant) : Except Panic Int :=
  let seconds := t.seconds + now.offsetAt t
  if Time.Stamp.leastSecond ≤ seconds ∧ seconds ≤ Time.Stamp.greatestSecond then
    .ok (t.dayNumber (now.offsetAt t))
  else .error .localDate

end LocalTime

/-- When an event happened, seen from a moment: the time if that was on the same
local day, else the date. -/
def eventDate (createdAt : Time.Instant) (now : LocalTime) : Except Panic String := do
  let day ← now.dayOf createdAt
  let today ← now.dayOf now.instant
  let shown :=
    if day = today then createdAt.renderClock (now.offsetAt createdAt)
    else createdAt.renderDate (now.offsetAt createdAt)
  return "on " ++ String.ofList shown

end Markup
end RepoFeed
