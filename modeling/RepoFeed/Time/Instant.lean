import RepoFeed.Time.Calendar

/-
Instants in UTC and their local time of day.

A leap second has no second of its own in the count since 1970: it is the last
second of a minute with a fraction of one second or more.
-/

namespace RepoFeed
namespace Time

def secondsPerDay : Nat := 86400

def nanosPerSecond : Nat := 1000000000

structure Instant where
  /-- Seconds since 1970-01-01T00:00:00Z. -/
  seconds : Int
  /-- Less than one second, or less than two in a leap second. -/
  nanos : Nat
deriving DecidableEq, Repr, Inhabited

namespace Instant

/-- The instant of a count of milliseconds. -/
def ofMillis (millis : Int) : Instant :=
  ⟨millis / 1000, (millis % 1000).toNat * 1000000⟩

def isLeap (t : Instant) : Bool :=
  nanosPerSecond ≤ t.nanos

/-- The day of an instant where clocks are `offset` seconds ahead of UTC. -/
def dayNumber (t : Instant) (offset : Int) : Int :=
  (t.seconds + offset) / secondsPerDay

/-- The second of the day of an instant where clocks are `offset` seconds ahead
of UTC. -/
def secondOfDay (t : Instant) (offset : Int) : Nat :=
  ((t.seconds + offset) % secondsPerDay).toNat

/-- Hours, minutes and seconds; a leap second counts one more. -/
def renderClock (t : Instant) (offset : Int) : List Char :=
  let s := t.secondOfDay offset
  padded 2 (s / 3600) ++ ':' :: padded 2 (s / 60 % 60) ++
    ':' :: padded 2 (s % 60 + if t.isLeap then 1 else 0)

def renderDate (t : Instant) (offset : Int) : List Char :=
  (Date.ofDayNumber (t.dayNumber offset)).render

end Instant
end Time
end RepoFeed
