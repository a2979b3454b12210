import RepoFeed.Proofs.Text.Digits
import RepoFeed.Proofs.Time.Calendar

/-
The text of a time of day.

A clock shows hours, minutes and seconds as three numbers of two digits, and months
and days are shown in the same way.  The six digits of a clock are also given one by
one, as functions of the second of the day.
-/

namespace RepoFeed
namespace Time

/-- The two digits of a number below a hundred. -/
def twoDigits (n : Nat) : List Char :=
  [Nat.digitChar (n / 10), Nat.digitChar (n % 10)]

/-- The digits of a second of a day, of which there are 86400. -/
def clockText (s : Nat) : List Char :=
  [Nat.digitChar (s / 36000), Nat.digitChar (s / 3600 % 10), ':',
    Nat.digitChar (s / 600 % 6), Nat.digitChar (s / 60 % 10), ':',
    Nat.digitChar (s / 10 % 6), Nat.digitChar (s % 10)]

theorem padded_two {n : Nat} (h : n < 100) : padded 2 n = twoDigits n := by
  have htable : ∀ n : Fin 100, padded 2 n = twoDigits n := by decide
  exact htable ⟨n, h⟩

theorem secondOfDay_lt (t : Instant) (offset : Int) : t.secondOfDay offset < 86400 := by
  have hday : secondsPerDay = 86400 := rfl
  rw [Instant.secondOfDay, hday]
  omega

/-- A time of day in its parts.  A leap second counts one more. -/
theorem renderClock_eq_twoDigits (t : Instant) (offset : Int) :
    t.renderClock offset =
      twoDigits (t.secondOfDay offset / 3600) ++
        ':' :: twoDigits (t.secondOfDay offset / 60 % 60) ++
          ':' :: twoDigits (t.secondOfDay offset % 60 + if t.isLeap then 1 else 0) := by
  have hlt := secondOfDay_lt t offset
  have hleap : (if t.isLeap then 1 else 0) ≤ 1 := by split <;> decide
  simp only [Instant.renderClock]
  rw [padded_two (by omega), padded_two (by omega), padded_two (by omega)]

theorem renderClock_eq {t : Instant} (h : t.isLeap = false) (offset : Int) :
    t.renderClock offset = clockText (t.secondOfDay offset) := by
  obtain ⟨s, hs⟩ : ∃ s, t.secondOfDay offset = s := ⟨_, rfl⟩
  have hlt := secondOfDay_lt t offset
  rw [hs] at hlt
  have htens : s / 3600 / 10 = s / 36000 ∧ s / 60 % 60 / 10 = s / 600 % 6 ∧
      s % 60 / 10 = s / 10 % 6 := by omega
  have hunits : s / 60 % 60 % 10 = s / 60 % 10 ∧ s % 60 % 10 = s % 10 := by omega
  simp only [renderClock_eq_twoDigits, h, hs, Bool.false_eq_true, if_false, Nat.add_zero,
    twoDigits, htens, hunits]
  rfl

end Time
end RepoFeed
