import Mathlib.Tactic.IntervalCases
import RepoFeed.Time.Instant

/-
Days and dates.

`Date.ofDayNumber` gives for every day the date that has its number.  The proof
follows the cycles of the calendar: four centuries, of which the last is a day
longer, centuries of 25 times four years, of which the last may be a day
shorter, and four years, of which the last may be a day longer.  In that form
the divisions of the definition are without carries.
-/

namespace RepoFeed
namespace Time

theorem daysBeforeYear_succ (year : Int) :
    daysBeforeYear (year + 1) =
      daysBeforeYear year + 365 + (if isLeapYear year then 1 else 0 : Nat) := by
  by_cases hleap : isLeapYear year = true
  · rw [if_pos hleap]
    simp only [isLeapYear, Bool.and_eq_true, Bool.or_eq_true, beq_iff_eq, bne_iff_ne] at hleap
    simp only [daysBeforeYear]
    omega
  · rw [if_neg hleap]
    simp only [isLeapYear, Bool.and_eq_true, Bool.or_eq_true, beq_iff_eq, bne_iff_ne] at hleap
    simp only [daysBeforeYear]
    omega

theorem daysInMonth_le (year : Int) (month : Nat) : daysInMonth year month ≤ 31 := by
  unfold daysInMonth
  split
  · split <;> decide
  all_goals decide

/-- A month ends before the next year begins. -/
theorem daysBeforeMonth_le (year : Int) {month : Nat} (hmonth : month ≤ 12) :
    daysBeforeMonth year month + daysInMonth year month ≤
      365 + if isLeapYear year then 1 else 0 := by
  interval_cases month <;> simp only [daysBeforeMonth, daysInMonth] <;> split <;> simp

/-! ## Days of four centuries -/

/-- The days of four centuries by century, group of four years, year and day. -/
theorem exists_parts {d : Nat} (hd : d < 146097) :
    ∃ century group year day : Nat,
      d = 36524 * century + 1461 * group + 365 * year + day ∧
        century ≤ 3 ∧ group ≤ 24 ∧ year ≤ 3 ∧ day ≤ 365 ∧
        (day = 365 → year = 3 ∧ (group < 24 ∨ century = 3)) := by
  have hcentury : ∃ century rest, d = 36524 * century + rest ∧ century ≤ 3 ∧ rest ≤ 36524 ∧
      (rest = 36524 → century = 3) :=
    ⟨min (d / 36524) 3, d - 36524 * min (d / 36524) 3, by omega, by omega, by omega, by omega⟩
  obtain ⟨century, rest, rfl, hcentury, hrest, hlast⟩ := hcentury
  have hyear : ∃ year day, rest % 1461 = 365 * year + day ∧ year ≤ 3 ∧ day ≤ 365 ∧
      (day = 365 → year = 3) :=
    ⟨min (rest % 1461 / 365) 3, rest % 1461 - 365 * min (rest % 1461 / 365) 3, by omega,
      by omega, by omega, by omega⟩
  obtain ⟨year, day, hparts, hyear, hday, hlong⟩ := hyear
  refine ⟨century, rest / 1461, year, day, by omega, hcentury, by omega, hyear, hday, ?_⟩
  intro h
  exact ⟨hlong h, by omega⟩

/-- The leap days before a day, as `Date.ofDayNumber` takes them away. -/
theorem withoutLeapDays_eq {d century group year day : Nat}
    (hd : d = 36524 * century + 1461 * group + 365 * year + day) (hcentury : century ≤ 3)
    (hgroup : group ≤ 24) (hyear : year ≤ 3) (hday : day ≤ 365)
    (hlong : day = 365 → year = 3 ∧ (group < 24 ∨ century = 3)) :
    (d - d / 1460 + d / 36524 - d / 146096) / 365 = 100 * century + 4 * group + year := by
  obtain ⟨carry, hleapDays, hshort, hlongDay⟩ :
      ∃ carry, d / 1460 = 25 * century + group + carry ∧ carry ≤ day ∧ day ≤ 364 + carry :=
    ⟨(24 * century + group + 365 * year + day) / 1460, by omega, by omega, by omega⟩
  -- Only the very last day would begin a fifth century and a second cycle.
  obtain ⟨extra, hcycle, hcenturies⟩ :
      ∃ extra, d / 146096 = extra ∧ d / 36524 = century + extra := by
    refine ⟨_, rfl, ?_⟩
    by_cases hlast : d = 146096
    · omega
    · omega
  rw [hleapDays, hcenturies, hcycle]
  have hsum : d - (25 * century + group + carry) + (century + extra) - extra =
      365 * (100 * century + 4 * group + year) + (day - carry) := by
    clear hleapDays hcycle hcenturies
    omega
  rw [hsum]
  clear hleapDays hcycle hcenturies hsum
  omega

/-- Each day lies in a year that begins in March, on one of its days. -/
theorem exists_march_year (n : Int) :
    ∃ (year : Int) (day : Nat),
      daysBeforeYear (year + 1) + day = n + marchEpochDays ∧ day ≤ 365 ∧
        (day = 365 → isLeapYear (year + 1) = true) ∧
        Date.ofDayNumber n =
          { year := year + (if (5 * day + 2) / 153 < 10 then 0 else 1)
            month := if (5 * day + 2) / 153 < 10 then (5 * day + 2) / 153 + 3
              else (5 * day + 2) / 153 - 9
            day := day - (153 * ((5 * day + 2) / 153) + 2) / 5 + 1 } := by
  obtain ⟨d, hd⟩ : ∃ d : Nat, (d : Int) = (n + marchEpochDays) % 146097 :=
    ⟨((n + marchEpochDays) % 146097).toNat, by omega⟩
  obtain ⟨century, group, year, day, hparts, hcentury, hgroup, hyear, hday, hlong⟩ :=
    exists_parts (d := d) (by omega)
  have hyearOfCycle := withoutLeapDays_eq hparts hcentury hgroup hyear hday hlong
  obtain ⟨y, hy⟩ : ∃ y, y = 100 * century + 4 * group + year := ⟨_, rfl⟩
  rw [← hy] at hyearOfCycle
  have hdays : 365 * y + y / 4 - y / 100 + day = d := by
    clear hyearOfCycle hd
    omega
  have hdayOfYear : d - (365 * y + y / 4 - y / 100) = day := by omega
  have hcycle : n + marchEpochDays = 146097 * ((n + marchEpochDays) / 146097) + d := by omega
  refine ⟨(n + marchEpochDays) / 146097 * 400 + y, day, ?_, hday, ?_, ?_⟩
  · generalize (n + marchEpochDays) / 146097 = cycle at hcycle
    have hyear : y < 400 := by omega
    simp only [daysBeforeYear]
    clear hyearOfCycle hd hparts
    omega
  · intro h
    obtain ⟨rfl, hwhere⟩ := hlong h
    simp only [isLeapYear, Bool.and_eq_true, Bool.or_eq_true, beq_iff_eq, bne_iff_ne]
    omega
  · have hback : ((n + marchEpochDays) % 146097).toNat = d := by omega
    simp only [Date.ofDayNumber, hback, hyearOfCycle, hdayOfYear]
    congr 1
    split <;> split <;> omega

/-! ## Dates -/

theorem Date.isValid_iff {date : Date} :
    date.isValid = true ↔ 1 ≤ date.month ∧ date.month ≤ 12 ∧ 1 ≤ date.day ∧
      date.day ≤ daysInMonth date.year date.month := by
  simp [Date.isValid, and_assoc]

/-- The date of a day exists and is that day's. -/
theorem ofDayNumber_spec (n : Int) :
    (Date.ofDayNumber n).isValid = true ∧ (Date.ofDayNumber n).dayNumber = n := by
  obtain ⟨year, day, hnumber, hday, hlong, hdate⟩ := exists_march_year n
  have hmonth : (5 * day + 2) / 153 ≤ 11 := by omega
  have hstart : (153 * ((5 * day + 2) / 153) + 2) / 5 ≤ day := by omega
  have hend : day < (153 * ((5 * day + 2) / 153 + 1) + 2) / 5 := by omega
  have hsucc := daysBeforeYear_succ year
  rw [hdate, Date.isValid_iff]
  generalize (5 * day + 2) / 153 = m at hmonth hstart hend
  simp only [marchEpochDays] at hnumber
  simp only [Date.dayNumber, epochDays]
  by_cases hspring : m < 10
  · simp only [if_pos hspring, add_zero]
    by_cases hleap : isLeapYear year = true
    · rw [if_pos hleap] at hsucc
      interval_cases m <;> simp only [daysBeforeMonth, daysInMonth, hleap, reduceIte] <;> omega
    · rw [if_neg hleap] at hsucc
      interval_cases m <;>
        simp only [daysBeforeMonth, daysInMonth, hleap, Bool.false_eq_true, reduceIte] <;> omega
  · simp only [if_neg hspring]
    by_cases hleap : isLeapYear (year + 1) = true
    · interval_cases m <;>
        simp only [daysBeforeMonth, daysInMonth, hleap, Nat.reduceSub, reduceIte] <;> omega
    · have hshort : day ≠ 365 := fun h => hleap (hlong h)
      interval_cases m <;>
        simp only [daysBeforeMonth, daysInMonth, hleap, Bool.false_eq_true, Nat.reduceSub,
          reduceIte] <;> omega

/-! ## Ranges of years -/

theorem daysBeforeYear_le {a b : Int} (h : a ≤ b) : daysBeforeYear a ≤ daysBeforeYear b := by
  simp only [daysBeforeYear]
  omega

/-- A date lies in its year. -/
theorem Date.dayNumber_bounds {date : Date} (h : date.isValid = true) :
    daysBeforeYear date.year - epochDays ≤ date.dayNumber ∧
      date.dayNumber < daysBeforeYear (date.year + 1) - epochDays := by
  obtain ⟨-, hmonth, hday, hlast⟩ := isValid_iff.mp h
  have hbefore := daysBeforeMonth_le date.year hmonth
  have hsucc := daysBeforeYear_succ date.year
  simp only [Date.dayNumber]
  omega

/-- Days between the first day of a year and the last of another belong to
years between them. -/
theorem year_ofDayNumber {first last n : Int}
    (hfirst : Date.dayNumber ⟨first, 1, 1⟩ ≤ n) (hlast : n ≤ Date.dayNumber ⟨last, 12, 31⟩) :
    first ≤ (Date.ofDayNumber n).year ∧ (Date.ofDayNumber n).year ≤ last := by
  obtain ⟨hvalid, hnumber⟩ := ofDayNumber_spec n
  have hbounds := Date.dayNumber_bounds hvalid
  have hend := (Date.dayNumber_bounds (show Date.isValid ⟨last, 12, 31⟩ = true from rfl)).2
  rw [hnumber] at hbounds
  constructor
  · refine Int.not_lt.mp fun hlt => ?_
    have hle := daysBeforeYear_le (show (Date.ofDayNumber n).year + 1 ≤ first from hlt)
    have hnew : Date.dayNumber ⟨first, 1, 1⟩ = daysBeforeYear first - epochDays := by
      simp [Date.dayNumber, daysBeforeMonth]
    omega
  · refine Int.not_lt.mp fun hlt => ?_
    have hle := daysBeforeYear_le (show last + 1 ≤ (Date.ofDayNumber n).year from hlt)
    have hbefore : n < daysBeforeYear (last + 1) - epochDays := Int.lt_of_le_of_lt hlast hend
    omega

/-! ## Day by day -/

/-- The date of the following day. -/
def Date.next (date : Date) : Date :=
  if date.day < daysInMonth date.year date.month then { date with day := date.day + 1 }
  else if date.month < 12 then ⟨date.year, date.month + 1, 1⟩
  else ⟨date.year + 1, 1, 1⟩

namespace Date

variable {date other : Date}

end Date

end Time
end RepoFeed
