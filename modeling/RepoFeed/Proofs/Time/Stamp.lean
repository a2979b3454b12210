import RepoFeed.Proofs.Outcome
import RepoFeed.Proofs.Text.Digits
import RepoFeed.Proofs.Time.Calendar
import RepoFeed.Time.Stamp

/-
Date stamps that are written read back as the same instant.

Not every instant has a stamp: it has to lie in the supported years, and a
fraction of one second or more needs a leap second, which only the last second
of a minute can be.  `IsStampable` says just that; it holds of everything that
the reader gives, so the instants of a feed can be written and read any number
of times.
-/

namespace RepoFeed
namespace Time

open Text (AreDigits digitValue isBlank trimStart)

/-- The instants that have a stamp. -/
def Instant.IsStampable (t : Instant) : Prop :=
  Stamp.leastSecond ≤ t.seconds ∧ t.seconds ≤ Stamp.greatestSecond ∧
    (t.nanos < nanosPerSecond ∨ t.nanos < 2 * nanosPerSecond ∧ t.seconds % 60 = 59)

instance (t : Instant) : Decidable t.IsStampable :=
  inferInstanceAs (Decidable (_ ∧ _ ∧ _))

theorem isBlank_digit {c : Char} (h : c.isDigit = true) : isBlank c = false := by
  have hc : 48 ≤ c.toNat ∧ c.toNat ≤ 57 := by
    simpa [Char.isDigit, UInt32.le_iff_toNat_le] using h
  simp only [isBlank]
  simp
  omega

theorem trimStart_digits {digits : List Char} (hne : digits ≠ []) (hd : AreDigits digits)
    (rest : List Char) : trimStart (digits ++ rest) = digits ++ rest := by
  obtain ⟨c, digits, rfl⟩ := List.exists_cons_of_ne_nil hne
  exact Text.trimStart_cons_of_not_blank (isBlank_digit hd.head)

namespace Stamp

/-! ## Numbers -/

/-- A number ends with its digits, because there may be no more of them or
because something else follows. -/
theorem moreDigits_append {width value : Nat} {digits rest : List Char} (hd : AreDigits digits)
    (hlength : digits.length ≤ width)
    (hend : digits.length = width ∨ ∀ c ∈ rest.head?, c.isDigit = false)
    (hvalue : Nat.ofDigitChars 10 digits value < twoPow 63) :
    moreDigits width value (digits ++ rest) = .ok (Nat.ofDigitChars 10 digits value, rest) := by
  induction digits generalizing width value with
  | nil =>
    cases width with
    | zero => rfl
    | succ width =>
      have hrest : ∀ c ∈ rest.head?, c.isDigit = false := by
        rcases hend with h | h
        · simp at h
        · exact h
      cases rest with
      | nil => rfl
      | cons c rest => simp [moreDigits, hrest c (by simp)]
  | cons c digits ih =>
    cases width with
    | zero => simp at hlength
    | succ width =>
      rw [Text.ofDigitChars_cons_digitValue] at hvalue ⊢
      have hle := Text.le_ofDigitChars digits (value * 10 + digitValue c)
      have hfits : Word.fitsSigned 64 (value * 10 + digitValue c : Nat) = true := by
        have hlimit : twoPow (64 - 1) = twoPow 63 := rfl
        simp only [Word.fitsSigned, Bool.and_eq_true, decide_eq_true_eq]
        omega
      simp only [List.length_cons, Nat.add_le_add_iff_right, Nat.add_right_cancel_iff]
        at hlength hend
      rw [List.cons_append, moreDigits, if_pos hd.head]
      simp only [if_pos hfits]
      exact ih hd.tail hlength hend hvalue

theorem number_append {width : Nat} {digits rest : List Char} (hne : digits ≠ [])
    (hd : AreDigits digits) (hlength : digits.length ≤ width)
    (hend : digits.length = width ∨ ∀ c ∈ rest.head?, c.isDigit = false)
    (hvalue : Nat.ofDigitChars 10 digits 0 < twoPow 63) :
    number width (digits ++ rest) = .ok (Nat.ofDigitChars 10 digits 0, rest) := by
  have hmore := moreDigits_append hd hlength hend hvalue
  obtain ⟨c, digits, rfl⟩ := List.exists_cons_of_ne_nil hne
  rw [List.cons_append] at hmore ⊢
  rw [number, if_pos hd.head, hmore]

theorem number_padded (width n : Nat) (hwidth : 0 < width) (hn : n < 10 ^ width)
    (hsmall : n < twoPow 63) (rest : List Char) :
    number width (padded width n ++ rest) = .ok (n, rest) := by
  have hlength := length_padded hwidth hn
  have hvalue := ofDigitChars_padded width n
  rw [number_append (padded_ne_nil width n) (areDigits_padded width n) (Nat.le_of_eq hlength)
    (.inl hlength) (by rw [hvalue]; exact hsmall), hvalue]

theorem bounded_padded {low high n : Nat} (hlow : low ≤ n) (hhigh : n ≤ high) (hn : n < 100)
    (rest : List Char) : bounded low high (padded 2 n ++ rest) = .ok (n, rest) := by
  have hsmall : n < twoPow 63 := Nat.lt_of_lt_of_le hn (by decide)
  rw [bounded, trimStart_digits (padded_ne_nil 2 n) (areDigits_padded 2 n),
    number_padded 2 n (by decide) hn hsmall]
  simp [bind, Except.bind, hlow, hhigh]

theorem separator_cons {c : Char} (hc : isBlank c = false) (rest : List Char) :
    separator c (c :: rest) = .ok rest := by
  rw [separator, Text.trimStart_cons_of_not_blank hc]
  simp

/-! ## Years -/

section Year

variable {c : Char} {text rest : List Char} {n : Nat}

theorem year_digits (hc : c.isDigit = true) (hread : number 4 (c :: text) = .ok (n, rest))
    (hfits : Word.fitsSigned 32 n = true) : year (c :: text) = .ok ((n : Int), rest) := by
  have hminus : c ≠ '-' := by
    intro heq
    subst heq
    exact absurd hc (by decide)
  have hplus : c ≠ '+' := by
    intro heq
    subst heq
    exact absurd hc (by decide)
  simp only [year, Text.trimStart_cons_of_not_blank (isBlank_digit hc)]
  simp [hminus, hplus, hread, bind, Except.bind, hfits]

theorem year_minus (hread : number text.length text = .ok (n, rest))
    (hfits : Word.fitsSigned 32 (-(n : Int)) = true) :
    year ('-' :: text) = .ok (-(n : Int), rest) := by
  simp only [year, Text.trimStart_cons_of_not_blank (show isBlank '-' = false from rfl)]
  simp [hread, bind, Except.bind, hfits]

theorem year_plus (hread : number text.length text = .ok (n, rest))
    (hfits : Word.fitsSigned 32 n = true) : year ('+' :: text) = .ok ((n : Int), rest) := by
  simp only [year, Text.trimStart_cons_of_not_blank (show isBlank '+' = false from rfl)]
  simp [hread, bind, Except.bind, hfits]

end Year

theorem year_renderYear {y : Int} (hy : Word.fitsSigned 32 y = true) (rest : List Char) :
    year (renderYear y ++ '-' :: rest) = .ok (y, '-' :: rest) := by
  have hbounds : -(twoPow 31 : Int) ≤ y ∧ y < twoPow 31 := by
    simpa [Word.fitsSigned] using hy
  have hsmall : y.natAbs < twoPow 63 := by
    have : twoPow 31 < twoPow 63 := by decide
    omega
  have hlong : number (padded 4 y.natAbs ++ '-' :: rest).length (padded 4 y.natAbs ++ '-' :: rest) =
      .ok (y.natAbs, '-' :: rest) := by
    have hvalue := ofDigitChars_padded 4 y.natAbs
    rw [number_append (padded_ne_nil 4 y.natAbs) (areDigits_padded 4 y.natAbs)
      (List.prefix_append _ ('-' :: rest)).length_le (.inr (by simp))
      (by rw [hvalue]; exact hsmall), hvalue]
  by_cases hfour : 0 ≤ y ∧ y ≤ 9999
  · obtain ⟨n, rfl⟩ := Int.eq_ofNat_of_zero_le hfour.1
    have hread := number_padded 4 n (by decide) (by omega) (by omega) ('-' :: rest)
    rw [renderYear, if_pos hfour, Int.toNat_natCast]
    obtain ⟨c, digits, hdigits⟩ := List.exists_cons_of_ne_nil (padded_ne_nil 4 n)
    have hc := areDigits_padded 4 n
    rw [hdigits] at hread hc ⊢
    exact year_digits hc.head hread hy
  · rw [renderYear, if_neg hfour]
    by_cases hsign : y < 0
    · have habs : -(y.natAbs : Int) = y := by omega
      rw [if_pos hsign, List.cons_append, year_minus hlong (by rw [habs]; exact hy), habs]
    · have habs : (y.natAbs : Int) = y := by omega
      rw [if_neg hsign, List.cons_append, year_plus hlong (by rw [habs]; exact hy), habs]

/-! ## Fractions and offsets -/

/-- A group of digits behind the point stands for as many of the nine digits of
a full fraction. -/
theorem fraction_padded {width n : Nat} (hwidth : 0 < width) (hnine : width ≤ 9)
    (hn : n < 10 ^ width) {c : Char} (hc : c.isDigit = false) (rest : List Char) :
    fraction ('.' :: (padded width n ++ c :: rest)) =
      .ok (n * tenPow (9 - width), c :: rest) := by
  have hlength := length_padded hwidth hn
  have hvalue := ofDigitChars_padded width n
  have hsmall : n < twoPow 63 := by
    refine Nat.lt_trans (Nat.lt_of_lt_of_le hn (Nat.pow_le_pow_right (by decide) hnine)) ?_
    decide
  have hread : number 9 (padded width n ++ c :: rest) = .ok (n, c :: rest) := by
    rw [number_append (padded_ne_nil width n) (areDigits_padded width n) (by omega)
      (.inr (by simpa using hc)) (by rw [hvalue]; exact hsmall), hvalue]
  have htaken : (padded width n ++ c :: rest).length - (c :: rest).length = width := by
    rw [List.length_append, hlength]
    omega
  simp [fraction, hread, bind, Except.bind, hc, hlength]

/-- A written fraction reads as the nanoseconds it stands for. -/
theorem fraction_renderFraction {nanos : Nat} (h : nanos < nanosPerSecond) (rest : List Char) :
    fraction (renderFraction nanos ++ 'Z' :: rest) = .ok (nanos, 'Z' :: rest) := by
  have hlimit : nanosPerSecond = 1000000000 := rfl
  unfold renderFraction
  split
  · rename_i hnone
    rw [hnone]
    rfl
  · split
    · have hn : nanos / 1000000 < 10 ^ 3 := by omega
      rw [List.cons_append, fraction_padded (by decide) (by decide) hn rfl]
      have hback : nanos / 1000000 * tenPow (9 - 3) = nanos := by
        change nanos / 1000000 * 1000000 = nanos
        omega
      rw [hback]
    · split
      · have hn : nanos / 1000 < 10 ^ 6 := by omega
        rw [List.cons_append, fraction_padded (by decide) (by decide) hn rfl]
        have hback : nanos / 1000 * tenPow (9 - 6) = nanos := by
          change nanos / 1000 * 1000 = nanos
          omega
        rw [hback]
      · have hn : nanos < 10 ^ 9 := by omega
        rw [List.cons_append, fraction_padded (by decide) (by decide) hn rfl]
        change Except.ok (nanos * 1, 'Z' :: rest) = _
        rw [Nat.mul_one]

theorem offset_zulu : offset ['Z'] = .ok (0, []) := rfl

/-! ## Stamps -/

theorem fields_render {date : Date} {hour minute second nanos : Nat}
    (hdate : date.isValid = true) (hyear : Word.fitsSigned 32 date.year = true)
    (hhour : hour ≤ 23) (hminute : minute ≤ 59) (hsecond : second ≤ 60)
    (hnanos : nanos < nanosPerSecond) :
    fields (date.render ++ 'T' :: (padded 2 hour ++ ':' :: (padded 2 minute ++
      ':' :: (padded 2 second ++ (renderFraction nanos ++ ['Z']))))) =
      .ok { date, hour, minute, second, nanos, offset := 0 } := by
  obtain ⟨hmonth, hlastMonth, hday, hlast⟩ := Date.isValid_iff.mp hdate
  have hlastDay : date.day ≤ 31 := Nat.le_trans hlast (daysInMonth_le _ _)
  have hdash : isBlank '-' = false := rfl
  have hcolon : isBlank ':' = false := rfl
  have hend : trimStart ['Z'] = ['Z'] := rfl
  simp only [fields, Date.render, List.append_assoc, List.cons_append, year_renderYear hyear,
    separator_cons hdash, separator_cons hcolon,
    bounded_padded hmonth hlastMonth (Nat.lt_of_le_of_lt hlastMonth (by decide)),
    bounded_padded hday hlastDay (Nat.lt_of_le_of_lt hlastDay (by decide)),
    bounded_padded (Nat.zero_le hour) hhour (Nat.lt_of_le_of_lt hhour (by decide)),
    bounded_padded (Nat.zero_le minute) hminute (Nat.lt_of_le_of_lt hminute (by decide)),
    bounded_padded (Nat.zero_le second) hsecond (Nat.lt_of_le_of_lt hsecond (by decide)),
    timeMark, fraction_renderFraction hnanos, hend, offset_zulu, bind, Except.bind]
  rfl

theorem dayNumber_zero (t : Instant) : t.dayNumber 0 = t.seconds / 86400 := by
  simp [Instant.dayNumber, secondsPerDay]

theorem secondOfDay_zero (t : Instant) : (t.secondOfDay 0 : Int) = t.seconds % 86400 := by
  simp only [Instant.secondOfDay, secondsPerDay]
  omega

/-- The days of stampable instants lie in the supported years. -/
theorem supportedYear {t : Instant} (h : t.IsStampable) :
    leastYear ≤ (Date.ofDayNumber (t.dayNumber 0)).year ∧
      (Date.ofDayNumber (t.dayNumber 0)).year ≤ greatestYear := by
  obtain ⟨hfirst, hlast, -⟩ := h
  simp only [leastSecond, secondsPerDay, Nat.cast_ofNat] at hfirst
  simp only [greatestSecond, secondsPerDay, Nat.cast_ofNat] at hlast
  apply year_ofDayNumber
  · rw [dayNumber_zero]
    omega
  · rw [dayNumber_zero]
    omega

/-- The fields that a stamp is written from make up its instant. -/
theorem instant_fields {t : Instant} (h : t.IsStampable) :
    Fields.instant {
      date := Date.ofDayNumber (t.dayNumber 0)
      hour := t.secondOfDay 0 / 3600
      minute := t.secondOfDay 0 / 60 % 60
      second := t.secondOfDay 0 % 60 + if t.isLeap then 1 else 0
      nanos := t.nanos % nanosPerSecond
      offset := 0 } = .ok t := by
  obtain ⟨hvalid, hnumber⟩ := ofDayNumber_spec (t.dayNumber 0)
  obtain ⟨hleast, hgreatest⟩ := supportedYear h
  obtain ⟨hfirst, hlast, hnanos⟩ := h
  have hclock := secondOfDay_zero t
  have hyears : ¬((!(Date.ofDayNumber (t.dayNumber 0)).isValid) = true ∨
      (Date.ofDayNumber (t.dayNumber 0)).year < leastYear ∨
      greatestYear < (Date.ofDayNumber (t.dayNumber 0)).year) := by
    simp only [hvalid, Bool.not_true, Bool.false_eq_true, false_or]
    omega
  generalize hs : t.secondOfDay 0 = s at hclock
  -- The leap second is the one that is written as the sixtieth.
  have hsplit : (t.isLeap = true ∧ s % 60 = 59 ∧ nanosPerSecond ≤ t.nanos ∧
      t.nanos < 2 * nanosPerSecond) ∨ (t.isLeap = false ∧ t.nanos < nanosPerSecond) := by
    by_cases hlong : nanosPerSecond ≤ t.nanos
    · refine .inl ⟨by simp [Instant.isLeap, hlong], by omega, hlong, by omega⟩
    · exact .inr ⟨by simpa [Instant.isLeap] using hlong, Nat.lt_of_not_le hlong⟩
  have hcount : t.dayNumber 0 * 86400 +
      ((s / 3600 * 3600 + s / 60 % 60 * 60 + s % 60 : Nat) : Int) = t.seconds := by
    rw [dayNumber_zero]
    omega
  have hsupported : ¬(t.seconds < leastSecond ∨ greatestSecond < t.seconds) := by omega
  rw [Fields.instant, if_neg hyears, if_neg (show ¬secondsPerDay ≤ (0 : Int).natAbs by decide)]
  simp only [hnumber, secondsPerDay, Nat.cast_ofNat, Int.sub_zero]
  rcases hsplit with ⟨hleap, hlastSecond, hlong, hshort⟩ | ⟨hleap, hshort⟩
  · have hsixty : s % 60 + 1 = 60 := by omega
    have hnanos : t.nanos % nanosPerSecond + nanosPerSecond = t.nanos := by
      rw [Nat.mod_eq_sub_mod hlong, Nat.mod_eq_of_lt (by omega)]
      omega
    rw [hlastSecond] at hcount
    simp only [hleap, if_true, hsixty, hcount, if_neg hsupported, hnanos]
  · have hnotSixty : s % 60 ≠ 60 := by omega
    have hnanos : t.nanos % nanosPerSecond = t.nanos := Nat.mod_eq_of_lt hshort
    simp only [hleap, Bool.false_eq_true, if_false, Nat.add_zero, if_neg hnotSixty, hcount,
      if_neg hsupported, hnanos]

end Stamp

theorem Instant.parse_render {t : Instant} (h : t.IsStampable) :
    Instant.parse t.render = .ok t := by
  have hyears := Stamp.supportedYear h
  have hyear : Word.fitsSigned 32 (Date.ofDayNumber (t.dayNumber 0)).year = true := by
    have hleast : Stamp.leastYear = -262143 := rfl
    have hgreatest : Stamp.greatestYear = 262142 := rfl
    have hword : (twoPow (32 - 1) : Int) = 2147483648 := rfl
    simp only [Word.fitsSigned, Bool.and_eq_true, decide_eq_true_eq]
    omega
  have hday : t.secondOfDay 0 < 86400 := by
    have := Stamp.secondOfDay_zero t
    omega
  have hsecond : t.secondOfDay 0 % 60 + (if t.isLeap then 1 else 0) ≤ 60 := by
    split <;> omega
  have hnanos : t.nanos % nanosPerSecond < nanosPerSecond := Nat.mod_lt _ (by decide)
  have hfields := Stamp.fields_render (ofDayNumber_spec (t.dayNumber 0)).1 hyear
    (show t.secondOfDay 0 / 3600 ≤ 23 by omega) (show t.secondOfDay 0 / 60 % 60 ≤ 59 by omega)
    hsecond hnanos
  rw [Instant.parse, Instant.render, String.toList_ofList]
  simp only [Instant.renderDate, Instant.renderClock, List.append_assoc, List.cons_append]
  rw [hfields]
  exact Stamp.instant_fields h

/-! ## What the reader gives -/

namespace Stamp

/-- A number has no more digits than were taken for it. -/
theorem moreDigits_lt {width value n : Nat} {text rest : List Char}
    (h : moreDigits width value text = .ok (n, rest)) :
    rest.length ≤ text.length ∧ text.length - rest.length ≤ width ∧
      n < (value + 1) * 10 ^ (text.length - rest.length) := by
  induction width generalizing value text with
  | zero =>
    obtain ⟨rfl, rfl⟩ : value = n ∧ text = rest := by simpa [moreDigits] using h
    simp
  | succ width ih =>
    cases text with
    | nil =>
      obtain ⟨rfl, rfl⟩ : value = n ∧ [] = rest := by simpa [moreDigits] using h
      simp
    | cons c text =>
      rw [moreDigits] at h
      by_cases hc : c.isDigit = true
      · rw [if_pos hc] at h
        simp only at h
        split at h
        · obtain ⟨hshorter, htaken, hn⟩ := ih h
          have hdigit : digitValue c < 10 := Text.digitValue_lt hc
          have hlength : (c :: text).length - rest.length = (text.length - rest.length) + 1 := by
            rw [List.length_cons]
            omega
          refine ⟨Nat.le_succ_of_le hshorter, by omega, ?_⟩
          have hstep : value * 10 + digitValue c + 1 ≤ (value + 1) * 10 := by omega
          rw [hlength]
          generalize text.length - rest.length = taken at hn
          calc n < (value * 10 + digitValue c + 1) * 10 ^ taken := hn
            _ ≤ (value + 1) * 10 * 10 ^ taken := Nat.mul_le_mul_right _ hstep
            _ = (value + 1) * 10 ^ (taken + 1) := by rw [Nat.pow_succ', Nat.mul_assoc]
        · exact nomatch h
      · rw [if_neg hc] at h
        obtain ⟨rfl, rfl⟩ : value = n ∧ c :: text = rest := by simpa using h
        simp

theorem number_lt {width n : Nat} {text rest : List Char}
    (h : number width text = .ok (n, rest)) :
    text.length - rest.length ≤ width ∧ n < 10 ^ (text.length - rest.length) := by
  cases text with
  | nil => simp [number] at h
  | cons c text =>
    rw [number] at h
    split at h
    · obtain ⟨-, htaken, hn⟩ := moreDigits_lt h
      exact ⟨htaken, by rwa [Nat.zero_add, Nat.one_mul] at hn⟩
    · contradiction

/-- A fraction is less than a second. -/
theorem fraction_lt {text rest : List Char} {nanos : Nat}
    (h : fraction text = .ok (nanos, rest)) : nanos < nanosPerSecond := by
  unfold fraction at h
  split at h
  · rename_i digits
    obtain ⟨⟨n, left⟩, hnumber, h⟩ := bind_eq_ok.mp h
    obtain ⟨htaken, hn⟩ := number_lt hnumber
    simp only [Except.ok.injEq, Prod.mk.injEq] at h
    obtain ⟨rfl, -⟩ := h
    calc n * tenPow (9 - (digits.length - left.length))
        < 10 ^ (digits.length - left.length) * 10 ^ (9 - (digits.length - left.length)) :=
          Nat.mul_lt_mul_of_pos_right hn (Nat.pow_pos (by decide))
      _ = 10 ^ 9 := by rw [← Nat.pow_add, Nat.add_sub_cancel' htaken]
      _ = nanosPerSecond := rfl
  · simp only [Except.ok.injEq, Prod.mk.injEq] at h
    rw [← h.1]
    decide

/-- Offsets count whole minutes. -/
theorem unsignedOffset_mod {text rest : List Char} {n : Nat}
    (h : unsignedOffset text = .ok (n, rest)) : n % 60 = 0 := by
  unfold unsignedOffset at h
  obtain ⟨⟨h₁, h₂, afterHours⟩, -, h⟩ := bind_eq_ok.mp h
  obtain ⟨⟨m₁, m₂, afterMinutes⟩, -, h⟩ := bind_eq_ok.mp h
  simp only at h
  split at h
  · contradiction
  · simp only [Except.ok.injEq, Prod.mk.injEq] at h
    omega

theorem offset_mod {text rest : List Char} {n : Int} (h : offset text = .ok (n, rest)) :
    n % 60 = 0 := by
  unfold offset at h
  split at h
  · simp only [Except.ok.injEq, Prod.mk.injEq] at h
    rw [← h.1]
    rfl
  · split at h
    case h_1 => contradiction
    case h_7 => contradiction
    case h_4 =>
      obtain ⟨⟨m, left⟩, hm, h⟩ := map_eq_ok.mp h
      have := unsignedOffset_mod hm
      simp only [Prod.mk.injEq] at h
      omega
    case h_5 | h_6 =>
      obtain ⟨⟨m, left⟩, hm, h⟩ := map_eq_ok.mp h
      have := unsignedOffset_mod hm
      simp only [Prod.mk.injEq] at h
      omega
    case h_2 | h_3 =>
      simp only [Except.ok.injEq, Prod.mk.injEq] at h
      omega

theorem fields_bounds {text : List Char} {f : Fields} (h : fields text = .ok f) :
    f.nanos < nanosPerSecond ∧ f.offset % 60 = 0 := by
  unfold fields at h
  obtain ⟨⟨year, _⟩, -, h⟩ := bind_eq_ok.mp h
  obtain ⟨_, -, h⟩ := bind_eq_ok.mp h
  obtain ⟨⟨month, _⟩, -, h⟩ := bind_eq_ok.mp h
  obtain ⟨_, -, h⟩ := bind_eq_ok.mp h
  obtain ⟨⟨day, _⟩, -, h⟩ := bind_eq_ok.mp h
  obtain ⟨_, -, h⟩ := bind_eq_ok.mp h
  obtain ⟨⟨hour, _⟩, -, h⟩ := bind_eq_ok.mp h
  obtain ⟨_, -, h⟩ := bind_eq_ok.mp h
  obtain ⟨⟨minute, _⟩, -, h⟩ := bind_eq_ok.mp h
  obtain ⟨_, -, h⟩ := bind_eq_ok.mp h
  obtain ⟨⟨second, _⟩, -, h⟩ := bind_eq_ok.mp h
  obtain ⟨⟨nanos, _⟩, hnanos, h⟩ := bind_eq_ok.mp h
  obtain ⟨⟨offset, _⟩, hoffset, h⟩ := bind_eq_ok.mp h
  simp only at h
  split at h
  · cases h
    exact ⟨fraction_lt hnanos, offset_mod hoffset⟩
  · contradiction

theorem isStampable_instant {f : Fields} {t : Instant} (hnanos : f.nanos < nanosPerSecond)
    (hoffset : f.offset % 60 = 0) (h : f.instant = .ok t) : t.IsStampable := by
  unfold Fields.instant at h
  split at h
  · contradiction
  · split at h
    · contradiction
    · simp only at h
      split at h <;> split at h
      · contradiction
      · rename_i hrange
        cases h
        obtain ⟨hfirst, hlast⟩ := not_or.mp hrange
        refine ⟨Int.not_lt.mp hfirst, Int.not_lt.mp hlast, .inr ⟨?_, ?_⟩⟩
        · simp only
          omega
        · simp only [secondsPerDay, Nat.cast_ofNat]
          omega
      · contradiction
      · rename_i hrange
        cases h
        obtain ⟨hfirst, hlast⟩ := not_or.mp hrange
        exact ⟨Int.not_lt.mp hfirst, Int.not_lt.mp hlast, .inl hnanos⟩

end Stamp

theorem Instant.isStampable_of_parse {text : String} {t : Instant}
    (h : Instant.parse text = .ok t) : t.IsStampable := by
  obtain ⟨f, hfields, hinstant⟩ := bind_eq_ok.mp h
  obtain ⟨hnanos, hoffset⟩ := Stamp.fields_bounds hfields
  exact Stamp.isStampable_instant hnanos hoffset hinstant

end Time
end RepoFeed
