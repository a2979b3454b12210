import RepoFeed.Json.Numeral
import RepoFeed.Proofs.Text.Digits

/-
Written numbers and the reader of numbers.

A whole number of 64 bits reads back as itself.  A binary64 number need not: the
reader rounds twice, and near the greatest number it refuses.  What always holds
is that the reader, if it accepts a text, stops where skipping would have stopped,
and skipping takes all of a written number and nothing of what follows.  The
lemmas about a number's parts are stated as implications, so that a refusal never
has to be looked at.
-/

namespace RepoFeed
namespace Json

/-- What can stand behind a written value: nothing, or what parts it from the
next one or closes the list or object around it. -/
def Boundary (rest : List Char) : Prop :=
  ∀ c ∈ rest.head?, c = ',' ∨ c = ']' ∨ c = '\x7d'

theorem boundary_comma (text : List Char) : Boundary (',' :: text) := by simp [Boundary]

theorem boundary_bracket (text : List Char) : Boundary (']' :: text) := by simp [Boundary]

theorem boundary_brace (text : List Char) : Boundary ('\x7d' :: text) := by simp [Boundary]

namespace Boundary

variable {rest : List Char}

theorem not_digit (h : Boundary rest) : ∀ c ∈ rest.head?, c.isDigit = false := by
  intro c hc
  rcases h c hc with rfl | rfl | rfl <;> rfl

theorem not_startsWithDigit (h : Boundary rest) : startsWithDigit rest = false := by
  cases rest with
  | nil => rfl
  | cons c rest => exact h.not_digit c (by simp)

/-- Behind a written value no number goes on. -/
theorem cons_ne {c d : Char} {tail : List Char} (h : Boundary (c :: tail))
    (hd : d ≠ ',' ∧ d ≠ ']' ∧ d ≠ '\x7d') : c ≠ d := by
  rcases h c (by simp) with rfl | rfl | rfl
  · exact hd.1.symm
  · exact hd.2.1.symm
  · exact hd.2.2.symm

end Boundary

open Text (AreDigits digitValue)

/-! ## Runs of digits -/

theorem dropWhile_of_not_startsWithDigit {text : List Char} (h : startsWithDigit text = false) :
    text.dropWhile Char.isDigit = text := by
  cases text with
  | nil => rfl
  | cons c text => exact List.dropWhile_cons_of_neg (by simpa [startsWithDigit] using h)

theorem takeDigits_of_not_startsWithDigit (limit value : Nat) {text : List Char}
    (h : startsWithDigit text = false) : takeDigits limit value text = (value, 0, text) := by
  cases text with
  | nil => rfl
  | cons c text =>
    have hc : c.isDigit = false := h
    simp [takeDigits, hc]

theorem takeDigits_append (limit value : Nat) {digits rest : List Char} (hd : AreDigits digits)
    (hr : startsWithDigit rest = false)
    (hv : Nat.ofDigitChars 10 digits value < limit) :
    takeDigits limit value (digits ++ rest) =
      (Nat.ofDigitChars 10 digits value, digits.length, rest) := by
  induction digits generalizing value with
  | nil => exact takeDigits_of_not_startsWithDigit limit value hr
  | cons c digits ih =>
    rw [Text.ofDigitChars_cons_digitValue] at hv ⊢
    have hfits : value * 10 + digitValue c < limit :=
      Nat.lt_of_le_of_lt (Text.le_ofDigitChars digits _) hv
    rw [List.cons_append, takeDigits, if_pos ⟨hd.head, hfits⟩, ih _ hd.tail hv]
    rfl

/-- Taking digits stops inside the run of digits or at its end. -/
theorem dropWhile_takeDigits (limit value : Nat) (text : List Char) :
    (takeDigits limit value text).2.2.dropWhile Char.isDigit = text.dropWhile Char.isDigit := by
  induction text generalizing value with
  | nil => rfl
  | cons c text ih =>
    rw [takeDigits]
    split
    · rename_i hfits
      rw [List.dropWhile_cons_of_pos hfits.1]
      exact ih _
    · rfl

/-- All digits have been taken where no digit follows. -/
theorem takeDigits_left {limit value : Nat} {text : List Char}
    (h : startsWithDigit (takeDigits limit value text).2.2 = false) :
    (takeDigits limit value text).2.2 = text.dropWhile Char.isDigit := by
  rw [← dropWhile_takeDigits limit value text, dropWhile_of_not_startsWithDigit h]

namespace Numeral

/-! ## Whole numbers -/

/-- The whole numbers that the reader does not take for binary64. -/
def IsWord (n : Int) : Prop := -(integerLimit : Int) ≤ n ∧ n < naturalLimit

instance (n : Int) : Decidable (IsWord n) :=
  inferInstanceAs (Decidable (_ ∧ _))

/-- The first digit of a number tells zero from the others. -/
theorem toDigits_head_ne_zero {n : Nat} (hn : 0 < n) :
    ∃ c digits, Nat.toDigits 10 n = c :: digits ∧ c ≠ '0' := by
  induction n using Nat.strongRecOn with
  | _ n ih =>
    by_cases hsmall : n < 10
    · refine ⟨n.digitChar, [], Nat.toDigits_of_lt_base hsmall, ?_⟩
      have : ∀ m < 10, 0 < m → m.digitChar ≠ '0' := by decide
      exact this n hsmall hn
    · obtain ⟨c, digits, hdigits, hc⟩ := ih (n / 10) (by omega) (by omega)
      refine ⟨c, digits ++ [(n % 10).digitChar], ?_, hc⟩
      rw [Nat.toDigits_of_base_le (by decide) (by omega), hdigits]
      rfl

/-- A reader that has taken the digits of a number looks on for a point or an
exponent, and behind a written value finds neither. -/
theorem readAfterWhole_boundary {rest : List Char} (h : Boundary rest) (negative : Bool)
    (digits : Nat) :
    readAfterWhole negative digits rest = .ok (ofDigits negative digits, rest) := by
  cases rest with
  | nil => rfl
  | cons c tail =>
    have hpoint : c ≠ '.' := h.cons_ne (by decide)
    have hlower : c ≠ 'e' := h.cons_ne (by decide)
    have hupper : c ≠ 'E' := h.cons_ne (by decide)
    simp [readAfterWhole, hpoint, hlower, hupper]

theorem readUnsigned_toDigits {rest : List Char} (h : Boundary rest) (negative : Bool) {n : Nat}
    (hn : n < naturalLimit) :
    readUnsigned negative (Nat.toDigits 10 n ++ rest) = .ok (ofDigits negative n, rest) := by
  rcases Nat.eq_zero_or_pos n with rfl | hpos
  · rw [Nat.toDigits_zero]
    simp [readUnsigned, h.not_startsWithDigit, readAfterWhole_boundary h]
  · obtain ⟨c, digits, hdigits, hc⟩ := toDigits_head_ne_zero hpos
    have hall := Text.areDigits_toDigits n
    have hvalue : Nat.ofDigitChars 10 (Nat.toDigits 10 n) 0 = n := Nat.ofDigitChars_ten_toDigits
    have htake := takeDigits_append naturalLimit 0 hall h.not_startsWithDigit
      (by rw [hvalue]; exact hn)
    rw [hvalue, hdigits] at htake
    rw [hdigits] at hall ⊢
    rw [List.cons_append] at htake ⊢
    simp [readUnsigned, hall.head, htake, h.not_startsWithDigit, readAfterWhole_boundary h]

/-- The text of a whole number: its digits, behind a sign if it is negative. -/
theorem render_whole (n : Int) :
    (Number.whole n).render =
      if 0 ≤ n then Nat.toDigits 10 n.toNat else '-' :: Nat.toDigits 10 (-n).toNat := by
  simp only [Number.render, Int.toString_eq_repr, Int.repr_eq_if]
  split <;> simp [String.toList_append]

/-- Numbers of 64 bits are read as what they are. -/
theorem read_whole {rest : List Char} (h : Boundary rest) {n : Int} (hn : IsWord n) :
    read ((Number.whole n).render ++ rest) = .ok (.whole n, rest) := by
  rw [render_whole]
  by_cases hsign : 0 ≤ n
  · rw [if_pos hsign]
    obtain ⟨m, rfl⟩ := Int.eq_ofNat_of_zero_le hsign
    have hm : m < naturalLimit := by have := hn.2; omega
    have hread := readUnsigned_toDigits h false hm
    rw [Int.toNat_natCast]
    obtain ⟨c, digits, hdigits⟩ :=
      List.exists_cons_of_ne_nil (Nat.toDigits_ne_nil (b := 10) (n := m))
    have hall := Text.areDigits_toDigits m
    rw [hdigits] at hall hread ⊢
    have hc : c ≠ '-' := by
      intro heq
      subst heq
      exact absurd hall.head (by decide)
    simpa [read, hc, ofDigits] using hread
  · rw [if_neg hsign]
    have hm : (-n).toNat < naturalLimit := by
      have := hn.1
      have : integerLimit < naturalLimit := by decide
      omega
    have hread := readUnsigned_toDigits h true hm
    have hne : ¬((-n).toNat = 0 ∨ integerLimit < (-n).toNat) := by have := hn.1; omega
    rw [List.cons_append]
    simp only [read]
    have hback : -((-n).toNat : Int) = n := by omega
    rw [hread, ofDigits, if_pos rfl, if_neg hne, hback]

/-! ## Reading and skipping

A number that is read could have been skipped, from the same place to the same
place. -/

section Skipping

variable {text rest : List Char} {n : Number} {negative : Bool} {digits : Nat} {exponent : Int}

theorem assemble_leaves (h : assemble negative digits exponent text = .ok (n, rest)) :
    rest = text := by
  unfold assemble at h
  split at h
  · simp only [Except.ok.injEq, Prod.mk.injEq] at h
    exact h.2.symm
  · contradiction

/-- Whether an exponent is negative, and what stands behind its sign. -/
def exponentSign (text : List Char) : Bool × List Char :=
  match text with
  | '+' :: text => (false, text)
  | '-' :: text => (true, text)
  | text => (false, text)

theorem exponentSign_suffix (text : List Char) : (exponentSign text).2 <:+ text := by
  unfold exponentSign
  split
  · exact List.suffix_cons _ _
  · exact List.suffix_cons _ _
  · exact List.suffix_rfl

theorem exponentSign_of_head (h : ∀ c ∈ text.head?, c ≠ '+' ∧ c ≠ '-') :
    exponentSign text = (false, text) := by
  cases text with
  | nil => rfl
  | cons c text =>
    obtain ⟨hplus, hminus⟩ := h c rfl
    simp [exponentSign, hplus, hminus]

/-- Reads an exponent from behind its sign on. -/
def readExponentDigits (negative down : Bool) (value : Nat) (start : Int) (text : List Char) :
    Except Failure (Number × List Char) :=
  match text with
  | [] => .error (atRest (.ended .value) [])
  | c :: _ =>
    if c.isDigit then
      let (exponent, _, rest) := takeDigits exponentLimit 0 text
      if startsWithDigit rest then
        if value ≠ 0 ∧ !down then .error (atNext .numberTooLarge rest)
        else .ok (.binary (.zero negative), rest.dropWhile Char.isDigit)
      else
        assemble negative value (if down then start - exponent else start + exponent) rest
    else .error (atNext .badNumber text)

theorem readExponent_eq (negative : Bool) (value : Nat) (start : Int) (text : List Char) :
    readExponent negative value start text =
      readExponentDigits negative (exponentSign text).1 value start (exponentSign text).2 := rfl

theorem skipExponent_eq (text : List Char) :
    skipExponent text =
      if startsWithDigit (exponentSign text).2 then
        .ok ((exponentSign text).2.dropWhile Char.isDigit)
      else .error (atNext .badNumber (exponentSign text).2) := by
  unfold exponentSign skipExponent
  split <;> simp

theorem skipExponent_of_readExponent
    (h : readExponent negative digits exponent text = .ok (n, rest)) :
    skipExponent text = .ok rest := by
  rw [readExponent_eq] at h
  rw [skipExponent_eq]
  unfold readExponentDigits at h
  split at h
  · contradiction
  · rename_i c _ hsign
    split at h
    · rename_i hdigit
      rw [if_pos (show startsWithDigit (exponentSign text).2 = true from hsign ▸ hdigit)]
      simp only at h
      split at h
      · split at h
        · contradiction
        · cases h
          rw [dropWhile_takeDigits]
      · rename_i hend
        rw [assemble_leaves h, takeDigits_left (by simpa using hend)]
    · contradiction

theorem skipTail_of_readTail (h : readTail negative digits exponent text = .ok (n, rest)) :
    skipTail text = .ok rest := by
  unfold readTail at h
  unfold skipTail
  split at h
  · exact skipExponent_of_readExponent h
  · exact skipExponent_of_readExponent h
  · rw [assemble_leaves h]

theorem skipFraction_of_readFraction
    (h : readFraction negative digits exponent text = .ok (n, rest)) :
    skipAfterWhole ('.' :: text) = .ok rest := by
  unfold readFraction at h
  simp only at h
  have hdigit : startsWithDigit text = true := by
    cases hstart : startsWithDigit text with
    | true => rfl
    | false =>
      rw [takeDigits_of_not_startsWithDigit _ _ hstart] at h
      simp only [hstart, Bool.false_eq_true, if_false, if_true] at h
      split at h <;> contradiction
  simp only [skipAfterWhole, hdigit, if_true]
  split at h
  · rw [dropWhile_takeDigits] at h
    exact skipTail_of_readTail h
  · rename_i hend
    split at h
    · split at h <;> contradiction
    · rw [takeDigits_left (by simpa using hend)] at h
      exact skipTail_of_readTail h

theorem skipAfterWhole_of_readAfterWhole
    (h : readAfterWhole negative digits text = .ok (n, rest)) :
    skipAfterWhole text = .ok rest := by
  unfold readAfterWhole at h
  split at h
  · exact skipFraction_of_readFraction h
  · exact skipExponent_of_readExponent h
  · exact skipExponent_of_readExponent h
  · rename_i hpoint hsmall hlarge
    cases h
    simp only [skipAfterWhole, skipTail]

theorem skipAfterWhole_of_readAfterLong {dropped : Nat}
    (h : readAfterLong negative digits dropped text = .ok (n, rest)) :
    skipAfterWhole text = .ok rest := by
  unfold readAfterLong at h
  unfold skipAfterWhole
  split at h
  · exact skipFraction_of_readFraction h
  · exact skipTail_of_readTail h

theorem skipUnsigned_of_readUnsigned (h : readUnsigned negative text = .ok (n, rest)) :
    skipUnsigned text = .ok rest := by
  unfold readUnsigned at h
  split at h
  · contradiction
  · split at h
    · contradiction
    · rename_i hend
      simp only [skipUnsigned, hend, Bool.false_eq_true, if_false]
      exact skipAfterWhole_of_readAfterWhole h
  · rename_i c tail hzero
    split at h
    · rename_i hdigit
      have hskip : skipUnsigned (c :: tail) =
          skipAfterWhole ((c :: tail).dropWhile Char.isDigit) := by
        unfold skipUnsigned
        split
        · rename_i heq
          cases heq
          exact absurd rfl hzero
        · exact if_pos hdigit
      rw [hskip]
      simp only at h
      split at h
      · rw [dropWhile_takeDigits] at h
        exact skipAfterWhole_of_readAfterLong h
      · rename_i hend
        rw [takeDigits_left (by simpa using hend)] at h
        exact skipAfterWhole_of_readAfterWhole h
    · contradiction

theorem skip_of_read (h : read text = .ok (n, rest)) : skip text = .ok rest := by
  unfold read at h
  unfold skip
  split at h
  · exact skipUnsigned_of_readUnsigned h
  · exact skipUnsigned_of_readUnsigned h

end Skipping

/-! ## Numbers of any kind

What is left behind an exponent, a fraction or a whole part that has been
accepted. -/

section Leaves

variable {rest left : List Char} {n : Number}

/-- The texts of an exponent, which may be missing. -/
def IsExponentText (text : List Char) : Prop :=
  text = [] ∨ ∃ sign digits, text = 'e' :: (sign ++ digits) ∧
    (sign = [] ∨ sign = ['+'] ∨ sign = ['-']) ∧ AreDigits digits

/-- The texts of a fraction, which may be missing. -/
def IsFractionText (text : List Char) : Prop :=
  text = [] ∨ ∃ digits, text = '.' :: digits ∧ AreDigits digits

theorem exponentSign_append (hr : Boundary rest) {sign digits : List Char}
    (hsign : sign = [] ∨ sign = ['+'] ∨ sign = ['-']) (hd : AreDigits digits) :
    (exponentSign (sign ++ digits ++ rest)).2 = digits ++ rest := by
  rcases hsign with rfl | rfl | rfl
  · have hhead : ∀ c ∈ (digits ++ rest).head?, c ≠ '+' ∧ c ≠ '-' := by
      intro c hc
      cases digits with
      | nil => rcases hr c hc with rfl | rfl | rfl <;> decide
      | cons d digits =>
        obtain rfl : d = c := by simpa using hc
        constructor <;> (rintro rfl; exact absurd hd.head (by decide))
    rw [List.nil_append, exponentSign_of_head hhead]
  · rfl
  · rfl

theorem skipExponent_leaves (hr : Boundary rest) {sign digits : List Char}
    (hsign : sign = [] ∨ sign = ['+'] ∨ sign = ['-']) (hd : AreDigits digits)
    (h : skipExponent (sign ++ digits ++ rest) = .ok left) : left = rest := by
  rw [skipExponent_eq, exponentSign_append hr hsign hd] at h
  split at h
  · cases h
    exact Text.dropWhile_digits hd hr.not_digit
  · contradiction

theorem skipTail_leaves (hr : Boundary rest) {exponentText : List Char}
    (he : IsExponentText exponentText) (h : skipTail (exponentText ++ rest) = .ok left) :
    left = rest := by
  rcases he with rfl | ⟨sign, digits, rfl, hsign, hd⟩
  · rw [List.nil_append] at h
    unfold skipTail at h
    split at h
    · exact absurd rfl (hr.cons_ne (by decide))
    · exact absurd rfl (hr.cons_ne (by decide))
    · cases h
      rfl
  · exact skipExponent_leaves hr hsign hd h

/-- What an exponent or the end of a number begins with is no digit. -/
theorem exponentText_not_digit (hr : Boundary rest) {exponentText : List Char}
    (he : IsExponentText exponentText) :
    ∀ c ∈ (exponentText ++ rest).head?, c.isDigit = false := by
  rcases he with rfl | ⟨sign, digits, rfl, -, -⟩
  · exact hr.not_digit
  · simp

/-- What a fraction, an exponent or the end of a number begins with is no
digit. -/
theorem fractionText_not_digit (hr : Boundary rest) {fractionText exponentText : List Char}
    (hf : IsFractionText fractionText) (he : IsExponentText exponentText) :
    ∀ c ∈ (fractionText ++ (exponentText ++ rest)).head?, c.isDigit = false := by
  rcases hf with rfl | ⟨digits, rfl, -⟩
  · exact exponentText_not_digit hr he
  · simp

theorem skipAfterWhole_leaves (hr : Boundary rest) {fractionText exponentText : List Char}
    (hf : IsFractionText fractionText) (he : IsExponentText exponentText)
    (h : skipAfterWhole (fractionText ++ (exponentText ++ rest)) = .ok left) : left = rest := by
  rcases hf with rfl | ⟨digits, rfl, hd⟩
  · rw [List.nil_append] at h
    unfold skipAfterWhole at h
    split at h
    · rename_i text htext
      rcases he with rfl | ⟨sign, digits, rfl, -, -⟩
      · rw [List.nil_append] at htext
        rw [htext] at hr
        exact absurd rfl (hr.cons_ne (by decide))
      · simp at htext
    · exact skipTail_leaves hr he h
  · rw [List.cons_append] at h
    simp only [skipAfterWhole, Text.dropWhile_digits hd (exponentText_not_digit hr he)] at h
    split at h
    · exact skipTail_leaves hr he h
    · contradiction

theorem skipUnsigned_leaves (hr : Boundary rest)
    {whole fractionText exponentText : List Char} (hw : AreDigits whole)
    (hf : IsFractionText fractionText) (he : IsExponentText exponentText)
    (h : skipUnsigned (whole ++ (fractionText ++ (exponentText ++ rest))) = .ok left) :
    left = rest := by
  have hbehind := Text.dropWhile_digits hw (fractionText_not_digit hr hf he)
  unfold skipUnsigned at h
  split at h
  · rename_i text htext
    split at h
    · contradiction
    · rename_i hend
      -- No digit follows the zero, so it is the whole part.
      rw [htext, List.dropWhile_cons_of_pos rfl,
        dropWhile_of_not_startsWithDigit (by simpa using hend)] at hbehind
      rw [hbehind] at h
      exact skipAfterWhole_leaves hr hf he h
  · split at h
    · rw [hbehind] at h
      exact skipAfterWhole_leaves hr hf he h
    · contradiction

/-- The texts of a number without its sign. -/
def IsUnsignedText (text : List Char) : Prop :=
  ∃ whole fractionText exponentText, text = whole ++ (fractionText ++ exponentText) ∧
    whole ≠ [] ∧ AreDigits whole ∧ IsFractionText fractionText ∧ IsExponentText exponentText

/-- The first character of an unsigned number is a digit. -/
theorem IsUnsignedText.head {text : List Char} (h : IsUnsignedText text) :
    ∃ c tail, text = c :: tail ∧ c.isDigit = true := by
  obtain ⟨whole, fractionText, exponentText, rfl, hne, hw, -, -⟩ := h
  obtain ⟨c, digits, rfl⟩ := List.exists_cons_of_ne_nil hne
  exact ⟨c, _, List.cons_append, hw.head⟩

theorem IsUnsignedText.skip_leaves {text : List Char} (ht : IsUnsignedText text)
    (hr : Boundary rest) (h : skipUnsigned (text ++ rest) = .ok left) : left = rest := by
  obtain ⟨whole, fractionText, exponentText, rfl, -, hw, hf, he⟩ := ht
  rw [List.append_assoc, List.append_assoc] at h
  exact skipUnsigned_leaves hr hw hf he h

theorem isUnsignedText_digits {digits : List Char} (hne : digits ≠ []) (hd : AreDigits digits) :
    IsUnsignedText digits :=
  ⟨digits, [], [], by simp, hne, hd, .inl rfl, .inl rfl⟩

/-- Wherever a layout puts the point and the exponent, the result is the text of
a number. -/
theorem isUnsignedText_write {digits : List Char} (hne : digits ≠ []) (hd : AreDigits digits)
    (leading : Int) : IsUnsignedText (Binary64.layout.write digits leading) := by
  have htake : ∀ k, AreDigits (digits.take k) := fun k c hc => hd c (List.mem_of_mem_take hc)
  have hdrop : ∀ k, AreDigits (digits.drop k) := fun k c hc => hd c (List.mem_of_mem_drop hc)
  have htakene : ∀ k, digits.take (k + 1) ≠ [] := by
    intro k
    obtain ⟨c, tail, rfl⟩ := List.exists_cons_of_ne_nil hne
    simp
  unfold Binary64.Layout.write
  split
  · split
    · refine ⟨['0'], '.' :: (List.replicate ((-leading).toNat - 1) '0' ++ digits), [], by simp,
        by simp, by simp [AreDigits], .inr ⟨_, rfl, ?_⟩, .inl rfl⟩
      exact (Text.areDigits_zeros _).append hd
    · simp only []
      split
      · exact ⟨digits ++ List.replicate (leading.toNat + 1 - digits.length) '0', ['.', '0'], [],
          by simp [Binary64.layout], by simp [hne], hd.append (Text.areDigits_zeros _),
          .inr ⟨['0'], rfl, by simp [AreDigits]⟩, .inl rfl⟩
      · exact ⟨digits.take (leading.toNat + 1), '.' :: digits.drop (leading.toNat + 1), [],
          by simp, htakene _, htake _, .inr ⟨_, rfl, hdrop _⟩, .inl rfl⟩
  · have hexponent : IsExponentText ('e' :: ((if leading < 0 then ['-'] else ['+']) ++
        Nat.toDigits 10 leading.natAbs)) := by
      refine .inr ⟨_, _, rfl, ?_, Text.areDigits_toDigits _⟩
      split
      · exact .inr (.inr rfl)
      · exact .inr (.inl rfl)
    cases hfraction : digits.drop 1 with
    | nil => exact ⟨digits.take 1, [], _, by simp [Binary64.layout], htakene 0, htake 1, .inl rfl,
        hexponent⟩
    | cons c tail => exact ⟨digits.take 1, '.' :: (c :: tail), _, by simp [Binary64.layout],
        htakene 0, htake 1, .inr ⟨_, rfl, hfraction ▸ hdrop 1⟩, hexponent⟩

/-- The text of any number is one without a sign or one behind a minus sign. -/
theorem render_isUnsignedText (n : Number) :
    IsUnsignedText n.render ∨ ∃ text, n.render = '-' :: text ∧ IsUnsignedText text := by
  have hdigits : ∀ m, IsUnsignedText (Nat.toDigits 10 m) := fun m =>
    isUnsignedText_digits Nat.toDigits_ne_nil (Text.areDigits_toDigits m)
  cases n with
  | whole n =>
    rw [render_whole]
    split
    · exact .inl (hdigits _)
    · exact .inr ⟨_, rfl, hdigits _⟩
  | binary x =>
    have hbody : ∃ text, IsUnsignedText text ∧
        x.render = (if x.negative then ['-'] else []) ++ text := by
      by_cases hzero : x.isZero = true
      · refine ⟨['0', '.', '0'], ⟨['0'], ['.', '0'], [], rfl, by simp, by simp [AreDigits],
          .inr ⟨['0'], rfl, by simp [AreDigits]⟩, .inl rfl⟩, ?_⟩
        simp [Binary64.render, hzero, Binary64.layout]
      · refine ⟨_, isUnsignedText_write Nat.toDigits_ne_nil
          (Text.areDigits_toDigits x.shortest.1) (x.shortest.2 +
            ((Nat.toDigits 10 x.shortest.1).length - 1 : Nat)), ?_⟩
        simp only [Binary64.render, if_neg hzero]
    obtain ⟨text, htext, hrender⟩ := hbody
    rw [Number.render, hrender]
    split
    · exact .inr ⟨text, rfl, htext⟩
    · exact .inl htext

/-- A number's text begins like a number. -/
theorem render_head (n : Number) : ∃ c text, n.render = c :: text ∧ begins c = true := by
  rcases render_isUnsignedText n with h | ⟨text, htext, -⟩
  · obtain ⟨c, text, htext, hc⟩ := h.head
    exact ⟨c, text, htext, by simp [begins, hc]⟩
  · exact ⟨'-', text, htext, rfl⟩

/-- A number that is accepted has been read to its end and no further. -/
theorem read_leaves (hr : Boundary rest) (m : Number)
    (h : read (m.render ++ rest) = .ok (n, left)) : left = rest := by
  have hskip := skip_of_read h
  rcases render_isUnsignedText m with hm | ⟨text, htext, hm⟩
  · obtain ⟨c, text, htext, hc⟩ := hm.head
    have hne : c ≠ '-' := by
      intro heq
      subst heq
      exact absurd hc (by decide)
    have hunsigned : skipUnsigned (m.render ++ rest) = .ok left := by
      rw [htext] at hskip ⊢
      simpa [skip, hne] using hskip
    exact hm.skip_leaves hr hunsigned
  · rw [htext] at hskip
    exact hm.skip_leaves hr hskip

end Leaves

end Numeral
end Json
end RepoFeed
