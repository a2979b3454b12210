import Mathlib.Algebra.Group.Nat.Defs
import RepoFeed.Text.Digit
import RepoFeed.Time.Calendar

/-
Runs of decimal digits and the numbers they stand for.

`Nat.toDigits` writes a number and `Nat.ofDigitChars` reads one; the readers of
this library take the same steps as `Nat.ofDigitChars` but stop at a limit, so
what a reader needs to know is that a run never stands for less than any of its
beginnings.  Digits and letters are those of ASCII, which bounds where they lie.
-/

namespace RepoFeed
namespace Text

/-- All characters of a text are digits. -/
def AreDigits (text : List Char) : Prop := ∀ c ∈ text, c.isDigit = true

theorem areDigits_toDigits (n : Nat) : AreDigits (Nat.toDigits 10 n) :=
  fun _ hc => Nat.isDigit_of_mem_toDigits (by decide) (by decide) hc

theorem areDigits_zeros (n : Nat) : AreDigits (List.replicate n '0') := by
  intro c hc
  rw [List.eq_of_mem_replicate hc]
  rfl

theorem AreDigits.append {a b : List Char} (ha : AreDigits a) (hb : AreDigits b) :
    AreDigits (a ++ b) := by
  intro c hc
  rcases List.mem_append.mp hc with h | h
  · exact ha c h
  · exact hb c h

theorem AreDigits.head {c : Char} {text : List Char} (h : AreDigits (c :: text)) :
    c.isDigit = true :=
  h c List.mem_cons_self

theorem AreDigits.tail {c : Char} {text : List Char} (h : AreDigits (c :: text)) :
    AreDigits text :=
  fun d hd => h d (List.mem_cons_of_mem c hd)

theorem digit_bounds {c : Char} (h : c.isDigit = true) : 48 ≤ c.toNat ∧ c.toNat ≤ 57 := by
  simpa [Char.isDigit, UInt32.le_iff_toNat_le] using h

theorem letter_bounds {c : Char} (h : c.isAlpha = true) : 65 ≤ c.toNat ∧ c.toNat ≤ 122 := by
  have hcases : c.isUpper = true ∨ c.isLower = true := Bool.or_eq_true_iff.mp h
  obtain hupper | hlower := hcases
  · obtain ⟨hlow, hhigh⟩ := of_decide_eq_true hupper
    have : 65 ≤ c.toNat ∧ c.toNat ≤ 90 := ⟨hlow, hhigh⟩
    omega
  · obtain ⟨hlow, hhigh⟩ := Bool.and_eq_true_iff.mp hlower
    have : 97 ≤ c.toNat ∧ c.toNat ≤ 122 :=
      ⟨of_decide_eq_true hlow, of_decide_eq_true hhigh⟩
    omega

theorem digitValue_lt {c : Char} (h : c.isDigit = true) : digitValue c < 10 := by
  have hc := digit_bounds h
  have hzero : ('0' : Char).toNat = 48 := rfl
  simp only [digitValue]
  omega

/-- A run of digits ends where it says: behind it stands something else. -/
theorem dropWhile_digits {digits rest : List Char} (hd : AreDigits digits)
    (hr : ∀ c ∈ rest.head?, c.isDigit = false) :
    (digits ++ rest).dropWhile Char.isDigit = rest := by
  induction digits with
  | nil =>
    cases rest with
    | nil => rfl
    | cons c rest => simp [hr c (by simp)]
  | cons c digits ih =>
    rw [List.cons_append, List.dropWhile_cons, if_pos hd.head]
    exact ih hd.tail

/-- One more digit, as the readers of this library take it. -/
theorem ofDigitChars_cons_digitValue (c : Char) (digits : List Char) (value : Nat) :
    Nat.ofDigitChars 10 (c :: digits) value =
      Nat.ofDigitChars 10 digits (value * 10 + digitValue c) := by
  rw [Nat.ofDigitChars_cons, Nat.mul_comm]
  rfl

theorem le_ofDigitChars (digits : List Char) (value : Nat) :
    value ≤ Nat.ofDigitChars 10 digits value := by
  induction digits generalizing value with
  | nil => simp
  | cons c digits ih =>
    rw [ofDigitChars_cons_digitValue]
    exact Nat.le_trans (by omega) (ih (value * 10 + digitValue c))

end Text

namespace Time

/-! ## Numbers of a fixed width -/

theorem areDigits_padded (width n : Nat) : Text.AreDigits (padded width n) :=
  (Text.areDigits_zeros _).append (Text.areDigits_toDigits n)

theorem ofDigitChars_padded (width n : Nat) : Nat.ofDigitChars 10 (padded width n) 0 = n := by
  rw [padded, Nat.ofDigitChars_append, Nat.ofDigitChars_replicate_zero, Nat.mul_zero,
    Nat.ofDigitChars_ten_toDigits]

theorem padded_ne_nil (width n : Nat) : padded width n ≠ [] := by
  simp [padded, Nat.toDigits_ne_nil]

theorem length_padded {width n : Nat} (hw : 0 < width) (hn : n < 10 ^ width) :
    (padded width n).length = width := by
  have hlen := (Nat.length_toDigits_le_iff (b := 10) (by decide) hw).mpr hn
  simp only [padded, List.length_append, List.length_replicate]
  omega

/-- Years have digits and signs in them, and nothing else. -/
theorem of_mem_renderYear {year : Int} {c : Char} (h : c ∈ renderYear year) :
    c.isDigit = true ∨ c = '-' ∨ c = '+' := by
  unfold renderYear at h
  split at h
  · exact .inl (areDigits_padded _ _ c h)
  · obtain rfl | h := List.mem_cons.mp h
    · split <;> simp
    · exact .inl (areDigits_padded _ _ c h)

end Time
end RepoFeed
