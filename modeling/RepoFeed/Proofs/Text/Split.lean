import RepoFeed.Text.Split

/-
Texts that are put together and cut at separators again.
-/

namespace RepoFeed
namespace Text

variable {isSeparator : Char → Bool}

theorem split_ne_nil (text : List Char) : split isSeparator text ≠ [] := by
  cases text with
  | nil => exact List.cons_ne_nil _ _
  | cons c text =>
    rw [split]
    split
    · exact List.cons_ne_nil _ _
    · split <;> exact List.cons_ne_nil _ _

theorem split_append_cons {c : Char} (h : isSeparator c = true) (a b : List Char) :
    split isSeparator (a ++ c :: b) = split isSeparator a ++ split isSeparator b := by
  induction a with
  | nil => simp [split, h]
  | cons d a ih =>
    rw [List.cons_append, split, split, ih]
    by_cases hd : isSeparator d = true
    · rw [if_pos hd, if_pos hd, List.cons_append]
    · rw [if_neg hd, if_neg hd]
      cases hsplit : split isSeparator a with
      | nil => exact absurd hsplit (split_ne_nil a)
      | cons part parts => rfl

theorem split_of_forall {text : List Char} (h : ∀ c ∈ text, isSeparator c = false) :
    split isSeparator text = [text] := by
  induction text with
  | nil => rfl
  | cons c text ih =>
    obtain ⟨hc, htext⟩ := List.forall_mem_cons.mp h
    rw [split, if_neg (by simp [hc]), ih htext]

/-- What has no separator in it is passed over. -/
theorem cut_append {mark : Char} {text : List Char} (h : mark ∉ text) (rest : List Char) :
    cut (· == mark) (text ++ rest) =
      (text ++ (cut (· == mark) rest).1, (cut (· == mark) rest).2) := by
  induction text with
  | nil => rfl
  | cons c text ih =>
    rw [List.mem_cons, not_or] at h
    rw [List.cons_append, cut, if_neg (by simpa using Ne.symm h.1), ih h.2]
    rfl

theorem cut_of_notMem {mark : Char} {text : List Char} (h : mark ∉ text) :
    cut (· == mark) text = (text, none) := by
  simpa [cut] using cut_append h []

theorem cut_append_cons {mark : Char} {text : List Char} (h : mark ∉ text) (rest : List Char) :
    cut (· == mark) (text ++ mark :: rest) = (text, some rest) := by
  simp [cut_append h, cut]

end Text
end RepoFeed
