import RepoFeed.Storage.Store

/-
Entries under keys.
-/

namespace RepoFeed
namespace Storage

/-- Without the entries of one key, those of another are found as before. -/
theorem find?_filter_of_ne {α β : Type} [BEq α] [LawfulBEq α] {key other : α} (h : other ≠ key)
    (entries : List (α × β)) :
    (entries.filter (·.1 != key)).find? (·.1 == other) = entries.find? (·.1 == other) := by
  rw [List.find?_filter]
  congr 1
  funext entry
  by_cases hentry : entry.1 = other
  · simp [hentry, h]
  · simp [hentry]

/-- What can be seen of a state, after steps that either leave it or put something
new in its place, is what was put there last. -/
theorem view_foldl {σ α β : Type} (view : σ → Option β) {step : σ → α → σ} {put? : α → Option β}
    (h : ∀ state a, view (step state a) = (put? a).or (view state)) (state : σ) (as : List α) :
    view (as.foldl step state) = (as.filterMap put?).getLast?.or (view state) := by
  induction as generalizing state with
  | nil => rfl
  | cons a as ih =>
    rw [List.foldl_cons, ih, h, ← Option.or_assoc]
    cases hput : put? a with
    | none => rw [List.filterMap_cons_none hput, Option.or_none]
    | some value =>
      rw [List.filterMap_cons_some hput, List.getLast?_cons]
      cases (as.filterMap put?).getLast? <;> rfl

namespace Entries

theorem get?_insert_self (entries : Entries) (key value : String) :
    (entries.insert key value).get? key = some value := by
  simp [get?, insert]

theorem get?_insert_of_ne {key other : String} (h : other ≠ key) (entries : Entries)
    (value : String) : (entries.insert key value).get? other = entries.get? other := by
  have hkey : (key == other) = false := by simpa using h.symm
  rw [get?, insert, List.find?_cons, hkey]
  simp only [find?_filter_of_ne h, get?]

theorem get?_insert (entries : Entries) (key value other : String) :
    (entries.insert key value).get? other =
      (if key = other then some value else none).or (entries.get? other) := by
  by_cases h : key = other
  · subst h
    rw [get?_insert_self, if_pos rfl, Option.some_or]
  · rw [get?_insert_of_ne (Ne.symm h), if_neg h, Option.none_or]

end Entries
end Storage
end RepoFeed
