import RepoFeed.Reply.Wrapper

/-
The wrapper around a document comes off again, and only under its own name.

Between the name of a call and its bracket no other name can end, since names
have neither brackets nor blanks in them: a name that is shorter leaves letters
before the bracket, and a longer one asks for letters where the bracket is.
-/

namespace RepoFeed
namespace Wrapper

open Text (after? before? isBlank trim trimEnd trimStart)

/-! ## Blanks at the end -/

theorem filter_trimEnd (text : List Char) :
    (trimEnd text).filter (!isBlank ·) = text.filter (!isBlank ·) := by
  have hdrop : ∀ text : List Char,
      (text.dropWhile isBlank).filter (!isBlank ·) = text.filter (!isBlank ·) := by
    intro text
    induction text with
    | nil => rfl
    | cons c text ih =>
      cases hc : isBlank c with
      | true => simp [hc, ih]
      | false => simp [hc]
  rw [trimEnd, List.filter_reverse, hdrop, ← List.filter_reverse, List.reverse_reverse]

/-- Trimming goes no further than the last character that is not blank. -/
theorem trimEnd_append_cons {c : Char} (h : isBlank c = false) (text tail : List Char) :
    trimEnd (text ++ c :: tail) = text ++ c :: trimEnd tail := by
  simp only [trimEnd, List.reverse_append, List.reverse_cons, List.append_assoc,
    List.singleton_append, List.dropWhile_append]
  split
  · rename_i hblank
    simp [List.isEmpty_iff.mp hblank, h]
  · simp

theorem trimEnd_of_blanks {blanks : List Char} (h : ∀ c ∈ blanks, isBlank c = true) :
    trimEnd blanks = [] := by
  have hstart : trimStart (blanks.reverse ++ []) = trimStart [] :=
    Text.trimStart_append (by simpa using h)
  rw [List.append_nil] at hstart
  exact congrArg List.reverse hstart

/-! ## Calls -/

/-- The call of a callback with a document as its argument. -/
def call (callback document : List Char) : List Char :=
  callback ++ '(' :: (document ++ [')'])

/-- Names of callbacks: they end where blanks or a bracket begin. -/
def IsName (name : List Char) : Prop :=
  ∀ c ∈ name, isBlank c = false ∧ c ≠ '('

instance (name : List Char) : Decidable (IsName name) :=
  inferInstanceAs (Decidable (∀ c ∈ name, _))

/-- What may stand behind a call: white space, with or without one semicolon in it. -/
def IsTail (tail : List Char) : Prop :=
  tail.filter (!isBlank ·) = [] ∨ tail.filter (!isBlank ·) = [';']

instance (tail : List Char) : Decidable (IsTail tail) :=
  inferInstanceAs (Decidable (_ ∨ _))

theorem IsTail.trimEnd_eq {tail : List Char} (h : IsTail tail) :
    trimEnd tail = [] ∨
      ∃ blanks, trimEnd tail = blanks ++ [';'] ∧ ∀ c ∈ blanks, isBlank c = true := by
  rcases h with h | h
  · exact .inl (trimEnd_of_blanks (by simpa using h))
  · obtain ⟨blanks, behind, rfl, hblanks, -, hbehind⟩ := List.filter_eq_cons_iff.mp h
    refine .inr ⟨blanks, ?_, by simpa using hblanks⟩
    rw [trimEnd_append_cons rfl, trimEnd_of_blanks (by simpa using hbehind)]

theorem IsTail.trimEnd {tail : List Char} (h : IsTail tail) : IsTail (trimEnd tail) := by
  rwa [IsTail, filter_trimEnd]

/-- What `unwrap` does from the name of the callback on. -/
def takeCall (callback rest : List Char) : Except Fault (List Char) := do
  let rest ← expecting (.missingCallback (String.ofList callback)) (after? callback rest)
  let rest ← expecting .missingOpening (after? ['('] (trimStart rest))
  let rest := trimEnd rest
  let rest := trimEnd ((before? [';'] rest).getD rest)
  expecting .missingClosing (before? [')'] rest)

theorem unwrap_eq (body callback : List Char) :
    unwrap body callback =
      takeCall callback (trimStart ((after? guard (trim body)).getD (trim body))) :=
  rfl

theorem takeCall_call {tail : List Char} (htail : IsTail tail) (callback document : List Char) :
    takeCall callback (callback ++ '(' :: (document ++ ')' :: tail)) = .ok document := by
  have hcallback : after? callback (callback ++ '(' :: (document ++ ')' :: tail)) =
      some ('(' :: (document ++ ')' :: tail)) := Text.after?_eq_some_iff.mpr rfl
  have hparen : trimStart ('(' :: (document ++ ')' :: tail)) = '(' :: (document ++ ')' :: tail) :=
    Text.trimStart_cons_of_not_blank rfl
  have hopening : after? ['('] ('(' :: (document ++ ')' :: tail)) =
      some (document ++ ')' :: tail) := Text.after?_eq_some_iff.mpr rfl
  have hclosing : before? [')'] (document ++ [')']) = some document :=
    Text.before?_eq_some_iff.mpr rfl
  have hcut : trimEnd ((before? [';'] (document ++ ')' :: trimEnd tail)).getD
      (document ++ ')' :: trimEnd tail)) = document ++ [')'] := by
    rcases htail.trimEnd_eq with hnone | ⟨blanks, hsemicolon, hblanks⟩
    · have hnot : before? [';'] (document ++ [')']) = none := by simp [before?, after?]
      rw [hnone, hnot, Option.getD_none, trimEnd_append_cons rfl]
      rfl
    · have hbefore : before? [';'] (document ++ ')' :: (blanks ++ [';'])) =
          some (document ++ ')' :: blanks) := Text.before?_eq_some_iff.mpr (by simp)
      rw [hsemicolon, hbefore, Option.getD_some, trimEnd_append_cons rfl,
        trimEnd_of_blanks hblanks]
  simp only [takeCall, hcallback, hparen, hopening, expecting, bind, Except.bind,
    trimEnd_append_cons (show isBlank ')' = false from rfl), hcut, hclosing]

/-- Where one name ends at a bracket, another one does not. -/
theorem after?_of_ne {name callback : List Char} (hname : IsName name)
    (hcallback : IsName callback) (hne : callback ≠ name) (rest : List Char) :
    after? callback (name ++ '(' :: rest) = none ∨
      ∃ c left, after? callback (name ++ '(' :: rest) = some (c :: left) ∧ c ∈ name := by
  induction callback generalizing name with
  | nil =>
    cases name with
    | nil => exact absurd rfl hne
    | cons c name => exact .inr ⟨c, _, rfl, List.mem_cons_self⟩
  | cons o callback ih =>
    obtain ⟨⟨-, hbracket⟩, hcallback⟩ := List.forall_mem_cons.mp hcallback
    cases name with
    | nil => exact .inl (if_neg hbracket)
    | cons c name =>
      by_cases heq : o = c
      · subst heq
        have hnames : callback ≠ name := fun h => hne (h ▸ rfl)
        have hrest := (List.forall_mem_cons.mp hname).2
        rcases ih hrest hcallback hnames with hnone | ⟨c, left, hsome, hc⟩
        · exact .inl (by simpa [after?] using hnone)
        · exact .inr ⟨c, left, by simpa [after?] using hsome, List.mem_cons_of_mem _ hc⟩
      · exact .inl (if_neg heq)

theorem takeCall_of_ne {name callback : List Char} (hname : IsName name)
    (hcallback : IsName callback) (hne : callback ≠ name) (rest : List Char) :
    ∃ fault, takeCall callback (name ++ '(' :: rest) = .error fault := by
  rcases after?_of_ne hname hcallback hne rest with hnone | ⟨c, left, hsome, hc⟩
  · exact ⟨.missingCallback (String.ofList callback), by rw [takeCall, hnone]; rfl⟩
  · obtain ⟨hblank, hbracket⟩ := hname c hc
    have hopening : after? ['('] (c :: left) = none := if_neg hbracket.symm
    refine ⟨.missingOpening, ?_⟩
    simp only [takeCall, hsome, Text.trimStart_cons_of_not_blank hblank, hopening, expecting,
      bind, Except.bind]

end Wrapper
end RepoFeed
