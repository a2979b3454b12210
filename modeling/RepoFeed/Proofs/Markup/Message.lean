import RepoFeed.Proofs.Markup.Marks

/-
Messages as markup, read back.

A message is escaped in two passes, the second of which runs over what the first has
made.  Since ampersands go first, both together do what one pass over the characters
would do, and whoever takes the entities back in the opposite order has the message
again, even if it held entities, or parts of them, of its own.
-/

namespace RepoFeed
namespace Text

/-! ## Replacing in a text -/

/-- Replaces a pattern where `left` characters of an occurrence are still to be passed
over. -/
def replaceFrom (pattern replacement : List Char) : (left : Nat) → List Char → List Char
  | _, [] => []
  | left + 1, _ :: text => replaceFrom pattern replacement left text
  | 0, c :: text =>
    if pattern.isPrefixOf (c :: text) then
      replacement ++ replaceFrom pattern replacement (pattern.length - 1) text
    else c :: replaceFrom pattern replacement 0 text

/-- Replaces all occurrences of a pattern, which is not empty.  They are found from left
to right and do not overlap. -/
def replace (pattern replacement text : List Char) : List Char :=
  replaceFrom pattern replacement 0 text

variable {pattern replacement text : List Char} {c first : Char}

theorem replaceFrom_append (passed : List Char) :
    replaceFrom pattern replacement passed.length (passed ++ text) =
      replace pattern replacement text := by
  induction passed with
  | nil => rfl
  | cons c passed ih => exact ih

/-- An occurrence is replaced as a whole. -/
theorem replace_append :
    replace (first :: pattern) replacement (first :: (pattern ++ text)) =
      replacement ++ replace (first :: pattern) replacement text := by
  have hprefix : (first :: pattern).isPrefixOf (first :: (pattern ++ text)) = true :=
    List.isPrefixOf_iff_prefix.mpr ⟨text, rfl⟩
  rw [replace, replaceFrom, if_pos hprefix]
  exact congrArg (replacement ++ ·) (replaceFrom_append pattern)

theorem replace_cons_of_not_prefix (h : ¬ pattern <+: c :: text) :
    replace pattern replacement (c :: text) = c :: replace pattern replacement text := by
  rw [replace, replaceFrom, if_neg (by rwa [List.isPrefixOf_iff_prefix])]
  rfl

theorem replace_cons_of_ne (h : c ≠ first) :
    replace (first :: pattern) replacement (c :: text) =
      c :: replace (first :: pattern) replacement text :=
  replace_cons_of_not_prefix fun hprefix => h (List.cons_prefix_cons.mp hprefix).1.symm

end Text

namespace Markup

/-! ## One pass over the characters -/

def ampersandEntity : List Char := ['&', 'a', 'm', 'p', ';']

def lessEntity : List Char := ['&', 'l', 't', ';']

/-- What becomes of a character in both passes. -/
def escape (c : Char) : List Char :=
  (escapeAmpersand c).flatMap escapeLess

theorem toList_commitMessage (message : String) :
    (commitMessage message).toList = (message.toList.take 70).flatMap escape := by
  rw [commitMessage, String.toList_ofList, List.flatMap_assoc]
  rfl

theorem escape_ampersand : escape '&' = ampersandEntity := by decide

theorem escape_less : escape '<' = lessEntity := by decide

theorem escapeAmpersand_of_ne {c : Char} (h : c ≠ '&') : escapeAmpersand c = [c] :=
  if_neg h

theorem escape_of_ne {c : Char} (hampersand : c ≠ '&') (hless : c ≠ '<') : escape c = [c] := by
  rw [escape, escapeAmpersand_of_ne hampersand, List.flatMap_singleton, escapeLess, if_neg hless]

/-- Whether a text goes on with the rest of an entity of which the ampersand has been
read. -/
def ClosesEntity (rest : List Char) : Prop :=
  ampersandEntity.tail <+: rest ∨ lessEntity.tail <+: rest

/-- The only ampersand of an entity is its first character. -/
theorem eq_of_entity {tail before rest : List Char} (htail : '&' ∉ tail)
    (h : '&' :: tail = before ++ '&' :: rest) : rest = tail := by
  cases before with
  | nil => exact (List.cons.inj h).2.symm
  | cons c before =>
    refine absurd ?_ htail
    rw [(List.cons.inj h).2]
    exact List.mem_append_right before List.mem_cons_self

theorem closesEntity_of_escape {c : Char} {before rest : List Char}
    (h : escape c = before ++ '&' :: rest) (behind : List Char) : ClosesEntity (rest ++ behind) := by
  by_cases hampersand : c = '&'
  · subst hampersand
    obtain rfl := eq_of_entity (by decide) (escape_ampersand.symm.trans h)
    exact .inl (List.prefix_append _ behind)
  · by_cases hless : c = '<'
    · subst hless
      obtain rfl := eq_of_entity (by decide) (escape_less.symm.trans h)
      exact .inr (List.prefix_append _ behind)
    · have hmem : '&' ∈ escape c := by
        rw [h]
        exact List.mem_append_right before List.mem_cons_self
      rw [escape_of_ne hampersand hless] at hmem
      exact absurd (List.mem_singleton.mp hmem).symm hampersand

theorem closesEntity_of_flatMap {text before rest : List Char}
    (h : text.flatMap escape = before ++ '&' :: rest) : ClosesEntity rest := by
  induction text generalizing before with
  | nil =>
    rw [List.flatMap_nil] at h
    exact absurd h.symm (List.append_ne_nil_of_right_ne_nil _ (List.cons_ne_nil _ _))
  | cons c text ih =>
    rw [List.flatMap_cons] at h
    -- The ampersand stands behind the escaped character, or else within it.
    obtain ⟨between, -, hbehind⟩ | ⟨between, hescape, hrest⟩ := List.append_eq_append_iff.mp h
    · exact ih hbehind
    · cases between with
      | nil =>
        have hbehind : text.flatMap escape = [] ++ '&' :: rest := hrest.symm
        exact ih hbehind
      | cons d between =>
        obtain ⟨rfl, rfl⟩ := List.cons.inj hrest
        exact closesEntity_of_escape hescape _

/-! ## Reading back -/

/-- A text with the two entities taken back, `&lt;` first. -/
def unescape (text : List Char) : List Char :=
  Text.replace ampersandEntity ['&'] (Text.replace lessEntity ['<'] text)

theorem replace_lessEntity (text : List Char) :
    Text.replace lessEntity ['<'] (text.flatMap escape) = text.flatMap escapeAmpersand := by
  induction text with
  | nil => rfl
  | cons c text ih =>
    rw [List.flatMap_cons, List.flatMap_cons, ← ih]
    by_cases hampersand : c = '&'
    · subst hampersand
      -- Behind its ampersand the other entity goes on with another letter.
      refine (Text.replace_cons_of_not_prefix fun hprefix => ?_).trans
        (congrArg _ ?_)
      · have hletter := (List.cons_prefix_cons.mp hprefix).2
        exact absurd (List.cons_prefix_cons.mp hletter).1 (by decide)
      · iterate 4 refine (Text.replace_cons_of_ne (by decide)).trans (congrArg _ ?_)
        rfl
    · by_cases hless : c = '<'
      · subst hless
        exact Text.replace_append
      · rw [escape_of_ne hampersand hless, escapeAmpersand_of_ne hampersand]
        exact Text.replace_cons_of_ne hampersand

theorem replace_ampersandEntity (text : List Char) :
    Text.replace ampersandEntity ['&'] (text.flatMap escapeAmpersand) = text := by
  induction text with
  | nil => rfl
  | cons c text ih =>
    rw [List.flatMap_cons]
    by_cases hampersand : c = '&'
    · subst hampersand
      exact Text.replace_append.trans (congrArg _ ih)
    · rw [escapeAmpersand_of_ne hampersand]
      exact (Text.replace_cons_of_ne hampersand).trans (congrArg _ ih)

theorem unescape_flatMap_escape (text : List Char) : unescape (text.flatMap escape) = text := by
  rw [unescape, replace_lessEntity, replace_ampersandEntity]

/-- A message as markup has no `<`, every ampersand in it begins an entity, and with the
entities taken back it is the message's first 70 characters.  So it tells messages apart
exactly if these do. -/
theorem unescape_commitMessage (message : String) :
    '<' ∉ (commitMessage message).toList ∧
      (∀ before rest, (commitMessage message).toList = before ++ '&' :: rest →
        ['a', 'm', 'p', ';'] <+: rest ∨ ['l', 't', ';'] <+: rest) ∧
      unescape (commitMessage message).toList = message.toList.take 70 ∧
      ∀ other, commitMessage message = commitMessage other ↔
        message.toList.take 70 = other.toList.take 70 := by
  have hback : ∀ text : String, unescape (commitMessage text).toList = text.toList.take 70 := by
    intro text
    rw [toList_commitMessage, unescape_flatMap_escape]
  refine ⟨?_, fun before rest h => ?_, hback message, fun other => ⟨fun h => ?_, fun h => ?_⟩⟩
  · exact occurrences_eq_zero.mp (occurrences_commitMessage message).1
  · rw [toList_commitMessage] at h
    exact closesEntity_of_flatMap h
  · rw [← hback message, h, hback other]
  · rw [← String.toList_inj, toList_commitMessage, toList_commitMessage, h]

end Markup
end RepoFeed
