import RepoFeed.Json.Structure
import RepoFeed.Proofs.Outcome

/-
What stands between the parts of a list or an object.

Spaces and commas may stand in many ways before the next item, and all readers of
lists ask `nextItem` about them.  What it found is kept as an inductive statement
with one constructor for each way, so that readers which walk through one text
can be compared without opening `nextItem` again; likewise for members.
-/

namespace RepoFeed
namespace Json

/-! ## Spaces -/

theorem skipSpace_cons {c : Char} (hc : isSpace c = false) (text : List Char) :
    skipSpace (c :: text) = c :: text := by
  simp [skipSpace, hc]

theorem skipSpace_skipSpace (text : List Char) : skipSpace (skipSpace text) = skipSpace text := by
  induction text with
  | nil => rfl
  | cons c text ih =>
    cases hc : isSpace c with
    | true => simpa [skipSpace, hc] using ih
    | false => rw [skipSpace_cons hc, skipSpace_cons hc]

theorem length_skipSpace_le (text : List Char) : (skipSpace text).length ≤ text.length :=
  (List.dropWhile_suffix isSpace).length_le

/-! ## Items -/

/-- What `nextItem` has found. -/
inductive ItemAhead : (isFirst : Bool) → (text : List Char) → (more : Bool) →
    (left : List Char) → Prop
  | bracket {isFirst : Bool} {text rest : List Char} (hend : skipSpace text = ']' :: rest) :
    ItemAhead isFirst text false (']' :: rest)
  | first {text rest : List Char} {c : Char} (hitem : skipSpace text = c :: rest) (hc : c ≠ ']') :
    ItemAhead true text true (c :: rest)
  | comma {text tail rest : List Char} {c : Char} (hcomma : skipSpace text = ',' :: tail)
    (hitem : skipSpace tail = c :: rest) (hc : c ≠ ']') : ItemAhead false text true (c :: rest)

theorem itemAhead_of_nextItem {isFirst more : Bool} {text left : List Char}
    (h : nextItem isFirst text = .ok (more, left)) : ItemAhead isFirst text more left := by
  unfold nextItem at h
  split at h
  · contradiction
  · rename_i c rest hspace
    split at h
    · rename_i hbracket
      subst hbracket
      cases h
      exact .bracket hspace
    · rename_i hc
      split at h
      · rename_i hfirst
        subst hfirst
        cases h
        exact .first hspace hc
      · rename_i hfirst
        rw [Bool.not_eq_true] at hfirst
        subst hfirst
        split at h
        · rename_i hcomma
          subst hcomma
          split at h
          · contradiction
          · rename_i d rest hitem
            split at h
            · contradiction
            · rename_i hd
              cases h
              exact .comma hspace hitem hd
        · contradiction

theorem ItemAhead.length_le {isFirst more : Bool} {text left : List Char}
    (h : ItemAhead isFirst text more left) : left.length ≤ text.length := by
  have htext := length_skipSpace_le text
  cases h with
  | bracket hend => rwa [hend] at htext
  | first hitem => rwa [hitem] at htext
  | @comma _ tail _ _ hcomma hitem =>
    have htail := length_skipSpace_le tail
    rw [hcomma] at htext
    rw [hitem] at htail
    exact Nat.le_trans htail (Nat.le_of_succ_le htext)

/-- What `readItems` has read: items up to a closing bracket with `rest` behind it. -/
inductive ItemsAhead {α : Type} (item : Reader α) : (fuel : Nat) → (isFirst : Bool) →
    (text : List Char) → List α → (rest : List Char) → Prop
  | nil {fuel : Nat} {isFirst : Bool} {text rest : List Char}
    (hnext : nextItem isFirst text = .ok (false, ']' :: rest)) :
    ItemsAhead item (fuel + 1) isFirst text [] rest
  | cons {fuel : Nat} {isFirst : Bool} {text start behind rest : List Char} {a : α}
    {items : List α} (hnext : nextItem isFirst text = .ok (true, start))
    (hitem : item start = .ok (a, behind)) (htail : ItemsAhead item fuel false behind items rest) :
    ItemsAhead item (fuel + 1) isFirst text (a :: items) rest

theorem itemsAhead_of_readItems {α : Type} {item : Reader α} {fuel : Nat} {isFirst : Bool}
    {text left : List Char} {items : List α}
    (h : readItems item fuel isFirst text = .ok (items, left)) :
    ∃ rest, left = ']' :: rest ∧ ItemsAhead item fuel isFirst text items rest := by
  induction fuel generalizing isFirst text items with
  | zero => contradiction
  | succ fuel ih =>
    obtain ⟨⟨more, start⟩, hnext, h⟩ := bind_eq_ok.mp h
    cases more with
    | false =>
      cases h
      cases itemAhead_of_nextItem hnext with
      | bracket => exact ⟨_, rfl, .nil hnext⟩
    | true =>
      obtain ⟨⟨a, behind⟩, hitem, h⟩ := bind_eq_ok.mp h
      obtain ⟨⟨tail, last⟩, htail, h⟩ := bind_eq_ok.mp h
      cases h
      obtain ⟨rest, rfl, hitems⟩ := ih htail
      exact ⟨rest, rfl, .cons hnext hitem hitems⟩

/-! ## Members -/

/-- What `nextMember` has found. -/
inductive MemberAhead : (isFirst : Bool) → (text : List Char) → (more : Bool) →
    (left : List Char) → Prop
  | brace {isFirst : Bool} {text rest : List Char} (hend : skipSpace text = '\x7d' :: rest) :
    MemberAhead isFirst text false ('\x7d' :: rest)
  | first {text rest : List Char} (hname : skipSpace text = '"' :: rest) :
    MemberAhead true text true rest
  | comma {text tail rest : List Char} (hcomma : skipSpace text = ',' :: tail)
    (hname : skipSpace tail = '"' :: rest) : MemberAhead false text true rest

theorem memberAhead_of_nextMember {isFirst more : Bool} {text left : List Char}
    (h : nextMember isFirst text = .ok (more, left)) : MemberAhead isFirst text more left := by
  unfold nextMember at h
  split at h
  · contradiction
  · rename_i c rest hspace
    split at h
    · rename_i hbrace
      subst hbrace
      cases h
      exact .brace hspace
    · split at h
      · rename_i hfirst
        subst hfirst
        split at h
        · rename_i hquote
          subst hquote
          cases h
          exact .first hspace
        · contradiction
      · rename_i hfirst
        rw [Bool.not_eq_true] at hfirst
        subst hfirst
        split at h
        · rename_i hcomma
          subst hcomma
          split at h
          · contradiction
          · rename_i d rest hname
            split at h
            · rename_i hquote
              subst hquote
              cases h
              exact .comma hspace hname
            · split at h <;> contradiction
        · contradiction

theorem MemberAhead.length_le {isFirst more : Bool} {text left : List Char}
    (h : MemberAhead isFirst text more left) : left.length ≤ text.length := by
  have htext := length_skipSpace_le text
  cases h with
  | brace hend => rwa [hend] at htext
  | first hname =>
    rw [hname] at htext
    exact Nat.le_of_succ_le htext
  | @comma _ tail _ hcomma hname =>
    have htail := length_skipSpace_le tail
    rw [hcomma] at htext
    rw [hname] at htail
    exact Nat.le_trans (Nat.le_of_succ_le htail) (Nat.le_of_succ_le htext)

theorem length_of_readColon {text rest : List Char} (h : readColon text = .ok rest) :
    rest.length < text.length := by
  have htext := length_skipSpace_le text
  unfold readColon at h
  split at h
  · contradiction
  · rename_i c left hspace
    rw [hspace] at htext
    split at h
    · cases h
      exact htext
    · contradiction

/-! ## Punctuation that has been written -/

/-- What stands before an item or a member. -/
def separator (isFirst : Bool) : List Char :=
  if isFirst then [] else [',']

theorem nextItem_separator {c : Char} (hspace : isSpace c = false) (hend : c ≠ ']')
    (isFirst : Bool) (text : List Char) :
    nextItem isFirst (separator isFirst ++ c :: text) = .ok (true, c :: text) := by
  cases isFirst with
  | true => simp [separator, nextItem, skipSpace_cons hspace, hend]
  | false =>
    have hcomma : skipSpace (',' :: c :: text) = ',' :: c :: text := skipSpace_cons rfl _
    simp [separator, nextItem, hcomma, skipSpace_cons hspace, hend]

theorem nextItem_bracket (isFirst : Bool) (text : List Char) :
    nextItem isFirst (']' :: text) = .ok (false, ']' :: text) := by
  simp [nextItem, skipSpace_cons (c := ']') rfl]

theorem nextMember_separator (isFirst : Bool) (text : List Char) :
    nextMember isFirst (separator isFirst ++ '"' :: text) = .ok (true, text) := by
  have hquote : skipSpace ('"' :: text) = '"' :: text := skipSpace_cons rfl _
  cases isFirst with
  | true => simp [separator, nextMember, hquote]
  | false =>
    have hcomma : skipSpace (',' :: '"' :: text) = ',' :: '"' :: text := skipSpace_cons rfl _
    simp [separator, nextMember, hcomma, hquote]

theorem nextMember_brace (isFirst : Bool) (text : List Char) :
    nextMember isFirst ('\x7d' :: text) = .ok (false, '\x7d' :: text) := by
  simp [nextMember, skipSpace_cons (c := '\x7d') rfl]

theorem readColon_colon (text : List Char) : readColon (':' :: text) = .ok text := by
  simp [readColon, skipSpace_cons (c := ':') rfl]

theorem closeList_bracket (text : List Char) : closeList (']' :: text) = (text, none) := by
  simp [closeList, skipSpace_cons (c := ']') rfl]

theorem closeObject_brace (text : List Char) : closeObject ('\x7d' :: text) = (text, none) := by
  simp [closeObject, skipSpace_cons (c := '\x7d') rfl]

end Json
end RepoFeed
