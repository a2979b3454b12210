import RepoFeed.Proofs.Json.Reading

/-
What can be read can be skipped.

Skipping asks less of a text than reading does, and it ends at the same place.
It may only go as deep as the text is long; each list and each object takes a
character to open, so no value that has been read is nested more deeply.
-/

namespace RepoFeed
namespace Json

/-! ## Literals -/

namespace Literal

theorem exists_of_push {c : Char} {x : Except Failure (List Char × List Char)}
    {s rest : List Char} (h : push c x = .ok (s, rest)) : ∃ tail, x = .ok (tail, rest) := by
  obtain ⟨⟨tail, left⟩, hx, h⟩ := map_eq_ok.mp h
  cases h
  exact ⟨tail, hx⟩

theorem skip_unit {a b c d : Char} {unit : Nat} (h : unit? a b c d = some unit)
    (rest : List Char) : skip ('\\' :: 'u' :: a :: b :: c :: d :: rest) = skip rest := by
  rw [skip.eq_def]
  simp [h]

/-- What can be read can be skipped.  The two halves of a pair are read together and
skipped one after the other. -/
theorem skip_of_read {text s rest : List Char} (h : read text = .ok (s, rest)) :
    skip text = .ok rest := by
  fun_induction read text generalizing s rest with
  | case2 left =>
    cases h
    rw [skip.eq_def]
    simp
  | case7 a b c d _ hleading _ _ e f g h' left _ htrailing _ _ ih =>
    obtain ⟨tail, hread⟩ := exists_of_push h
    rw [skip_unit hleading, skip_unit htrailing]
    exact ih hread
  | case10 _ _ _ _ left _ hunit _ _ _ ih =>
    obtain ⟨tail, hread⟩ := exists_of_push h
    rw [skip_unit hunit]
    exact ih hread
  | case12 e left hunit c hescaped _ ih =>
    obtain ⟨tail, hread⟩ := exists_of_push h
    rw [skip.eq_def]
    simp [hunit, hescaped, ih hread]
  | case15 c left hquote hbackslash hcontrol ih =>
    obtain ⟨tail, hread⟩ := exists_of_push h
    rw [skip.eq_def]
    simp [hquote, hbackslash, hcontrol, ih hread]
  | _ => contradiction

theorem length_of_skip {text rest : List Char} (h : skip text = .ok rest) :
    rest.length < text.length := by
  fun_induction skip text with
  | case2 =>
    cases h
    exact Nat.lt_succ_self _
  | case5 | case7 | case10 =>
    rename_i ih
    have hless := ih h
    simp only [List.length_cons]
    omega
  | _ => contradiction

end Literal

/-! ## Numbers -/

namespace Numeral

variable {text rest : List Char}

theorem length_dropWhile_digits_le (text : List Char) :
    (text.dropWhile Char.isDigit).length ≤ text.length :=
  (List.dropWhile_suffix Char.isDigit).length_le

theorem length_of_skipExponent (h : skipExponent text = .ok rest) :
    rest.length ≤ text.length := by
  rw [skipExponent_eq] at h
  split at h
  · cases h
    exact Nat.le_trans (length_dropWhile_digits_le _) (exponentSign_suffix text).length_le
  · contradiction

theorem length_of_skipTail (h : skipTail text = .ok rest) : rest.length ≤ text.length := by
  unfold skipTail at h
  split at h
  · exact Nat.le_succ_of_le (length_of_skipExponent h)
  · exact Nat.le_succ_of_le (length_of_skipExponent h)
  · cases h
    exact Nat.le_refl _

theorem length_of_skipAfterWhole (h : skipAfterWhole text = .ok rest) :
    rest.length ≤ text.length := by
  unfold skipAfterWhole at h
  split at h
  · split at h
    · exact Nat.le_succ_of_le
        (Nat.le_trans (length_of_skipTail h) (length_dropWhile_digits_le _))
    · contradiction
  · exact length_of_skipTail h

theorem length_of_skipUnsigned (h : skipUnsigned text = .ok rest) :
    rest.length ≤ text.length := by
  unfold skipUnsigned at h
  split at h
  · split at h
    · contradiction
    · exact Nat.le_succ_of_le (length_of_skipAfterWhole h)
  · split at h
    · exact Nat.le_trans (length_of_skipAfterWhole h) (length_dropWhile_digits_le _)
    · contradiction

theorem length_of_skip (h : skip text = .ok rest) : rest.length ≤ text.length := by
  unfold skip at h
  split at h
  · exact Nat.le_succ_of_le (length_of_skipUnsigned h)
  · exact length_of_skipUnsigned h

end Numeral

/-! ## Values without parts -/

theorem length_of_readWord {letters text rest : List Char} (h : readWord letters text = .ok rest) :
    rest.length ≤ text.length := by
  induction letters generalizing text with
  | nil =>
    cases h
    exact Nat.le_refl _
  | cons l letters ih =>
    cases text with
    | nil => contradiction
    | cons c text =>
      rw [readWord] at h
      split at h
      · exact Nat.le_succ_of_le (ih h)
      · contradiction

theorem Numeral.ne_of_begins {c d : Char} (hc : begins c = true) (hd : begins d = false) :
    c ≠ d := by
  intro heq
  rw [heq, hd] at hc
  contradiction

theorem skipScalar_of_readScalar {text rest : List Char} {v : Value}
    (h : readScalar text = .ok (v, rest)) : skipScalar text = .ok rest := by
  cases scalarAhead_of_readScalar h with
  | null hword => exact hword
  | true hword => exact hword
  | false hword => exact hword
  | @number _ _ c _ hc hnumber =>
    have hnull : c ≠ 'n' := Numeral.ne_of_begins hc rfl
    have htrue : c ≠ 't' := Numeral.ne_of_begins hc rfl
    have hfalse : c ≠ 'f' := Numeral.ne_of_begins hc rfl
    simp only [skipScalar, hnull, htrue, hfalse, hc, if_false, if_true]
    exact Numeral.skip_of_read hnumber
  | text htext => exact Literal.skip_of_read htext

theorem length_of_readScalar {text rest : List Char} {v : Value}
    (h : readScalar text = .ok (v, rest)) : rest.length ≤ text.length := by
  cases scalarAhead_of_readScalar h with
  | null hword | true hword | false hword => exact Nat.le_succ_of_le (length_of_readWord hword)
  | number _ hnumber => exact Numeral.length_of_skip (Numeral.skip_of_read hnumber)
  | text htext =>
    exact Nat.le_succ_of_le
      (Nat.le_of_lt (Literal.length_of_skip (Literal.skip_of_read htext)))

/-! ## Lists and objects -/

section

variable {α : Type} {fuel : Nat} {isFirst : Bool} {text left rest : List Char}
variable {skip : List Char → Except Failure (List Char)}

theorem skipItems_bracket (h : nextItem isFirst text = .ok (false, ']' :: rest)) :
    skipItems skip (fuel + 1) isFirst text = .ok rest := by
  cases itemAhead_of_nextItem h with
  | bracket hend => simp only [skipItems, hend, if_true]

theorem skipItems_item (hspace : ∀ text, skip (skipSpace text) = skip text)
    (h : nextItem isFirst text = .ok (true, left)) :
    skipItems skip (fuel + 1) isFirst text = skip left >>= skipItems skip fuel false := by
  cases itemAhead_of_nextItem h with
  | first hitem hc => simp only [skipItems, hitem, hc, if_false, if_true]
  | @comma _ tail _ _ hcomma hitem hc =>
    rw [← hitem, hspace tail]
    simp [skipItems, hcomma]

/-- A list is skipped item by item. -/
theorem ItemsAhead.skipItems_eq_ok {item : Reader α} {p : α → Prop} {items : List α}
    (h : ItemsAhead item fuel isFirst text items rest)
    (hspace : ∀ text, skip (skipSpace text) = skip text)
    (hskip : ∀ text a rest, item text = .ok (a, rest) → p a → skip text = .ok rest)
    (hitems : ∀ a ∈ items, p a) : skipItems skip fuel isFirst text = .ok rest := by
  induction h with
  | nil hnext => exact skipItems_bracket hnext
  | cons hnext ha _ ih =>
    obtain ⟨hhead, hrest⟩ := List.forall_mem_cons.mp hitems
    rw [skipItems_item hspace hnext]
    exact bind_eq_ok.mpr ⟨_, hskip _ _ _ ha hhead, ih hrest⟩

theorem skipName_of_skipSpace (h : skipSpace text = '"' :: left) :
    skipName text = Literal.skip left >>= readColon := by
  simp only [skipName, h, if_true]

theorem skipMembers_brace (h : nextMember isFirst text = .ok (false, '\x7d' :: rest)) :
    skipMembers skip (fuel + 1) isFirst text = .ok rest := by
  cases memberAhead_of_nextMember h with
  | brace hend => simp only [skipMembers, hend, if_true]

theorem skipMembers_member (h : nextMember isFirst text = .ok (true, left)) :
    skipMembers skip (fuel + 1) isFirst text =
      (Literal.skip left >>= readColon) >>= fun text =>
        skip text >>= skipMembers skip fuel false := by
  cases memberAhead_of_nextMember h with
  | first hname =>
    have hquote : skipSpace ('"' :: left) = '"' :: left := skipSpace_cons rfl left
    simp [skipMembers, hname, skipName_of_skipSpace hquote]
  | comma hcomma hname => simp [skipMembers, hcomma, skipName_of_skipSpace hname]

/-- An object is skipped member by member. -/
theorem MembersAhead.skipMembers_eq_ok {value : Reader α} {p : α → Prop}
    {members : List (String × α)} (h : MembersAhead value fuel isFirst text members rest)
    (hskip : ∀ text a rest, value text = .ok (a, rest) → p a → skip text = .ok rest)
    (hmembers : ∀ m ∈ members, p m.2) : skipMembers skip fuel isFirst text = .ok rest := by
  induction h with
  | nil hnext => exact skipMembers_brace hnext
  | cons hnext hname hcolon ha _ ih =>
    obtain ⟨hhead, hrest⟩ := List.forall_mem_cons.mp hmembers
    rw [skipMembers_member hnext, Literal.skip_of_read hname]
    exact bind_eq_ok.mpr ⟨_, hcolon, bind_eq_ok.mpr ⟨_, hskip _ _ _ ha hhead, ih hrest⟩⟩

/-- Items that each take at least their size of the text leave that much less of it. -/
theorem ItemsAhead.length_le {item : Reader α} {size : α → Nat} {items : List α}
    (h : ItemsAhead item fuel isFirst text items rest)
    (hitem : ∀ text a rest, item text = .ok (a, rest) → size a + rest.length ≤ text.length) :
    rest.length < text.length ∧ ∀ a ∈ items, size a + rest.length < text.length := by
  induction h with
  | nil hnext => exact ⟨(itemAhead_of_nextItem hnext).length_le, nofun⟩
  | cons hnext ha _ ih =>
    have hstart := (itemAhead_of_nextItem hnext).length_le
    have hhead := hitem _ _ _ ha
    obtain ⟨hrest, htail⟩ := ih
    refine ⟨by omega, List.forall_mem_cons.mpr ⟨by omega, fun b hb => ?_⟩⟩
    have := htail b hb
    omega

/-- The same for the members of an object. -/
theorem MembersAhead.length_le {value : Reader α} {size : α → Nat}
    {members : List (String × α)} (h : MembersAhead value fuel isFirst text members rest)
    (hvalue : ∀ text a rest, value text = .ok (a, rest) → size a + rest.length ≤ text.length) :
    rest.length < text.length ∧ ∀ m ∈ members, size m.2 + rest.length < text.length := by
  induction h with
  | nil hnext => exact ⟨(memberAhead_of_nextMember hnext).length_le, nofun⟩
  | cons hnext hname hcolon ha _ ih =>
    have hstart := (memberAhead_of_nextMember hnext).length_le
    have hliteral := Literal.length_of_skip (Literal.skip_of_read hname)
    have hbehind := length_of_readColon hcolon
    have hhead := hvalue _ _ _ ha
    obtain ⟨hrest, htail⟩ := ih
    refine ⟨by omega, List.forall_mem_cons.mpr ⟨by simp only; omega, fun m hm => ?_⟩⟩
    have := htail m hm
    omega

end

/-! ## Values -/

/-- A value is nested no more deeply than its text is long. -/
theorem depth_le_length_of_readValue {levels : Nat} {text rest : List Char} {v : Value}
    (h : readValue levels text = .ok (v, rest)) : v.depth + rest.length ≤ text.length := by
  have scalar : ∀ {text rest : List Char} {v : Value}, readScalar (skipSpace text) = .ok (v, rest) →
      v.depth + rest.length ≤ text.length := by
    intro text rest v hscalar
    have hleft := Nat.le_trans (length_of_readScalar hscalar) (length_skipSpace_le text)
    cases isScalar_of_readScalar hscalar <;> simpa [Value.depth] using hleft
  induction levels generalizing text v rest with
  | zero =>
    cases valueAhead_of_readValue h with
    | scalar _ _ hscalar => exact scalar hscalar
  | succ levels ih =>
    have hspace := length_skipSpace_le text
    cases valueAhead_of_readValue h with
    | @list _ _ left _ items hstart hitems =>
      obtain ⟨hrest, hsizes⟩ := hitems.length_le fun _ _ _ => ih
      have hdepth : Value.depthItems items ≤ left.length - rest.length - 1 :=
        Value.depthItems_le_iff.mpr fun v hv => by have := hsizes v hv; omega
      rw [hstart, List.length_cons] at hspace
      rw [Value.depth]
      omega
    | @object _ _ left _ members hstart hmembers =>
      obtain ⟨hrest, hsizes⟩ := hmembers.length_le fun _ _ _ => ih
      have hdepth : Value.depthMembers members ≤ left.length - rest.length - 1 :=
        Value.depthMembers_le_iff.mpr fun m hm => by have := hsizes m hm; omega
      rw [hstart, List.length_cons] at hspace
      rw [Value.depth]
      omega
    | scalar _ _ hscalar => exact scalar hscalar

theorem skipNested_skipSpace (levels : Nat) (text : List Char) :
    skipNested levels (skipSpace text) = skipNested levels text := by
  rw [skipNested.eq_def, skipNested.eq_def levels text]
  simp only [skipSpace_skipSpace]

theorem skipNested_scalar {levels : Nat} {text : List Char}
    (hlist : ∀ left, skipSpace text ≠ '[' :: left)
    (hobject : ∀ left, skipSpace text ≠ '\x7b' :: left) :
    skipNested levels text = skipScalar (skipSpace text) := by
  rw [skipNested.eq_def]
  simp only

/-- A value can be skipped wherever as many levels are left as it is deep. -/
theorem skipNested_of_readValue {levels levels' : Nat} {text rest : List Char} {v : Value}
    (h : readValue levels text = .ok (v, rest)) (hdepth : v.depth ≤ levels') :
    skipNested levels' text = .ok rest := by
  induction levels' generalizing levels text v rest with
  | zero =>
    cases valueAhead_of_readValue h with
    | list | object => contradiction
    | scalar hlist hobject hscalar =>
      rw [skipNested_scalar hlist hobject]
      exact skipScalar_of_readScalar hscalar
  | succ levels' ih =>
    cases valueAhead_of_readValue h with
    | list hstart hitems =>
      rw [skipNested.eq_def]
      simp only [hstart]
      exact hitems.skipItems_eq_ok (skipNested_skipSpace levels') (fun _ _ _ => ih)
        (Value.depthItems_le_iff.mp (Nat.le_of_succ_le_succ hdepth))
    | object hstart hmembers =>
      rw [skipNested.eq_def]
      simp only [hstart]
      exact hmembers.skipMembers_eq_ok (fun _ _ _ => ih)
        (Value.depthMembers_le_iff.mp (Nat.le_of_succ_le_succ hdepth))
    | scalar hlist hobject hscalar =>
      rw [skipNested_scalar hlist hobject]
      exact skipScalar_of_readScalar hscalar

theorem skipValue_of_readValue {levels : Nat} {text rest : List Char} {v : Value}
    (h : readValue levels text = .ok (v, rest)) : skipValue text = .ok rest :=
  skipNested_of_readValue h
    (Nat.le_trans (Nat.le_add_right _ _) (depth_le_length_of_readValue h))

end Json
end RepoFeed
