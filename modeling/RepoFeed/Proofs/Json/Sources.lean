import RepoFeed.Proofs.Json.Skip

/-
A schema reads the same from its two sources.

Reading a text and taking from the value that the text holds differ in their
order and in how far they look, but on a text that can be read as a value they
fail together and otherwise give the same.  The one thing that keeps them apart
is a repeated name: the text is read member by member, while the normal form of
the value has only the last of them.
-/

namespace RepoFeed
namespace Json

variable {α β : Type}

/-- What was read, up to `rest`, is what was taken. -/
abbrev Upto (rest : List Char) (read : α × List Char) (taken : α) : Prop :=
  read = (taken, rest)

namespace Schema

/-- Whether reading a text and taking from the value it holds come to the same. -/
structure IsCoherent (schema : Schema α) : Prop where
  agree : ∀ {levels : Nat} {text rest : List Char} {tree : Value},
    readValue levels text = .ok (tree, rest) → tree.HasDistinctNames →
      Agree (Upto rest) (schema.read levels text) (schema.ofValue tree.normal)

theorem agree_settle (rest : List Char) (x : Except Fault α) :
    Agree (Upto rest) (settle rest x) x := by
  cases x with
  | ok a => exact .ok rfl
  | error fault => exact .error

theorem isCoherent_textual (wanted : Wanted) (convert : String → Except Fault α) :
    (textual wanted convert).IsCoherent := by
  refine ⟨fun {levels text rest tree} h _ => ?_⟩
  simp only [textual]
  cases valueAhead_of_readValue h with
  | list hstart =>
    rw [hstart]
    exact .error
  | object hstart =>
    rw [hstart]
    exact .error
  | scalar _ _ hscalar =>
    generalize skipSpace text = start at hscalar
    cases scalarAhead_of_readScalar hscalar with
    | null | true | false => exact .error
    | number hc =>
      split
      · rename_i hquote
        cases hquote
        contradiction
      · exact .error
    | text htext =>
      simp only [htext]
      exact agree_settle rest _

theorem isCoherent_anything : anything.IsCoherent := by
  refine ⟨fun {levels text rest tree} h _ => ?_⟩
  simp only [anything, h]
  exact .ok (by rw [Value.normal_normal])

theorem IsCoherent.map {schema : Schema α} (h : schema.IsCoherent) (f : α → β) :
    (schema.map f).IsCoherent := by
  refine ⟨fun hread hnames => ?_⟩
  refine (h.agree hread hnames).map fun read taken heq => ?_
  rw [heq]

theorem IsCoherent.refine {schema : Schema α} (h : schema.IsCoherent)
    (convert : α → Except Fault β) : (schema.refine convert).IsCoherent := by
  refine ⟨fun hread hnames => ?_⟩
  refine (h.agree hread hnames).bind fun read taken heq => ?_
  simp only [heq]
  cases convert taken with
  | ok b => exact .ok rfl
  | error fault => exact .error

end Schema

theorem exists_error_of_close (α : Type) (closing : Closing) (failure : Failure) :
    ∃ failure', close closing (.error failure : Except Failure (α × List Char)) =
      .error failure' := by
  cases failure <;> exact ⟨_, rfl⟩

/-- A closing bracket behind the contents is taken. -/
theorem agree_close {closing : Closing} {left rest : List Char}
    {read : Except Failure (α × List Char)} {taken : Except Fault α}
    (hclosing : closing left = (rest, none)) (h : Agree (Upto left) read taken) :
    Agree (Upto rest) (close closing read) taken := by
  cases h with
  | ok h =>
    cases h
    rw [close, hclosing]
    exact .ok rfl
  | @error failure =>
    obtain ⟨failure', hclose⟩ := exists_error_of_close α closing failure
    rw [hclose]
    exact .error

/-- Something else than a bracket behind the contents is a failure. -/
theorem exists_error_of_closing {closing : Closing} {left behind : List Char} {failure : Failure}
    {read : Except Failure (α × List Char)} {taken : Except Fault α}
    (hclosing : closing left = (behind, some failure)) (h : Agree (Upto left) read taken) :
    ∃ failure', close closing read = .error failure' := by
  cases h with
  | ok h =>
    cases h
    exact ⟨failure, by rw [close, hclosing]⟩
  | @error failure => exact exists_error_of_close α closing failure

/-! ## Lists -/

theorem ItemsAhead.agree {schema : Schema α} (hschema : schema.IsCoherent) {levels fuel : Nat}
    {isFirst : Bool} {text rest : List Char} {items : List Value}
    (h : ItemsAhead (readValue levels) fuel isFirst text items rest)
    (hnames : ∀ v ∈ items, v.HasDistinctNames) :
    Agree (Upto (']' :: rest)) (readItems (schema.read levels) fuel isFirst text)
      ((Value.normalItems items).mapM schema.ofValue) := by
  induction h with
  | nil hnext =>
    rw [readItems, hnext]
    exact .ok rfl
  | cons hnext hitem _ ih =>
    obtain ⟨hhead, htail⟩ := List.forall_mem_cons.mp hnames
    rw [readItems, hnext, Value.normalItems, List.mapM_cons]
    refine (hschema.agree hitem hhead).bind fun read a heq => ?_
    rw [heq]
    refine (ih htail).bind fun read tail heq => ?_
    rw [heq]
    exact .ok rfl

theorem Schema.IsCoherent.listOf {schema : Schema α} (hschema : schema.IsCoherent) :
    schema.listOf.IsCoherent := by
  refine ⟨fun {levels text rest tree} h hnames => ?_⟩
  simp only [Schema.listOf]
  cases valueAhead_of_readValue h with
  | list hstart hitems =>
    rw [hstart]
    exact agree_close (closeList_bracket rest)
      (hitems.agree hschema (Value.hasDistinctNames_list.mp hnames))
  | object hstart =>
    rw [hstart]
    exact .error
  | scalar hlist _ hscalar =>
    split
    · exact absurd ‹_› (hlist _)
    · cases isScalar_of_readScalar hscalar <;> exact .error

/-! ## Records -/

/-- Whether the values of two fields may come in any order. -/
def Field.Apart {δ : Type} (f g : Field δ) : Prop :=
  ∀ v w update update', f.schema.ofValue v = .ok update → g.schema.ofValue w = .ok update' →
    ∀ draft, g.isSet (update draft) = g.isSet draft ∧ f.isSet (update' draft) = f.isSet draft ∧
      update (update' draft) = update' (update draft)

theorem Field.apart_map {δ γ γ' : Type} {name name' : String} {isSet isSet' : δ → Bool}
    {schema : Schema γ} {schema' : Schema γ'} {update : γ → δ → δ} {update' : γ' → δ → δ}
    {hasDefault hasDefault' : Bool}
    (h : ∀ a b draft, isSet' (update a draft) = isSet' draft ∧
      isSet (update' b draft) = isSet draft ∧
      update a (update' b draft) = update' b (update a draft)) :
    Field.Apart ⟨name, isSet, schema.map update, hasDefault⟩
      ⟨name', isSet', schema'.map update', hasDefault'⟩ := by
  intro v w update update' hv hw draft
  obtain ⟨a, -, rfl⟩ := map_eq_ok.mp hv
  obtain ⟨b, -, rfl⟩ := map_eq_ok.mp hw
  exact h a b draft

namespace Record

variable {δ : Type} {record : Record δ α}

/-- Whether the fields of a record can be read and taken alike, in any order. -/
structure IsCoherent (record : Record δ α) : Prop where
  schema : ∀ field ∈ record.fields, field.schema.IsCoherent
  apart : ∀ f ∈ record.fields, ∀ g ∈ record.fields, f.name ≠ g.name → f.Apart g

/-! ### The order of members -/

theorem name_of_field? {name : String} {field : Field δ} (h : record.field? name = some field) :
    field.name = name := by
  simpa using List.find?_some h

/-- What one member does to a draft. -/
def ofMember (record : Record δ α) (draft : δ) (member : String × Value) : Except Fault δ :=
  match record.field? member.1 with
  | none => .ok draft
  | some field =>
    if field.isSet draft then .error (.repeatedField field.name)
    else (field.schema.ofValue member.2).map (· draft)

theorem ofMembers_cons (draft : δ) (member : String × Value) (members : List (String × Value)) :
    record.ofMembers draft (member :: members) =
      record.ofMember draft member >>= fun draft => record.ofMembers draft members := by
  obtain ⟨name, value⟩ := member
  rw [ofMembers, ofMember]
  cases record.field? name with
  | none => rfl
  | some field =>
    simp only
    split
    · rfl
    · cases field.schema.ofValue value <;> rfl

theorem ofMember_eq_ok {draft draft' : δ} {member : String × Value} :
    record.ofMember draft member = .ok draft' ↔
      record.field? member.1 = none ∧ draft = draft' ∨
        ∃ field update, record.field? member.1 = some field ∧ field.isSet draft = false ∧
          field.schema.ofValue member.2 = .ok update ∧ update draft = draft' := by
  unfold ofMember
  cases hfield : record.field? member.1 with
  | none => simp
  | some field =>
    cases hset : field.isSet draft with
    | true => simp [hset]
    | false => simp [hset, map_eq_ok]

/-- Two members of different names may change places. -/
theorem ofMember_swap (hrecord : record.IsCoherent) {m n : String × Value} (hne : m.1 ≠ n.1)
    {draft middle last : δ} (hm : record.ofMember draft m = .ok middle)
    (hn : record.ofMember middle n = .ok last) :
    ∃ middle, record.ofMember draft n = .ok middle ∧ record.ofMember middle m = .ok last := by
  rcases ofMember_eq_ok.mp hm with ⟨hf, rfl⟩ | ⟨f, update, hf, hset, hupdate, rfl⟩
  · exact ⟨last, hn, ofMember_eq_ok.mpr (.inl ⟨hf, rfl⟩)⟩
  · rcases ofMember_eq_ok.mp hn with ⟨hg, rfl⟩ | ⟨g, update', hg, hset', hupdate', rfl⟩
    · exact ⟨draft, ofMember_eq_ok.mpr (.inl ⟨hg, rfl⟩), hm⟩
    · have hnames : f.name ≠ g.name := by rwa [name_of_field? hf, name_of_field? hg]
      obtain ⟨hkeptg, hkeptf, hcomm⟩ :=
        hrecord.apart f (mem_fields hf) g (mem_fields hg) hnames _ _ _ _ hupdate hupdate' draft
      exact ⟨update' draft,
        ofMember_eq_ok.mpr (.inr ⟨g, update', hg, hkeptg ▸ hset', hupdate', rfl⟩),
        ofMember_eq_ok.mpr (.inr ⟨f, update, hf, hkeptf ▸ hset, hupdate, hcomm⟩)⟩

/-- Members of different names may come in any order. -/
theorem ofMembers_perm (hrecord : record.IsCoherent) {members members' : List (String × Value)}
    (hperm : members.Perm members') (hnames : (members.map (·.1)).Nodup) {draft last : δ}
    (h : record.ofMembers draft members = .ok last) :
    record.ofMembers draft members' = .ok last := by
  induction hperm generalizing draft with
  | nil => exact h
  | cons m _ ih =>
    rw [ofMembers_cons] at h ⊢
    obtain ⟨middle, hm, h⟩ := bind_eq_ok.mp h
    exact bind_eq_ok.mpr ⟨middle, hm, ih (List.nodup_cons.mp hnames).2 h⟩
  | swap m n members =>
    have hne : n.1 ≠ m.1 := fun heq => (List.nodup_cons.mp hnames).1 (by simp [heq])
    rw [ofMembers_cons] at h
    obtain ⟨middle, hn, h⟩ := bind_eq_ok.mp h
    rw [ofMembers_cons] at h
    obtain ⟨last', hm, h⟩ := bind_eq_ok.mp h
    obtain ⟨middle, hm, hn⟩ := ofMember_swap hrecord hne hn hm
    rw [ofMembers_cons]
    refine bind_eq_ok.mpr ⟨middle, hm, ?_⟩
    rw [ofMembers_cons]
    exact bind_eq_ok.mpr ⟨last', hn, h⟩
  | trans hperm _ ih ih' => exact ih' ((hperm.map _).nodup_iff.mp hnames) (ih hnames h)

/-- It does not matter that the normal form has sorted the members. -/
theorem agree_sortMembers (hrecord : record.IsCoherent) {members : List (String × Value)}
    (hnames : (members.map (·.1)).Nodup) (draft : δ) :
    Agree Eq (record.ofMembers draft members)
      (record.ofMembers draft (Value.sortMembers members)) := by
  have hperm := Value.perm_sortMembers hnames
  exact .of_eq_ok (fun _ => ofMembers_perm hrecord hperm.symm hnames)
    (fun _ => ofMembers_perm hrecord hperm ((hperm.map _).nodup_iff.mpr hnames))

/-! ### From an object -/

theorem agree_readNamed (hrecord : record.IsCoherent) {levels fuel : Nat} {isFirst : Bool}
    {text rest : List Char} {members : List (String × Value)}
    (h : MembersAhead (readValue levels) fuel isFirst text members rest)
    (hnames : ∀ m ∈ members, m.2.HasDistinctNames) (draft : δ) :
    Agree (Upto ('\x7d' :: rest)) (record.readNamed levels fuel isFirst draft text)
      (record.ofMembers draft (Value.normalMembers members)) := by
  induction h generalizing draft with
  | nil hnext =>
    rw [readNamed, hnext]
    exact .ok rfl
  | @cons _ _ _ _ name _ _ _ _ _ _ hnext hname hcolon hvalue _ ih =>
    obtain ⟨hhead, htail⟩ := List.forall_mem_cons.mp hnames
    rw [readNamed, Value.normalMembers, ofMembers]
    simp only [hnext, hname, hcolon, ok_bind, if_true]
    cases hfield : record.field? (String.ofList name) with
    | none =>
      simp only [skipValue_of_readValue hvalue, ok_bind]
      exact ih htail draft
    | some field =>
      simp only
      split
      · exact .error
      · have hschema := hrecord.schema field (mem_fields hfield)
        refine (hschema.agree hvalue hhead).bind fun _ update heq => ?_
        rw [heq]
        exact ih htail (update draft)

/-! ### From a list -/

/-- The draft that was read is the one that was taken, and a bracket that closes the
list comes next exactly if no items are left over. -/
structure Leftover (rest : List Char) (read : δ × List Char) (taken : δ × List Value) : Prop where
  draft : read.1 = taken.1
  closing : if taken.2.isEmpty then closeList read.2 = (rest, none)
    else ∃ left failure, closeList read.2 = (left, some failure)

theorem closeList_of_ne {text rest : List Char} {c : Char} (h : skipSpace text = c :: rest)
    (hc : c ≠ ']') : ∃ left failure, closeList text = (left, some failure) := by
  simp only [closeList, h, hc, if_false]
  split
  · split <;> exact ⟨_, _, rfl⟩
  · exact ⟨_, _, rfl⟩

theorem closeList_of_itemsAhead {levels fuel : Nat} {isFirst : Bool} {text rest : List Char}
    {items : List Value} (h : ItemsAhead (readValue levels) fuel isFirst text items rest) :
    if (Value.normalItems items).isEmpty then closeList text = (rest, none)
    else ∃ left failure, closeList text = (left, some failure) := by
  cases h with
  | nil hnext =>
    cases itemAhead_of_nextItem hnext with
    | bracket hend => simp only [Value.normalItems, closeList, hend, List.isEmpty_nil, if_true]
  | cons hnext =>
    simp only [Value.normalItems, List.isEmpty_cons, Bool.false_eq_true, if_false]
    cases itemAhead_of_nextItem hnext with
    | first hitem hc => exact closeList_of_ne hitem hc
    | comma hcomma => exact closeList_of_ne hcomma (by decide)

theorem agree_readSlots (hrecord : record.IsCoherent) {levels fuel : Nat} {isFirst : Bool}
    {text rest : List Char} {items : List Value}
    (h : ItemsAhead (readValue levels) fuel isFirst text items rest)
    (hnames : ∀ v ∈ items, v.HasDistinctNames) {fields : List (Field δ)}
    (hfields : ∀ field ∈ fields, field ∈ record.fields) (index : Nat) (draft : δ) :
    Agree (Leftover rest) (record.readSlots levels fields index isFirst draft text)
      (record.ofItems fields index draft (Value.normalItems items)) := by
  induction fields generalizing fuel isFirst text items index draft with
  | nil => exact .ok ⟨rfl, closeList_of_itemsAhead h⟩
  | cons field fields ih =>
    have htailFields := fun f hf => hfields f (List.mem_cons_of_mem field hf)
    cases h with
    | @nil fuel _ _ _ hnext =>
      rw [readSlots, hnext, ok_bind, Value.normalItems, ofItems]
      simp only [Bool.false_eq_true, if_false]
      split
      · have hend : ItemsAhead (readValue levels) (fuel + 1) isFirst (']' :: rest) [] rest :=
          .nil (nextItem_bracket isFirst rest)
        exact ih hend (List.forall_mem_nil _) htailFields _ _
      · exact .error
    | cons hnext hitem htail =>
      obtain ⟨hhead, hrest⟩ := List.forall_mem_cons.mp hnames
      rw [readSlots, hnext, ok_bind, Value.normalItems, ofItems]
      refine ((hrecord.schema field (hfields field List.mem_cons_self)).agree hitem hhead).bind
        fun _ update heq => ?_
      rw [heq]
      exact ih htail hrest htailFields _ _

/-! ### From both -/

theorem agree_finish {left : List Char} {read : Except Failure (δ × List Char)}
    {taken : Except Fault δ} (h : Agree (Upto left) read taken) :
    Agree (Upto left) (record.finish read) (taken >>= record.complete) := by
  refine h.bind fun _ draft heq => ?_
  simp only [heq]
  cases record.complete draft with
  | ok a => exact .ok rfl
  | error fault => exact .error

/-- A list that is left too early is not closed. -/
theorem agree_closeList {rest : List Char} {read : Except Failure (δ × List Char)}
    {taken : Except Fault (δ × List Value)} {tooLong : Fault}
    (h : Agree (Leftover rest) read taken) :
    Agree (Upto rest) (close closeList (record.finish read)) (taken >>= fun draft =>
      if draft.2.isEmpty then record.complete draft.1 else .error tooLong) := by
  cases h with
  | @error failure =>
    obtain ⟨failure', hclose⟩ := exists_error_of_close α closeList failure
    change Agree _ (close closeList (.error failure)) _
    rw [hclose]
    exact .error
  | @ok read taken h =>
    obtain ⟨draft, text⟩ := read
    obtain ⟨_, left⟩ := taken
    obtain ⟨heq, hclosing⟩ := h
    simp only at heq hclosing
    subst heq
    have hfinish : Agree (Upto text) (record.finish (.ok (draft, text))) (record.complete draft) :=
      agree_finish (.ok rfl)
    rw [ok_bind]
    simp only
    split at hclosing
    · rename_i hempty
      rw [if_pos hempty]
      exact agree_close hclosing hfinish
    · rename_i hmore
      rw [if_neg hmore]
      obtain ⟨behind, failure, hclosing⟩ := hclosing
      obtain ⟨failure', hclose⟩ := exists_error_of_closing hclosing hfinish
      rw [hclose]
      exact .error

theorem IsCoherent.schema_isCoherent (hrecord : record.IsCoherent) :
    record.schema.IsCoherent := by
  refine ⟨fun {levels text rest tree} h hnames => ?_⟩
  simp only [Record.schema, Record.read]
  cases valueAhead_of_readValue h with
  | list hstart hitems =>
    rw [hstart]
    have hslots := agree_readSlots hrecord hitems (Value.hasDistinctNames_list.mp hnames)
      (fun _ => id) 0 record.blank
    exact agree_closeList hslots
  | object hstart hmembers =>
    rw [hstart]
    obtain ⟨hdistinct, hvalues⟩ := Value.hasDistinctNames_object.mp hnames
    refine agree_close (closeObject_brace rest) (agree_finish ?_)
    refine (agree_readNamed hrecord hmembers hvalues record.blank).trans_eq
      (agree_sortMembers hrecord ?_ _)
    rwa [Value.normalMembers_eq_map, List.map_map]
  | scalar hlist hobject hscalar =>
    split
    · exact absurd ‹_› (hlist _)
    · exact absurd ‹_› (hobject _)
    · cases isScalar_of_readScalar hscalar <;> exact .error

end Record

/-! ## Documents -/

/-- A document in which no object has two members of one name, however the names are
written. -/
def HasDistinctNames (document : String) : Prop :=
  ∀ tree rest, readValue depthLimit document.toList = .ok (tree, rest) → tree.HasDistinctNames

/-- A document that holds a value need not be read twice. -/
theorem Schema.IsCoherent.agree_decode {schema : Schema α} (hschema : schema.IsCoherent)
    {document : String} {data : Value} (hdata : anything.decode document = .ok data)
    (hnames : HasDistinctNames document) :
    Agree Eq (schema.decode document) (schema.convert data) := by
  obtain ⟨rest, hread, hend⟩ := exists_of_decode hdata
  obtain ⟨tree, htree, rfl⟩ := exists_of_read_anything hread
  have hagree := hschema.agree htree (hnames tree rest htree)
  simp only [decode, convert]
  refine .mapError ?_
  generalize schema.read depthLimit document.toList = read at hagree ⊢
  generalize schema.ofValue tree.normal = taken at hagree ⊢
  cases hagree with
  | ok h =>
    cases h
    simp only [ok_bind, hend]
    exact .ok rfl
  | error => exact .error

end Json
end RepoFeed
