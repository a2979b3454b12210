import RepoFeed.Json.Schema
import RepoFeed.Proofs.Json.RoundTrip

/-
Schemas and the texts of what they read.

Each way of building a schema gets the lemma that carries `Rereads` through it,
so that the law of a record is put together like the record itself: one step for
each member that was written, then the end.
-/

namespace RepoFeed
namespace Json

variable {α β γ : Type} {accepted : α → Prop} {accepted' : β → Prop} {refused refused' : Prop}
variable {rest rest' : List Char}

namespace Schema

theorem read_textual (wanted : Wanted) (convert : String → Except Fault α) (levels : Nat)
    (s : String) (rest : List Char) :
    (textual wanted convert).read levels ((Value.text s).write ++ rest) =
      settle rest (convert s) := by
  rw [Value.write, renderText_append]
  simp only [textual, skipSpace_cons (show isSpace '"' = false from rfl)]
  rw [Literal.read_flatMap_renderChar]
  simp [bind, Except.bind]

theorem read_text (levels : Nat) (s : String) (rest : List Char) :
    text.read levels ((Value.text s).write ++ rest) = .ok (s, rest) :=
  read_textual _ _ levels s rest

theorem read_whole {wanted : Wanted} {accepts : Int → Bool} {n : Int} (hn : accepts n = true)
    (hword : Numeral.IsWord n) (levels : Nat) (hr : Boundary rest) :
    (whole wanted accepts).read levels ((Value.number (.whole n)).write ++ rest) =
      .ok (n, rest) := by
  have hread := Numeral.read_whole hr hword
  obtain ⟨c, text, htext, hspace, -⟩ := (Value.number (.whole n)).write_head
  obtain ⟨d, digits, hdigits, hbegins⟩ := Numeral.render_head (.whole n)
  rw [Value.write, hdigits] at htext
  obtain ⟨rfl, rfl⟩ := List.cons.inj htext
  rw [Value.write]
  rw [hdigits] at hread ⊢
  rw [List.cons_append] at hread ⊢
  simp only [whole, skipSpace_cons hspace, if_pos hbegins, hread]
  simp [bind, Except.bind, wholeNumber, hn, settle]

theorem isWord_of_fitsSigned {n : Int} (hn : Word.fitsSigned 64 n = true) : Numeral.IsWord n := by
  have hlimit : twoPow (64 - 1) = Numeral.integerLimit := rfl
  have hless : Numeral.integerLimit < Numeral.naturalLimit := by decide
  simp only [Word.fitsSigned, Bool.and_eq_true, decide_eq_true_eq, hlimit] at hn
  exact ⟨hn.1, by omega⟩

theorem isWord_of_fitsUnsigned {n : Int} (hn : Word.fitsUnsigned 16 n = true) :
    Numeral.IsWord n := by
  have hless : twoPow 16 < Numeral.naturalLimit := by decide
  simp only [Word.fitsUnsigned, Bool.and_eq_true, decide_eq_true_eq] at hn
  constructor <;> omega

/-- A value of any kind comes back in normal form. -/
theorem rereads_anything (levels : Nat) (v : Value) (hr : Boundary rest) :
    Rereads (fun w => v.depth ≤ levels ∧ (v.IsExact → w = v.normal))
      (v.IsExact → levels < v.depth) rest (anything.read levels (v.write ++ rest)) := by
  refine (v.comesBack levels hr).map _ (fun w hw => ⟨hw.1, fun hexact => ?_⟩) id
  rw [hw.2 hexact]

theorem rereads_refine {schema : Schema α} {levels : Nat} {text : List Char}
    {convert : α → Except Fault β} (h : Rereads accepted refused rest (schema.read levels text))
    (hconvert : ∀ a, accepted a → ∃ b, convert a = .ok b ∧ accepted' b) :
    Rereads accepted' refused rest ((schema.refine convert).read levels text) := by
  refine h.bind (fun a ha => ?_) id
  obtain ⟨b, hb, haccepted⟩ := hconvert a ha
  simp only [hb]
  exact .ok haccepted

/-- A value that is not null is read for what it is. -/
theorem rereads_optional {schema : Schema α} {levels : Nat} {v : Value} (hv : v ≠ .null)
    (h : Rereads accepted refused rest (schema.read levels (v.write ++ rest))) :
    Rereads (fun a => ∃ b, a = some b ∧ accepted b) refused rest
      (schema.optional.read levels (v.write ++ rest)) := by
  obtain ⟨c, text, htext, hspace, -, hnull⟩ := v.write_head
  rw [htext, List.cons_append] at h ⊢
  simp only [optional, skipSpace_cons hspace]
  split
  · rename_i heq
    exact absurd (hnull (List.cons.inj heq).1) hv
  · exact h.map some (fun b hb => ⟨b, rfl, hb⟩) id

theorem read_optional_some {schema : Schema α} {levels : Nat} {v : Value} {a : α} (hv : v ≠ .null)
    (h : schema.read levels (v.write ++ rest) = .ok (a, rest)) :
    schema.optional.read levels (v.write ++ rest) = .ok (some a, rest) := by
  have hread : Rereads (fun b => ∃ c, b = some c ∧ c = a) False rest
      (schema.optional.read levels (v.write ++ rest)) := rereads_optional hv (.of_eq_ok h rfl)
  refine hread.eq_ok (fun b hb => ?_) id
  obtain ⟨_, rfl, rfl⟩ := hb
  rfl

theorem read_optional_null (schema : Schema α) (levels : Nat) (rest : List Char) :
    schema.optional.read levels (Value.null.write ++ rest) = .ok (none, rest) := by
  simp only [optional, Value.write, List.cons_append, List.nil_append,
    skipSpace_cons (show isSpace 'n' = false from rfl)]
  rfl

theorem rereads_listOf {schema : Schema α} {levels : Nat} {xs : List β} (json : β → Value)
    {accepted : β → α → Prop} {refused : β → Prop}
    (hitem : ∀ x ∈ xs, ∀ rest, Boundary rest →
      Rereads (accepted x) (refused x) rest (schema.read levels ((json x).write ++ rest)))
    (rest : List Char) :
    Rereads (List.Forall₂ accepted xs) (∃ x ∈ xs, refused x) rest
      ((listOf schema).read (levels + 1) ((Value.list (xs.map json)).write ++ rest)) := by
  have hfuel := length_le_writeItemsFrom true (xs.map json)
  rw [List.length_map] at hfuel
  rw [write_list_append]
  simp only [listOf, skipSpace_cons (show isSpace '[' = false from rfl)]
  refine .close (closeList_bracket rest) (readItems_writeItems _ json hitem ?_ true rest)
  rw [List.length_append]
  omega

end Schema

namespace Record

variable {δ : Type} {record : Record δ α} {name fieldName : String} {isSet : δ → Bool}
variable {hasDefault : Bool} {draft : δ} {levels fuel : Nat}

/-- A member that was written is read into its field, and reading goes on behind
it. -/
theorem rereads_member {schema : Schema γ} {update : γ → δ → δ} {ready : γ → Prop}
    {accepted : δ → Prop} {value : Value}
    (hfield : record.field? name = some ⟨fieldName, isSet, schema.map update, hasDefault⟩)
    (hset : isSet draft = false)
    (hvalue : Rereads ready refused rest (schema.read levels (value.write ++ rest)))
    (hrest : ∀ a, ready a →
      Rereads accepted refused' rest' (record.readNamed levels fuel false (update a draft) rest))
    (hrefused : refused → refused') (isFirst : Bool) :
    Rereads accepted refused' rest' (record.readNamed levels (fuel + 1) isFirst draft
      (separator isFirst ++ (renderText name.toList ++ ':' :: (value.write ++ rest)))) := by
  rw [readNamed, renderText_append, nextMember_separator]
  simp only [bind, Except.bind, if_true, Literal.read_flatMap_renderChar, String.ofList_toList,
    hfield, hset, Bool.false_eq_true, if_false, readColon_colon]
  have hupdate : Rereads (fun u => ∃ a, ready a ∧ update a = u) refused' rest
      ((schema.map update).read levels (value.write ++ rest)) :=
    hvalue.map update (fun a ha => ⟨a, ha, rfl⟩) hrefused
  refine hupdate.bind ?_ id
  intro _ h
  obtain ⟨a, ha, rfl⟩ := h
  exact hrest a ha

/-- The same for a member that is sure to come back. -/
theorem rereads_member_of_ok {schema : Schema γ} {update : γ → δ → δ} {a : γ}
    {accepted : δ → Prop} {value : Value}
    (hfield : record.field? name = some ⟨fieldName, isSet, schema.map update, hasDefault⟩)
    (hset : isSet draft = false)
    (hvalue : schema.read levels (value.write ++ rest) = .ok (a, rest))
    (hrest : Rereads accepted refused rest'
      (record.readNamed levels fuel false (update a draft) rest)) (isFirst : Bool) :
    Rereads accepted refused rest' (record.readNamed levels (fuel + 1) isFirst draft
      (separator isFirst ++ (renderText name.toList ++ ':' :: (value.write ++ rest)))) := by
  refine rereads_member hfield hset (.of_eq_ok hvalue (Eq.refl a)) ?_ id isFirst
  intro _ heq
  subst heq
  exact hrest

theorem rereads_end {accepted : δ → Prop} (h : accepted draft) (isFirst : Bool) :
    Rereads accepted refused ('\x7d' :: rest)
      (record.readNamed levels (fuel + 1) isFirst draft ('\x7d' :: rest)) := by
  refine .of_eq_ok ?_ h
  rw [readNamed, nextMember_brace]
  rfl

/-- A record that was written as an object is read from its members. -/
theorem rereads_object (ready : δ → Prop) {members : List (String × Value)}
    (hmembers : ∀ fuel, members.length ≤ fuel →
      Rereads ready refused ('\x7d' :: rest) (record.readNamed levels (fuel + 1) true record.blank
        (writeMembersFrom true members ++ '\x7d' :: rest)))
    (hcomplete : ∀ draft, ready draft → ∃ a, record.complete draft = .ok a ∧ accepted a) :
    Rereads accepted refused rest
      (record.schema.read (levels + 1) ((Value.object members).write ++ rest)) := by
  have hfuel := length_le_writeMembersFrom true members
  rw [write_object_append]
  simp only [schema, read, skipSpace_cons (show isSpace '\x7b' = false from rfl)]
  refine .close (closeObject_brace rest) ((hmembers _ ?_).bind (fun draft hdraft => ?_) id)
  · rw [List.length_append]
    omega
  · obtain ⟨a, ha, haccepted⟩ := hcomplete draft hdraft
    simp only [ha]
    exact .ok haccepted

end Record

/-! ## Documents -/

theorem Schema.decode_render {schema : Schema α} {v : Value} {a : α}
    (h : schema.read depthLimit (v.write ++ []) = .ok (a, [])) :
    schema.decode v.render = .ok a := by
  rw [List.append_nil] at h
  simp only [decode, Value.render, String.toList_ofList, h]
  rfl

theorem Schema.decode_of_rereads {schema : Schema α} {document : String}
    (h : Rereads accepted refused [] (schema.read depthLimit document.toList)) :
    (∃ a, schema.decode document = .ok a ∧ accepted a) ∨
      (∃ error, schema.decode document = .error error) ∧ refused := by
  generalize hread : schema.read depthLimit document.toList = result at h
  cases h with
  | ok h =>
    refine .inl ⟨_, ?_, h⟩
    simp only [decode, hread]
    rfl
  | error h =>
    rename_i failure
    refine .inr ⟨⟨failure.toError document.toList, ?_⟩, h⟩
    simp only [decode, hread]
    rfl

end Json
end RepoFeed
