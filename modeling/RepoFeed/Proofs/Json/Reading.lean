import RepoFeed.Json.Schema
import RepoFeed.Proofs.Json.Numeral
import RepoFeed.Proofs.Json.Structure
import RepoFeed.Proofs.Json.Value

/-
What the readers give, whatever the text.

Numbers that are read as whole numbers have 64 bits.  A record gives what its
fields have made of the blank draft, so a property of drafts that the blank has
and every field keeps is a property of all that is read.
-/

namespace RepoFeed
namespace Json

/-! ## Numbers -/

/-- Numbers that a reader gives. -/
def Number.IsReadable : Number → Prop
  | .whole n => Numeral.IsWord n
  | .binary _ => True

namespace Numeral

variable {text rest : List Char} {n : Number}

theorem takeDigits_lt {limit value : Nat} (h : value < limit) (text : List Char) :
    (takeDigits limit value text).1 < limit := by
  induction text generalizing value with
  | nil => exact h
  | cons c text ih =>
    rw [takeDigits]
    split
    · rename_i hfits
      exact ih hfits.2
    · exact h

theorem isReadable_ofDigits {digits : Nat} (h : digits < naturalLimit) (negative : Bool) :
    (ofDigits negative digits).IsReadable := by
  unfold ofDigits
  split
  · split
    · trivial
    · have : integerLimit < naturalLimit := by decide
      constructor <;> omega
  · constructor <;> omega

theorem isReadable_of_assemble {negative : Bool} {digits : Nat} {exponent : Int}
    (h : assemble negative digits exponent text = .ok (n, rest)) : n.IsReadable := by
  unfold assemble at h
  split at h
  · cases h
    trivial
  · contradiction

theorem isReadable_of_readExponent {negative : Bool} {digits : Nat} {start : Int}
    (h : readExponent negative digits start text = .ok (n, rest)) : n.IsReadable := by
  rw [readExponent_eq] at h
  unfold readExponentDigits at h
  split at h
  · contradiction
  · split at h
    · simp only at h
      split at h
      · split at h
        · contradiction
        · cases h
          trivial
      · exact isReadable_of_assemble h
    · contradiction

theorem isReadable_of_readTail {negative : Bool} {digits : Nat} {exponent : Int}
    (h : readTail negative digits exponent text = .ok (n, rest)) : n.IsReadable := by
  unfold readTail at h
  split at h
  · exact isReadable_of_readExponent h
  · exact isReadable_of_readExponent h
  · exact isReadable_of_assemble h

theorem isReadable_of_readFraction {negative : Bool} {digits : Nat} {exponent : Int}
    (h : readFraction negative digits exponent text = .ok (n, rest)) : n.IsReadable := by
  unfold readFraction at h
  simp only at h
  split at h
  · exact isReadable_of_readTail h
  · split at h
    · split at h <;> contradiction
    · exact isReadable_of_readTail h

theorem isReadable_of_readAfterWhole {negative : Bool} {digits : Nat} (hd : digits < naturalLimit)
    (h : readAfterWhole negative digits text = .ok (n, rest)) : n.IsReadable := by
  unfold readAfterWhole at h
  split at h
  · exact isReadable_of_readFraction h
  · exact isReadable_of_readExponent h
  · exact isReadable_of_readExponent h
  · cases h
    exact isReadable_ofDigits hd negative

theorem isReadable_of_readAfterLong {negative : Bool} {digits dropped : Nat}
    (h : readAfterLong negative digits dropped text = .ok (n, rest)) : n.IsReadable := by
  unfold readAfterLong at h
  split at h
  · exact isReadable_of_readFraction h
  · exact isReadable_of_readTail h

theorem isReadable_of_readUnsigned {negative : Bool}
    (h : readUnsigned negative text = .ok (n, rest)) : n.IsReadable := by
  unfold readUnsigned at h
  split at h
  · contradiction
  · split at h
    · contradiction
    · exact isReadable_of_readAfterWhole (by decide) h
  · rename_i c text _
    have hdigits := takeDigits_lt (show 0 < naturalLimit by decide) (c :: text)
    split at h
    · simp only at h
      split at h
      · exact isReadable_of_readAfterLong h
      · exact isReadable_of_readAfterWhole hdigits h
    · contradiction

theorem isReadable_of_read (h : read text = .ok (n, rest)) : n.IsReadable := by
  unfold read at h
  split at h
  · exact isReadable_of_readUnsigned h
  · exact isReadable_of_readUnsigned h

end Numeral

/-! ## Lists and objects -/

section

variable {α : Type} {rest : List Char}

theorem exists_of_close {closing : Closing} {x : Except Failure (α × List Char)} {a : α}
    (h : close closing x = .ok (a, rest)) :
    ∃ left, x = .ok (a, left) ∧ closing left = (rest, none) := by
  unfold close at h
  split at h
  · split at h
    · rename_i hclosing
      cases h
      exact ⟨_, rfl, hclosing⟩
    · contradiction
  · contradiction
  · contradiction

theorem forall_of_readItems {item : Reader α} {p : α → Prop}
    (hitem : ∀ text a rest, item text = .ok (a, rest) → p a) {fuel : Nat} {isFirst : Bool}
    {text : List Char} {as : List α} (h : ItemsAhead item fuel isFirst text as rest) :
    ∀ a ∈ as, p a := by
  induction h with
  | nil => exact nofun
  | cons _ ha _ ih => exact List.forall_mem_cons.mpr ⟨hitem _ _ _ ha, ih⟩

/-- What `readMembers` has read: members up to a closing brace with `rest` behind it. -/
inductive MembersAhead (value : Reader α) : (fuel : Nat) → (isFirst : Bool) →
    (text : List Char) → List (String × α) → (rest : List Char) → Prop
  | nil {fuel : Nat} {isFirst : Bool} {text rest : List Char}
    (hnext : nextMember isFirst text = .ok (false, '\x7d' :: rest)) :
    MembersAhead value (fuel + 1) isFirst text [] rest
  | cons {fuel : Nat} {isFirst : Bool} {text start name colon behind left rest : List Char}
    {a : α} {members : List (String × α)} (hnext : nextMember isFirst text = .ok (true, start))
    (hname : Literal.read start = .ok (name, colon)) (hcolon : readColon colon = .ok behind)
    (hvalue : value behind = .ok (a, left))
    (htail : MembersAhead value fuel false left members rest) :
    MembersAhead value (fuel + 1) isFirst text ((String.ofList name, a) :: members) rest

theorem membersAhead_of_readMembers {value : Reader α} {fuel : Nat} {isFirst : Bool}
    {text left : List Char} {members : List (String × α)}
    (h : readMembers value fuel isFirst text = .ok (members, left)) :
    ∃ rest, left = '\x7d' :: rest ∧ MembersAhead value fuel isFirst text members rest := by
  induction fuel generalizing isFirst text members with
  | zero => contradiction
  | succ fuel ih =>
    obtain ⟨⟨more, start⟩, hnext, h⟩ := bind_eq_ok.mp h
    cases more with
    | false =>
      cases h
      cases memberAhead_of_nextMember hnext with
      | brace => exact ⟨_, rfl, .nil hnext⟩
    | true =>
      obtain ⟨⟨name, colon⟩, hname, h⟩ := bind_eq_ok.mp h
      obtain ⟨behind, hcolon, h⟩ := bind_eq_ok.mp h
      obtain ⟨⟨a, left⟩, hvalue, h⟩ := bind_eq_ok.mp h
      obtain ⟨⟨tail, last⟩, htail, h⟩ := bind_eq_ok.mp h
      cases h
      obtain ⟨rest, rfl, hmembers⟩ := ih htail
      exact ⟨rest, rfl, .cons hnext hname hcolon hvalue hmembers⟩

theorem forall_of_readMembers {value : Reader α} {p : α → Prop}
    (hvalue : ∀ text a rest, value text = .ok (a, rest) → p a) {fuel : Nat} {isFirst : Bool}
    {text : List Char} {members : List (String × α)}
    (h : MembersAhead value fuel isFirst text members rest) : ∀ m ∈ members, p m.2 := by
  induction h with
  | nil => exact nofun
  | cons _ _ _ ha _ ih => exact List.forall_mem_cons.mpr ⟨hvalue _ _ _ ha, ih⟩

end

/-! ## Values -/

/-- The values without parts that a reader gives. -/
inductive IsScalar : Value → Prop
  | null : IsScalar .null
  | truth (b : Bool) : IsScalar (.truth b)
  | number {n : Number} (h : n.IsReadable) : IsScalar (.number n)
  | text (s : String) : IsScalar (.text s)

/-- The ways in which `readScalar` has read a value. -/
inductive ScalarAhead : (text : List Char) → Value → (rest : List Char) → Prop
  | null {text rest : List Char} (hword : readWord ['u', 'l', 'l'] text = .ok rest) :
    ScalarAhead ('n' :: text) .null rest
  | true {text rest : List Char} (hword : readWord ['r', 'u', 'e'] text = .ok rest) :
    ScalarAhead ('t' :: text) (.truth true) rest
  | false {text rest : List Char} (hword : readWord ['a', 'l', 's', 'e'] text = .ok rest) :
    ScalarAhead ('f' :: text) (.truth false) rest
  | number {text rest : List Char} {c : Char} {n : Number} (hc : Numeral.begins c = true)
    (hnumber : Numeral.read (c :: text) = .ok (n, rest)) :
    ScalarAhead (c :: text) (.number n) rest
  | text {text rest s : List Char} (htext : Literal.read text = .ok (s, rest)) :
    ScalarAhead ('"' :: text) (.text (String.ofList s)) rest

theorem scalarAhead_of_readScalar {text rest : List Char} {v : Value}
    (h : readScalar text = .ok (v, rest)) : ScalarAhead text v rest := by
  unfold readScalar at h
  split at h
  · contradiction
  · split at h
    · rename_i hc
      obtain ⟨_, hword, h⟩ := map_eq_ok.mp h
      cases h
      exact hc ▸ .null hword
    · split at h
      · rename_i hc
        obtain ⟨_, hword, h⟩ := map_eq_ok.mp h
        cases h
        exact hc ▸ .true hword
      · split at h
        · rename_i hc
          obtain ⟨_, hword, h⟩ := map_eq_ok.mp h
          cases h
          exact hc ▸ .false hword
        · split at h
          · rename_i hc
            obtain ⟨_, hnumber, h⟩ := map_eq_ok.mp h
            cases h
            exact .number hc hnumber
          · split at h
            · rename_i hc
              obtain ⟨_, htext, h⟩ := map_eq_ok.mp h
              cases h
              exact hc ▸ .text htext
            · contradiction

theorem isScalar_of_readScalar {text rest : List Char} {v : Value}
    (h : readScalar text = .ok (v, rest)) : IsScalar v := by
  cases scalarAhead_of_readScalar h with
  | null => exact .null
  | true => exact .truth _
  | false => exact .truth _
  | number _ hnumber => exact .number (Numeral.isReadable_of_read hnumber)
  | text => exact .text _

/-- The ways in which `readValue` has read a value. -/
inductive ValueAhead : (levels : Nat) → (text : List Char) → Value → (rest : List Char) → Prop
  | list {levels : Nat} {text left rest : List Char} {items : List Value}
    (hstart : skipSpace text = '[' :: left)
    (hitems : ItemsAhead (readValue levels) (left.length + 1) true left items rest) :
    ValueAhead (levels + 1) text (.list items) rest
  | object {levels : Nat} {text left rest : List Char} {members : List (String × Value)}
    (hstart : skipSpace text = '\x7b' :: left)
    (hmembers : MembersAhead (readValue levels) (left.length + 1) true left members rest) :
    ValueAhead (levels + 1) text (.object members) rest
  | scalar {levels : Nat} {text rest : List Char} {v : Value}
    (hlist : ∀ left, skipSpace text ≠ '[' :: left)
    (hobject : ∀ left, skipSpace text ≠ '\x7b' :: left)
    (hscalar : readScalar (skipSpace text) = .ok (v, rest)) : ValueAhead levels text v rest

theorem valueAhead_of_readValue {levels : Nat} {text rest : List Char} {v : Value}
    (h : readValue levels text = .ok (v, rest)) : ValueAhead levels text v rest := by
  rw [readValue.eq_def] at h
  simp only at h
  split at h
  · rename_i left hstart
    split at h
    · contradiction
    · obtain ⟨last, h, hclose⟩ := exists_of_close h
      obtain ⟨⟨items, last⟩, hitems, h⟩ := map_eq_ok.mp h
      cases h
      obtain ⟨behind, rfl, hahead⟩ := itemsAhead_of_readItems hitems
      rw [closeList_bracket] at hclose
      cases hclose
      exact .list hstart hahead
  · rename_i left hstart
    split at h
    · contradiction
    · obtain ⟨last, h, hclose⟩ := exists_of_close h
      obtain ⟨⟨members, last⟩, hmembers, h⟩ := map_eq_ok.mp h
      cases h
      obtain ⟨behind, rfl, hahead⟩ := membersAhead_of_readMembers hmembers
      rw [closeObject_brace] at hclose
      cases hclose
      exact .object hstart hahead
  · rename_i hlist hobject
    exact .scalar hlist hobject h

/-- What is read with some levels left is put together from what is read with one
level less. -/
theorem of_readValue {P : Nat → Value → Prop} (scalar : ∀ levels v, IsScalar v → P levels v)
    (list : ∀ levels items, (∀ v ∈ items, P levels v) → P (levels + 1) (.list items))
    (object : ∀ levels members, (∀ m ∈ members, P levels m.2) → P (levels + 1) (.object members))
    {levels : Nat} {text rest : List Char} {v : Value}
    (h : readValue levels text = .ok (v, rest)) : P levels v := by
  induction levels generalizing text v rest with
  | zero =>
    cases valueAhead_of_readValue h with
    | scalar _ _ hscalar => exact scalar 0 v (isScalar_of_readScalar hscalar)
  | succ levels ih =>
    cases valueAhead_of_readValue h with
    | list _ hitems => exact list levels _ (forall_of_readItems (fun _ _ _ => ih) hitems)
    | object _ hmembers => exact object levels _ (forall_of_readMembers (fun _ _ _ => ih) hmembers)
    | scalar _ _ hscalar => exact scalar _ v (isScalar_of_readScalar hscalar)

theorem isReadable_of_readValue {levels : Nat} {text rest : List Char} {v : Value}
    (h : readValue levels text = .ok (v, rest)) : v.EveryNumber Number.IsReadable := by
  refine of_readValue (P := fun _ v => v.EveryNumber Number.IsReadable) ?_ ?_ ?_ h
  · intro _ v hscalar
    cases hscalar with
    | null | truth | text => trivial
    | number h => exact h
  · exact fun _ _ => Value.everyNumber_list.mpr
  · exact fun _ _ => Value.everyNumber_object.mpr

/-- No more lists and objects are nested than may be opened. -/
theorem depth_of_readValue {levels : Nat} {text rest : List Char} {v : Value}
    (h : readValue levels text = .ok (v, rest)) : v.depth ≤ levels := by
  refine of_readValue (P := fun levels v => v.depth ≤ levels) ?_ ?_ ?_ h
  · intro levels v hscalar
    cases hscalar <;> exact Nat.zero_le levels
  · exact fun _ _ h => Nat.succ_le_succ (Value.depthItems_le_iff.mpr h)
  · exact fun _ _ h => Nat.succ_le_succ (Value.depthMembers_le_iff.mpr h)

/-! ## Schemas -/

namespace Schema

variable {α β : Type} {levels : Nat} {text rest : List Char}

theorem exists_of_settle {x : Except Fault α} {a : α} (h : settle rest x = .ok (a, text)) :
    x = .ok a ∧ rest = text := by
  unfold settle at h
  split at h
  · cases h
    exact ⟨rfl, rfl⟩
  · contradiction

theorem exists_of_read_textual {wanted : Wanted} {convert : String → Except Fault α} {a : α}
    (h : (textual wanted convert).read levels text = .ok (a, rest)) : ∃ s, convert s = .ok a := by
  simp only [textual] at h
  split at h
  · obtain ⟨⟨s, left⟩, -, h⟩ := bind_eq_ok.mp h
    exact ⟨_, (exists_of_settle h).1⟩
  · contradiction

theorem accepts_of_read_whole {wanted : Wanted} {accepts : Int → Bool} {n : Int}
    (h : (whole wanted accepts).read levels text = .ok (n, rest)) : accepts n = true := by
  simp only [whole] at h
  split at h
  · contradiction
  · split at h
    · obtain ⟨⟨number, left⟩, -, h⟩ := bind_eq_ok.mp h
      obtain ⟨h, -⟩ := exists_of_settle h
      unfold wholeNumber at h
      split at h
      · split at h
        · cases h
          assumption
        · contradiction
      · contradiction
    · contradiction

theorem exists_of_read_map {schema : Schema α} {f : α → β} {b : β}
    (h : (schema.map f).read levels text = .ok (b, rest)) :
    ∃ a, schema.read levels text = .ok (a, rest) ∧ f a = b := by
  obtain ⟨⟨a, left⟩, ha, h⟩ := map_eq_ok.mp h
  cases h
  exact ⟨a, ha, rfl⟩

theorem exists_of_read_anything {v : Value} (h : anything.read levels text = .ok (v, rest)) :
    ∃ w, readValue levels text = .ok (w, rest) ∧ w.normal = v := by
  obtain ⟨⟨w, left⟩, hw, h⟩ := map_eq_ok.mp h
  cases h
  exact ⟨w, hw, rfl⟩

theorem exists_of_read_refine {schema : Schema α} {convert : α → Except Fault β} {b : β}
    (h : (schema.refine convert).read levels text = .ok (b, rest)) :
    ∃ a, schema.read levels text = .ok (a, rest) ∧ convert a = .ok b := by
  obtain ⟨⟨a, left⟩, ha, h⟩ := bind_eq_ok.mp h
  simp only at h
  split at h
  · rename_i hconvert
    cases h
    exact ⟨a, ha, hconvert⟩
  · contradiction

theorem of_read_optional {schema : Schema α} {p : α → Prop} {a : Option α}
    (hp : ∀ text a rest, schema.read levels text = .ok (a, rest) → p a)
    (h : schema.optional.read levels text = .ok (a, rest)) : ∀ b ∈ a, p b := by
  simp only [optional] at h
  split at h
  · obtain ⟨_, -, h⟩ := map_eq_ok.mp h
    cases h
    exact nofun
  · obtain ⟨b, hb, rfl⟩ := exists_of_read_map (f := some) h
    intro _ heq
    cases heq
    exact hp _ _ _ hb

theorem of_read_listOf {schema : Schema α} {p : Nat → α → Prop} {as : List α}
    (hp : ∀ n text a rest, schema.read n text = .ok (a, rest) → p n a)
    (h : schema.listOf.read levels text = .ok (as, rest)) :
    ∃ n, levels = n + 1 ∧ ∀ a ∈ as, p n a := by
  simp only [listOf] at h
  split at h
  · split at h
    · contradiction
    · rename_i n
      obtain ⟨left, h, -⟩ := exists_of_close h
      obtain ⟨_, -, hitems⟩ := itemsAhead_of_readItems h
      exact ⟨n, rfl, forall_of_readItems (hp n) hitems⟩
  · contradiction

end Schema

/-! ## Records -/

namespace Record

variable {δ α : Type} {record : Record δ α}

theorem mem_fields {name : String} {field : Field δ} (h : record.field? name = some field) :
    field ∈ record.fields :=
  List.mem_of_find?_eq_some h

/-- A property of drafts that every field of the record keeps when it reads. -/
def KeepsReading (record : Record δ α) (P : δ → Prop) : Prop :=
  ∀ field ∈ record.fields, ∀ levels text update rest draft,
    field.schema.read levels text = .ok (update, rest) → P draft → P (update draft)

/-- The same for a property that depends on how many lists and objects may still be
opened. -/
def KeepsReadingAt (record : Record δ α) (levels : Nat) (P : δ → Prop) : Prop :=
  ∀ field ∈ record.fields, ∀ text update rest draft,
    field.schema.read levels text = .ok (update, rest) → P draft → P (update draft)

theorem KeepsReading.at {P : δ → Prop} (h : record.KeepsReading P) (levels : Nat) :
    record.KeepsReadingAt levels P :=
  fun field hfield => h field hfield levels

theorem invariant_of_readSlots {P : δ → Prop} {levels : Nat}
    (hkeeps : record.KeepsReadingAt levels P) {fields : List (Field δ)}
    (hfields : ∀ field ∈ fields, field ∈ record.fields) {index : Nat} {isFirst : Bool}
    {draft draft' : δ} {text rest : List Char} (hdraft : P draft)
    (h : record.readSlots levels fields index isFirst draft text = .ok (draft', rest)) :
    P draft' := by
  induction fields generalizing index isFirst draft text with
  | nil =>
    cases h
    exact hdraft
  | cons field fields ih =>
    have htail := fun f hf => hfields f (List.mem_cons_of_mem field hf)
    obtain ⟨⟨more, text⟩, -, h⟩ := bind_eq_ok.mp h
    simp only at h
    split at h
    · obtain ⟨⟨update, left⟩, hupdate, h⟩ := bind_eq_ok.mp h
      exact ih htail (hkeeps field (hfields field List.mem_cons_self) _ _ _ _ hupdate hdraft) h
    · split at h
      · exact ih htail hdraft h
      · contradiction

theorem invariant_of_readNamed {P : δ → Prop} {levels fuel : Nat}
    (hkeeps : record.KeepsReadingAt levels P) {isFirst : Bool} {draft draft' : δ}
    {text rest : List Char} (hdraft : P draft)
    (h : record.readNamed levels fuel isFirst draft text = .ok (draft', rest)) : P draft' := by
  induction fuel generalizing isFirst draft text with
  | zero => contradiction
  | succ fuel ih =>
    obtain ⟨⟨more, text⟩, -, h⟩ := bind_eq_ok.mp h
    simp only at h
    split at h
    · obtain ⟨⟨name, left⟩, -, h⟩ := bind_eq_ok.mp h
      simp only at h
      split at h
      · obtain ⟨_, -, h⟩ := bind_eq_ok.mp h
        obtain ⟨_, -, h⟩ := bind_eq_ok.mp h
        exact ih hdraft h
      · rename_i field hfield
        split at h
        · contradiction
        · obtain ⟨_, -, h⟩ := bind_eq_ok.mp h
          obtain ⟨⟨update, left⟩, hupdate, h⟩ := bind_eq_ok.mp h
          exact ih (hkeeps field (mem_fields hfield) _ _ _ _ hupdate hdraft) h
    · cases h
      exact hdraft

/-- What is read from a text has been completed from a draft with the property that
belongs to the levels inside the record. -/
theorem exists_draft_of_read {P : Nat → δ → Prop} (hkeeps : ∀ n, record.KeepsReadingAt n (P n))
    (hblank : ∀ n, P n record.blank) {levels : Nat} {text rest : List Char} {a : α}
    (h : record.schema.read levels text = .ok (a, rest)) :
    ∃ n draft, levels = n + 1 ∧ P n draft ∧ record.complete draft = .ok a := by
  have hfinish : ∀ {n : Nat} {x : Except Failure (δ × List Char)} {rest : List Char},
      (∀ draft left, x = .ok (draft, left) → P n draft) → record.finish x = .ok (a, rest) →
        ∃ draft, P n draft ∧ record.complete draft = .ok a := by
    intro n x rest hx h
    obtain ⟨⟨draft, left⟩, hdraft, h⟩ := bind_eq_ok.mp h
    simp only at h
    split at h
    · rename_i hcomplete
      cases h
      exact ⟨draft, hx _ _ hdraft, hcomplete⟩
    · contradiction
  simp only [schema, read] at h
  split at h
  · split at h
    · contradiction
    · rename_i levels
      obtain ⟨left, h, -⟩ := exists_of_close h
      obtain ⟨draft, hdraft⟩ := hfinish (n := levels) (fun draft left =>
        invariant_of_readSlots (hkeeps levels) (fun _ => id) (hblank levels)) h
      exact ⟨levels, draft, rfl, hdraft⟩
  · split at h
    · contradiction
    · rename_i levels
      obtain ⟨left, h, -⟩ := exists_of_close h
      obtain ⟨draft, hdraft⟩ := hfinish (n := levels) (fun draft left =>
        invariant_of_readNamed (hkeeps levels) (hblank levels)) h
      exact ⟨levels, draft, rfl, hdraft⟩
  · contradiction

/-- A property of drafts that every field of the record keeps when it takes one
of some values. -/
def KeepsTaking (record : Record δ α) (good : Value → Prop) (P : δ → Prop) : Prop :=
  ∀ field ∈ record.fields, ∀ value update draft, good value →
    field.schema.ofValue value = .ok update → P draft → P (update draft)

theorem invariant_of_ofItems {good : Value → Prop} {P : δ → Prop}
    (hkeeps : record.KeepsTaking good P) {fields : List (Field δ)}
    (hfields : ∀ field ∈ fields, field ∈ record.fields) {index : Nat} {draft draft' : δ}
    {items left : List Value} (hgood : ∀ v ∈ items, good v) (hdraft : P draft)
    (h : record.ofItems fields index draft items = .ok (draft', left)) : P draft' := by
  induction fields generalizing index draft items with
  | nil =>
    cases h
    exact hdraft
  | cons field fields ih =>
    have htail := fun f hf => hfields f (List.mem_cons_of_mem field hf)
    cases items with
    | nil =>
      rw [ofItems] at h
      split at h
      · exact ih htail hgood hdraft h
      · contradiction
    | cons item items =>
      obtain ⟨hitem, hitems⟩ := List.forall_mem_cons.mp hgood
      obtain ⟨update, hupdate, h⟩ := bind_eq_ok.mp h
      exact ih htail hitems
        (hkeeps field (hfields field List.mem_cons_self) _ _ _ hitem hupdate hdraft) h

theorem invariant_of_ofMembers {good : Value → Prop} {P : δ → Prop}
    (hkeeps : record.KeepsTaking good P) {draft draft' : δ} {members : List (String × Value)}
    (hgood : ∀ m ∈ members, good m.2) (hdraft : P draft)
    (h : record.ofMembers draft members = .ok draft') : P draft' := by
  induction members generalizing draft with
  | nil =>
    cases h
    exact hdraft
  | cons member members ih =>
    obtain ⟨hmember, hmembers⟩ := List.forall_mem_cons.mp hgood
    obtain ⟨name, value⟩ := member
    rw [ofMembers] at h
    split at h
    · exact ih hmembers hdraft h
    · rename_i field hfield
      split at h
      · contradiction
      · obtain ⟨update, hupdate, h⟩ := bind_eq_ok.mp h
        exact ih hmembers (hkeeps field (mem_fields hfield) _ _ _ hmember hupdate hdraft) h

/-- What is taken from a value whose parts are good has been completed from a
draft with the property. -/
theorem exists_draft_of_ofValue {good : Value → Prop} {P : δ → Prop}
    (hkeeps : record.KeepsTaking good P) (hblank : P record.blank) {v : Value} {a : α}
    (hitems : ∀ items, v = .list items → ∀ w ∈ items, good w)
    (hmembers : ∀ members, v = .object members → ∀ m ∈ members, good m.2)
    (h : record.ofValue v = .ok a) : ∃ draft, P draft ∧ record.complete draft = .ok a := by
  unfold ofValue at h
  split at h
  · obtain ⟨⟨draft, left⟩, hdraft, h⟩ := bind_eq_ok.mp h
    simp only at h
    split at h
    · exact ⟨draft, invariant_of_ofItems hkeeps (fun _ => id) (hitems _ rfl) hblank hdraft, h⟩
    · contradiction
  · obtain ⟨draft, hdraft, h⟩ := bind_eq_ok.mp h
    exact ⟨draft, invariant_of_ofMembers hkeeps (hmembers _ rfl) hblank hdraft, h⟩
  · contradiction

end Record

theorem Schema.exists_of_decode {α : Type} {schema : Schema α} {document : String} {a : α}
    (h : schema.decode document = .ok a) :
    ∃ rest, schema.read depthLimit document.toList = .ok (a, rest) ∧ readEnd rest = .ok () := by
  obtain ⟨⟨b, rest⟩, hread, h⟩ := bind_eq_ok.mp (mapError_eq_ok.mp h)
  obtain ⟨_, hend, h⟩ := bind_eq_ok.mp h
  cases h
  exact ⟨rest, hread, hend⟩

end Json
end RepoFeed
