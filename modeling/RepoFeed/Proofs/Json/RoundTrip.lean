import Mathlib.Data.List.Forall2
import RepoFeed.Json.Printer
import RepoFeed.Json.Tree
import RepoFeed.Proofs.Json.Literal
import RepoFeed.Proofs.Json.Numeral
import RepoFeed.Proofs.Json.Structure
import RepoFeed.Proofs.Json.Value

/-
What the readers make of written values.

Three things can happen to a value that is written and read back: it comes back
as it was, it is refused because it is nested too deeply, or, where it has
binary64 numbers, it comes back with other numbers or is refused because of
them.  `Rereads` keeps the three apart in one statement.  In all of them what is
read ends where the written text ends, which is what lets the statement be
carried through lists and objects.
-/

namespace RepoFeed
namespace Json

/-- The outcome of reading a text with `rest` behind it: either something that
is `accepted`, with `rest` left, or a failure, which has to be excused. -/
inductive Rereads {α : Type} (accepted : α → Prop) (refused : Prop) (rest : List Char) :
    Except Failure (α × List Char) → Prop
  | ok {a : α} (h : accepted a) : Rereads accepted refused rest (.ok (a, rest))
  | error {failure : Failure} (h : refused) : Rereads accepted refused rest (.error failure)

namespace Rereads

variable {α β : Type} {accepted : α → Prop} {accepted' : β → Prop} {refused refused' : Prop}
variable {rest rest' : List Char}

/-- Reading goes on behind what has been read. -/
theorem bind {x : Except Failure (α × List Char)}
    {f : α × List Char → Except Failure (β × List Char)} (hx : Rereads accepted refused rest x)
    (hf : ∀ a, accepted a → Rereads accepted' refused' rest' (f (a, rest)))
    (hrefused : refused → refused') : Rereads accepted' refused' rest' (x >>= f) := by
  cases hx with
  | ok h => exact hf _ h
  | error h => exact .error (hrefused h)

theorem map {x : Except Failure (α × List Char)} (f : α → β) (hx : Rereads accepted refused rest x)
    (haccepted : ∀ a, accepted a → accepted' (f a)) (hrefused : refused → refused') :
    Rereads accepted' refused' rest (x.map fun (a, rest) => (f a, rest)) := by
  cases hx with
  | ok h => exact .ok (haccepted _ h)
  | error h => exact .error (hrefused h)

/-- A closing bracket behind the contents is taken. -/
theorem close {closing : Closing} {c : Char} {x : Except Failure (α × List Char)}
    (hclosing : closing (c :: rest) = (rest, none)) (hx : Rereads accepted refused (c :: rest) x) :
    Rereads accepted refused rest (close closing x) := by
  cases hx with
  | ok h =>
    rw [Json.close, hclosing]
    exact .ok h
  | error h =>
    rename_i failure
    cases failure <;> exact .error h

theorem of_eq_ok {x : Except Failure (α × List Char)} {a : α} (hx : x = .ok (a, rest))
    (ha : accepted a) : Rereads accepted refused rest x := by
  rw [hx]
  exact .ok ha

theorem eq_ok {x : Except Failure (α × List Char)} {a : α} (hx : Rereads accepted refused rest x)
    (haccepted : ∀ b, accepted b → b = a) (hrefused : ¬refused) : x = .ok (a, rest) := by
  cases hx with
  | ok h => rw [haccepted _ h]
  | error h => exact absurd h hrefused

end Rereads

/-! ## The shape of written values -/

namespace Value

/-- No value begins with a space or with what closes a list, and only null begins
like null. -/
theorem write_head (v : Value) :
    ∃ c text, v.write = c :: text ∧ isSpace c = false ∧ c ≠ ']' ∧ (c = 'n' → v = .null) := by
  cases v with
  | null => exact ⟨'n', _, by rw [write], rfl, by decide, fun _ => rfl⟩
  | truth b => cases b with
    | true => exact ⟨'t', _, by rw [write], rfl, by decide, by decide⟩
    | false => exact ⟨'f', _, by rw [write], rfl, by decide, by decide⟩
  | number n =>
    obtain ⟨c, text, htext, hc⟩ := Numeral.render_head n
    have hne : ∀ d, Numeral.begins d = false → c ≠ d := by
      intro d hd heq
      subst heq
      rw [hc] at hd
      contradiction
    refine ⟨c, text, by rw [write, htext], ?_, hne _ rfl, fun h => absurd h (hne _ rfl)⟩
    simp [isSpace, hne ' ' rfl, hne '\n' rfl, hne '\t' rfl, hne '\r' rfl]
  | text s =>
    exact ⟨'"', _, by rw [write, renderText, List.cons_append], rfl, by decide, by simp⟩
  | list items => exact ⟨'[', _, by rw [write, List.cons_append], rfl, by decide, by simp⟩
  | object members =>
    exact ⟨'\x7b', _, by rw [write, List.cons_append], rfl, by decide, by simp⟩

end Value

/-- Items as they are written, each behind its separator. -/
def writeItemsFrom (isFirst : Bool) : List Value → List Char
  | [] => []
  | item :: items => separator isFirst ++ (item.write ++ writeItemsFrom false items)

/-- Members as they are written, each behind its separator. -/
def writeMembersFrom (isFirst : Bool) : List (String × Value) → List Char
  | [] => []
  | (name, value) :: members =>
    separator isFirst ++
      (renderText name.toList ++ ':' :: (value.write ++ writeMembersFrom false members))

theorem writeItems_eq (items : List Value) : writeItems items = writeItemsFrom true items := by
  induction items with
  | nil => rfl
  | cons item items ih =>
    cases items with
    | nil => simp [writeItems, writeItemsFrom, separator]
    | cons next items =>
      rw [writeItems, ih]
      · simp [writeItemsFrom, separator]
      · simp

theorem writeMembers_eq (members : List (String × Value)) :
    writeMembers members = writeMembersFrom true members := by
  induction members with
  | nil => rfl
  | cons member members ih =>
    obtain ⟨name, value⟩ := member
    cases members with
    | nil => simp [writeMembers, writeMembersFrom, separator]
    | cons next members =>
      rw [writeMembers, ih]
      · simp [writeMembersFrom, separator]
      · simp

theorem write_list_append (items : List Value) (rest : List Char) :
    (Value.list items).write ++ rest = '[' :: (writeItemsFrom true items ++ ']' :: rest) := by
  simp [Value.write, writeItems_eq]

theorem write_object_append (members : List (String × Value)) (rest : List Char) :
    (Value.object members).write ++ rest =
      '\x7b' :: (writeMembersFrom true members ++ '\x7d' :: rest) := by
  simp [Value.write, writeMembers_eq]

theorem length_le_writeItemsFrom (isFirst : Bool) (items : List Value) :
    items.length ≤ (writeItemsFrom isFirst items).length := by
  induction items generalizing isFirst with
  | nil => exact Nat.le_refl 0
  | cons item items ih =>
    obtain ⟨c, text, htext, -⟩ := item.write_head
    have := ih false
    simp only [writeItemsFrom, htext, List.length_append, List.length_cons]
    omega

theorem length_le_writeMembersFrom (isFirst : Bool) (members : List (String × Value)) :
    members.length ≤ (writeMembersFrom isFirst members).length := by
  induction members generalizing isFirst with
  | nil => exact Nat.le_refl 0
  | cons member members ih =>
    have := ih false
    simp only [writeMembersFrom, List.length_append, List.length_cons]
    omega

theorem boundary_writeItemsFrom (items : List Value) (rest : List Char) :
    Boundary (writeItemsFrom false items ++ ']' :: rest) := by
  cases items with
  | nil => exact boundary_bracket rest
  | cons item items => exact boundary_comma _

theorem boundary_writeMembersFrom (members : List (String × Value)) (rest : List Char) :
    Boundary (writeMembersFrom false members ++ '\x7d' :: rest) := by
  cases members with
  | nil => exact boundary_brace rest
  | cons member members => exact boundary_comma _

/-! ## Items and members -/

section

variable {α β : Type} {accepted : β → α → Prop} {refused : β → Prop}

/-- Items come back one by one, until one is refused. -/
theorem readItems_writeItems (item : Reader α) (json : β → Value) {xs : List β}
    (hitem : ∀ x ∈ xs, ∀ rest, Boundary rest →
      Rereads (accepted x) (refused x) rest (item ((json x).write ++ rest)))
    {fuel : Nat} (hfuel : xs.length < fuel) (isFirst : Bool) (rest : List Char) :
    Rereads (List.Forall₂ accepted xs) (∃ x ∈ xs, refused x) (']' :: rest)
      (readItems item fuel isFirst (writeItemsFrom isFirst (xs.map json) ++ ']' :: rest)) := by
  induction xs generalizing fuel isFirst with
  | nil =>
    obtain ⟨fuel, rfl⟩ := Nat.exists_eq_add_of_lt hfuel
    simp only [List.map_nil, writeItemsFrom, List.nil_append]
    refine .of_eq_ok ?_ .nil
    rw [readItems, nextItem_bracket]
    rfl
  | cons x xs ih =>
    obtain ⟨fuel, rfl⟩ := Nat.exists_eq_add_of_lt (Nat.lt_of_le_of_lt (Nat.zero_le _) hfuel)
    obtain ⟨c, text, htext, hspace, hend, -⟩ := (json x).write_head
    have hhead := hitem x List.mem_cons_self _ (boundary_writeItemsFrom (xs.map json) rest)
    have hfewer : xs.length < 0 + fuel := by
      simp only [List.length_cons] at hfuel
      omega
    have htail := ih (fun y hy => hitem y (List.mem_cons_of_mem x hy)) hfewer false
    rw [htext] at hhead
    simp only [List.map_cons, writeItemsFrom, htext, List.append_assoc, List.cons_append] at hhead ⊢
    rw [readItems, nextItem_separator hspace hend]
    refine hhead.bind (fun a ha => ?_) (fun h => ⟨x, List.mem_cons_self, h⟩)
    refine htail.bind (fun as has => .ok (.cons ha has)) ?_
    intro hdeep
    obtain ⟨y, hy, h⟩ := hdeep
    exact ⟨y, List.mem_cons_of_mem x hy, h⟩

/-- The names of members come back with their values. -/
theorem readMembers_writeMembers (value : Reader α) {accepted : String × Value → α → Prop}
    {refused : String × Value → Prop} {members : List (String × Value)}
    (hvalue : ∀ m ∈ members, ∀ rest, Boundary rest →
      Rereads (accepted m) (refused m) rest (value (m.2.write ++ rest)))
    {fuel : Nat} (hfuel : members.length < fuel) (isFirst : Bool) (rest : List Char) :
    Rereads (List.Forall₂ (fun m n => n.1 = m.1 ∧ accepted m n.2) members)
      (∃ m ∈ members, refused m) ('\x7d' :: rest)
      (readMembers value fuel isFirst (writeMembersFrom isFirst members ++ '\x7d' :: rest)) := by
  induction members generalizing fuel isFirst with
  | nil =>
    obtain ⟨fuel, rfl⟩ := Nat.exists_eq_add_of_lt hfuel
    refine .of_eq_ok ?_ .nil
    simp only [writeMembersFrom, List.nil_append]
    rw [readMembers, nextMember_brace]
    rfl
  | cons m members ih =>
    obtain ⟨fuel, rfl⟩ := Nat.exists_eq_add_of_lt (Nat.lt_of_le_of_lt (Nat.zero_le _) hfuel)
    obtain ⟨name, v⟩ := m
    have hhead := hvalue (name, v) List.mem_cons_self _ (boundary_writeMembersFrom members rest)
    have hfewer : members.length < 0 + fuel := by
      simp only [List.length_cons] at hfuel
      omega
    have htail := ih (fun n hn => hvalue n (List.mem_cons_of_mem _ hn)) hfewer false
    simp only [writeMembersFrom, List.append_assoc, List.cons_append] at hhead ⊢
    rw [readMembers, renderText_append, nextMember_separator]
    simp only [bind, Except.bind, Literal.read_flatMap_renderChar, readColon_colon, if_true]
    refine hhead.bind (fun a ha => ?_) (fun h => ⟨_, List.mem_cons_self, h⟩)
    refine htail.bind (fun as has => .ok (.cons ⟨String.ofList_toList, ha⟩ has)) ?_
    intro hdeep
    obtain ⟨n, hn, h⟩ := hdeep
    exact ⟨n, List.mem_cons_of_mem _ hn, h⟩

end

/-! ## Values -/

/-- The numbers that come back as they were. -/
def Number.IsExact : Number → Prop
  | .whole n => Numeral.IsWord n
  | .binary _ => False

/-- The values all of whose numbers come back as they were. -/
def Value.IsExact (v : Value) : Prop := v.EveryNumber Number.IsExact

section

variable {c : Char} {text : List Char}

theorem readValue_scalar (hspace : isSpace c = false) (hlist : c ≠ '[') (hobject : c ≠ '\x7b')
    (levels : Nat) : readValue levels (c :: text) = readScalar (c :: text) := by
  rw [readValue.eq_def]
  simp only [skipSpace_cons hspace]
  split
  · rename_i heq
    exact absurd (List.cons.inj heq).1 hlist
  · rename_i heq
    exact absurd (List.cons.inj heq).1 hobject
  · rfl

theorem readValue_list (levels : Nat) (text : List Char) :
    readValue (levels + 1) ('[' :: text) =
      close closeList ((readItems (readValue levels) (text.length + 1) true text).map
        fun (items, rest) => (.list items, rest)) := by
  rw [readValue.eq_def]
  simp only [skipSpace_cons (c := '[') rfl]

theorem readValue_object (levels : Nat) (text : List Char) :
    readValue (levels + 1) ('\x7b' :: text) =
      close closeObject ((readMembers (readValue levels) (text.length + 1) true text).map
        fun (members, rest) => (.object members, rest)) := by
  rw [readValue.eq_def]
  simp only [skipSpace_cons (c := '\x7b') rfl]

theorem readValue_list_zero (text : List Char) :
    readValue 0 ('[' :: text) = .error (atNext .tooDeep ('[' :: text)) := by
  rw [readValue.eq_def]
  simp only [skipSpace_cons (c := '[') rfl]

theorem readValue_object_zero (text : List Char) :
    readValue 0 ('\x7b' :: text) = .error (atNext .tooDeep ('\x7b' :: text)) := by
  rw [readValue.eq_def]
  simp only [skipSpace_cons (c := '\x7b') rfl]

end

theorem readNumber_render {rest : List Char} (hr : Boundary rest) (n : Number) :
    Rereads (fun m => n.IsExact → m = n) (¬n.IsExact) rest (Numeral.read (n.render ++ rest)) := by
  cases n with
  | whole n =>
    by_cases hn : Numeral.IsWord n
    · exact .of_eq_ok (Numeral.read_whole hr hn) fun _ => rfl
    · cases hread : Numeral.read ((Number.whole n).render ++ rest) with
      | error failure => exact .error hn
      | ok result =>
        obtain ⟨m, left⟩ := result
        obtain rfl := Numeral.read_leaves hr _ hread
        exact .ok fun h => absurd h hn
  | binary x =>
    cases hread : Numeral.read ((Number.binary x).render ++ rest) with
    | error failure => exact .error id
    | ok result =>
      obtain ⟨m, left⟩ := result
      obtain rfl := Numeral.read_leaves hr _ hread
      exact .ok fun h => h.elim

/-- Lists agree when all that comes back unchanged is all there is. -/
theorem eq_of_forall₂ {α : Type} {p : α → Prop} {xs ys : List α}
    (h : List.Forall₂ (fun x y => p x → y = x) xs ys) (hp : ∀ x ∈ xs, p x) : ys = xs := by
  induction h with
  | nil => rfl
  | cons hxy _ ih =>
    rw [hxy (hp _ List.mem_cons_self), ih fun x hx => hp x (List.mem_cons_of_mem _ hx)]

namespace Value

/-- A value is read back to itself if it has no binary64 numbers, and is refused
only for what is nested in it.  Whatever comes back stands for a value that is not
nested too deeply. -/
def ComesBack (v : Value) : Prop :=
  ∀ (levels : Nat) {rest : List Char}, Boundary rest →
    Rereads (fun w => v.depth ≤ levels ∧ (v.IsExact → w = v)) (v.IsExact → levels < v.depth) rest
      (readValue levels (v.write ++ rest))

theorem comesBack_number (n : Number) : (Value.number n).ComesBack := by
  intro levels rest hr
  obtain ⟨c, text, htext, hspace, -⟩ := (Value.number n).write_head
  obtain ⟨d, digits, hdigits, hbegins⟩ := Numeral.render_head n
  obtain ⟨rfl, rfl⟩ : c = d ∧ text = digits := by
    rw [write, hdigits] at htext
    simpa [eq_comm] using htext
  have hne : ∀ d, Numeral.begins d = false → c ≠ d := by
    intro d hd heq
    subst heq
    rw [hbegins] at hd
    contradiction
  have hread : readValue levels ((Value.number n).write ++ rest) =
      (Numeral.read (n.render ++ rest)).map fun read => (.number read.1, read.2) := by
    rw [write, hdigits, List.cons_append,
      readValue_scalar hspace (hne _ (by decide)) (hne _ (by decide)), readScalar,
      if_neg (hne _ (by decide)), if_neg (hne _ (by decide)), if_neg (hne _ (by decide)),
      if_pos hbegins]
  rw [hread]
  refine (readNumber_render hr n).map _ (fun m hm => ⟨Nat.zero_le _, fun h => ?_⟩)
    fun hn h => absurd h hn
  rw [hm h]

theorem comesBack_list {items : List Value} (h : ∀ v ∈ items, v.ComesBack) :
    (Value.list items).ComesBack := by
  intro levels rest hr
  rw [write_list_append]
  cases levels with
  | zero =>
    rw [readValue_list_zero]
    exact .error fun _ => Nat.succ_pos _
  | succ levels =>
    have hitems := readItems_writeItems (readValue levels) (fun v : Value => v)
      (fun v hv rest hrest => h v hv levels hrest)
      (Nat.lt_succ_of_le (Nat.le_trans (length_le_writeItemsFrom true items)
        (List.prefix_append _ (']' :: rest)).length_le)) true rest
    rw [List.map_id'] at hitems
    rw [readValue_list]
    refine .close (closeList_bracket rest) (hitems.map _ (fun ws hws => ?_) ?_)
    · obtain ⟨hdepth, hsame⟩ := (List.forall₂_and_left _ _).mp hws
      refine ⟨Nat.succ_le_succ (depthItems_le_iff.mpr hdepth), fun hexact => ?_⟩
      rw [eq_of_forall₂ hsame (everyNumber_list.mp hexact)]
    · intro hsome hexact
      obtain ⟨v, hv, hdeep⟩ := hsome
      refine Nat.lt_of_not_le fun hle => ?_
      have hshallow := depthItems_le_iff.mp (Nat.le_of_succ_le_succ hle) v hv
      exact absurd hshallow (Nat.not_le_of_lt (hdeep (everyNumber_list.mp hexact v hv)))

theorem comesBack_object {members : List (String × Value)} (h : ∀ m ∈ members, m.2.ComesBack) :
    (Value.object members).ComesBack := by
  intro levels rest hr
  rw [write_object_append]
  cases levels with
  | zero =>
    rw [readValue_object_zero]
    exact .error fun _ => Nat.succ_pos _
  | succ levels =>
    have hmembers := readMembers_writeMembers (readValue levels)
      (fun m hm rest hrest => h m hm levels hrest)
      (Nat.lt_succ_of_le (Nat.le_trans (length_le_writeMembersFrom true members)
        (List.prefix_append _ ('\x7d' :: rest)).length_le)) true rest
    rw [readValue_object]
    refine .close (closeObject_brace rest) (hmembers.map _ (fun ns hns => ?_) ?_)
    · have hns : List.Forall₂ (fun m n => m.2.depth ≤ levels ∧ (m.2.IsExact → n = m))
          members ns :=
        hns.imp fun m n h => ⟨h.2.1, fun hexact => Prod.ext h.1 (h.2.2 hexact)⟩
      obtain ⟨hdepth, hsame⟩ := (List.forall₂_and_left _ _).mp hns
      refine ⟨Nat.succ_le_succ (depthMembers_le_iff.mpr hdepth), fun hexact => ?_⟩
      rw [eq_of_forall₂ hsame (everyNumber_object.mp hexact)]
    · intro hsome hexact
      obtain ⟨m, hm, hdeep⟩ := hsome
      refine Nat.lt_of_not_le fun hle => ?_
      have hshallow := depthMembers_le_iff.mp (Nat.le_of_succ_le_succ hle) m hm
      exact absurd hshallow (Nat.not_le_of_lt (hdeep (everyNumber_object.mp hexact m hm)))

theorem comesBack (v : Value) : v.ComesBack := by
  induction v using Value.induct with
  | null =>
    intro levels rest hr
    refine .of_eq_ok ?_ ⟨Nat.zero_le _, fun _ => rfl⟩
    rw [write, List.cons_append, readValue_scalar rfl (by decide) (by decide)]
    rfl
  | truth b =>
    intro levels rest hr
    refine .of_eq_ok ?_ ⟨Nat.zero_le _, fun _ => rfl⟩
    cases b <;>
      (rw [write, List.cons_append, readValue_scalar rfl (by decide) (by decide)]
       rfl)
  | number n => exact comesBack_number n
  | text s =>
    intro levels rest hr
    refine .of_eq_ok ?_ ⟨Nat.zero_le _, fun _ => rfl⟩
    rw [write, renderText_append, readValue_scalar rfl (by decide) (by decide)]
    simp only [readScalar, Numeral.begins]
    simp [Literal.read_flatMap_renderChar, Except.map]
  | list items ih => exact comesBack_list ih
  | object members ih => exact comesBack_object ih

end Value
end Json
end RepoFeed
