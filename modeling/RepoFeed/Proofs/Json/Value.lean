import RepoFeed.Json.Value

/-
How deep a value is nested, which numbers it holds, and its normal form.

Values are nested through lists, so a law about all of them is proved by the
induction `Value.induct`, which speaks of items and members rather than of the
lists that hold them.  Depth and numbers are likewise turned into statements
about each item and each member as soon as they have been defined.
-/

namespace RepoFeed
namespace Json
namespace Value

/-- What holds of a list when it holds of its items, and of an object when it
holds of its members, holds of every value. -/
theorem induct {P : Value → Prop} (null : P .null) (truth : ∀ b, P (.truth b))
    (number : ∀ n, P (.number n)) (text : ∀ s, P (.text s))
    (list : ∀ items, (∀ v ∈ items, P v) → P (.list items))
    (object : ∀ members, (∀ m ∈ members, P m.2) → P (.object members)) (v : Value) : P v := by
  refine @Value.rec P (fun items => ∀ v ∈ items, P v) (fun members => ∀ m ∈ members, P m.2)
    (fun m => P m.2) null truth number text list object ?_ ?_ ?_ ?_ ?_ v
  · exact fun v hv => absurd hv List.not_mem_nil
  · intro head tail hhead htail v hv
    rcases List.mem_cons.mp hv with rfl | hv
    · exact hhead
    · exact htail v hv
  · exact fun m hm => absurd hm List.not_mem_nil
  · intro head tail hhead htail m hm
    rcases List.mem_cons.mp hm with rfl | hm
    · exact hhead
    · exact htail m hm
  · exact fun _ _ h => h

/-! ## Depth -/

mutual

/-- How many lists and objects stand inside one another. -/
def depth : Value → Nat
  | .list items => depthItems items + 1
  | .object members => depthMembers members + 1
  | .null | .truth _ | .number _ | .text _ => 0

def depthItems : List Value → Nat
  | [] => 0
  | item :: items => max item.depth (depthItems items)

def depthMembers : List (String × Value) → Nat
  | [] => 0
  | (_, value) :: members => max value.depth (depthMembers members)

end

theorem depthItems_le_iff {items : List Value} {n : Nat} :
    depthItems items ≤ n ↔ ∀ v ∈ items, v.depth ≤ n := by
  induction items with
  | nil => simp [depthItems]
  | cons item items ih => simp only [depthItems, Nat.max_le, ih, List.forall_mem_cons]

theorem depthMembers_le_iff {members : List (String × Value)} {n : Nat} :
    depthMembers members ≤ n ↔ ∀ m ∈ members, m.2.depth ≤ n := by
  induction members with
  | nil => simp [depthMembers]
  | cons member members ih => simp only [depthMembers, Nat.max_le, ih, List.forall_mem_cons]

/-! ## Numbers -/

mutual

/-- Whether all numbers of a value have a property. -/
def EveryNumber (p : Number → Prop) : Value → Prop
  | .number n => p n
  | .list items => EveryNumberItems p items
  | .object members => EveryNumberMembers p members
  | .null | .truth _ | .text _ => True

def EveryNumberItems (p : Number → Prop) : List Value → Prop
  | [] => True
  | item :: items => item.EveryNumber p ∧ EveryNumberItems p items

def EveryNumberMembers (p : Number → Prop) : List (String × Value) → Prop
  | [] => True
  | (_, value) :: members => value.EveryNumber p ∧ EveryNumberMembers p members

end

section EveryNumber

variable {p q : Number → Prop}

theorem everyNumber_list {items : List Value} :
    (Value.list items).EveryNumber p ↔ ∀ v ∈ items, v.EveryNumber p := by
  rw [EveryNumber]
  induction items with
  | nil => simp [EveryNumberItems]
  | cons item items ih => simp [EveryNumberItems, ih]

theorem everyNumber_object {members : List (String × Value)} :
    (Value.object members).EveryNumber p ↔ ∀ m ∈ members, m.2.EveryNumber p := by
  rw [EveryNumber]
  induction members with
  | nil => simp [EveryNumberMembers]
  | cons member members ih => simp only [EveryNumberMembers, ih, List.forall_mem_cons]

theorem EveryNumber.and {v : Value} (hp : v.EveryNumber p) (hq : v.EveryNumber q) :
    v.EveryNumber fun n => p n ∧ q n := by
  induction v using Value.induct with
  | null | truth | text => trivial
  | number n => exact ⟨hp, hq⟩
  | list items ih =>
    rw [everyNumber_list] at hp hq ⊢
    exact fun v hv => ih v hv (hp v hv) (hq v hv)
  | object members ih =>
    rw [everyNumber_object] at hp hq ⊢
    exact fun m hm => ih m hm (hp m hm) (hq m hm)

theorem EveryNumber.imp {v : Value} (hpq : ∀ n, p n → q n) (hp : v.EveryNumber p) :
    v.EveryNumber q := by
  induction v using Value.induct with
  | null | truth | text => trivial
  | number n => exact hpq n hp
  | list items ih =>
    rw [everyNumber_list] at hp ⊢
    exact fun v hv => ih v hv (hp v hv)
  | object members ih =>
    rw [everyNumber_object] at hp ⊢
    exact fun m hm => ih m hm (hp m hm)

end EveryNumber

/-! ## Names -/

mutual

/-- Whether no object in a value has two members of one name. -/
def HasDistinctNames : Value → Prop
  | .list items => HasDistinctNamesItems items
  | .object members => (members.map (·.1)).Nodup ∧ HasDistinctNamesMembers members
  | .null | .truth _ | .number _ | .text _ => True

def HasDistinctNamesItems : List Value → Prop
  | [] => True
  | item :: items => item.HasDistinctNames ∧ HasDistinctNamesItems items

def HasDistinctNamesMembers : List (String × Value) → Prop
  | [] => True
  | (_, value) :: members => value.HasDistinctNames ∧ HasDistinctNamesMembers members

end

theorem hasDistinctNames_list {items : List Value} :
    (Value.list items).HasDistinctNames ↔ ∀ v ∈ items, v.HasDistinctNames := by
  rw [HasDistinctNames]
  induction items with
  | nil => simp [HasDistinctNamesItems]
  | cons item items ih => simp [HasDistinctNamesItems, ih]

theorem hasDistinctNames_object {members : List (String × Value)} :
    (Value.object members).HasDistinctNames ↔
      (members.map (·.1)).Nodup ∧ ∀ m ∈ members, m.2.HasDistinctNames := by
  have hmembers : ∀ members : List (String × Value),
      HasDistinctNamesMembers members ↔ ∀ m ∈ members, m.2.HasDistinctNames := by
    intro members
    induction members with
    | nil => simp [HasDistinctNamesMembers]
    | cons member members ih => simp only [HasDistinctNamesMembers, ih, List.forall_mem_cons]
  rw [HasDistinctNames, hmembers]

/-! ## Normal form -/

theorem normalItems_eq_map (items : List Value) : normalItems items = items.map normal := by
  induction items with
  | nil => rfl
  | cons item items ih => rw [normalItems, ih, List.map_cons]

theorem normalMembers_eq_map (members : List (String × Value)) :
    normalMembers members = members.map fun m => (m.1, m.2.normal) := by
  induction members with
  | nil => rfl
  | cons member members ih => rw [normalMembers, ih, List.map_cons]

/-- Members in the order of their names, none of which occurs twice. -/
def Sorted (members : List (String × Value)) : Prop :=
  members.Pairwise fun m n => m.1 < n.1

theorem mem_insertMember {name : String} {value : Value} {members : List (String × Value)}
    {m : String × Value} (h : m ∈ insertMember name value members) :
    m = (name, value) ∨ m ∈ members := by
  induction members with
  | nil => simpa [insertMember] using h
  | cons member members ih =>
    obtain ⟨other, old⟩ := member
    rw [insertMember] at h
    split at h
    · rcases List.mem_cons.mp h with h | h
      · exact .inl h
      · exact .inr (List.mem_cons_of_mem _ h)
    · split at h
      · rcases List.mem_cons.mp h with h | h
        · exact .inl h
        · exact .inr h
      · rcases List.mem_cons.mp h with h | h
        · exact .inr (h ▸ List.mem_cons_self)
        · rcases ih h with h | h
          · exact .inl h
          · exact .inr (List.mem_cons_of_mem _ h)

theorem sorted_insertMember {name : String} {value : Value} {members : List (String × Value)}
    (h : Sorted members) : Sorted (insertMember name value members) := by
  induction members with
  | nil => simp [insertMember, Sorted]
  | cons member members ih =>
    obtain ⟨other, old⟩ := member
    obtain ⟨hhead, htail⟩ := List.pairwise_cons.mp h
    rw [insertMember]
    split
    · rename_i heq
      exact List.pairwise_cons.mpr ⟨fun m hm => heq ▸ hhead m hm, htail⟩
    · split
      · rename_i hlt
        refine List.pairwise_cons.mpr ⟨fun m hm => ?_, h⟩
        rcases List.mem_cons.mp hm with rfl | hm
        · exact hlt
        · exact String.lt_trans hlt (hhead m hm)
      · rename_i hne hnotLess
        refine List.pairwise_cons.mpr ⟨fun m hm => ?_, ih htail⟩
        rcases mem_insertMember hm with rfl | hm
        · exact String.not_le.mp fun hle =>
            hne (String.le_antisymm hle (String.not_lt.mp hnotLess))
        · exact hhead m hm

/-- A member with a greater name than all others goes to the end. -/
theorem insertMember_last {name : String} {value : Value} {members : List (String × Value)}
    (h : ∀ m ∈ members, m.1 < name) :
    insertMember name value members = members ++ [(name, value)] := by
  induction members with
  | nil => rfl
  | cons member members ih =>
    obtain ⟨other, old⟩ := member
    have hless : other < name := h (other, old) List.mem_cons_self
    rw [insertMember, if_neg (String.ne_of_lt hless).symm, if_neg (String.lt_asymm hless),
      ih fun m hm => h m (List.mem_cons_of_mem _ hm)]
    rfl

theorem sortMembers_eq (members : List (String × Value)) :
    sortMembers members = members.foldl (fun sorted m => insertMember m.1 m.2 sorted) [] :=
  rfl

theorem mem_sortMembers {members : List (String × Value)} {m : String × Value}
    (h : m ∈ sortMembers members) : m ∈ members := by
  have hfold : ∀ (members sorted : List (String × Value)),
      m ∈ members.foldl (fun sorted m => insertMember m.1 m.2 sorted) sorted →
        m ∈ members ∨ m ∈ sorted := by
    intro members
    induction members with
    | nil => exact fun _ h => .inr h
    | cons member members ih =>
      intro sorted h
      rcases ih _ h with h | h
      · exact .inl (List.mem_cons_of_mem _ h)
      · rcases mem_insertMember h with rfl | h
        · exact .inl List.mem_cons_self
        · exact .inr h
  rw [sortMembers_eq] at h
  rcases hfold members [] h with h | h
  · exact h
  · exact absurd h List.not_mem_nil

theorem sorted_sortMembers (members : List (String × Value)) : Sorted (sortMembers members) := by
  have hfold : ∀ (members sorted : List (String × Value)), Sorted sorted →
      Sorted (members.foldl (fun sorted m => insertMember m.1 m.2 sorted) sorted) := by
    intro members
    induction members with
    | nil => exact fun _ h => h
    | cons member members ih => exact fun sorted h => ih _ (sorted_insertMember h)
  rw [sortMembers_eq]
  exact hfold members [] List.Pairwise.nil

theorem perm_insertMember {name : String} {value : Value} {members : List (String × Value)}
    (h : name ∉ members.map (·.1)) :
    (insertMember name value members).Perm ((name, value) :: members) := by
  induction members with
  | nil => exact .refl _
  | cons member members ih =>
    obtain ⟨other, old⟩ := member
    rw [List.map_cons, List.mem_cons, not_or] at h
    rw [insertMember, if_neg h.1]
    split
    · exact .refl _
    · exact ((ih h.2).cons _).trans (.swap _ _ _)

/-- Sorting moves members of different names and drops none. -/
theorem perm_sortMembers {members : List (String × Value)} (h : (members.map (·.1)).Nodup) :
    (sortMembers members).Perm members := by
  have hfold : ∀ (members sorted : List (String × Value)),
      ((members ++ sorted).map (·.1)).Nodup →
        (members.foldl (fun sorted m => insertMember m.1 m.2 sorted) sorted).Perm
          (members ++ sorted) := by
    intro members
    induction members with
    | nil => exact fun sorted _ => .refl sorted
    | cons member members ih =>
      intro sorted h
      obtain ⟨hmember, hrest⟩ := List.nodup_cons.mp h
      have hinsert : (insertMember member.1 member.2 sorted).Perm (member :: sorted) :=
        perm_insertMember fun hsorted => hmember (by simp_all)
      have hmoved : (members ++ insertMember member.1 member.2 sorted).Perm
          (member :: members ++ sorted) :=
        (hinsert.append_left members).trans List.perm_middle
      exact (ih _ ((hmoved.map _).nodup_iff.mpr h)).trans hmoved
  rw [sortMembers_eq]
  have hperm := hfold members []
  rw [List.append_nil] at hperm
  exact hperm h

/-- Sorted members stay as they are. -/
theorem sortMembers_of_sorted {members : List (String × Value)} (h : Sorted members) :
    sortMembers members = members := by
  have hfold : ∀ (members sorted : List (String × Value)), Sorted (sorted ++ members) →
      members.foldl (fun sorted m => insertMember m.1 m.2 sorted) sorted =
        sorted ++ members := by
    intro members
    induction members with
    | nil => simp
    | cons member members ih =>
      intro sorted h
      obtain ⟨name, value⟩ := member
      have hlast : ∀ m ∈ sorted, m.1 < name := fun m hm =>
        (List.pairwise_append.mp h).2.2 m hm (name, value) List.mem_cons_self
      change members.foldl _ (insertMember name value sorted) = _
      rw [insertMember_last hlast, ih _ (by simpa using h)]
      simp
  rw [sortMembers_eq]
  exact hfold members [] h

theorem normal_normal (v : Value) : v.normal.normal = v.normal := by
  induction v using Value.induct with
  | null | truth | number | text => rfl
  | list items ih =>
    simp only [normal, normalItems_eq_map, List.map_map, Value.list.injEq]
    exact List.map_congr_left ih
  | object members ih =>
    simp only [normal, normalMembers_eq_map, Value.object.injEq]
    have hfixed : (sortMembers (members.map fun m => (m.1, m.2.normal))).map
        (fun m => (m.1, m.2.normal)) = sortMembers (members.map fun m => (m.1, m.2.normal)) := by
      refine (List.map_congr_left fun m hm => ?_).trans (List.map_id _)
      obtain ⟨n, hn, rfl⟩ := List.mem_map.mp (mem_sortMembers hm)
      simp [ih n hn]
    rw [hfixed, sortMembers_of_sorted (sorted_sortMembers _)]

/-- The normal form of a value is nested no more deeply. -/
theorem depth_normal_le (v : Value) : v.normal.depth ≤ v.depth := by
  induction v using Value.induct with
  | null | truth | number | text => exact Nat.le_refl _
  | list items ih =>
    rw [normal, normalItems_eq_map]
    refine Nat.succ_le_succ (depthItems_le_iff.mpr fun w hw => ?_)
    obtain ⟨v, hv, rfl⟩ := List.mem_map.mp hw
    exact Nat.le_trans (ih v hv) (depthItems_le_iff.mp (Nat.le_refl _) v hv)
  | object members ih =>
    rw [normal, normalMembers_eq_map]
    refine Nat.succ_le_succ (depthMembers_le_iff.mpr fun m hm => ?_)
    obtain ⟨n, hn, rfl⟩ := List.mem_map.mp (mem_sortMembers hm)
    exact Nat.le_trans (ih n hn) (depthMembers_le_iff.mp (Nat.le_refl _) n hn)

theorem EveryNumber.normal {p : Number → Prop} {v : Value} (h : v.EveryNumber p) :
    v.normal.EveryNumber p := by
  induction v using Value.induct with
  | null | truth | text => trivial
  | number n => exact h
  | list items ih =>
    rw [Value.normal, normalItems_eq_map, everyNumber_list]
    rw [everyNumber_list] at h
    intro w hw
    obtain ⟨v, hv, rfl⟩ := List.mem_map.mp hw
    exact ih v hv (h v hv)
  | object members ih =>
    rw [Value.normal, normalMembers_eq_map, everyNumber_object]
    rw [everyNumber_object] at h
    intro m hm
    obtain ⟨n, hn, rfl⟩ := List.mem_map.mp (mem_sortMembers hm)
    exact ih n hn (h n hn)

end Value
end Json
end RepoFeed
