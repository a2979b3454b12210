import RepoFeed.Proofs.Storage.SingleCall
import RepoFeed.Proofs.Storage.Writers

/-
What two writers of one file leave in its place.

The stand-in belongs to both, so one may move what the other has emptied and not yet
filled, or fill what has been moved already.  Whatever the order of their steps, the
file holds what it held before, or nothing, or one text, or one text over the other.
It holds no mixture if each finishes filling the stand-in before the other makes or
moves it.
-/

namespace RepoFeed
namespace Storage
namespace Writers

open FileSystem (OnWay Remains)
open TextFile (IsLate Step parentsMade standIn)

variable {path : Path} {texts : Side → String} {fs : FileSystem} {w : Writers} {side : Side}

/-! ## One text over another -/

/-- The octets of what one side writes. -/
def octets (texts : Side → String) (side : Side) : Utf8.Octets :=
  Utf8.encode (texts side).toList

/-- What is in a file after `new` has been written into it from its start. -/
def overlaid (new old : Utf8.Octets) : Utf8.Octets :=
  new ++ old.drop new.length

theorem overlaid_nil (new : Utf8.Octets) : overlaid new [] = new := by
  rw [overlaid, List.drop_nil, List.append_nil]

theorem overlaid_of_length_le {new old : Utf8.Octets} (h : old.length ≤ new.length) :
    overlaid new old = new := by
  rw [overlaid, List.drop_eq_nil_of_le h, List.append_nil]

theorem overlaid_overlaid_self (new old : Utf8.Octets) :
    overlaid new (overlaid new old) = overlaid new old := by
  rw [overlaid, overlaid, List.drop_left]

theorem fill_of_file {place : Place} {old : Utf8.Octets}
    (h : fs.at? place = some (.file old)) (new : Utf8.Octets) :
    fill fs new (some place) = fs.put place (.file (overlaid new old)) := by
  simp only [fill, h, overlaid]

/-- Nothing, a text, or one text over the other. -/
def IsBlend (texts : Side → String) (content : Utf8.Octets) : Prop :=
  content = [] ∨ ∃ side, content = octets texts side ∨
    content = overlaid (octets texts side) (octets texts side.other)

theorem isBlend_nil (texts : Side → String) : IsBlend texts [] := .inl rfl

theorem IsBlend.overlaid {content : Utf8.Octets} (h : IsBlend texts content) (side : Side) :
    IsBlend texts (overlaid (octets texts side) content) := by
  obtain rfl | h := h
  · exact .inr ⟨side, .inl (overlaid_nil _)⟩
  · refine .inr ⟨side, ?_⟩
    obtain (rfl | rfl) | (rfl | rfl) := (Side.exists_iff side).mp h
    · exact .inl (overlaid_of_length_le (Nat.le_refl _))
    · exact .inr (overlaid_overlaid_self _ _)
    · exact .inr rfl
    · rw [Side.other_other]
      by_cases hlength : (octets texts side).length ≤ (octets texts side.other).length
      · rw [overlaid_of_length_le hlength]
        exact .inr rfl
      · refine .inl (overlaid_of_length_le ?_)
        rw [Writers.overlaid, List.length_append, List.length_drop]
        omega

/-- A place has a file with a blend. -/
def HoldsBlend (texts : Side → String) (fs : FileSystem) (place : Place) : Prop :=
  ∃ content, fs.at? place = some (.file content) ∧ IsBlend texts content

namespace HoldsBlend

variable {place : Place}

theorem remains {after : FileSystem} (h : HoldsBlend texts fs place)
    (hkept : Remains (fs.at? place) (after.at? place)) : HoldsBlend texts after place := by
  obtain ⟨content, hcontent, hblend⟩ := h
  exact ⟨content, (hkept.file_iff content).mpr hcontent, hblend⟩

theorem put {content : Utf8.Octets} (h : HoldsBlend texts fs place)
    (hblend : IsBlend texts content) (other : Place) :
    HoldsBlend texts (fs.put other (.file content)) place := by
  obtain ⟨old, hold, hold'⟩ := h
  by_cases hother : place = other
  · rw [← hother]
    exact ⟨content, FileSystem.at?_put_self (FileSystem.ne_nil_of_file hold) _, hblend⟩
  · exact ⟨old, (FileSystem.at?_put_of_ne hother _).trans hold, hold'⟩

end HoldsBlend

/-- Whatever has been made of the stand-in and of the file is a blend. -/
structure Blended (fs : FileSystem) (path : Path) (texts : Side → String) (w : Writers) : Prop
    extends Underway fs path w where
  entry : w.files.at? (fs.destination path) = fs.at? (fs.destination path) ∨
    HoldsBlend texts w.files (fs.destination path)
  late : ∀ side, IsLate (w.next side) → ∀ content,
    w.files.at? (fs.destination (standIn path)) = some (.file content) → IsBlend texts content
  opened : ∀ side, w.next side = some .fillStandIn → ∀ place, w.opened side = some place →
    HoldsBlend texts w.files place

namespace Blended

theorem start (fs : FileSystem) (path : Path) (texts : Side → String) :
    Blended fs path texts (start fs) :=
  ⟨.start fs path, .inl rfl, fun _ h => h.elim, nofun⟩

theorem set {files : FileSystem} {ahead : List Step} {opened : Side → Option Place}
    (hunderway : Underway fs path ⟨files, side.set ahead w.ahead, opened⟩)
    (hentry : files.at? (fs.destination path) = fs.at? (fs.destination path) ∨
      HoldsBlend texts files (fs.destination path))
    (hlate : IsLate ahead.head? ∨ IsLate (w.next side.other) → ∀ content,
      files.at? (fs.destination (standIn path)) = some (.file content) → IsBlend texts content)
    (hself : ahead.head? = some .fillStandIn → ∀ place, opened side = some place →
      HoldsBlend texts files place)
    (hother : w.next side.other = some .fillStandIn → ∀ place, opened side.other = some place →
      HoldsBlend texts files place) :
    Blended fs path texts ⟨files, side.set ahead w.ahead, opened⟩ := by
  refine ⟨hunderway, hentry, (Side.forall_iff side).mpr ⟨?_, ?_⟩,
    (Side.forall_iff side).mpr ⟨?_, ?_⟩⟩
  · rw [next_set_self]
    exact fun h => hlate (.inl h)
  · rw [next_set_other]
    exact fun h => hlate (.inr h)
  · rw [next_set_self]
    exact hself
  · rw [next_set_other]
    exact hother

theorem turn (hname : (standIn path).fileName? ≠ none →
      fs.destination path ≠ fs.destination (standIn path))
    (hway : ¬ OnWay (fs.start path.isAbsolute) path.names.dropLast (fs.destination path))
    (h : Blended fs path texts w) (side : Side) :
    Blended fs path texts (w.turn path texts side) := by
  have hunderway := h.toUnderway.turn hname texts side
  have hturned := turned path texts h.order side
  have hpath := h.destination path
  have hplace := h.destination (standIn path)
  generalize w.turn path texts side = after at hturned hunderway ⊢
  cases hturned with
  | idle hnext => exact h
  | stopped hnext =>
    exact set hunderway h.entry (·.elim (·.elim) (h.late side.other)) nofun
      (h.opened side.other)
  | parents hnext hahead =>
    have hkept := TextFile.remains_parentsMade path w.files
    refine set hunderway ?_ ?_ ?_ ?_
    · rw [h.at?_parentsMade hway]
      exact h.entry.imp_right (·.remains (hkept _))
    · intro hlate content hcontent
      have hother : IsLate (w.next side.other) := by
        obtain rfl | rfl := hahead
        · exact hlate.resolve_left id
        · exact hlate.resolve_left id
      exact h.late side.other hother content (((hkept _).file_iff content).mp hcontent)
    · obtain rfl | rfl := hahead
      · exact nofun
      · exact nofun
    · exact fun hfill place hplace => (h.opened side.other hfill place hplace).remains (hkept place)
  | created hnext hsome hfile =>
    rw [hplace] at hfile hunderway ⊢
    have hroot := FileSystem.ne_nil_of_at? hfile
    have hmade : (w.files.put (fs.destination (standIn path)) (.file [])).at?
        (fs.destination (standIn path)) = some (.file []) := FileSystem.at?_put_self hroot _
    refine set hunderway ?_ ?_ ?_ ?_
    · rw [FileSystem.at?_put_of_ne (hname hsome)]
      exact h.entry.imp_right (·.put (isBlend_nil texts) _)
    · intro _ content hcontent
      rw [hmade] at hcontent
      cases hcontent
      exact isBlend_nil texts
    · intro _ place hopened
      rw [Side.set_self] at hopened
      rw [← Option.some.inj hopened]
      exact ⟨[], hmade, isBlend_nil texts⟩
    · intro hfill place hopened
      rw [Side.set_other] at hopened
      exact (h.opened side.other hfill place hopened).put (isBlend_nil texts) _
  | filled hnext =>
    cases hopened : w.opened side with
    | none =>
      rw [hopened] at hunderway
      exact set hunderway h.entry (fun _ => h.late side (hnext ▸ trivial)) nofun
        (h.opened side.other)
    | some place =>
      obtain ⟨old, hold, hblend⟩ := h.opened side hnext place hopened
      have hroot := FileSystem.ne_nil_of_file hold
      have hfill := fill_of_file hold (octets texts side)
      rw [hopened] at hunderway
      rw [← octets, hfill] at hunderway ⊢
      have hover := hblend.overlaid side
      refine set hunderway ?_ ?_ nofun ?_
      · by_cases hentry : fs.destination path = place
        · rw [hentry]
          exact .inr ⟨_, FileSystem.at?_put_self hroot _, hover⟩
        · rw [FileSystem.at?_put_of_ne hentry]
          exact h.entry.imp_right (·.put hover _)
      · intro _ content hcontent
        by_cases htemp : fs.destination (standIn path) = place
        · rw [htemp, FileSystem.at?_put_self hroot] at hcontent
          cases hcontent
          exact hover
        · rw [FileSystem.at?_put_of_ne htemp] at hcontent
          exact h.late side (hnext ▸ trivial) content hcontent
      · exact fun hnext other hother => (h.opened side.other hnext other hother).put hover place
  | synced hnext =>
    exact set hunderway h.entry (fun _ => h.late side (hnext ▸ trivial)) nofun (h.opened side.other)
  | @published hnext content hcontent hne hfile =>
    rw [hplace] at hcontent hne hunderway ⊢
    rw [hpath] at hne hfile hunderway ⊢
    have hblend := h.late side (hnext ▸ trivial) content hcontent
    have hroot := FileSystem.ne_nil_of_at? hfile
    have hmoved : ((w.files.remove (fs.destination (standIn path))).put (fs.destination path)
        (.file content)).at? (fs.destination path) = some (.file content) :=
      FileSystem.at?_put_self hroot _
    have htemp := FileSystem.ne_nil_of_file hcontent
    refine set hunderway (.inr ⟨content, hmoved, hblend⟩) ?_ nofun ?_
    · intro _ other hother
      rw [FileSystem.at?_put_of_ne hne, FileSystem.at?_remove_self htemp] at hother
      exact nomatch hother
    · -- What is open is moved along with the stand-in, or lost with what it displaces.
      intro hnext place hopened
      obtain ⟨before, hbefore, hplace⟩ := Option.bind_eq_some_iff.mp hopened
      have hholds := h.opened side.other hnext before hbefore
      unfold moved at hplace
      split at hplace
      · rw [← Option.some.inj hplace]
        exact ⟨content, hmoved, hblend⟩
      · rename_i horigin
        split at hplace
        · exact nomatch hplace
        · rename_i hgoal
          rw [← Option.some.inj hplace]
          obtain ⟨old, hold, hblend⟩ := hholds
          refine ⟨old, ?_, hblend⟩
          rw [FileSystem.at?_put_of_ne hgoal, FileSystem.at?_remove_of_ne horigin]
          exact hold

theorem turns (hname : (standIn path).fileName? ≠ none →
      fs.destination path ≠ fs.destination (standIn path))
    (hway : ¬ OnWay (fs.start path.isAbsolute) path.names.dropLast (fs.destination path))
    (texts : Side → String) (order : List Side) :
    Blended fs path texts (turns path texts fs order) := by
  have hfold : ∀ w, Blended fs path texts w →
      Blended fs path texts (order.foldl (Writers.turn path texts) w) := by
    induction order with
    | nil => exact fun w h => h
    | cons side order ih => exact fun w h => ih _ (h.turn hname hway side)
  exact hfold _ (.start fs path texts)

end Blended

/-! ## Turns that leave the other alone -/

/-- A turn in which a writer makes or moves the stand-in that the other has still to
fill. -/
def Disturbs (w : Writers) (side : Side) : Prop :=
  (w.next side = some .createStandIn ∨ w.next side = some .publish) ∧
    w.next side.other = some .fillStandIn

instance (w : Writers) (side : Side) : Decidable (w.Disturbs side) :=
  inferInstanceAs (Decidable (_ ∧ _))

/-- No turn of the given order disturbs the other writer. -/
def Undisturbed (path : Path) (texts : Side → String) (w : Writers) : List Side → Prop
  | [] => True
  | side :: order => ¬ w.Disturbs side ∧ (w.turn path texts side).Undisturbed path texts order

instance decidableUndisturbed (path : Path) (texts : Side → String) (w : Writers) :
    (order : List Side) → Decidable (w.Undisturbed path texts order)
  | [] => isTrue trivial
  | side :: order =>
    have := decidableUndisturbed path texts (w.turn path texts side) order
    inferInstanceAs (Decidable (_ ∧ _))

/-- A place is as it was, or has a file with all of one text. -/
def IsWhole (before : Option Entry) (texts : Side → String) (after : Option Entry) : Prop :=
  ∃ side, TextFile.IsOldOrNew before (texts side) after

instance (before : Option Entry) (texts : Side → String) (after : Option Entry) :
    Decidable (IsWhole before texts after) :=
  decidable_of_decidable_of_iff (Side.exists_iff .left).symm

/-- Nothing is mixed: what is to be filled is empty, belongs to one writer, and is full
when it is moved. -/
structure Tidy (fs : FileSystem) (path : Path) (texts : Side → String) (w : Writers) : Prop
    extends Underway fs path w where
  entry : IsWhole (fs.at? (fs.destination path)) texts (w.files.at? (fs.destination path))
  emptied : ∀ side, w.next side = some .fillStandIn →
    w.opened side = some (fs.destination (standIn path)) ∧
      w.files.at? (fs.destination (standIn path)) = some (.file []) ∧
        w.next side.other ≠ some .fillStandIn
  full : (∀ side, w.next side ≠ some .fillStandIn) → (∃ side, IsLate (w.next side)) →
    ∀ content, w.files.at? (fs.destination (standIn path)) = some (.file content) →
      ∃ s, content = octets texts s

namespace Tidy

theorem start (fs : FileSystem) (path : Path) (texts : Side → String) :
    Tidy fs path texts (start fs) :=
  ⟨.start fs path, ⟨.left, .inl rfl⟩, nofun, fun _ h => h.elim fun _ h => h.elim⟩

theorem set {files : FileSystem} {ahead : List Step} {opened : Side → Option Place}
    (hunderway : Underway fs path ⟨files, side.set ahead w.ahead, opened⟩)
    (hentry : IsWhole (fs.at? (fs.destination path)) texts (files.at? (fs.destination path)))
    (hself : ahead.head? = some .fillStandIn →
      opened side = some (fs.destination (standIn path)) ∧
        files.at? (fs.destination (standIn path)) = some (.file []) ∧
          w.next side.other ≠ some .fillStandIn)
    (hother : w.next side.other = some .fillStandIn →
      opened side.other = some (fs.destination (standIn path)) ∧
        files.at? (fs.destination (standIn path)) = some (.file []) ∧
          ahead.head? ≠ some .fillStandIn)
    (hfull : ahead.head? ≠ some .fillStandIn → w.next side.other ≠ some .fillStandIn →
      IsLate ahead.head? ∨ IsLate (w.next side.other) → ∀ content,
        files.at? (fs.destination (standIn path)) = some (.file content) →
          ∃ s, content = octets texts s) :
    Tidy fs path texts ⟨files, side.set ahead w.ahead, opened⟩ := by
  refine ⟨hunderway, hentry, (Side.forall_iff side).mpr ⟨?_, ?_⟩, fun hnone hsome => ?_⟩
  · rw [next_set_self, next_set_other]
    exact hself
  · rw [Side.other_other, next_set_self, next_set_other]
    exact hother
  · rw [Side.forall_iff side, next_set_self, next_set_other] at hnone
    rw [Side.exists_iff side, next_set_self, next_set_other] at hsome
    exact hfull hnone.1 hnone.2 hsome

/-- What the stand-in holds when neither writer has still to fill it. -/
theorem exists_octets (h : Tidy fs path texts w) {step : Step} (hnext : w.next side = some step)
    (hstep : step ≠ .fillStandIn) (hother : w.next side.other ≠ some .fillStandIn)
    (hlate : IsLate (some step) ∨ IsLate (w.next side.other)) {content : Utf8.Octets}
    (hcontent : w.files.at? (fs.destination (standIn path)) = some (.file content)) :
    ∃ s, content = octets texts s := by
  refine h.full ((Side.forall_iff side).mpr ⟨?_, hother⟩) ((Side.exists_iff side).mpr ?_) content
    hcontent
  · rw [hnext]
    exact fun heq => hstep (Option.some.inj heq)
  · rwa [hnext]

theorem turn (hname : (standIn path).fileName? ≠ none →
      fs.destination path ≠ fs.destination (standIn path))
    (hway : ¬ OnWay (fs.start path.isAbsolute) path.names.dropLast (fs.destination path))
    (h : Tidy fs path texts w) (hquiet : ¬ w.Disturbs side) :
    Tidy fs path texts (w.turn path texts side) := by
  have hunderway := h.toUnderway.turn hname texts side
  have hturned := turned path texts h.order side
  have hpath := h.destination path
  have hplace := h.destination (standIn path)
  generalize w.turn path texts side = after at hturned hunderway ⊢
  cases hturned with
  | idle hnext => exact h
  | stopped hnext =>
    refine set hunderway h.entry nofun ?_ ?_
    · intro hother
      obtain ⟨hempty, hfirst, -⟩ := h.emptied side.other hother
      exact ⟨hempty, hfirst, nofun⟩
    · intro _ hother hlate content hcontent
      obtain hnext | hnext := hnext
      · exact h.exists_octets hnext nofun hother (hlate.imp_left (·.elim)) hcontent
      · exact h.exists_octets hnext nofun hother (hlate.imp_left (·.elim)) hcontent
  | @parents hnext ahead hahead =>
    have hkept := TextFile.remains_parentsMade path w.files
    have hhead : ahead.head? ≠ some .fillStandIn ∧ ¬ IsLate ahead.head? := by
      obtain rfl | rfl := hahead
      · exact ⟨nofun, id⟩
      · exact ⟨nofun, id⟩
    refine set hunderway ?_ (fun hfill => absurd hfill hhead.1) ?_ ?_
    · rw [h.at?_parentsMade hway]
      exact h.entry
    · intro hother
      obtain ⟨hopened, hempty, -⟩ := h.emptied side.other hother
      exact ⟨hopened, ((hkept _).file_iff _).mpr hempty, hhead.1⟩
    · intro _ hother hlate content hcontent
      exact h.exists_octets hnext nofun hother (.inr (hlate.resolve_left hhead.2))
        (((hkept _).file_iff content).mp hcontent)
  | created hnext hsome hfile =>
    rw [hplace] at hfile hunderway ⊢
    have hroot := FileSystem.ne_nil_of_at? hfile
    -- The other has filled what is emptied here, or has not made it yet.
    have hother : w.next side.other ≠ some .fillStandIn := fun hfill => hquiet ⟨.inl hnext, hfill⟩
    refine set hunderway ?_ ?_ (fun hfill => absurd hfill hother) (fun hself => absurd rfl hself)
    · rw [FileSystem.at?_put_of_ne (hname hsome)]
      exact h.entry
    · exact fun _ => ⟨Side.set_self, FileSystem.at?_put_self hroot _, hother⟩
  | filled hnext =>
    obtain ⟨hopened, hempty, hother⟩ := h.emptied side hnext
    have hroot := FileSystem.ne_nil_of_file hempty
    have hfill := fill_of_file hempty (octets texts side)
    rw [overlaid_nil] at hfill
    rw [hopened] at hunderway ⊢
    rw [← octets, hfill] at hunderway ⊢
    refine set hunderway ?_ nofun (fun hfill => absurd hfill hother) ?_
    · rw [FileSystem.at?_put_of_ne (h.apart side (hnext ▸ trivial))]
      exact h.entry
    · intro _ _ _ content hcontent
      rw [FileSystem.at?_put_self hroot] at hcontent
      exact ⟨side, (Entry.file.inj (Option.some.inj hcontent)).symm⟩
  | synced hnext =>
    refine set hunderway h.entry nofun ?_ ?_
    · intro hother
      obtain ⟨hempty, hfirst, -⟩ := h.emptied side.other hother
      exact ⟨hempty, hfirst, nofun⟩
    · intro _ hother _ content hcontent
      exact h.exists_octets hnext nofun hother (.inl trivial) hcontent
  | @published hnext content hcontent hne hfile =>
    rw [hplace] at hcontent hne hunderway ⊢
    rw [hpath] at hne hfile hunderway ⊢
    have hother : w.next side.other ≠ some .fillStandIn := fun hfill => hquiet ⟨.inr hnext, hfill⟩
    obtain ⟨s, rfl⟩ := h.exists_octets hnext nofun hother (.inl trivial) hcontent
    have hroot := FileSystem.ne_nil_of_at? hfile
    have htemp := FileSystem.ne_nil_of_file hcontent
    refine set hunderway ⟨s, .inr (FileSystem.at?_put_self hroot _)⟩ nofun
      (fun hfill => absurd hfill hother) ?_
    intro _ _ _ other hcontent
    rw [FileSystem.at?_put_of_ne hne, FileSystem.at?_remove_self htemp] at hcontent
    exact nomatch hcontent

theorem turns (hname : (standIn path).fileName? ≠ none →
      fs.destination path ≠ fs.destination (standIn path))
    (hway : ¬ OnWay (fs.start path.isAbsolute) path.names.dropLast (fs.destination path))
    {order : List Side} (h : (Writers.start fs).Undisturbed path texts order) :
    Tidy fs path texts (turns path texts fs order) := by
  have hfold : ∀ w, Tidy fs path texts w → w.Undisturbed path texts order →
      Tidy fs path texts (order.foldl (Writers.turn path texts) w) := by
    clear h
    induction order with
    | nil => exact fun w h _ => h
    | cons side order ih => exact fun w h hquiet => ih _ (h.turn hname hway hquiet.1) hquiet.2
  exact hfold _ (.start fs path texts) h

end Tidy

/-! ## Two writers of an entry -/

variable {directory : Path} {key : String}

theorem not_onWay_entryPath (h : ¬ OnWay (fs.start directory.isAbsolute) directory.names
      (fs.destination (entryPath directory key))) :
    ¬ OnWay (fs.start (entryPath directory key).isAbsolute) (entryPath directory key).names.dropLast
      (fs.destination (entryPath directory key)) := by
  have hentry := liesIn_entryPath directory key
  rwa [hentry.isAbsolute_eq, hentry.names_eq, List.dropLast_concat]

/-- The directories on the way to one that never turns back are no entries of it. -/
theorem not_onWay_of_names (hdots : ".." ∉ directory.names) :
    ¬ OnWay (fs.start directory.isAbsolute) directory.names
      (fs.destination (entryPath directory key)) := by
  intro hway
  have hlength := hway.length_le
  rw [FileSystem.destination_entryPath, FileSystem.destination_of_names hdots, List.length_append,
    List.length_append, List.length_singleton] at hlength
  omega

/-- In whatever order two writers of an entry take their steps, the entry is as it was, or
empty, or holds one of the texts or one over the other. -/
theorem isBlend_entry (texts : Side → String) (order : List Side)
    (hway : ¬ OnWay (fs.start directory.isAbsolute) directory.names
      (fs.destination (entryPath directory key))) :
    (turns (entryPath directory key) texts fs order).files.at?
        (fs.destination (entryPath directory key)) =
          fs.at? (fs.destination (entryPath directory key)) ∨
      HoldsBlend texts (turns (entryPath directory key) texts fs order).files
        (fs.destination (entryPath directory key)) :=
  (Blended.turns (FileSystem.destination_standIn_entryPath_ne fs directory key)
    (not_onWay_entryPath hway) texts order).entry

/-- An entry holds what it held or all of one of two texts, if each of their writers
fills the stand-in before the other makes or moves it. -/
theorem isWhole_entry (texts : Side → String) (order : List Side)
    (hway : ¬ OnWay (fs.start directory.isAbsolute) directory.names
      (fs.destination (entryPath directory key)))
    (hquiet : (start fs).Undisturbed (entryPath directory key) texts order) :
    IsWhole (fs.at? (fs.destination (entryPath directory key))) texts
      ((turns (entryPath directory key) texts fs order).files.at?
        (fs.destination (entryPath directory key))) :=
  (Tidy.turns (FileSystem.destination_standIn_entryPath_ne fs directory key)
    (not_onWay_entryPath hway) hquiet).entry

def twoTexts : Side → String
  | .left => "old and long"
  | .right => "new"

def noFiles : FileSystem := ⟨[], []⟩

/-- The writer on the left publishes what the one on the right has filled, who then
finds nothing to publish. -/
theorem isWhole_entry_overtaken :
    ¬ OnWay (noFiles.start (Path.isAbsolute ⟨"cache"⟩)) (Path.names ⟨"cache"⟩)
        (noFiles.destination (entryPath ⟨"cache"⟩ "k")) ∧
      (start noFiles).Undisturbed (entryPath ⟨"cache"⟩ "k") twoTexts
        [.left, .right, .left, .left, .right, .right, .left, .left, .right, .right] ∧
      IsWhole (noFiles.at? (noFiles.destination (entryPath ⟨"cache"⟩ "k"))) twoTexts
        ((turns (entryPath ⟨"cache"⟩ "k") twoTexts noFiles
          [.left, .right, .left, .left, .right, .right, .left, .left, .right, .right]).files.at?
            (noFiles.destination (entryPath ⟨"cache"⟩ "k"))) :=
  have hway := not_onWay_of_names (by decide)
  have hquiet : (start noFiles).Undisturbed (entryPath ⟨"cache"⟩ "k") twoTexts
      [.left, .right, .left, .left, .right, .right, .left, .left, .right, .right] := by decide
  ⟨hway, hquiet, isWhole_entry twoTexts _ hway hquiet⟩

/-- The writer on the left publishes what the one on the right has just emptied; or it
publishes its own text, which the one on the right then writes over; or a directory is
made in place of the entry. -/
theorem not_isWhole_entry :
    ¬ IsWhole (noFiles.at? (noFiles.destination (entryPath ⟨"cache"⟩ "k"))) twoTexts
        ((turns (entryPath ⟨"cache"⟩ "k") twoTexts noFiles
          [.left, .left, .left, .right, .right, .left, .left]).files.at?
            (noFiles.destination (entryPath ⟨"cache"⟩ "k"))) ∧
      ¬ IsWhole (noFiles.at? (noFiles.destination (entryPath ⟨"cache"⟩ "k"))) twoTexts
        ((turns (entryPath ⟨"cache"⟩ "k") twoTexts noFiles
          [.left, .left, .right, .right, .left, .left, .left, .right]).files.at?
            (noFiles.destination (entryPath ⟨"cache"⟩ "k"))) ∧
      ¬ IsWhole (noFiles.at? (noFiles.destination (entryPath ⟨"x/k.json/.."⟩ "k"))) twoTexts
        ((turns (entryPath ⟨"x/k.json/.."⟩ "k") twoTexts noFiles [.left]).files.at?
            (noFiles.destination (entryPath ⟨"x/k.json/.."⟩ "k"))) := by
  decide

end Writers
end Storage
end RepoFeed
