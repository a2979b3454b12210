import RepoFeed.Proofs.Storage.Reach
import RepoFeed.Proofs.Storage.Replacement
import RepoFeed.Storage.Writers

/-
The turns of two writers.

A turn does one of a few things to the files, to what its writer has ahead and to
what both have open.  While the other takes no turn, a writer does what a write does
that has the files for itself.
-/

namespace RepoFeed
namespace Storage

namespace Side

variable {α : Type} {side : Side} {value : α} {both : Side → α}

theorem other_ne (side : Side) : side.other ≠ side := by
  cases side <;> decide

theorem other_other (side : Side) : side.other.other = side := by
  cases side <;> rfl

theorem forall_iff (side : Side) {p : Side → Prop} : (∀ s, p s) ↔ p side ∧ p side.other := by
  constructor
  · exact fun h => ⟨h side, h side.other⟩
  · intro h s
    cases side <;> cases s
    · exact h.1
    · exact h.2
    · exact h.2
    · exact h.1

theorem exists_iff (side : Side) {p : Side → Prop} : (∃ s, p s) ↔ p side ∨ p side.other := by
  constructor
  · intro h
    obtain ⟨s, hs⟩ := h
    cases side <;> cases s
    · exact .inl hs
    · exact .inr hs
    · exact .inr hs
    · exact .inl hs
  · intro h
    obtain h | h := h
    · exact ⟨side, h⟩
    · exact ⟨side.other, h⟩

@[simp]
theorem set_self : side.set value both side = value :=
  if_pos rfl

@[simp]
theorem set_other : side.set value both side.other = both side.other :=
  if_neg (other_ne side)

end Side

namespace TextFile

/-- The steps of a write that come after one. -/
def Step.behind : Step → List Step
  | .makeParents => [.createStandIn, .fillStandIn, .syncStandIn, .publish]
  | .createStandIn => [.fillStandIn, .syncStandIn, .publish]
  | .fillStandIn => [.syncStandIn, .publish]
  | .syncStandIn => [.publish]
  | .publish => []

theorem Step.behind_inOrder (step : Step) :
    ∀ next rest, step.behind = next :: rest → rest = next.behind := by
  cases step <;> intro next rest h <;> cases h <;> rfl

theorem Step.eq_createStandIn :
    ∀ {step : Step}, step.behind.head? = some .fillStandIn → step = .createStandIn
  | .createStandIn, _ => rfl

/-- Whether the stand-in has been made before a step. -/
def IsLate : Option Step → Prop
  | some .fillStandIn | some .syncStandIn | some .publish => True
  | _ => False

end TextFile

namespace Writers

open FileSystem (OnWay Remains)
open TextFile (IsLate Step parentsMade standIn)

variable {path : Path} {texts : Side → String} {fs : FileSystem} {w : Writers} {side : Side}

@[simp]
theorem next_set_self {files : FileSystem} {ahead : List Step} {opened : Side → Option Place} :
    next ⟨files, side.set ahead w.ahead, opened⟩ side = ahead.head? := by
  simp only [next, Side.set_self]

@[simp]
theorem next_set_other {files : FileSystem} {ahead : List Step} {opened : Side → Option Place} :
    next ⟨files, side.set ahead w.ahead, opened⟩ side.other = w.next side.other := by
  simp only [next, Side.set_other]

/-! ## What a turn does -/

theorem turn_of_nil (hahead : w.ahead side = []) : w.turn path texts side = w := by
  rw [turn, hahead]

theorem turn_of_ok {step : Step} {rest : List Step} {files : FileSystem}
    (hahead : w.ahead side = step :: rest)
    (h : perform path (texts side).toList w.files (w.opened side) step = (files, .ok ())) :
    w.turn path texts side = ⟨files, side.set rest w.ahead, reopened path w side step⟩ := by
  simp only [turn, hahead, h]

theorem turn_of_error {step : Step} {rest : List Step} {files : FileSystem} {fault : Fault}
    (hahead : w.ahead side = step :: rest)
    (h : perform path (texts side).toList w.files (w.opened side) step = (files, .error fault)) :
    w.turn path texts side = ⟨files, side.set [] w.ahead, w.opened⟩ := by
  simp only [turn, hahead, h]

/-- All steps that a writer has ahead follow on one another. -/
def InOrder (w : Writers) : Prop :=
  ∀ side step rest, w.ahead side = step :: rest → rest = step.behind

/-- What may come of a turn. -/
inductive Turned (path : Path) (texts : Side → String) (w : Writers) (side : Side) : Writers → Prop
  | idle (h : w.next side = none) : Turned path texts w side w
  | stopped (h : w.next side = some .createStandIn ∨ w.next side = some .publish) :
      Turned path texts w side ⟨w.files, side.set [] w.ahead, w.opened⟩
  | parents (h : w.next side = some .makeParents) {ahead : List Step}
      (hahead : ahead = [] ∨ ahead = Step.makeParents.behind) :
      Turned path texts w side ⟨parentsMade path w.files, side.set ahead w.ahead, w.opened⟩
  | created (h : w.next side = some .createStandIn) (hname : (standIn path).fileName? ≠ none)
      (hfile : w.files.at? (w.files.destination (standIn path)) ≠ some .directory) :
      Turned path texts w side
        ⟨w.files.put (w.files.destination (standIn path)) (.file []),
          side.set Step.createStandIn.behind w.ahead,
          side.set (some (w.files.destination (standIn path))) w.opened⟩
  | filled (h : w.next side = some .fillStandIn) :
      Turned path texts w side
        ⟨fill w.files (Utf8.encode (texts side).toList) (w.opened side),
          side.set Step.fillStandIn.behind w.ahead, w.opened⟩
  | synced (h : w.next side = some .syncStandIn) :
      Turned path texts w side ⟨w.files, side.set Step.syncStandIn.behind w.ahead, w.opened⟩
  | published (h : w.next side = some .publish) {content : Utf8.Octets}
      (hcontent : w.files.at? (w.files.destination (standIn path)) = some (.file content))
      (hne : w.files.destination (standIn path) ≠ w.files.destination path)
      (hfile : w.files.at? (w.files.destination path) ≠ some .directory) :
      Turned path texts w side
        ⟨(w.files.remove (w.files.destination (standIn path))).put (w.files.destination path)
            (.file content),
          side.set Step.publish.behind w.ahead,
          fun s => (w.opened s).bind
            (moved (w.files.destination (standIn path)) (w.files.destination path))⟩

theorem moved_self (place : Place) (opened : Option Place) :
    opened.bind (moved place place) = opened := by
  have hmoved : moved place place = some := by
    funext other
    rw [moved]
    split
    · rw [‹other = place›]
    · rfl
  rw [hmoved]
  cases opened <;> rfl

theorem reopened_publish {origin goal : Place}
    (hfrom : w.files.locate (.ofPath (standIn path)) = .ok origin)
    (hto : w.files.locate (.ofPath path) = .ok goal) :
    reopened path w side .publish = fun s => (w.opened s).bind (moved origin goal) := by
  rw [reopened, hfrom, hto]
  rfl

theorem inOrder_start (fs : FileSystem) : (start fs).InOrder := by
  intro side step rest h
  cases h
  rfl

theorem InOrder.set {files : FileSystem} {ahead : List Step} {opened : Side → Option Place}
    (h : w.InOrder) (hahead : ∀ step rest, ahead = step :: rest → rest = step.behind) :
    InOrder ⟨files, side.set ahead w.ahead, opened⟩ := by
  refine (Side.forall_iff side).mpr ⟨?_, ?_⟩
  · simp only [Side.set_self]
    exact hahead
  · simp only [Side.set_other]
    exact h side.other

theorem turned (path : Path) (texts : Side → String) (horder : InOrder w) (side : Side) :
    Turned path texts w side (w.turn path texts side) := by
  cases hahead : w.ahead side with
  | nil =>
    rw [turn_of_nil hahead]
    exact .idle (by rw [next, hahead]; rfl)
  | cons step rest =>
    obtain rfl := horder side step rest hahead
    have hnext : w.next side = some step := by rw [next, hahead]; rfl
    cases step with
    | makeParents =>
      rcases hperform : perform path (texts side).toList w.files (w.opened side) .makeParents
        with ⟨files, outcome⟩
      obtain rfl : parentsMade path w.files = files := congrArg Prod.fst hperform
      cases outcome with
      | error fault =>
        rw [turn_of_error hahead hperform]
        exact .parents hnext (.inl rfl)
      | ok done =>
        rw [turn_of_ok hahead hperform]
        exact .parents hnext (.inr rfl)
    | createStandIn =>
      cases hcreate : w.files.create (.ofPath (standIn path)) with
      | error fault =>
        have hperform : perform path (texts side).toList w.files (w.opened side) .createStandIn =
            (w.files, .error fault) := by
          simp only [perform, Step.perform, hcreate, TextFile.attempt]
        rw [turn_of_error hahead hperform]
        exact .stopped (.inl hnext)
      | ok files =>
        have hperform : perform path (texts side).toList w.files (w.opened side) .createStandIn =
            (files, .ok ()) := by
          simp only [perform, Step.perform, hcreate, TextFile.attempt]
        rw [turn_of_ok hahead hperform, reopened]
        obtain ⟨hends, place, hlocate, hfile, rfl⟩ := FileSystem.create_eq_ok hcreate
        obtain ⟨name, hname⟩ := Path.exists_fileName? hends
        rw [hlocate]
        obtain rfl := (FileSystem.locate_eq_ok hlocate).symm
        exact .created hnext (Option.ne_none_iff_exists'.mpr ⟨name, hname⟩) hfile
    | fillStandIn =>
      rw [turn_of_ok hahead rfl]
      exact .filled hnext
    | syncStandIn =>
      rw [turn_of_ok hahead rfl]
      exact .synced hnext
    | publish =>
      cases hrename : w.files.rename (.ofPath (standIn path)) (.ofPath path) with
      | error fault =>
        have hperform : perform path (texts side).toList w.files (w.opened side) .publish =
            (w.files, .error fault) := by
          simp only [perform, Step.perform, hrename, TextFile.attempt]
        rw [turn_of_error hahead hperform]
        exact .stopped (.inr hnext)
      | ok files =>
        have hperform : perform path (texts side).toList w.files (w.opened side) .publish =
            (files, .ok ()) := by
          simp only [perform, Step.perform, hrename, TextFile.attempt]
        obtain ⟨origin, goal, content, hfrom, hto, hcontent, hcases⟩ :=
          FileSystem.rename_eq_ok hrename
        rw [turn_of_ok hahead hperform, reopened_publish hfrom hto]
        obtain rfl := (FileSystem.locate_eq_ok hfrom).symm
        obtain rfl := (FileSystem.locate_eq_ok hto).symm
        obtain ⟨heq, rfl⟩ | ⟨hne, hfile, rfl⟩ := hcases
        · simp only [heq, moved_self]
          exact .stopped (.inr hnext)
        · exact .published hnext hcontent hne hfile

theorem current_fill (fs : FileSystem) (content : Utf8.Octets) (opened : Option Place) :
    (fill fs content opened).current = fs.current := by
  unfold fill
  split
  · rfl
  · split
    · rfl
    · rfl

/-! ## One writer alone -/

/-- What has just been made is filled in its place. -/
theorem perform_fillStandIn {files : FileSystem}
    (h : fs.create (.ofPath (standIn path)) = .ok files) (text : List Char) :
    perform path text files (fs.locate (.ofPath (standIn path))).toOption .fillStandIn =
      Step.fillStandIn.perform path text files := by
  obtain ⟨-, place, hlocate, hfile, rfl⟩ := FileSystem.create_eq_ok h
  have hagain := (FileSystem.KeepsDirectories.put_file hfile []).locate hlocate
  have hroot := FileSystem.ne_nil_of_at? hfile
  have hmade : (fs.put place (.file [])).at? place = some (.file []) :=
    FileSystem.at?_put_self hroot _
  have hfilled : FileSystem.fillFile (fs.put place (.file [])) (.ofPath (standIn path))
      (Utf8.encode text) = .ok ((fs.put place (.file [])).put place
        (.file (Utf8.encode text ++ List.drop (Utf8.encode text).length []))) := by
    rw [FileSystem.fillFile, hagain, ok_bind, hmade]
  simp only [perform, Step.perform, hlocate, hfilled, TextFile.attempt, Except.toOption, fill,
    hmade]

/-- A writer to whom the other has done nothing: what it is about to fill is where the
stand-in is found. -/
structure Alone (path : Path) (texts : Side → String) (w : Writers) (side : Side) : Prop where
  order : w.InOrder
  fills : w.next side = some .fillStandIn →
    perform path (texts side).toList w.files (w.opened side) .fillStandIn =
      Step.fillStandIn.perform path (texts side).toList w.files

namespace Alone

theorem start (path : Path) (texts : Side → String) (fs : FileSystem) (side : Side) :
    Alone path texts (start fs) side :=
  ⟨inOrder_start fs, nofun⟩

theorem perform_eq (h : Alone path texts w side) {step : Step} (hnext : w.next side = some step) :
    perform path (texts side).toList w.files (w.opened side) step =
      step.perform path (texts side).toList w.files := by
  cases step with
  | fillStandIn => exact h.fills hnext
  | _ => rfl

theorem gone (h : Alone path texts w side) (files : FileSystem) :
    Alone path texts ⟨files, side.set [] w.ahead, w.opened⟩ side := by
  refine ⟨h.order.set nofun, fun hfills => ?_⟩
  rw [next_set_self] at hfills
  contradiction

theorem done (h : Alone path texts w side) {step : Step} {files : FileSystem}
    (hperform : step.perform path (texts side).toList w.files = (files, .ok ())) :
    Alone path texts ⟨files, side.set step.behind w.ahead, reopened path w side step⟩ side := by
  refine ⟨h.order.set step.behind_inOrder, fun hfills => ?_⟩
  rw [next_set_self] at hfills
  obtain rfl := Step.eq_createStandIn hfills
  rw [Step.perform, TextFile.attempt_eq_ok] at hperform
  simp only [reopened, Side.set_self]
  exact perform_fillStandIn hperform _

theorem files_foldl (h : Alone path texts w side) (count : Nat) :
    ((List.replicate count side).foldl (Writers.turn path texts) w).files =
      (TextFile.run path (texts side).toList w.files ((w.ahead side).take count)).1 := by
  induction count generalizing w with
  | zero => rfl
  | succ count ih =>
    rw [List.replicate_succ, List.foldl_cons]
    cases hahead : w.ahead side with
    | nil => rw [turn_of_nil hahead, ih h, hahead, List.take_nil, List.take_nil]
    | cons step rest =>
      obtain rfl := h.order side step rest hahead
      have hsame := h.perform_eq (by rw [next, hahead]; rfl)
      rw [List.take_succ_cons, TextFile.run]
      rcases hperform : step.perform path (texts side).toList w.files with ⟨files, outcome⟩
      rw [hperform] at hsame
      cases outcome with
      | error fault =>
        rw [turn_of_error hahead hsame, ih (h.gone files)]
        simp only [Side.set_self, List.take_nil, TextFile.run]
      | ok done =>
        rw [turn_of_ok hahead hsame, ih (h.done hperform)]
        simp only [Side.set_self]

end Alone

/-- As long as the other takes no turn, a writer takes the steps of a write. -/
theorem files_turns_replicate (path : Path) (texts : Side → String) (fs : FileSystem) (side : Side)
    (count : Nat) : (turns path texts fs (List.replicate count side)).files =
      TextFile.stopped path (texts side) fs count :=
  (Alone.start path texts fs side).files_foldl count

/-! ## Both on their way -/

/-- Two writes to a file, each of which has come so far; the file is not its own stand-in
once that is made. -/
structure Underway (fs : FileSystem) (path : Path) (w : Writers) : Prop where
  current : w.files.current = fs.current
  order : w.InOrder
  apart : ∀ side, IsLate (w.next side) →
    fs.destination path ≠ fs.destination (standIn path)

namespace Underway

theorem start (fs : FileSystem) (path : Path) : Underway fs path (start fs) :=
  ⟨rfl, inOrder_start fs, fun _ h => h.elim⟩

theorem set {files : FileSystem} {ahead : List Step} {opened : Side → Option Place}
    (h : Underway fs path w) (hcurrent : files.current = w.files.current)
    (horder : ∀ step rest, ahead = step :: rest → rest = step.behind)
    (hapart : IsLate ahead.head? → fs.destination path ≠ fs.destination (standIn path)) :
    Underway fs path ⟨files, side.set ahead w.ahead, opened⟩ := by
  refine ⟨hcurrent.trans h.current, h.order.set horder, (Side.forall_iff side).mpr ⟨?_, ?_⟩⟩
  · rw [next_set_self]
    exact hapart
  · rw [next_set_other]
    exact h.apart side.other

theorem destination (h : Underway fs path w) (other : Path) :
    w.files.destination other = fs.destination other :=
  FileSystem.destination_congr h.current other

/-- Off the way nothing has been made of the place of the file. -/
theorem at?_parentsMade (h : Underway fs path w)
    (hway : ¬ OnWay (fs.start path.isAbsolute) path.names.dropLast (fs.destination path)) :
    (parentsMade path w.files).at? (fs.destination path) =
      w.files.at? (fs.destination path) := by
  apply TextFile.at?_parentsMade
  rwa [FileSystem.start, h.current]

theorem turn (hname : (standIn path).fileName? ≠ none →
      fs.destination path ≠ fs.destination (standIn path))
    (h : Underway fs path w) (texts : Side → String) (side : Side) :
    Underway fs path (w.turn path texts side) := by
  have hturned := turned path texts h.order side
  generalize w.turn path texts side = after at hturned ⊢
  have hlate : ∀ {step}, w.next side = some step → IsLate (some step) →
      fs.destination path ≠ fs.destination (standIn path) := by
    intro step hnext hstep
    exact h.apart side (hnext ▸ hstep)
  cases hturned with
  | idle hnext => exact h
  | stopped hnext => exact h.set rfl nofun (·.elim)
  | parents hnext hahead =>
    have hcurrent := TextFile.current_parentsMade path w.files
    obtain rfl | rfl := hahead
    · exact h.set hcurrent nofun (·.elim)
    · exact h.set hcurrent (Step.behind_inOrder _) (·.elim)
  | created hnext hsome hfile => exact h.set rfl (Step.behind_inOrder _) fun _ => hname hsome
  | filled hnext =>
    exact h.set (current_fill _ _ _) (Step.behind_inOrder _) fun _ => hlate hnext trivial
  | synced hnext => exact h.set rfl (Step.behind_inOrder _) fun _ => hlate hnext trivial
  | published hnext hcontent hne hfile => exact h.set rfl nofun (·.elim)

end Underway

end Writers
end Storage
end RepoFeed
