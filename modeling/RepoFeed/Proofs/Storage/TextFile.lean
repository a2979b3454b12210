import RepoFeed.Proofs.Storage.FileSystem

/-
What writing a text file does to the files around it.

A write touches the file and its stand-in, which lie in one directory, and makes
the directories that it needs.  Whatever step it fails in, all other places stay
as they were.
-/

namespace RepoFeed
namespace Storage

namespace FileSystem

variable {fs : FileSystem} {path : Path}

/-! ## Neighbours -/

/-- The directory that the beginning of a path leads to. -/
def directoryAt (fs : FileSystem) (before : List Char) : Place :=
  (Path.namesIn before).foldl follow (fs.start (before.head? == some '/'))

theorem destination_of_parts {before ending : List Char} {name : String}
    (h : Path.Parts path.text.toList before name ending) (hdots : name ≠ "..") :
    fs.destination path = fs.directoryAt before ++ [name] := by
  have hnames : path.names = Path.namesIn before ++ [name] := h.namesIn_eq
  have hdot : name ≠ "." := by
    intro heq
    subst heq
    exact h.isName.ne_dot rfl
  rw [destination, hnames, List.foldl_append, Path.isAbsolute_of_parts h]
  show follow _ name = _
  rw [follow, if_neg hdot, if_neg hdots]
  rfl

/-- A file and its stand-in lie in the same directory. -/
theorem destination_standIn (fs : FileSystem) {name : String} (h : path.fileName? = some name) :
    ∃ directory : Place, fs.destination path = directory ++ [name] ∧
      ((TextFile.standIn path).fileName? = none ∨ ∃ start, start ≠ [] ∧
        fs.destination (TextFile.standIn path) =
          directory ++ [String.ofList (start ++ ['.', 't', 'm', 'p'])]) := by
  obtain ⟨before, ending, last, rest, hparts, hstandIn, hcases⟩ := Path.standIn_cases h
  refine ⟨fs.directoryAt before, destination_of_parts hparts (Path.getLast?_of_fileName? h).2,
    hcases.imp_right ?_⟩
  intro hstart
  obtain ⟨start, hne, rfl⟩ := hstart
  refine ⟨start, hne, destination_of_parts hstandIn fun hdots => ?_⟩
  have hlength := congrArg (List.length ∘ String.toList) hdots
  simp [String.toList_ofList] at hlength

/-- Inside a directory, at any depth. -/
def IsInside (directory place : Place) : Prop :=
  directory <+: place ∧ place ≠ directory

instance (directory place : Place) : Decidable (IsInside directory place) :=
  inferInstanceAs (Decidable (_ ∧ _))

theorem isInside_concat {directory place : Place} {name : String} :
    IsInside directory (place ++ [name]) ↔ directory <+: place := by
  rw [IsInside, List.prefix_concat_iff]
  constructor
  · intro h
    obtain ⟨h | h, hne⟩ := h
    · exact absurd h.symm hne
    · exact h
  · intro h
    refine ⟨.inr h, fun heq => ?_⟩
    have hlength := h.length_le
    rw [← heq, List.length_append, List.length_singleton] at hlength
    omega

end FileSystem

namespace TextFile

variable {fs : FileSystem} {path : Path}

open FileSystem (Remains)

/-! ## Frames -/

theorem current_perform (step : Step) (path : Path) (text : List Char) (fs : FileSystem) :
    (step.perform path text fs).1.current = fs.current := by
  cases step with
  | makeParents =>
    simp only [Step.perform]
    split
    · rfl
    · exact FileSystem.current_makeDirectories _ _
  | createStandIn =>
    simp only [Step.perform]
    cases hcreate : fs.create (.ofPath (standIn path)) with
    | error fault => rfl
    | ok after =>
      obtain ⟨-, made, -, -, rfl⟩ := FileSystem.create_eq_ok hcreate
      rfl
  | fillStandIn =>
    simp only [Step.perform]
    cases hfill : fs.fillFile (.ofPath (standIn path)) (Utf8.encode text) with
    | error fault => rfl
    | ok after =>
      obtain ⟨filled, old, -, -, rfl⟩ := FileSystem.fillFile_eq_ok hfill
      rfl
  | syncStandIn => rfl
  | publish =>
    simp only [Step.perform]
    cases hrename : fs.rename (.ofPath (standIn path)) (.ofPath path) with
    | error fault => rfl
    | ok after =>
      obtain ⟨origin, goal, content, -, -, -, ⟨-, rfl⟩ | ⟨-, -, rfl⟩⟩ :=
        FileSystem.rename_eq_ok hrename
      · rfl
      · rfl

/-- Once the directories are made, a write touches the file and its stand-in only. -/
theorem at?_perform {step : Step} (hstep : step ≠ .makeParents) (text : List Char) {place : Place}
    (hpath : step = .publish → place ≠ fs.destination path)
    (hstandIn : place ≠ fs.destination (standIn path)) :
    (step.perform path text fs).1.at? place = fs.at? place := by
  cases step with
  | makeParents => exact absurd rfl hstep
  | createStandIn =>
    simp only [Step.perform]
    cases hcreate : fs.create (.ofPath (standIn path)) with
    | error fault => rfl
    | ok after =>
      obtain ⟨-, made, hlocate, -, rfl⟩ := FileSystem.create_eq_ok hcreate
      rw [FileSystem.locate_eq_ok hlocate]
      exact FileSystem.at?_put_of_ne hstandIn _
  | fillStandIn =>
    simp only [Step.perform]
    cases hfill : fs.fillFile (.ofPath (standIn path)) (Utf8.encode text) with
    | error fault => rfl
    | ok after =>
      obtain ⟨filled, old, hlocate, -, rfl⟩ := FileSystem.fillFile_eq_ok hfill
      rw [FileSystem.locate_eq_ok hlocate]
      exact FileSystem.at?_put_of_ne hstandIn _
  | syncStandIn => rfl
  | publish =>
    simp only [Step.perform]
    cases hrename : fs.rename (.ofPath (standIn path)) (.ofPath path) with
    | error fault => rfl
    | ok after =>
      obtain ⟨origin, goal, content, hfrom, hto, -, hcases⟩ := FileSystem.rename_eq_ok hrename
      obtain ⟨-, rfl⟩ | ⟨-, -, rfl⟩ := hcases
      · rfl
      · rw [FileSystem.locate_eq_ok hfrom, FileSystem.locate_eq_ok hto]
        exact (FileSystem.at?_put_of_ne (hpath rfl) _).trans (FileSystem.at?_remove_of_ne hstandIn)

theorem remains_makeParents (path : Path) (text : List Char) (fs : FileSystem) (place : Place) :
    Remains (fs.at? place) ((Step.makeParents.perform path text fs).1.at? place) := by
  simp only [Step.perform]
  split
  · exact .refl _
  · exact FileSystem.remains_makeDirectories _ _ place

theorem remains_perform (step : Step) (text : List Char) {place : Place}
    (hpath : step = .publish → place ≠ fs.destination path)
    (hstandIn : place ≠ fs.destination (standIn path)) :
    Remains (fs.at? place) ((step.perform path text fs).1.at? place) := by
  by_cases hstep : step = .makeParents
  · subst hstep
    exact remains_makeParents path text fs place
  · exact .inl (at?_perform hstep text hpath hstandIn)

theorem current_run (path : Path) (text : List Char) (fs : FileSystem) (steps : List Step) :
    (run path text fs steps).1.current = fs.current := by
  induction steps generalizing fs with
  | nil => rfl
  | cons step steps ih =>
    have hstep := current_perform step path text fs
    rw [run]
    rcases hperform : step.perform path text fs with ⟨after, outcome⟩
    rw [hperform] at hstep
    cases outcome with
    | error fault => exact hstep
    | ok done => exact (ih after).trans hstep

theorem remains_run (steps : List Step) (text : List Char) {place : Place}
    (hpath : .publish ∈ steps → place ≠ fs.destination path)
    (hstandIn : place ≠ fs.destination (standIn path)) :
    Remains (fs.at? place) ((run path text fs steps).1.at? place) := by
  induction steps generalizing fs with
  | nil => exact .refl _
  | cons step steps ih =>
    have hcurrent := current_perform step path text fs
    have hstep := remains_perform step text (fun h => hpath (h ▸ List.mem_cons_self)) hstandIn
    rw [run]
    rcases hperform : step.perform path text fs with ⟨after, outcome⟩
    rw [hperform] at hcurrent hstep
    cases outcome with
    | error fault => exact hstep
    | ok done =>
      apply hstep.trans
      apply ih
      · intro hpublish
        rw [FileSystem.destination_congr hcurrent]
        exact hpath (List.mem_cons_of_mem step hpublish)
      · rw [FileSystem.destination_congr hcurrent]
        exact hstandIn

theorem at?_run {steps : List Step} (hsteps : .makeParents ∉ steps) (text : List Char)
    {place : Place} (hpath : .publish ∈ steps → place ≠ fs.destination path)
    (hstandIn : place ≠ fs.destination (standIn path)) :
    (run path text fs steps).1.at? place = fs.at? place := by
  induction steps generalizing fs with
  | nil => rfl
  | cons step steps ih =>
    rw [List.mem_cons, not_or] at hsteps
    have hcurrent := current_perform step path text fs
    have hstep := at?_perform (Ne.symm hsteps.1) text (fun h => hpath (h ▸ List.mem_cons_self))
      hstandIn
    rw [run]
    rcases hperform : step.perform path text fs with ⟨after, outcome⟩
    rw [hperform] at hcurrent hstep
    cases outcome with
    | error fault => exact hstep
    | ok done =>
      refine (ih hsteps.2 ?_ ?_).trans hstep
      · intro hpublish
        rw [FileSystem.destination_congr hcurrent]
        exact hpath (List.mem_cons_of_mem step hpublish)
      · rw [FileSystem.destination_congr hcurrent]
        exact hstandIn

theorem current_write (fs : FileSystem) (path : Path) (text : String) :
    (write fs path text).1.current = fs.current :=
  current_run path text.toList fs steps

/-- A stand-in without a name of its own is never made. -/
theorem write_of_none (h : (standIn path).fileName? = none) (text : String) :
    (write fs path text).1 = (Step.makeParents.perform path text.toList fs).1 := by
  rw [write, steps, run]
  rcases hmake : Step.makeParents.perform path text.toList fs with ⟨made, outcome⟩
  cases outcome with
  | error fault => rfl
  | ok done =>
    simp only [run, Step.perform]
    cases hcreate : made.create (.ofPath (standIn path)) with
    | error fault => rfl
    | ok after =>
      obtain ⟨name, hname⟩ := Path.exists_fileName? (FileSystem.create_eq_ok hcreate).1
      exact nomatch h.symm.trans hname

theorem remains_write_of_none (h : (standIn path).fileName? = none) (text : String)
    (place : Place) : Remains (fs.at? place) ((write fs path text).1.at? place) := by
  rw [write_of_none h]
  exact remains_makeParents path text.toList fs place

theorem remains_write {place : Place} (text : String) (hpath : place ≠ fs.destination path)
    (hstandIn : (standIn path).fileName? ≠ none → place ≠ fs.destination (standIn path)) :
    Remains (fs.at? place) ((write fs path text).1.at? place) := by
  by_cases h : (standIn path).fileName? = none
  · exact remains_write_of_none h text place
  · exact remains_run steps text.toList (fun _ => hpath) (hstandIn h)

/-- A file that lies outside a directory is written without a change to what is
inside. -/
theorem remains_write_of_outside {directory place : Place} (text : String)
    (hinside : FileSystem.IsInside directory place)
    (houtside : ¬ FileSystem.IsInside directory (fs.destination path)) :
    Remains (fs.at? place) ((write fs path text).1.at? place) := by
  apply remains_write
  · intro heq
    subst heq
    exact houtside hinside
  · intro hsome heq
    cases hname : path.fileName? with
    | none =>
      rw [Path.standIn_of_none hname] at hsome
      exact hsome hname
    | some name =>
      obtain ⟨parent, hpath, hnone | ⟨start, -, hstart⟩⟩ := FileSystem.destination_standIn fs hname
      · exact hsome hnone
      · rw [hpath, FileSystem.isInside_concat] at houtside
        rw [heq, hstart, FileSystem.isInside_concat] at hinside
        exact houtside hinside

/-! ## Contents -/

theorem at?_of_read {text : String} (h : read fs path = .ok (some text)) :
    ∃ content, fs.at? (fs.destination path) = some (.file content) ∧
      Utf8.decode? content = some text.toList := by
  unfold read at h
  split at h
  · cases h
  · cases h
  · rename_i content hlookup
    obtain ⟨place, hlocate, hat⟩ := bind_eq_ok.mp hlookup
    rw [FileSystem.locate_eq_ok hlocate] at hat
    split at hat
    · cases hat
    · split at hat
      · cases hat
      · cases hat
        refine ⟨content, ‹_›, ?_⟩
        split at h
        · cases h
          rwa [String.toList_ofList]
        · cases h
    · cases hat

theorem run_cons_eq_ok {step : Step} {steps : List Step} {text : List Char} {after : FileSystem} :
    run path text fs (step :: steps) = (after, .ok ()) ↔
      ∃ next, step.perform path text fs = (next, .ok ()) ∧
        run path text next steps = (after, .ok ()) := by
  rw [run]
  rcases step.perform path text fs with ⟨next, outcome⟩
  cases outcome with
  | error fault => simp
  | ok done => simp

theorem run_singleton (step : Step) (text : List Char) :
    run path text fs [step] = step.perform path text fs := by
  rw [run]
  rcases step.perform path text fs with ⟨after, outcome⟩
  cases outcome with
  | error fault => rfl
  | ok done => rfl

theorem run_append (a b : List Step) (text : List Char) :
    run path text fs (a ++ b) =
      match run path text fs a with
      | (fs, .ok ()) => run path text fs b
      | (fs, .error fault) => (fs, .error fault) := by
  induction a generalizing fs with
  | nil => rfl
  | cons step a ih =>
    rw [List.cons_append, run, run]
    rcases step.perform path text fs with ⟨next, outcome⟩
    cases outcome with
    | error fault => rfl
    | ok done => exact ih

theorem attempt_eq_ok {result : Except Fault FileSystem} {after : FileSystem} :
    attempt fs result = (after, .ok ()) ↔ result = .ok after := by
  cases result <;> simp [attempt]

theorem attempt_eq_error {result : Except Fault FileSystem} {after : FileSystem} {fault : Fault} :
    attempt fs result = (after, .error fault) ↔ fs = after ∧ result = .error fault := by
  cases result <;> simp [attempt]

/-- Once the directories are made, a step that fails changes nothing. -/
theorem eq_of_perform_eq_error {step : Step} (hstep : step ≠ .makeParents) {text : List Char}
    {after : FileSystem} {fault : Fault}
    (h : step.perform path text fs = (after, .error fault)) : after = fs := by
  cases step with
  | makeParents => exact absurd rfl hstep
  | createStandIn =>
    rw [Step.perform, attempt_eq_error] at h
    exact h.1.symm
  | fillStandIn =>
    rw [Step.perform, attempt_eq_error] at h
    exact h.1.symm
  | syncStandIn => cases h
  | publish =>
    rw [Step.perform, attempt_eq_error] at h
    exact h.1.symm

/-- Before it is published, a text stands in the stand-in. -/
theorem at?_standIn {text : List Char} {after : FileSystem}
    (h : run path text fs [.createStandIn, .fillStandIn, .syncStandIn] = (after, .ok ())) :
    after.at? (after.destination (standIn path)) = some (.file (Utf8.encode text)) := by
  obtain ⟨created, hcreate, h⟩ := run_cons_eq_ok.mp h
  obtain ⟨filled, hfill, h⟩ := run_cons_eq_ok.mp h
  cases h
  simp only [Step.perform, attempt_eq_ok] at hcreate hfill
  obtain ⟨-, place, hcreated, hfile, rfl⟩ := FileSystem.create_eq_ok hcreate
  obtain ⟨other, old, hfilled, hold, rfl⟩ := FileSystem.fillFile_eq_ok hfill
  have hplace : place = fs.destination (standIn path) := FileSystem.locate_eq_ok hcreated
  have hroot := FileSystem.ne_nil_of_at? hfile
  obtain rfl : other = place := (FileSystem.locate_eq_ok hfilled).trans hplace.symm
  rw [FileSystem.at?_put_self hroot] at hold
  cases hold
  show FileSystem.at? _ (fs.destination (standIn path)) = _
  rw [← hplace, FileSystem.at?_put_self hroot, List.drop_nil, List.append_nil]

/-- What is published is the text, or nothing is. -/
theorem at?_published (text : List Char)
    (h : fs.destination path ≠ fs.destination (standIn path)) :
    (run path text fs [.createStandIn, .fillStandIn, .syncStandIn, .publish]).1.at?
        (fs.destination path) = fs.at? (fs.destination path) ∨
      (run path text fs [.createStandIn, .fillStandIn, .syncStandIn, .publish]).1.at?
        (fs.destination path) = some (.file (Utf8.encode text)) := by
  have hsplit : [Step.createStandIn, .fillStandIn, .syncStandIn, .publish] =
      [.createStandIn, .fillStandIn, .syncStandIn] ++ [.publish] := rfl
  have hkept : (run path text fs [.createStandIn, .fillStandIn, .syncStandIn]).1.at?
      (fs.destination path) = fs.at? (fs.destination path) :=
    at?_run (by decide) text (fun hpublish => absurd hpublish (by decide)) h
  have hcurrent := current_run path text fs [.createStandIn, .fillStandIn, .syncStandIn]
  rw [hsplit, run_append]
  rcases hrun : run path text fs [.createStandIn, .fillStandIn, .syncStandIn]
    with ⟨after, outcome⟩
  rw [hrun] at hkept hcurrent
  cases outcome with
  | error fault => exact .inl hkept
  | ok done =>
    have hfilled := at?_standIn hrun
    simp only [run, Step.perform]
    cases hrename : after.rename (.ofPath (standIn path)) (.ofPath path) with
    | error fault => exact .inl hkept
    | ok published =>
      obtain ⟨origin, goal, content, hfrom, hto, hcontent, hcases⟩ :=
        FileSystem.rename_eq_ok hrename
      rw [FileSystem.locate_eq_ok hfrom, hfilled] at hcontent
      cases hcontent
      rw [FileSystem.locate_eq_ok hfrom, FileSystem.locate_eq_ok hto,
        FileSystem.destination_congr hcurrent, FileSystem.destination_congr hcurrent] at hcases
      obtain ⟨hsame, -⟩ | ⟨-, hdirectory, rfl⟩ := hcases
      · exact absurd hsame.symm h
      · right
        refine FileSystem.at?_put_self (fun hroot => ?_) _
        rw [hroot] at hdirectory
        exact hdirectory rfl

/-- A write leaves the place of a file as it was or with the text, given that the
stand-in has a place of its own. -/
theorem at?_write_self (text : String)
    (hstandIn : (standIn path).fileName? ≠ none →
      fs.destination path ≠ fs.destination (standIn path)) :
    Remains (fs.at? (fs.destination path))
        ((write fs path text).1.at? (fs.destination path)) ∨
      (write fs path text).1.at? (fs.destination path) =
        some (.file (Utf8.encode text.toList)) := by
  by_cases hnone : (standIn path).fileName? = none
  · exact .inl (remains_write_of_none hnone text _)
  have h := hstandIn hnone
  have hparents := remains_makeParents path text.toList fs (fs.destination path)
  have hcurrent := current_perform .makeParents path text.toList fs
  rw [write, steps, run]
  rcases hmake : Step.makeParents.perform path text.toList fs with ⟨made, outcome⟩
  rw [hmake] at hparents hcurrent
  cases outcome with
  | error fault => exact .inl hparents
  | ok done =>
    have hplace := FileSystem.destination_congr hcurrent path
    rw [← hplace, ← FileSystem.destination_congr hcurrent (standIn path)] at h
    rw [← hplace] at hparents ⊢
    obtain hkept | hwritten := at?_published text.toList h
    · left
      show Remains _ ((run path text.toList made _).1.at? _)
      rw [hkept]
      exact hparents
    · exact .inr hwritten

end TextFile
end Storage
end RepoFeed
