import RepoFeed.Proofs.Storage.TextFile
import RepoFeed.Proofs.Storage.Way
import RepoFeed.Proofs.Text.Utf8

/-
Writes that stop on the way.

A write is meant to replace a file in one step: wherever it stops, the file is as it
was or holds the new text.  Two kinds of paths stand against it.  A file that is its
own stand-in is emptied before it is filled.  A path that passes its own end has a
directory made where the file was to be.
-/

namespace RepoFeed
namespace Storage
namespace TextFile

open FileSystem (OnWay)

variable {fs : FileSystem} {path : Path}

/-! ## Stopping -/

/-- The files when a write stops after some of its steps, or in one of them that
fails. -/
def stopped (path : Path) (text : String) (fs : FileSystem) (count : Nat) : FileSystem :=
  (run path text.toList fs (steps.take count)).1

theorem current_stopped (path : Path) (text : String) (fs : FileSystem) (count : Nat) :
    (stopped path text fs count).current = fs.current :=
  current_run path text.toList fs (steps.take count)

theorem stopped_of_length_le {count : Nat} (h : 5 ≤ count) (text : String) :
    stopped path text fs count = (write fs path text).1 := by
  rw [stopped, List.take_of_length_le h, write]

/-- The files when the directories that a path needs are made, or as many of them as
can be. -/
def parentsMade (path : Path) (fs : FileSystem) : FileSystem :=
  (Step.makeParents.perform path [] fs).1

theorem current_parentsMade (path : Path) (fs : FileSystem) :
    (parentsMade path fs).current = fs.current :=
  current_perform .makeParents path [] fs

theorem remains_parentsMade (path : Path) (fs : FileSystem) (place : Place) :
    FileSystem.Remains (fs.at? place) ((parentsMade path fs).at? place) :=
  remains_makeParents path [] fs place

/-- Off the way to its last name a path has nothing made. -/
theorem at?_parentsMade {place : Place}
    (hway : ¬ OnWay (fs.start path.isAbsolute) path.names.dropLast place) :
    (parentsMade path fs).at? place = fs.at? place := by
  simp only [parentsMade, Step.perform]
  split
  · rfl
  · apply FileSystem.at?_makeDirectories
    rw [List.reverse_reverse]
    exact hway

/-! ## The file in between -/

/-- A place is as it was, or has a file with the new text. -/
def IsOldOrNew (before : Option Entry) (text : String) (after : Option Entry) : Prop :=
  after = before ∨ after = some (.file (Utf8.encode text.toList))

instance (before : Option Entry) (text : String) (after : Option Entry) :
    Decidable (IsOldOrNew before text after) :=
  inferInstanceAs (Decidable (_ ∨ _))

/-- With a stand-in of its own a file holds the old text until it holds the new one. -/
theorem isOldOrNew_run_of_ne (h : fs.destination path ≠ fs.destination (standIn path))
    (text : String) (count : Nat) :
    IsOldOrNew (fs.at? (fs.destination path)) text
      ((run path text.toList fs
        ([Step.createStandIn, .fillStandIn, .syncStandIn, .publish].take count)).1.at?
          (fs.destination path)) := by
  by_cases hcount : count ≤ 3
  · have hsplit : [Step.createStandIn, .fillStandIn, .syncStandIn, .publish] =
        [.createStandIn, .fillStandIn, .syncStandIn] ++ [.publish] := rfl
    rw [hsplit, List.take_append_of_le_length hcount]
    refine .inl (at?_run (fun hin => ?_) text.toList (fun hin => ?_) h)
    · exact absurd (List.mem_of_mem_take hin) (by decide)
    · exact absurd (List.mem_of_mem_take hin) (by decide)
  · rw [List.take_of_length_le (Nat.lt_of_not_le hcount)]
    exact at?_published text.toList h

/-- A file that is its own stand-in is empty until it holds the text, and stays where it
is. -/
theorem emptyOrFull_perform (h : fs.destination (standIn path) = fs.destination path)
    {text : List Char} {step : Step} (hstep : step ≠ .makeParents)
    (hbefore : fs.at? (fs.destination path) = some (.file []) ∨
      fs.at? (fs.destination path) = some (.file (Utf8.encode text))) :
    (step.perform path text fs).1.at? (fs.destination path) = some (.file []) ∨
      (step.perform path text fs).1.at? (fs.destination path) =
        some (.file (Utf8.encode text)) := by
  have hroot := hbefore.elim FileSystem.ne_nil_of_file FileSystem.ne_nil_of_file
  cases step with
  | makeParents => exact absurd rfl hstep
  | createStandIn =>
    simp only [Step.perform]
    cases hcreate : fs.create (.ofPath (standIn path)) with
    | error fault => exact hbefore
    | ok after =>
      obtain ⟨-, made, hlocate, -, rfl⟩ := FileSystem.create_eq_ok hcreate
      rw [FileSystem.locate_eq_ok hlocate, h]
      exact .inl (FileSystem.at?_put_self hroot _)
  | fillStandIn =>
    simp only [Step.perform]
    cases hfill : fs.fillFile (.ofPath (standIn path)) (Utf8.encode text) with
    | error fault => exact hbefore
    | ok after =>
      obtain ⟨filled, old, hlocate, hold, rfl⟩ := FileSystem.fillFile_eq_ok hfill
      rw [FileSystem.locate_eq_ok hlocate, h] at hold ⊢
      -- What is there is not longer than the text, so nothing of it is left behind.
      have hbehind : old.drop (Utf8.encode text).length = [] := by
        rw [hold] at hbefore
        obtain hbefore | hbefore := hbefore
        · cases hbefore
          exact List.drop_nil
        · cases hbefore
          exact List.drop_length
      right
      show FileSystem.at? (fs.put _ _) _ = _
      rw [FileSystem.at?_put_self hroot, hbehind, List.append_nil]
  | syncStandIn => exact hbefore
  | publish =>
    simp only [Step.perform]
    cases hrename : fs.rename (.ofPath (standIn path)) (.ofPath path) with
    | error fault => exact hbefore
    | ok after =>
      obtain ⟨origin, goal, content, hfrom, hto, -, ⟨-, rfl⟩ | ⟨hne, -, -⟩⟩ :=
        FileSystem.rename_eq_ok hrename
      · exact hbefore
      · rw [FileSystem.locate_eq_ok hfrom, FileSystem.locate_eq_ok hto] at hne
        exact absurd h hne

theorem emptyOrFull_run (h : fs.destination (standIn path) = fs.destination path)
    (text : List Char) {steps : List Step} (hsteps : .makeParents ∉ steps)
    (hbefore : fs.at? (fs.destination path) = some (.file []) ∨
      fs.at? (fs.destination path) = some (.file (Utf8.encode text))) :
    (run path text fs steps).1.at? (fs.destination path) = some (.file []) ∨
      (run path text fs steps).1.at? (fs.destination path) =
        some (.file (Utf8.encode text)) := by
  induction steps generalizing fs with
  | nil => exact hbefore
  | cons step steps ih =>
    rw [List.mem_cons, not_or] at hsteps
    have hcurrent := current_perform step path text fs
    have hstep := emptyOrFull_perform h (Ne.symm hsteps.1) hbefore
    rw [run]
    rcases hperform : step.perform path text fs with ⟨after, outcome⟩
    rw [hperform] at hcurrent hstep
    cases outcome with
    | error fault => exact hstep
    | ok done =>
      have hpath := FileSystem.destination_congr hcurrent path
      have hstandIn := FileSystem.destination_congr hcurrent (standIn path)
      rw [← hpath] at hstep ⊢
      exact ih (by rw [hpath, hstandIn, h]) hsteps.2 hstep

theorem at?_createStandIn {text : List Char} {after : FileSystem}
    (h : Step.createStandIn.perform path text fs = (after, .ok ())) :
    after.at? (fs.destination (standIn path)) = some (.file []) := by
  rw [Step.perform, attempt_eq_ok] at h
  obtain ⟨-, made, hlocate, hfile, rfl⟩ := FileSystem.create_eq_ok h
  rw [← FileSystem.locate_eq_ok hlocate]
  exact FileSystem.at?_put_self (FileSystem.ne_nil_of_at? hfile) _

/-- A file that is its own stand-in is as it was until it is made anew. -/
theorem isOldOrNew_run_of_eq (h : fs.destination (standIn path) = fs.destination path)
    {text : String} (hempty : text = "" ∨ fs.at? (fs.destination path) = some (.file []) ∨
      (Step.createStandIn.perform path text.toList fs).2 ≠ .ok ()) (count : Nat) :
    IsOldOrNew (fs.at? (fs.destination path)) text
      ((run path text.toList fs
        ([Step.createStandIn, .fillStandIn, .syncStandIn, .publish].take count)).1.at?
          (fs.destination path)) := by
  cases count with
  | zero => exact .inl rfl
  | succ count =>
    have hcurrent := current_perform .createStandIn path text.toList fs
    rw [List.take_succ_cons, run]
    rcases hcreate : Step.createStandIn.perform path text.toList fs with ⟨after, outcome⟩
    rw [hcreate] at hempty hcurrent
    cases outcome with
    | error fault => exact .inl (by rw [eq_of_perform_eq_error (by decide) hcreate])
    | ok done =>
      have hpath := FileSystem.destination_congr hcurrent path
      have hstandIn := FileSystem.destination_congr hcurrent (standIn path)
      have hmade := at?_createStandIn hcreate
      rw [h, ← hpath] at hmade
      have hrest : .makeParents ∉ [Step.fillStandIn, .syncStandIn, .publish].take count :=
        fun hin => absurd (List.mem_of_mem_take hin) (by decide)
      obtain hnil | hfull := emptyOrFull_run (by rw [hpath, hstandIn, h]) text.toList hrest
        (.inl hmade)
      · rw [hpath] at hnil
        obtain rfl | hbefore | hfailed := hempty
        · exact .inr hnil
        · exact .inl (hnil.trans hbefore.symm)
        · exact absurd rfl hfailed
      · rw [hpath] at hfull
        exact .inr hfull

/-! ## Writes that replace -/

/-- A write of a text has a moment at which it has emptied the file that it replaces: the
file is its own stand-in, and it can be made. -/
def Empties (path : Path) (text : String) (fs : FileSystem) : Prop :=
  text ≠ "" ∧ fs.destination (standIn path) = fs.destination path ∧
    fs.at? (fs.destination path) ≠ some (.file []) ∧
      (run path text.toList fs [.makeParents, .createStandIn]).2 = .ok ()

/-- The files when the directories are made and the first of the other steps taken. -/
theorem stopped_succ (path : Path) (text : String) (fs : FileSystem) (count : Nat) :
    (∃ fault, Step.makeParents.perform path text.toList fs = (parentsMade path fs, .error fault) ∧
      stopped path text fs (count + 1) = parentsMade path fs) ∨
    Step.makeParents.perform path text.toList fs = (parentsMade path fs, .ok ()) ∧
      stopped path text fs (count + 1) = (run path text.toList (parentsMade path fs)
        ([Step.createStandIn, .fillStandIn, .syncStandIn, .publish].take count)).1 := by
  have hmade : parentsMade path fs = (Step.makeParents.perform path text.toList fs).1 := rfl
  rw [stopped, steps, List.take_succ_cons, run, hmade]
  rcases Step.makeParents.perform path text.toList fs with ⟨made, outcome⟩
  cases outcome with
  | error fault => exact .inl ⟨fault, rfl, rfl⟩
  | ok done => exact .inr ⟨rfl, rfl⟩

theorem isOldOrNew_stopped
    (hparents : (parentsMade path fs).at? (fs.destination path) = fs.at? (fs.destination path))
    {text : String} (hempties : ¬ Empties path text fs) (count : Nat) :
    IsOldOrNew (fs.at? (fs.destination path)) text
      ((stopped path text fs count).at? (fs.destination path)) := by
  cases count with
  | zero => exact .inl rfl
  | succ count =>
    have hcurrent := current_parentsMade path fs
    have hpath := FileSystem.destination_congr hcurrent path
    have hstandIn := FileSystem.destination_congr hcurrent (standIn path)
    obtain ⟨fault, -, hstopped⟩ | ⟨hmade, hstopped⟩ := stopped_succ path text fs count
    · rw [hstopped]
      exact .inl hparents
    · rw [hstopped, ← hparents, ← hpath]
      by_cases h : fs.destination (standIn path) = fs.destination path
      · apply isOldOrNew_run_of_eq
        · rw [hpath, hstandIn, h]
        · rw [hpath, hparents]
          by_cases htext : text = ""
          · exact .inl htext
          · by_cases hold : fs.at? (fs.destination path) = some (.file [])
            · exact .inr (.inl hold)
            · refine .inr (.inr fun hcreate => hempties ⟨htext, h, hold, ?_⟩)
              rw [run, hmade]
              simp only [run_singleton, hcreate]
      · apply isOldOrNew_run_of_ne
        rw [hpath, hstandIn]
        exact Ne.symm h

namespace Empties

variable {text : String}

theorem exists_created (h : Empties path text fs) :
    Step.makeParents.perform path text.toList fs = (parentsMade path fs, .ok ()) ∧
      ∃ created, Step.createStandIn.perform path text.toList (parentsMade path fs) =
        (created, .ok ()) := by
  obtain ⟨made, hmade, hcreated⟩ := run_cons_eq_ok.mp (Prod.ext rfl h.2.2.2)
  obtain rfl : parentsMade path fs = made := congrArg Prod.fst hmade
  rw [run_singleton] at hcreated
  exact ⟨hmade, _, hcreated⟩

theorem at?_stopped (h : Empties path text fs) :
    (stopped path text fs 2).at? (fs.destination path) = some (.file []) := by
  obtain ⟨hmade, created, hcreated⟩ := h.exists_created
  have hempty := at?_createStandIn hcreated
  rw [FileSystem.destination_congr (current_parentsMade path fs), h.2.1] at hempty
  have hsteps : steps.take 2 = [.makeParents, .createStandIn] := rfl
  rw [stopped, hsteps, run, hmade]
  simp only [run_singleton, hcreated]
  exact hempty

/-- Only a stand-in with a name of its own can be made. -/
theorem fileName?_standIn (h : Empties path text fs) : (standIn path).fileName? ≠ none := by
  obtain ⟨-, created, hcreated⟩ := h.exists_created
  rw [Step.perform, attempt_eq_ok] at hcreated
  obtain ⟨name, hname⟩ := Path.exists_fileName? (FileSystem.create_eq_ok hcreated).1
  rw [hname]
  exact Option.some_ne_none name

end Empties

/-- A write replaces its file in one step exactly if no directory comes where the file is
to be and the file is not emptied first. -/
theorem isOldOrNew_stopped_iff (path : Path) (text : String) (fs : FileSystem) :
    (∀ count, IsOldOrNew (fs.at? (fs.destination path)) text
        ((stopped path text fs count).at? (fs.destination path))) ↔
      (parentsMade path fs).at? (fs.destination path) = fs.at? (fs.destination path) ∧
        ¬ Empties path text fs := by
  constructor
  · intro h
    refine ⟨?_, fun hempties => ?_⟩
    · have hstopped : stopped path text fs 1 = parentsMade path fs := by
        obtain ⟨-, -, hstopped⟩ | ⟨-, hstopped⟩ := stopped_succ path text fs 0
        · exact hstopped
        · exact hstopped
      have hfirst := h 1
      rw [hstopped] at hfirst
      obtain hkept | hnew := hfirst
      · exact hkept
      · have hold := ((remains_parentsMade path fs _).file_iff _).mp hnew
        exact hnew.trans hold.symm
    · have hsecond := h 2
      rw [hempties.at?_stopped] at hsecond
      obtain hold | hnew := hsecond
      · exact hempties.2.2.1 hold.symm
      · have hdecode := Utf8.decode?_encode text.toList
        rw [← Entry.file.inj (Option.some.inj hnew)] at hdecode
        exact hempties.1 (String.toList_eq_nil_iff.mp (Option.some.inj hdecode).symm)
  · intro h count
    exact isOldOrNew_stopped h.1 h.2 count

def oldTemp : FileSystem := ⟨[(["x.tmp"], .file (Utf8.encode "old".toList))], []⟩

/-- A file with the extension of stand-ins is emptied first, and a path that passes its
own end has a directory made there. -/
theorem not_isOldOrNew_stopped :
    ¬ IsOldOrNew (oldTemp.at? (oldTemp.destination ⟨"x.tmp"⟩)) "new"
        ((stopped ⟨"x.tmp"⟩ "new" oldTemp 2).at? (oldTemp.destination ⟨"x.tmp"⟩)) ∧
      ¬ IsOldOrNew (oldTemp.at? (oldTemp.destination ⟨"a/../a"⟩)) "new"
        ((stopped ⟨"a/../a"⟩ "new" oldTemp 5).at? (oldTemp.destination ⟨"a/../a"⟩)) := by
  decide

/-- Only a file with the extension of stand-ins is its own. -/
theorem extension?_of_destination_standIn {name : String} (hname : path.fileName? = some name)
    (hstandIn : (standIn path).fileName? ≠ none)
    (h : fs.destination (standIn path) = fs.destination path) :
    Path.extension? name.toList = some ['t', 'm', 'p'] := by
  obtain ⟨directory, hpath, hnone | ⟨start, hne, hstart⟩⟩ := FileSystem.destination_standIn fs hname
  · exact absurd hnone hstandIn
  · rw [hpath, hstart] at h
    rw [← FileSystem.name_inj h, String.toList_ofList, Path.extension?,
      Path.splitName_append (by decide), if_neg (by simpa using hne)]

/-- A file with another extension is replaced in one step, if its path does not turn
back. -/
theorem isOldOrNew_stopped_of_name {name : String} (hname : path.fileName? = some name)
    (hextension : Path.extension? name.toList ≠ some ['t', 'm', 'p'])
    (hdots : ".." ∉ path.names) (text : String) (count : Nat) :
    IsOldOrNew (fs.at? (fs.destination path)) text
      ((stopped path text fs count).at? (fs.destination path)) := by
  have hnames : path.names ≠ [] := by
    intro hnil
    have hlast := (Path.getLast?_of_fileName? hname).1
    rw [hnil] at hlast
    contradiction
  refine isOldOrNew_stopped (at?_parentsMade ?_) (fun hempties => ?_) count
  · exact FileSystem.not_onWay_dropLast hnames hdots
  · exact hextension
      (extension?_of_destination_standIn hname hempties.fileName?_standIn hempties.2.1)

/-- Whoever reads a text while another is written finds the old one or the new one. -/
theorem found_of_read_stopped {text found : String} {count : Nat}
    (h : IsOldOrNew (fs.at? (fs.destination path)) text
      ((stopped path text fs count).at? (fs.destination path)))
    (hread : read (stopped path text fs count) path = .ok (some found)) :
    found = text ∨ ∃ content, fs.at? (fs.destination path) = some (.file content) ∧
      Utf8.decode? content = some found.toList := by
  obtain ⟨content, hat, hdecode⟩ := at?_of_read hread
  rw [FileSystem.destination_congr (current_stopped path text fs count)] at hat
  obtain hold | hnew := h
  · exact .inr ⟨content, hold ▸ hat, hdecode⟩
  · rw [hnew] at hat
    cases hat
    rw [Utf8.decode?_encode] at hdecode
    exact .inl (String.toList_inj.mp (Option.some.inj hdecode)).symm

end TextFile
end Storage
end RepoFeed
