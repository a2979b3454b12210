import RepoFeed.Proofs.Storage.Reach
import RepoFeed.Proofs.Storage.Replacement

/-
What the steps of a write leave for each other.

No step takes a directory away, so a path that could be followed once can be followed
from then on.  A write whose stand-in could be made has nothing left to fail of until the
stand-in is moved, and the last step changes no places but these two.
-/

namespace RepoFeed
namespace Storage

namespace FileSystem

variable {fs : FileSystem}

/-! ## Changes that succeed -/

theorem create_of_locate {route : Route} {place : Place} (h : fs.locate route = .ok place)
    (hname : route.endsInName = true) (hslash : route.endsInSlash = false)
    (hplace : fs.at? place ≠ some .directory) :
    fs.create route = .ok (fs.put place (.file [])) := by
  rw [create, h, ok_bind, hname, hslash]
  simp only [Bool.not_true, Bool.false_eq_true, or_self, if_false]

theorem fillFile_of_locate {route : Route} {place : Place} (h : fs.locate route = .ok place)
    (hplace : fs.at? place = some (.file [])) (content : Utf8.Octets) :
    fs.fillFile route content = .ok (fs.put place (.file content)) := by
  rw [fillFile, h, ok_bind, hplace]
  simp only [List.drop_nil, List.append_nil]

theorem rename_of_locate {source target : Route} {origin goal : Place} {content : Utf8.Octets}
    (hsource : fs.locate source = .ok origin) (htarget : fs.locate target = .ok goal)
    (hname : target.endsInName = true) (hslash : target.endsInSlash = false)
    (horigin : fs.at? origin = some (.file content)) (hgoal : fs.at? goal ≠ some .directory)
    (hne : origin ≠ goal) :
    fs.rename source target = .ok ((fs.remove origin).put goal (.file content)) := by
  rw [rename, hsource, ok_bind, htarget, ok_bind, hname, hslash, horigin]
  simp only [Bool.not_true, Bool.false_eq_true, if_false, if_neg hne]

end FileSystem

namespace TextFile

open FileSystem (KeepsDirectories Route)

variable {fs made filled after : FileSystem} {path : Path} {text : List Char} {fault : Fault}

/-! ## One step after the other -/

/-- No step of a write takes a directory away. -/
theorem keepsDirectories_perform (step : Step) (path : Path) (text : List Char)
    (fs : FileSystem) : KeepsDirectories fs (step.perform path text fs).1 := by
  cases step with
  | makeParents =>
    refine ⟨current_perform .makeParents path text fs, fun place h => ?_⟩
    obtain hsame | ⟨hnone, -⟩ := remains_makeParents path text fs place
    · exact hsame.trans h
    · rw [hnone] at h
      cases h
  | createStandIn =>
    simp only [Step.perform]
    cases hcreate : fs.create (.ofPath (standIn path)) with
    | error fault => exact .refl fs
    | ok created =>
      obtain ⟨-, place, -, hfree, rfl⟩ := FileSystem.create_eq_ok hcreate
      exact .put_file hfree []
  | fillStandIn =>
    simp only [Step.perform]
    cases hfill : fs.fillFile (.ofPath (standIn path)) (Utf8.encode text) with
    | error fault => exact .refl fs
    | ok filled =>
      obtain ⟨place, old, -, hold, rfl⟩ := FileSystem.fillFile_eq_ok hfill
      exact .put_file (by simp [hold]) _
  | syncStandIn => exact .refl fs
  | publish =>
    simp only [Step.perform]
    cases hrename : fs.rename (.ofPath (standIn path)) (.ofPath path) with
    | error fault => exact .refl fs
    | ok published =>
      obtain ⟨origin, goal, content, -, -, horigin, ⟨-, rfl⟩ | ⟨hne, hgoal, rfl⟩⟩ :=
        FileSystem.rename_eq_ok hrename
      · exact .refl published
      · have hremoved : KeepsDirectories fs (fs.remove origin) :=
          .remove (by simp [horigin])
        refine hremoved.trans (.put_file ?_ content)
        rwa [FileSystem.at?_remove_of_ne hne.symm]

theorem keepsDirectories_of_perform {step : Step} {outcome : Except Fault Unit}
    (h : step.perform path text fs = (after, outcome)) : KeepsDirectories fs after := by
  have hstep := keepsDirectories_perform step path text fs
  rwa [h] at hstep

theorem keepsDirectories_of_run {steps : List Step} {outcome : Except Fault Unit}
    (h : run path text fs steps = (after, outcome)) : KeepsDirectories fs after := by
  induction steps generalizing fs with
  | nil =>
    cases h
    exact .refl _
  | cons step steps ih =>
    rw [run] at h
    rcases hperform : step.perform path text fs with ⟨next, reached⟩
    have hstep := keepsDirectories_of_perform hperform
    rw [hperform] at h
    cases reached with
    | error fault =>
      cases h
      exact hstep
    | ok done => exact hstep.trans (ih h)

/-- A stand-in that could be made can be filled. -/
theorem run_of_createStandIn
    (h : Step.createStandIn.perform path text made = (after, .ok ())) :
    ∃ filled, run path text made [.createStandIn, .fillStandIn, .syncStandIn] =
      (filled, .ok ()) := by
  have hcreate := h
  rw [Step.perform, attempt_eq_ok] at hcreate
  obtain ⟨-, place, hlocate, hfree, rfl⟩ := FileSystem.create_eq_ok hcreate
  obtain ⟨filled, hfill⟩ : ∃ filled, (made.put place (.file [])).fillFile
      (.ofPath (standIn path)) (Utf8.encode text) = .ok filled :=
    ⟨_, FileSystem.fillFile_of_locate ((KeepsDirectories.put_file hfree []).locate hlocate)
      (FileSystem.at?_put_self (FileSystem.ne_nil_of_at? hfree) _) _⟩
  have hfillStep : Step.fillStandIn.perform path text (made.put place (.file [])) =
      (filled, .ok ()) := by
    rw [Step.perform, hfill, attempt]
  exact ⟨filled, run_cons_eq_ok.mpr ⟨_, h, run_cons_eq_ok.mpr ⟨filled, hfillStep, rfl⟩⟩⟩

/-! ## Up to the last step -/

/-- All steps of a write but the last: the text stands in the stand-in, which only has to
be moved into place. -/
def preparation : List Step :=
  [.makeParents, .createStandIn, .fillStandIn, .syncStandIn]

theorem write_eq (path : Path) (text : String) (fs : FileSystem) :
    write fs path text =
      match run path text.toList fs preparation with
      | (filled, .ok ()) => Step.publish.perform path text.toList filled
      | (after, .error fault) => (after, .error fault) := by
  have hsteps : steps = preparation ++ [.publish] := rfl
  rw [write, hsteps, run_append]
  rcases run path text.toList fs preparation with ⟨filled, outcome⟩
  cases outcome with
  | error fault => rfl
  | ok done => exact run_singleton .publish text.toList

/-- A write that is not prepared has made directories and nothing else. -/
theorem eq_parentsMade_of_error (h : run path text fs preparation = (after, .error fault)) :
    after = parentsMade path fs := by
  have hparents : parentsMade path fs = (Step.makeParents.perform path text fs).1 := rfl
  rw [preparation, run] at h
  rw [hparents]
  rcases hmake : Step.makeParents.perform path text fs with ⟨made, outcome⟩
  rw [hmake] at h
  cases outcome with
  | error fault =>
    cases h
    rfl
  | ok done =>
    dsimp only at h
    rcases hcreate : Step.createStandIn.perform path text made with ⟨created, outcome⟩
    cases outcome with
    | error fault =>
      rw [run, hcreate] at h
      cases h
      exact eq_of_perform_eq_error (by decide) hcreate
    | ok done =>
      obtain ⟨filled, hfilled⟩ := run_of_createStandIn hcreate
      rw [hfilled] at h
      cases h

/-- A write that is prepared has made directories and filled the stand-in. -/
theorem at?_prepared (h : run path text fs preparation = (filled, .ok ())) :
    filled.at? (fs.destination (standIn path)) = some (.file (Utf8.encode text)) ∧
      ∀ place, place ≠ fs.destination (standIn path) →
        filled.at? place = (parentsMade path fs).at? place := by
  obtain ⟨made, hmade, hrest⟩ := run_cons_eq_ok.mp h
  obtain rfl : parentsMade path fs = made := congrArg Prod.fst hmade
  have hcurrent := (keepsDirectories_of_run h).current
  have hstandIn := at?_standIn hrest
  rw [FileSystem.destination_congr hcurrent] at hstandIn
  refine ⟨hstandIn, fun place hplace => ?_⟩
  have hsame : (run path text (parentsMade path fs)
      [.createStandIn, .fillStandIn, .syncStandIn]).1.at? place = (parentsMade path fs).at? place :=
    at?_run (by decide) text (fun hin => absurd hin (by decide))
      (by rwa [FileSystem.destination_congr (current_parentsMade path fs)])
  rwa [hrest] at hsame

/-- Only a stand-in that has a name can be made. -/
theorem endsInName_standIn (h : run path text fs preparation = (filled, .ok ())) :
    (Route.ofPath (standIn path)).endsInName = true := by
  obtain ⟨made, -, hrest⟩ := run_cons_eq_ok.mp h
  obtain ⟨created, hcreate, -⟩ := run_cons_eq_ok.mp hrest
  rw [Step.perform, attempt_eq_ok] at hcreate
  exact (FileSystem.create_eq_ok hcreate).1

/-! ## The last step -/

/-- What is in the stand-in comes to the place of the file, and nothing else changes. -/
theorem at?_of_publish {content : Utf8.Octets}
    (hstandIn : filled.at? (filled.destination (standIn path)) = some (.file content))
    (h : Step.publish.perform path text filled = (after, .ok ())) :
    after.at? (filled.destination path) = some (.file content) ∧
      (filled.destination (standIn path) ≠ filled.destination path →
        after.at? (filled.destination (standIn path)) = none) ∧
      ∀ place, place ≠ filled.destination path → place ≠ filled.destination (standIn path) →
        after.at? place = filled.at? place := by
  have hrename := h
  rw [Step.perform, attempt_eq_ok] at hrename
  obtain ⟨origin, goal, moved, hfrom, hto, hmoved, hcases⟩ := FileSystem.rename_eq_ok hrename
  have horigin := FileSystem.locate_eq_ok hfrom
  have hgoal := FileSystem.locate_eq_ok hto
  rw [← horigin] at hstandIn ⊢
  rw [← hgoal]
  rw [hmoved] at hstandIn
  refine ⟨?_, fun hne => ?_, fun place hpath hplace => ?_⟩
  · obtain ⟨hsame, rfl⟩ | ⟨hne, hfree, rfl⟩ := hcases
    · rw [← hsame, hmoved, hstandIn]
    · rw [FileSystem.at?_put_self (FileSystem.ne_nil_of_at? hfree), hstandIn]
  · obtain ⟨hsame, -⟩ | ⟨-, -, rfl⟩ := hcases
    · exact absurd hsame hne
    · rw [FileSystem.at?_put_of_ne hne,
        FileSystem.at?_remove_self (FileSystem.ne_nil_of_file hmoved)]
  · rw [horigin] at hplace
    rw [hgoal] at hpath
    have hkept : (Step.publish.perform path text filled).1.at? place = filled.at? place :=
      at?_perform (by decide) text (fun _ => hpath) hplace
    rwa [h] at hkept

end TextFile
end Storage
end RepoFeed
