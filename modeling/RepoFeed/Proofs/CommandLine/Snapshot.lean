import RepoFeed.CommandLine.Program
import RepoFeed.Proofs.Refresh.Cache
import RepoFeed.Proofs.Refresh.Course
import RepoFeed.Proofs.Storage.FileStore

/-
The snapshot of a run, in the file where it is kept.

A run whose output lies elsewhere changes this file by storing what it has
fetched and in no other way.
-/

namespace RepoFeed
namespace CommandLine

open Storage (FileSystem)
open Storage.FileSystem (IsInside Remains)

variable {directory : Storage.Path} {key : String}

/-! ## The place of the snapshot -/

/-- Where the snapshot of a directory and a key is kept. -/
def snapshotPlace (directory : Storage.Path) (key : String) (files : FileSystem) : Storage.Place :=
  files.destination (Storage.entryPath directory key)

/-- No file has come or gone or changed where the snapshot is kept. -/
structure KeepsSnapshot (directory : Storage.Path) (key : String) (before after : Machine) :
    Prop where
  current : after.files.current = before.files.current
  remains : Remains (before.files.at? (snapshotPlace directory key before.files))
    (after.files.at? (snapshotPlace directory key before.files))

namespace KeepsSnapshot

theorem refl (m : Machine) : KeepsSnapshot directory key m m :=
  ⟨rfl, .refl _⟩

theorem trans {a b c : Machine} (hab : KeepsSnapshot directory key a b)
    (hbc : KeepsSnapshot directory key b c) : KeepsSnapshot directory key a c := by
  refine ⟨hbc.current.trans hab.current, hab.remains.trans ?_⟩
  have hplace : snapshotPlace directory key b.files = snapshotPlace directory key a.files :=
    Storage.FileSystem.destination_congr hab.current _
  rw [← hplace]
  exact hbc.remains

variable {options : Options} {sink : Sink}

/-- A target outside the directory leaves the snapshot alone. -/
theorem display {m : Machine}
    (houtput : ∀ text ∈ options.output,
      ¬ IsInside (m.files.destination directory) (m.files.destination ⟨text⟩)) (markup : String) :
    KeepsSnapshot directory key m ((options.target sink).display m markup).1 := by
  unfold Options.target
  cases hout : options.output with
  | none => exact ⟨rfl, .refl _⟩
  | some text =>
    simp only [Target.within, Target.file]
    refine ⟨Storage.TextFile.current_write m.files ⟨text⟩ markup, ?_⟩
    exact Storage.TextFile.remains_write_of_outside markup
      (Storage.FileSystem.isInside_entryPath m.files directory key) (houtput text hout)

/-- So it does wherever a refresh has come to before it shows a page. -/
theorem render_of_eq {invocation : Invocation} {m b c : Machine} {events : List Event}
    {outcome : Except Setback String}
    (houtput : ∀ text ∈ options.output,
      ¬ IsInside (m.files.destination directory) (m.files.destination ⟨text⟩))
    (h : KeepsSnapshot directory key m b)
    (hrender : (options.refresher invocation).render b events = (c, outcome)) :
    KeepsSnapshot directory key m c := by
  have houtput' : ∀ text ∈ options.output,
      ¬ IsInside (b.files.destination directory) (b.files.destination ⟨text⟩) := by
    intro text htext
    rw [Storage.FileSystem.destination_congr h.current,
      Storage.FileSystem.destination_congr h.current]
    exact houtput text htext
  exact h.trans (Refresher.state_of_render (KeepsSnapshot directory key) (.refl b)
    (display houtput') hrender)

end KeepsSnapshot

/-! ## Loading and storing -/

variable {options : Options} {invocation : Invocation} {m : Machine}

theorem files_save (hat : options.cacheAt invocation.environment = some directory)
    (events : List Event) (clock : Int) :
    ((options.refresher invocation).cache.save events clock m).1.files =
      ((Storage.fileStore directory).set m.files options.cacheKey
        (Cache.storedText events clock)).1 := by
  simp only [Options.refresher, hat, Option.map_some, Cache.fst_save, Storage.Store.within]

theorem load_of_get (hat : options.cacheAt invocation.environment = some directory) {text : String}
    (hget : (Storage.fileStore directory).get m.files options.cacheKey = .ok (some text))
    (hne : text ≠ "") (now : Int) :
    ((options.refresher invocation).cache.load now m).1 = (Cache.judge now text).1 := by
  simp only [Options.refresher, hat, Option.map_some]
  rw [Cache.load_within, Cache.load_of_get hget hne]

/-- What a run stores is the snapshot of the events that it shows. -/
theorem snapshot_of_save
    (hcache : options.cacheKey = key ∧
      ∀ other ∈ options.cacheAt invocation.environment, other = directory)
    (events : List Event) (clock : Int) :
    ((options.refresher invocation).cache.save events clock m).1.files.current =
        m.files.current ∧
      (Remains (m.files.at? (snapshotPlace directory key m.files))
          (((options.refresher invocation).cache.save events clock m).1.files.at?
            (snapshotPlace directory key m.files)) ∨
        ((options.refresher invocation).cache.save events clock m).1.files.at?
          (snapshotPlace directory key m.files) =
            some (.file (Utf8.encode (Cache.storedText events clock).toList))) := by
  obtain ⟨rfl, hdirectory⟩ := hcache
  cases hat : options.cacheAt invocation.environment with
  | none =>
    have hsave : ((options.refresher invocation).cache.save events clock m).1 = m := by
      simp only [Options.refresher, Cache.save, hat, Option.map_none]
    rw [hsave]
    exact ⟨rfl, .inl (.refl _)⟩
  | some other =>
    obtain rfl := hdirectory other hat
    rw [files_save hat]
    exact ⟨Storage.current_set _, Storage.at?_set _⟩

/-! ## Refreshes -/

/-- A refresh leaves the snapshot as it was or stores what it has fetched. -/
theorem snapshot_of_course {clock : Int} {reply : Reply} {quota : Quota}
    {result : Except Setback Freshening} {after : Machine} {shown : List String}
    {requests : List Request}
    (hcourse : Refresher.Course (options.refresher invocation) clock reply quota m result after
      shown requests)
    (hcache : options.cacheKey = key ∧
      ∀ other ∈ options.cacheAt invocation.environment, other = directory)
    (houtput : ∀ text ∈ options.output,
      ¬ IsInside (m.files.destination directory) (m.files.destination ⟨text⟩)) :
    after.files.current = m.files.current ∧
      (Remains (m.files.at? (snapshotPlace directory key m.files))
          (after.files.at? (snapshotPlace directory key m.files)) ∨
        ∃ events, requests = [(options.refresher invocation).endpoint.request
            (options.refresher invocation).token] ∧
          (Exchange.hear (options.refresher invocation).endpoint quota reply).result =
            .ok events ∧
          after.files.at? (snapshotPlace directory key m.files) =
            some (.file (Utf8.encode (Cache.storedText events clock).toList))) := by
  have hbefore : ∀ {before : Machine} {shown : List String},
      Refresher.Preview (options.refresher invocation) clock m before shown →
        KeepsSnapshot directory key m before := by
    intro before shown hpreview
    cases hpreview with
    | nothing => exact .refl m
    | stale _ _ _ hrender => exact .render_of_eq houtput (.refl m) hrender
  cases hcourse with
  | cached _ _ hrender =>
    have hkeeps : KeepsSnapshot directory key m after := .render_of_eq houtput (.refl m) hrender
    exact ⟨hkeeps.current, .inl hkeeps.remains⟩
  | snapshotNotShown _ _ hrender =>
    have hkeeps : KeepsSnapshot directory key m after := .render_of_eq houtput (.refl m) hrender
    exact ⟨hkeeps.current, .inl hkeeps.remains⟩
  | unheard hpreview => exact ⟨(hbefore hpreview).current, .inl (hbefore hpreview).remains⟩
  | notShown hpreview _ hrender =>
    have hkeeps := KeepsSnapshot.render_of_eq houtput (hbefore hpreview) hrender
    exact ⟨hkeeps.current, .inl hkeeps.remains⟩
  | @fetched before shownState shown events markup hpreview hhear hrender =>
    have hkeeps := KeepsSnapshot.render_of_eq houtput (hbefore hpreview) hrender
    have hplace : snapshotPlace directory key shownState.files =
        snapshotPlace directory key m.files :=
      Storage.FileSystem.destination_congr hkeeps.current _
    obtain ⟨hcurrent, hsaved⟩ := snapshot_of_save (m := shownState) hcache events clock
    rw [hplace] at hsaved
    exact ⟨hcurrent.trans hkeeps.current,
      hsaved.imp hkeeps.remains.trans fun hstored => ⟨events, rfl, hhear, hstored⟩⟩

end CommandLine
end RepoFeed
