import RepoFeed.Proofs.Storage.TextFile
import RepoFeed.Proofs.Storage.Way

/-
Paths that can be followed.

A path can be followed as long as the directories on its way stand.  Nothing that
is done here takes a directory away, so what can be followed once can be followed
from then on.
-/

namespace RepoFeed
namespace Storage
namespace FileSystem

variable {fs after : FileSystem}

/-! ## Directories that stay -/

/-- No directory has gone, and relative paths start where they did. -/
structure KeepsDirectories (before after : FileSystem) : Prop where
  current : after.current = before.current
  directory : ∀ place, before.at? place = some .directory → after.at? place = some .directory

namespace KeepsDirectories

theorem refl (fs : FileSystem) : KeepsDirectories fs fs :=
  ⟨rfl, fun _ h => h⟩

theorem trans {a b c : FileSystem} (hab : KeepsDirectories a b) (hbc : KeepsDirectories b c) :
    KeepsDirectories a c :=
  ⟨hbc.current.trans hab.current, fun place h => hbc.directory place (hab.directory place h)⟩

theorem put_directory (fs : FileSystem) (place : Place) :
    KeepsDirectories fs (fs.put place .directory) := by
  refine ⟨rfl, fun other h => ?_⟩
  by_cases hroot : other = []
  · subst hroot
    rfl
  · by_cases hother : other = place
    · subst hother
      exact at?_put_self hroot _
    · rw [at?_put_of_ne hother]
      exact h

theorem put_file {place : Place} (h : fs.at? place ≠ some .directory) (content : Utf8.Octets) :
    KeepsDirectories fs (fs.put place (.file content)) := by
  refine ⟨rfl, fun other hother => ?_⟩
  have hne : other ≠ place := by
    intro heq
    subst heq
    exact h hother
  rw [at?_put_of_ne hne]
  exact hother

theorem remove {place : Place} (h : fs.at? place ≠ some .directory) :
    KeepsDirectories fs (fs.remove place) := by
  refine ⟨rfl, fun other hother => ?_⟩
  have hne : other ≠ place := by
    intro heq
    subst heq
    exact h hother
  rw [at?_remove_of_ne hne]
  exact hother

end KeepsDirectories

/-! ## Following paths -/

theorem at?_of_child {directory place : Place} {piece : String}
    (h : fs.child directory piece = .ok place) : fs.at? directory = some .directory := by
  unfold child at h
  split at h
  · contradiction
  · contradiction
  · assumption

theorem child_congr {directory : Place} (hbefore : fs.at? directory = some .directory)
    (hafter : after.at? directory = some .directory) (piece : String) :
    after.child directory piece = fs.child directory piece := by
  rw [child, child, hbefore, hafter]

theorem child_of_name {directory : Place} {name : String}
    (h : fs.at? directory = some .directory) (hdot : name ≠ ".") (hdots : name ≠ "..")
    (hlength : octetCount name ≤ longestName) :
    fs.child directory name = .ok (directory ++ [name]) := by
  simp only [child, h, if_neg hdot, if_neg hdots, if_neg (Nat.not_lt_of_le hlength)]

theorem walk_append {front pieces : List String} {start place : Place}
    (h : fs.walk start front = .ok place) :
    fs.walk start (front ++ pieces) = fs.walk place pieces := by
  induction front generalizing start with
  | nil =>
    cases h
    rfl
  | cons piece front ih =>
    obtain ⟨next, hnext, hrest⟩ := bind_eq_ok.mp h
    rw [List.cons_append, walk, hnext]
    exact ih hrest

theorem at?_of_walk {pieces : List String} {start place : Place}
    (h : fs.walk start pieces = .ok place) (hplace : fs.at? place = some .directory) :
    fs.at? start = some .directory := by
  cases pieces with
  | nil =>
    cases h
    exact hplace
  | cons piece pieces =>
    obtain ⟨next, hnext, -⟩ := bind_eq_ok.mp h
    exact at?_of_child hnext

/-- Single dots between names do not lead anywhere else. -/
theorem walk_of_filter {pieces : List String} {start place : Place}
    (h : fs.walk start (pieces.filter (· != ".")) = .ok place)
    (hplace : fs.at? place = some .directory) : fs.walk start pieces = .ok place := by
  induction pieces generalizing start with
  | nil => exact h
  | cons piece pieces ih =>
    by_cases hdot : piece = "."
    · rw [List.filter_cons_of_neg (by simp [hdot])] at h
      have hchild : fs.child start piece = .ok start := by
        simp only [child, at?_of_walk h hplace, if_pos hdot]
      rw [walk, hchild]
      exact ih h
    · rw [List.filter_cons_of_pos (by simp [hdot])] at h
      obtain ⟨next, hnext, hrest⟩ := bind_eq_ok.mp h
      rw [walk, hnext]
      exact ih hrest

theorem KeepsDirectories.walk (hkeeps : KeepsDirectories fs after) {pieces : List String}
    {start place : Place} (h : fs.walk start pieces = .ok place) :
    after.walk start pieces = .ok place := by
  induction pieces generalizing start with
  | nil => exact h
  | cons piece pieces ih =>
    obtain ⟨next, hnext, hrest⟩ := bind_eq_ok.mp h
    have hstart := at?_of_child hnext
    have hchild : after.child start piece = .ok next :=
      (child_congr hstart (hkeeps.directory start hstart) piece).trans hnext
    rw [FileSystem.walk, hchild]
    exact ih hrest

theorem KeepsDirectories.locate (hkeeps : KeepsDirectories fs after) {route : Route}
    {place : Place} (h : fs.locate route = .ok place) : after.locate route = .ok place := by
  unfold FileSystem.locate at h ⊢
  have hstart : after.start route.isAbsolute = fs.start route.isAbsolute := by
    rw [start, start, hkeeps.current]
  split at h
  · contradiction
  · split at h
    · contradiction
    · rename_i hempty
      rw [if_neg hempty, hstart]
      exact hkeeps.walk h

theorem Route.nulFree_of_fault? {route : Route} (h : route.fault? = none) :
    ∀ piece ∈ route.pieces, '\x00' ∉ piece.toList := by
  intro piece hpiece hnul
  have hhas : route.hasNul = true :=
    List.any_eq_true.mpr ⟨piece, hpiece, List.contains_iff_mem.mpr hnul⟩
  rw [Route.fault?, if_pos hhas] at h
  contradiction

theorem Route.fault?_eq_none {route : Route} (hnul : ∀ piece ∈ route.pieces, '\x00' ∉ piece.toList)
    (hlength : route.length ≤ longestPath) : route.fault? = none := by
  have hhas : route.hasNul = false := by
    rw [← Bool.not_eq_true, Route.hasNul, List.any_eq_true]
    intro hany
    obtain ⟨piece, hpiece, hin⟩ := hany
    exact hnul piece hpiece (List.contains_iff_mem.mp hin)
  rw [Route.fault?, hhas, if_neg (Nat.not_lt_of_le hlength)]
  rfl

theorem isDirectory_of_locate {route : Route} {place : Place} (h : fs.locate route = .ok place)
    (hplace : fs.at? place = some .directory) : fs.isDirectory route = true := by
  have hlookup : fs.lookup route = .ok .directory :=
    bind_eq_ok.mpr ⟨place, h, by simp only [hplace]⟩
  rw [isDirectory, hlookup]

theorem exists_of_isDirectory {route : Route} (h : fs.isDirectory route = true) :
    ∃ place, fs.locate route = .ok place ∧ fs.at? place = some .directory := by
  unfold isDirectory at h
  split at h
  · rename_i hlookup
    obtain ⟨place, hplace, hat⟩ := bind_eq_ok.mp hlookup
    refine ⟨place, hplace, ?_⟩
    split at hat
    · contradiction
    · split at hat
      · cases hat
      · cases hat
    · assumption
  · contradiction

/-! ## Making directories -/

theorem exists_of_makeDirectory {route : Route} (h : fs.makeDirectory route = .ok after) :
    ∃ place, after.locate route = .ok place ∧ after.at? place = some .directory := by
  obtain ⟨place, hlocate, hmade⟩ := bind_eq_ok.mp h
  split at hmade
  · contradiction
  · split at hmade
    · contradiction
    · rename_i hnone
      cases hmade
      have hroot : place ≠ [] := ne_nil_of_at? (by rw [hnone]; nofun)
      exact ⟨place, (KeepsDirectories.put_directory fs place).locate hlocate,
        at?_put_self hroot _⟩

theorem exists_of_makeDirectories {isAbsolute : Bool} {name : String} {before : List String}
    (h : fs.makeDirectories isAbsolute (name :: before) = (after, .ok ())) :
    ∃ place, after.locate (Route.ofNames isAbsolute (name :: before).reverse) = .ok place ∧
      after.at? place = some .directory := by
  rw [makeDirectories] at h
  split at h
  · cases h
    exact exists_of_makeDirectory ‹_›
  · split at h
    · cases h
    · split at h
      · cases h
        exact exists_of_makeDirectory ‹_›
      · split at h
        · cases h
          exact exists_of_isDirectory ‹_›
        · cases h
  · split at h
    · cases h
      exact exists_of_isDirectory ‹_›
    · cases h

theorem locate_of_makeDirectories {directory : Path}
    (h : fs.makeDirectories directory.isAbsolute directory.names.reverse = (after, .ok ()))
    (hnames : directory.names ≠ []) :
    after.locate (Route.ofNames directory.isAbsolute directory.names) =
        .ok (after.destination directory) ∧
      after.at? (after.destination directory) = some .directory := by
  obtain ⟨name, before, hcons⟩ :=
    List.exists_cons_of_ne_nil (fun h => hnames (List.reverse_eq_nil_iff.mp h))
  rw [hcons] at h
  obtain ⟨place, hlocate, hplace⟩ := exists_of_makeDirectories h
  rw [← hcons, List.reverse_reverse] at hlocate
  have hdestination : place = after.destination directory := walk_eq_ok (of_locate hlocate).2
  rw [← hdestination]
  exact ⟨hlocate, hplace⟩

/-- Where a directory stands already, none is made. -/
theorem makeDirectories_of_locate {isAbsolute : Bool} {lastFirst : List String} {place : Place}
    (h : fs.locate (Route.ofNames isAbsolute lastFirst.reverse) = .ok place)
    (hplace : fs.at? place = some .directory) :
    fs.makeDirectories isAbsolute lastFirst = (fs, .ok ()) := by
  cases lastFirst with
  | nil => rfl
  | cons name before =>
    have hexists : fs.makeDirectory (Route.ofNames isAbsolute (name :: before).reverse) =
        .error .exists := by
      rw [makeDirectory, h]
      show (if _ then _ else _) = _
      split
      · rfl
      · rw [hplace]
    rw [makeDirectories]
    simp only [hexists, isDirectory_of_locate h hplace, if_true]

/-- A directory stands where its path leads, and the path can be followed. -/
structure Stands (fs : FileSystem) (directory : Path) : Prop where
  isDirectory : fs.at? (fs.destination directory) = some .directory
  locate : directory.names ≠ [] →
    fs.locate (Route.ofNames directory.isAbsolute directory.names) =
      .ok (fs.destination directory)

namespace Stands

variable {directory : Path}

theorem keeps (h : Stands fs directory) (hkeeps : KeepsDirectories fs after) :
    Stands after directory := by
  have hdestination := destination_congr hkeeps.current directory
  refine ⟨?_, fun hnames => ?_⟩
  · rw [hdestination]
    exact hkeeps.directory _ h.isDirectory
  · rw [hdestination]
    exact hkeeps.locate (h.locate hnames)

theorem walk (h : Stands fs directory) :
    fs.walk (fs.start directory.isAbsolute) directory.names = .ok (fs.destination directory) := by
  by_cases hnames : directory.names = []
  · rw [destination, hnames]
    rfl
  · exact (of_locate (h.locate hnames)).2

theorem nulFree (h : Stands fs directory) : ∀ name ∈ directory.names, '\x00' ∉ name.toList := by
  intro name hname
  have hfault := (of_locate (h.locate (List.ne_nil_of_mem hname))).1
  exact Route.nulFree_of_fault? hfault name hname

theorem makeDirectories (h : Stands fs directory) :
    fs.makeDirectories directory.isAbsolute directory.names.reverse = (fs, .ok ()) := by
  by_cases hnames : directory.names = []
  · rw [hnames]
    rfl
  · refine makeDirectories_of_locate ?_ h.isDirectory
    rw [List.reverse_reverse]
    exact h.locate hnames

/-- A directory that has been made stands. -/
theorem of_makeDirectories
    (h : fs.makeDirectories directory.isAbsolute directory.names.reverse = (after, .ok ()))
    (hdirectory : after.at? (after.destination directory) = some .directory) :
    Stands after directory :=
  ⟨hdirectory, fun hnames => (locate_of_makeDirectories h hnames).1⟩

end Stands

/-- A directory can be made, and nothing comes into it when it is made.  A path that
turns back, as `a/b/..` does, makes something inside. -/
structure IsReady (fs : FileSystem) (directory : Path) : Prop where
  made : (fs.makeDirectories directory.isAbsolute directory.names.reverse).2 = .ok ()
  isDirectory : (fs.makeDirectories directory.isAbsolute directory.names.reverse).1.at?
    (fs.destination directory) = some .directory
  inside : ∀ place, IsInside (fs.destination directory) place →
    (fs.makeDirectories directory.isAbsolute directory.names.reverse).1.at? place = fs.at? place

namespace IsReady

variable {directory : Path}

theorem of_stands (h : Stands fs directory) : IsReady fs directory := by
  have hmade := h.makeDirectories
  refine ⟨?_, ?_, fun place _ => ?_⟩
  · rw [hmade]
  · rw [hmade]
    exact h.isDirectory
  · rw [hmade]

/-- The system in which the directory is made. -/
theorem exists_made (h : IsReady fs directory) :
    ∃ made, fs.makeDirectories directory.isAbsolute directory.names.reverse = (made, .ok ()) ∧
      Stands made directory ∧ made.current = fs.current ∧
      ∀ place, IsInside (fs.destination directory) place → made.at? place = fs.at? place := by
  have hcurrent : (fs.makeDirectories directory.isAbsolute directory.names.reverse).1.current =
      fs.current := current_makeDirectories _ _
  obtain ⟨hok, hdirectory, hinside⟩ := h
  rcases hmake : fs.makeDirectories directory.isAbsolute directory.names.reverse
    with ⟨made, outcome⟩
  rw [hmake] at hok hdirectory hinside hcurrent
  obtain rfl : outcome = .ok () := hok
  refine ⟨made, rfl, Stands.of_makeDirectories hmake ?_, hcurrent, hinside⟩
  rw [destination_congr hcurrent]
  exact hdirectory

end IsReady

/-- A path that never leads back out is ready once it can be made. -/
theorem isReady_of_makeDirectories {directory : Path}
    (hmade : fs.makeDirectories directory.isAbsolute directory.names.reverse = (after, .ok ()))
    (hstart : fs.at? (fs.start directory.isAbsolute) = some .directory)
    (hdots : ".." ∉ directory.names) : IsReady fs directory := by
  have hdestination : fs.destination directory = fs.start directory.isAbsolute ++ directory.names :=
    destination_of_names hdots
  refine ⟨?_, ?_, fun place hplace => ?_⟩
  · rw [hmade]
  · by_cases hnames : directory.names = []
    · rw [hdestination, hnames, List.append_nil]
      exact hstart
    · have hcurrent : after.current = fs.current := by
        have hkept : (fs.makeDirectories directory.isAbsolute directory.names.reverse).1.current =
            fs.current := current_makeDirectories _ _
        rwa [hmade] at hkept
      rw [hmade, ← destination_congr hcurrent]
      exact (locate_of_makeDirectories hmade hnames).2
  · apply at?_makeDirectories
    rw [List.reverse_reverse]
    intro hway
    have hshorter := hway.length_le
    rw [← List.length_append, ← hdestination] at hshorter
    exact hplace.2 (hplace.1.eq_of_length_le hshorter).symm

end FileSystem
end Storage
end RepoFeed
