import RepoFeed.Proofs.Outcome
import RepoFeed.Proofs.Storage.Entries
import RepoFeed.Proofs.Storage.Path

/-
What the operations on files do to the places of a file system.

Without links a path leads to one place whatever stands on the way, if it leads
anywhere.  An operation changes what stands at the places it was asked for; apart
from these, things stay as they were, and directories appear where nothing was.
-/

namespace RepoFeed
namespace Storage
namespace FileSystem

variable {fs : FileSystem}

/-! ## Places -/

/-- Different names in a directory are different places. -/
theorem name_inj {directory : Place} {a b : String} (h : directory ++ [a] = directory ++ [b]) :
    a = b :=
  List.singleton_inj.mp (List.append_cancel_left h)

theorem ne_nil_of_at? {place : Place} (h : fs.at? place ≠ some .directory) : place ≠ [] := by
  intro heq
  subst heq
  exact h rfl

theorem ne_nil_of_file {place : Place} {content : Utf8.Octets}
    (h : fs.at? place = some (.file content)) : place ≠ [] :=
  ne_nil_of_at? (by rw [h]; nofun)

theorem at?_put_of_ne {place other : Place} (h : place ≠ other) (entry : Entry) :
    (fs.put other entry).at? place = fs.at? place := by
  have hother : (other == place) = false := by simpa using h.symm
  rw [at?, at?, put, List.find?_cons, hother]
  simp only [find?_filter_of_ne h]

theorem at?_put_self {place : Place} (h : place ≠ []) (entry : Entry) :
    (fs.put place entry).at? place = some entry := by
  simp [at?, put, h]

theorem at?_remove_of_ne {place other : Place} (h : place ≠ other) :
    (fs.remove other).at? place = fs.at? place := by
  rw [at?, at?, remove]
  simp only [find?_filter_of_ne h]

theorem at?_remove_self {place : Place} (h : place ≠ []) : (fs.remove place).at? place = none := by
  have hfind : (fs.entries.filter (·.1 != place)).find? (·.1 == place) = none := by
    rw [List.find?_eq_none]
    intro entry hentry heq
    have hne := (List.mem_filter.mp hentry).2
    rw [bne, heq] at hne
    contradiction
  rw [at?, if_neg h, remove]
  simp only [hfind, Option.map_none]

/-- A place stays as it was, or is a directory where nothing was. -/
def Remains (before after : Option Entry) : Prop :=
  after = before ∨ before = none ∧ after = some .directory

theorem Remains.refl (entry : Option Entry) : Remains entry entry := .inl rfl

theorem Remains.trans {a b c : Option Entry} (hab : Remains a b) (hbc : Remains b c) :
    Remains a c := by
  obtain rfl | ⟨rfl, rfl⟩ := hab
  · exact hbc
  · obtain rfl | ⟨h, -⟩ := hbc
    · exact .inr ⟨rfl, rfl⟩
    · contradiction

theorem Remains.file_iff {before after : Option Entry} (h : Remains before after)
    (content : Utf8.Octets) : after = some (.file content) ↔ before = some (.file content) := by
  obtain rfl | ⟨rfl, rfl⟩ := h
  · exact Iff.rfl
  · simp

/-! ## Where paths lead -/

/-- The place that a piece leads to from a directory. -/
def follow (directory : Place) (piece : String) : Place :=
  if piece = "." then directory
  else if piece = ".." then directory.dropLast
  else directory ++ [piece]

/-- The place that a path leads to, if it leads anywhere. -/
def destination (fs : FileSystem) (path : Path) : Place :=
  path.names.foldl follow (fs.start path.isAbsolute)

theorem destination_congr {fs' : FileSystem} (h : fs'.current = fs.current) (path : Path) :
    fs'.destination path = fs.destination path := by
  unfold destination start
  rw [h]

theorem child_eq_ok {directory place : Place} {piece : String}
    (h : fs.child directory piece = .ok place) : place = follow directory piece := by
  unfold child at h
  split at h
  · contradiction
  · contradiction
  · unfold follow
    by_cases hdot : piece = "."
    · rw [if_pos hdot] at h ⊢
      exact (Except.ok.inj h).symm
    · rw [if_neg hdot] at h ⊢
      by_cases hdots : piece = ".."
      · rw [if_pos hdots] at h ⊢
        exact (Except.ok.inj h).symm
      · rw [if_neg hdots] at h ⊢
        split at h
        · contradiction
        · exact (Except.ok.inj h).symm

theorem walk_eq_ok {pieces : List String} {start place : Place}
    (h : fs.walk start pieces = .ok place) : place = pieces.foldl follow start := by
  induction pieces generalizing start with
  | nil => exact (Except.ok.inj h).symm
  | cons piece pieces ih =>
    obtain ⟨next, hnext, hrest⟩ := bind_eq_ok.mp h
    rw [List.foldl_cons, ← child_eq_ok hnext]
    exact ih hrest

theorem foldl_follow_filter (pieces : List String) (start : Place) :
    (pieces.filter (· != ".")).foldl follow start = pieces.foldl follow start := by
  induction pieces generalizing start with
  | nil => rfl
  | cons piece pieces ih =>
    by_cases hdot : piece = "."
    · rw [List.filter_cons_of_neg (by simp [hdot]), ih, List.foldl_cons, follow, if_pos hdot]
    · rw [List.filter_cons_of_pos (by simp [hdot]), List.foldl_cons, List.foldl_cons, ih]

/-- What is known of a route that can be followed. -/
theorem of_locate {route : Route} {place : Place} (h : fs.locate route = .ok place) :
    route.fault? = none ∧ fs.walk (fs.start route.isAbsolute) route.pieces = .ok place := by
  unfold locate at h
  split at h
  · contradiction
  · split at h
    · contradiction
    · exact ⟨‹_›, h⟩

theorem locate_eq_ok {path : Path} {place : Place} (h : fs.locate (.ofPath path) = .ok place) :
    place = fs.destination path :=
  (walk_eq_ok (of_locate h).2).trans (foldl_follow_filter _ _).symm

/-! ## Changes -/

theorem makeDirectory_eq_ok {route : Route} {after : FileSystem}
    (h : fs.makeDirectory route = .ok after) :
    ∃ place, fs.at? place = none ∧ after = fs.put place .directory := by
  obtain ⟨place, -, h⟩ := bind_eq_ok.mp h
  split at h
  · contradiction
  · split at h
    · contradiction
    · exact ⟨place, ‹_›, (Except.ok.inj h).symm⟩

theorem remains_makeDirectory {route : Route} {after : FileSystem}
    (h : fs.makeDirectory route = .ok after) (place : Place) :
    Remains (fs.at? place) (after.at? place) := by
  obtain ⟨made, hnone, rfl⟩ := makeDirectory_eq_ok h
  by_cases hplace : place = made
  · subst hplace
    have hroot : place ≠ [] := ne_nil_of_at? (by rw [hnone]; nofun)
    rw [at?_put_self hroot, hnone]
    exact .inr ⟨rfl, rfl⟩
  · rw [at?_put_of_ne hplace]
    exact .refl _

theorem current_makeDirectories (isAbsolute : Bool) (lastFirst : List String) :
    (fs.makeDirectories isAbsolute lastFirst).1.current = fs.current := by
  have hmade : ∀ {fs after : FileSystem} {route : Route},
      fs.makeDirectory route = .ok after → after.current = fs.current := by
    intro fs after route h
    obtain ⟨made, -, rfl⟩ := makeDirectory_eq_ok h
    rfl
  induction lastFirst with
  | nil => rfl
  | cons name before ih =>
    rw [makeDirectories]
    split
    · exact hmade ‹_›
    · split
      · rename_i hbefore
        rwa [hbefore] at ih
      · rename_i hbefore
        rw [hbefore] at ih
        split
        · exact (hmade ‹_›).trans ih
        · exact ih
    · rfl

theorem remains_makeDirectories (isAbsolute : Bool) (lastFirst : List String) (place : Place) :
    Remains (fs.at? place) ((fs.makeDirectories isAbsolute lastFirst).1.at? place) := by
  induction lastFirst with
  | nil => exact .refl _
  | cons name before ih =>
    rw [makeDirectories]
    split
    · exact remains_makeDirectory ‹_› place
    · split
      · rename_i hbefore
        rwa [hbefore] at ih
      · rename_i hbefore
        rw [hbefore] at ih
        split
        · exact ih.trans (remains_makeDirectory ‹_› place)
        · exact ih
    · exact .refl _

theorem create_eq_ok {route : Route} {after : FileSystem} (h : fs.create route = .ok after) :
    route.endsInName = true ∧ ∃ place, fs.locate route = .ok place ∧
      fs.at? place ≠ some .directory ∧ after = fs.put place (.file []) := by
  obtain ⟨place, hlocate, h⟩ := bind_eq_ok.mp h
  split at h
  · contradiction
  · rename_i hends
    split at h
    · contradiction
    · refine ⟨?_, place, hlocate, ‹_›, (Except.ok.inj h).symm⟩
      simpa using (not_or.mp hends).1

theorem fillFile_eq_ok {route : Route} {content : Utf8.Octets} {after : FileSystem}
    (h : fs.fillFile route content = .ok after) :
    ∃ place old, fs.locate route = .ok place ∧ fs.at? place = some (.file old) ∧
      after = fs.put place (.file (content ++ old.drop content.length)) := by
  obtain ⟨place, hlocate, h⟩ := bind_eq_ok.mp h
  split at h
  · contradiction
  · contradiction
  · exact ⟨place, _, hlocate, ‹_›, (Except.ok.inj h).symm⟩

theorem rename_eq_ok {source target : Route} {after : FileSystem}
    (h : fs.rename source target = .ok after) :
    ∃ origin goal content, fs.locate source = .ok origin ∧ fs.locate target = .ok goal ∧
      fs.at? origin = some (.file content) ∧
      (origin = goal ∧ after = fs ∨ origin ≠ goal ∧ fs.at? goal ≠ some .directory ∧
        after = (fs.remove origin).put goal (.file content)) := by
  obtain ⟨origin, hfrom, h⟩ := bind_eq_ok.mp h
  obtain ⟨goal, hto, h⟩ := bind_eq_ok.mp h
  split at h
  · contradiction
  · split at h
    · contradiction
    · contradiction
    · rename_i content hcontent
      refine ⟨origin, goal, content, hfrom, hto, hcontent, ?_⟩
      split at h
      · contradiction
      · split at h
        · exact .inl ⟨‹_›, (Except.ok.inj h).symm⟩
        · split at h
          · contradiction
          · exact .inr ⟨‹_›, ‹_›, (Except.ok.inj h).symm⟩

end FileSystem
end Storage
end RepoFeed
