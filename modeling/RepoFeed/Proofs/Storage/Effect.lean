import RepoFeed.Proofs.Storage.Steps
import RepoFeed.Refresh.Target
import RepoFeed.Storage.Store

/-
All that a write changes.

A write that succeeds puts the text into the file, takes the stand-in away and touches no
other file.  A write that fails touches no file but the stand-in.  Nothing is taken back
when a step fails: if the text could be written to the stand-in and the stand-in could not
be moved, then it stays.  Either way the directories stay that were made on the way.
-/

namespace RepoFeed
namespace Storage

namespace Path

/-- A path on which a file can be put ends in the name of the file. -/
theorem exists_parts_of_endsInName {path : Path}
    (hname : (FileSystem.Route.ofPath path).endsInName = true)
    (hslash : (FileSystem.Route.ofPath path).endsInSlash = false) :
    ∃ before name, Parts path.text.toList before name [] ∧ name ≠ ".." := by
  obtain ⟨name, hfile⟩ := exists_fileName? hname
  obtain ⟨hlast, hdots⟩ := getLast?_of_fileName? hfile
  obtain ⟨before, ending, hparts⟩ := exists_parts hlast
  cases hparts.isMute with
  | nil => exact ⟨before, name, hparts, hdots⟩
  | slash =>
    have hends : path.endsInSlash = true := by
      rw [endsInSlash, hparts.text_eq, ← List.append_assoc, List.getLast?_concat]
      rfl
    exact absurd hends (Bool.eq_false_iff.mp hslash)
  | @dot ending hmute =>
    have hpieces : path.pieces = piecesIn (before ++ name.toList ++ ending) ++ ["."] := by
      show piecesIn path.text.toList = _
      rw [hparts.text_eq, ← List.append_assoc, ← List.append_assoc, List.append_assoc _ ['/'],
        List.singleton_append, piecesIn_append_cons]
      rfl
    have hends : (FileSystem.Route.ofPath path).endsInName = false := by
      rw [FileSystem.Route.endsInName, FileSystem.Route.ofPath, hpieces, List.getLast?_concat]
      rfl
    exact absurd hname (Bool.eq_false_iff.mp hends)

end Path

namespace FileSystem

variable {fs after : FileSystem} {path : Path}

/-- A file that lies where its stand-in does is its own. -/
theorem standIn_eq_of_destination (hname : (Route.ofPath path).endsInName = true)
    (hslash : (Route.ofPath path).endsInSlash = false)
    (hstandIn : (Route.ofPath (TextFile.standIn path)).endsInName = true)
    (h : fs.destination (TextFile.standIn path) = fs.destination path) :
    TextFile.standIn path = path := by
  obtain ⟨before, name, hparts, hdots⟩ := Path.exists_parts_of_endsInName hname hslash
  obtain ⟨last, hlast⟩ := Path.exists_fileName? hstandIn
  have hextension := TextFile.extension?_of_destination_standIn
    (Path.fileName?_of_parts hparts hdots) (by rw [hlast]; exact Option.some_ne_none last) h
  have hstem : Path.stem name.toList ≠ ['.'] := by
    intro hdot
    have htwo := Path.parts_standIn_of_dot hparts hdots hextension hdot
    have hpieces : (TextFile.standIn path).pieces = Path.piecesIn before ++ [".."] :=
      htwo.piecesIn_eq
    rw [Route.endsInName, Route.ofPath, hpieces, List.getLast?_concat] at hstandIn
    exact absurd hstandIn (by decide)
  have hsame : Path.tempName name.toList = name := by
    rw [Path.tempName, ← String.toList_inj, String.toList_ofList]
    exact (Path.eq_of_extension? hextension).2.symm
  have hstands := Path.parts_standIn hparts hdots fun _ => hstem
  rw [hsame] at hstands
  have htext : (TextFile.standIn path).text = path.text := by
    rw [← String.toList_inj, hstands.text_eq, hparts.text_eq]
  cases hfound : TextFile.standIn path
  rw [hfound] at htext
  cases path
  cases htext
  rfl

/-- What can be renamed goes to a path that ends in a name. -/
theorem endsInName_of_rename {source target : Route} (h : fs.rename source target = .ok after) :
    target.endsInName = true ∧ target.endsInSlash = false := by
  obtain ⟨origin, -, h⟩ := bind_eq_ok.mp h
  obtain ⟨goal, -, h⟩ := bind_eq_ok.mp h
  split at h
  · contradiction
  · rename_i hname
    split at h
    · contradiction
    · contradiction
    · split at h
      · contradiction
      · rename_i hslash
        exact ⟨by simpa using hname, by simpa using hslash⟩

/-- A place is as it was, or it is a directory that was missing on the way to a file. -/
def IsKept (path : Path) (before after : FileSystem) (place : Place) : Prop :=
  after.at? place = before.at? place ∨
    before.at? place = none ∧ after.at? place = some .directory ∧
      OnWay (before.start path.isAbsolute) path.names.dropLast place

/-- Two systems have the same files with the same contents. -/
def SameFiles (before after : FileSystem) : Prop :=
  ∀ place content, after.at? place = some (.file content) ↔ before.at? place = some (.file content)

theorem IsKept.congr {other : FileSystem} {place : Place} (h : IsKept path fs after place)
    (hsame : other.at? place = after.at? place) : IsKept path fs other place := by
  rwa [IsKept, hsame]

end FileSystem

namespace TextFile

open FileSystem (IsKept KeepsDirectories Route)

variable {fs made filled after : FileSystem} {path : Path} {text : List Char} {fault : Fault}

theorem isKept_parentsMade (path : Path) (fs : FileSystem) (place : Place) :
    IsKept path fs (parentsMade path fs) place := by
  by_cases hway : FileSystem.OnWay (fs.start path.isAbsolute) path.names.dropLast place
  · obtain hsame | ⟨hnone, hmade⟩ := remains_parentsMade path fs place
    · exact .inl hsame
    · exact .inr ⟨hnone, hmade, hway⟩
  · exact .inl (at?_parentsMade hway)

/-! ## Failures -/

/-- A write that fails touches no file but the stand-in, and it leaves the text there
exactly if all was done but to move it into place. -/
theorem kept_of_write_eq_error {text : String} (h : write fs path text = (after, .error fault)) :
    (∀ place, place ≠ fs.destination (standIn path) → IsKept path fs after place) ∧
      ((run path text.toList fs preparation).2 ≠ .ok () →
        IsKept path fs after (fs.destination (standIn path))) ∧
      ((run path text.toList fs preparation).2 = .ok () →
        after.at? (fs.destination (standIn path)) = some (.file (Utf8.encode text.toList))) := by
  rw [write_eq] at h
  rcases hrun : run path text.toList fs preparation with ⟨prepared, outcome⟩
  rw [hrun] at h
  cases outcome with
  | error reason =>
    cases h
    obtain rfl := eq_parentsMade_of_error hrun
    refine ⟨fun place _ => isKept_parentsMade path fs place,
      fun _ => isKept_parentsMade path fs _, fun hok => nomatch hok⟩
  | ok done =>
    obtain rfl := eq_of_perform_eq_error (by decide) h
    obtain ⟨hstandIn, hothers⟩ := at?_prepared hrun
    refine ⟨fun place hplace => ?_, fun hfailed => absurd rfl hfailed, fun _ => hstandIn⟩
    exact (isKept_parentsMade path fs place).congr (hothers place hplace)

/-- Directories stand where an entry and a page should come, and beside the page a file
with the name of its stand-in. -/
def blockedFiles : FileSystem :=
  ⟨[(["cache"], .directory), (["cache", "k.json"], .directory), (["page.html"], .directory),
    (["page.tmp"], .file (Utf8.encode "mine".toList))], []⟩

/-- A text that cannot be moved into place is left in the stand-in, over what was there. -/
theorem kept_of_write_eq_error_blocked :
    ∃ after, write blockedFiles ⟨"page.html"⟩ "new" = (after, .error .isDirectory) ∧
      after.at? ["page.tmp"] = some (.file (Utf8.encode "new".toList)) ∧
      ∀ place, place ≠ ["page.tmp"] → IsKept ⟨"page.html"⟩ blockedFiles after place := by
  have hfails : write blockedFiles ⟨"page.html"⟩ "new" =
      ((write blockedFiles ⟨"page.html"⟩ "new").1, .error .isDirectory) := by rfl
  obtain ⟨hothers, -, hleft⟩ := kept_of_write_eq_error hfails
  exact ⟨_, hfails, hleft rfl, hothers⟩

/-- A store that fails to set an entry leaves a file that was not there, and a target that
fails to show a markup leaves another content in one that was. -/
theorem not_sameFiles_blocked :
    (∃ after, (fileStore ⟨"cache"⟩).set blockedFiles "k" "v" =
        (after, .error (.storage .isDirectory)) ∧
      blockedFiles.at? ["cache", "k.tmp"] = none ∧
      after.at? ["cache", "k.tmp"] = some (.file (Utf8.encode "v".toList)) ∧
      ¬ FileSystem.SameFiles blockedFiles after) ∧
    ∃ after, (Target.file ⟨"page.html"⟩).display blockedFiles "new" =
        (after, .error (.storage .isDirectory)) ∧
      blockedFiles.at? ["page.tmp"] = some (.file (Utf8.encode "mine".toList)) ∧
      after.at? ["page.tmp"] = some (.file (Utf8.encode "new".toList)) ∧
      ¬ FileSystem.SameFiles blockedFiles after := by
  refine ⟨⟨_, rfl, rfl, rfl, fun hsame => ?_⟩, _, rfl, rfl, rfl, fun hsame => ?_⟩
  · exact absurd ((hsame ["cache", "k.tmp"] _).mp rfl) (by decide)
  · exact absurd ((hsame ["page.tmp"] (Utf8.encode "new".toList)).mp rfl) (by decide)

/-! ## Success -/

/-- A path to a text file can be read. -/
theorem read_of_locate {place : Place} {text : String}
    (hlocate : fs.locate (.ofPath path) = .ok place)
    (hslash : (Route.ofPath path).endsInSlash = false)
    (hat : fs.at? place = some (.file (Utf8.encode text.toList))) :
    read fs path = .ok (some text) := by
  have hlookup : fs.lookup (.ofPath path) = .ok (.file (Utf8.encode text.toList)) := by
    rw [FileSystem.lookup, hlocate, ok_bind, hat]
    simp only [hslash]
    rfl
  rw [read, hlookup]
  simp only [Utf8.decode?_encode, String.ofList_toList]

theorem read_of_missing {place : Place} (hlocate : fs.locate (.ofPath path) = .ok place)
    (hat : fs.at? place = none) : read fs path = .ok none := by
  have hlookup : fs.lookup (.ofPath path) = .error .missing := by
    rw [FileSystem.lookup, hlocate, ok_bind, hat]
  rw [read, hlookup]

/-- A write that succeeds leaves the text in its file and no stand-in beside it, and it
touches no other file. -/
theorem read_of_write_eq_ok {text : String} (h : write fs path text = (after, .ok ())) :
    read after path = .ok (some text) ∧
      (standIn path ≠ path →
        after.at? (fs.destination (standIn path)) = none ∧
          read after (standIn path) = .ok none) ∧
      ∀ place, place ≠ fs.destination path → place ≠ fs.destination (standIn path) →
        IsKept path fs after place := by
  rw [write_eq] at h
  rcases hrun : run path text.toList fs preparation with ⟨filled, outcome⟩
  rw [hrun] at h
  cases outcome with
  | error reason => cases h
  | ok done =>
    replace h : Step.publish.perform path text.toList filled = (after, .ok ()) := h
    have hcurrent := (keepsDirectories_of_run hrun).current
    have hpath := FileSystem.destination_congr hcurrent path
    have hstandIn := FileSystem.destination_congr hcurrent (standIn path)
    obtain ⟨hfilled, hothers⟩ := at?_prepared hrun
    rw [← hstandIn] at hfilled
    obtain ⟨hfile, hmoved, helse⟩ := at?_of_publish hfilled h
    have hkeeps := keepsDirectories_of_perform h
    have hrename := h
    rw [Step.perform, attempt_eq_ok] at hrename
    obtain ⟨origin, goal, -, hfrom, hto, -, -⟩ := FileSystem.rename_eq_ok hrename
    obtain ⟨hname, hslash⟩ := FileSystem.endsInName_of_rename hrename
    refine ⟨?_, fun hne => ?_, fun place hplace hother => ?_⟩
    · apply read_of_locate (hkeeps.locate hto) hslash
      rw [FileSystem.locate_eq_ok hto]
      exact hfile
    · have hdiffer : filled.destination (standIn path) ≠ filled.destination path :=
        fun hsame => hne (FileSystem.standIn_eq_of_destination hname hslash
          (endsInName_standIn hrun) hsame)
      have hnone := hmoved hdiffer
      rw [← hstandIn]
      refine ⟨hnone, read_of_missing (hkeeps.locate hfrom) ?_⟩
      rwa [FileSystem.locate_eq_ok hfrom]
    · rw [← hpath] at hplace
      rw [← hstandIn] at hother
      rw [← hstandIn] at hothers
      exact ((isKept_parentsMade path fs place).congr (hothers place hother)).congr
        (helse place hplace hother)

/-- A page that is there, with what an earlier write left beside it. -/
def pageFiles : FileSystem :=
  ⟨[(["site"], .directory), (["site", "pages"], .directory),
    (["site", "pages", ".feed.old.html"], .file (Utf8.encode "old".toList)),
    (["site", "pages", ".feed.old.tmp"], .file (Utf8.encode "older and longer".toList)),
    (["site", "pages", "index.html"], .file [])], ["site"]⟩

/-- The path to the page turns back in a directory that has to be made first. -/
theorem read_of_write_eq_ok_replaced :
    ∃ after, write pageFiles ⟨"new//../pages/.feed.old.html"⟩ "né" = (after, .ok ()) ∧
      read after ⟨"new//../pages/.feed.old.html"⟩ = .ok (some "né") ∧
      after.at? ["site", "pages", ".feed.old.tmp"] = none ∧
      read after ⟨"new//../pages/.feed.old.tmp"⟩ = .ok none ∧
      ∀ place, place ≠ ["site", "pages", ".feed.old.html"] →
        place ≠ ["site", "pages", ".feed.old.tmp"] →
          IsKept ⟨"new//../pages/.feed.old.html"⟩ pageFiles after place := by
  have hwrites : write pageFiles ⟨"new//../pages/.feed.old.html"⟩ "né" =
      ((write pageFiles ⟨"new//../pages/.feed.old.html"⟩ "né").1, .ok ()) := by rfl
  have hstandIn : standIn ⟨"new//../pages/.feed.old.html"⟩ = ⟨"new//../pages/.feed.old.tmp"⟩ := by
    decide
  obtain ⟨hread, hmoved, helse⟩ := read_of_write_eq_ok hwrites
  rw [hstandIn] at hmoved helse
  obtain ⟨hgone, hnone⟩ := hmoved (by decide)
  exact ⟨_, hwrites, hread, hgone, hnone, helse⟩

end TextFile
end Storage
end RepoFeed
