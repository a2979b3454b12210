import RepoFeed.Proofs.Storage.TextFile
import RepoFeed.Proofs.Text.Utf8
import RepoFeed.Storage.Store

/-
What a store of files keeps under a key.

The file of a key lies in the directory of the store and is never its own
stand-in, so one place tells what can be read under the key, and a write leaves
that place as it was or with the text that was written.
-/

namespace RepoFeed
namespace Storage

variable {fs : FileSystem} {directory : Path} {key : String}

/-! ## Where entries lie -/

theorem isName_entryName (key : String) : Path.IsName (entryName key).toList := by
  have htoList : (entryName key).toList =
      (key.toList.map fun c => if isProblematic c then '_' else c) ++ ".json".toList := by
    rw [entryName, String.toList_append, sanitize, String.toList_ofList]
  rw [htoList]
  refine ⟨by simp, fun hdot => ?_, fun hslash => ?_⟩
  · have hlength := congrArg List.length hdot
    rw [List.length_append] at hlength
    simp at hlength
  · rw [List.mem_append, List.mem_map] at hslash
    obtain ⟨c, -, hc⟩ | hjson := hslash
    · split at hc
      · contradiction
      · rename_i hproblematic
        subst hc
        exact hproblematic rfl
    · exact absurd hjson (by decide)

theorem entryName_ne {start : List Char} :
    entryName key ≠ String.ofList (start ++ ['.', 't', 'm', 'p']) := by
  intro h
  have hlast := congrArg (fun name => name.toList.getLast?) h
  simp [entryName, String.toList_append, String.toList_ofList] at hlast

namespace FileSystem

/-- What stands before a name that is joined to a directory, leads to the
directory. -/
theorem exists_parts_join (fs : FileSystem) (directory : Path) {name : String}
    (hname : Path.IsName name.toList) :
    ∃ before, Path.Parts (directory.join ⟨name⟩).text.toList before name [] ∧
      fs.directoryAt before = fs.destination directory := by
  obtain ⟨before, hparts, hnames, habsolute⟩ := Path.exists_parts_join directory hname
  refine ⟨before, hparts, ?_⟩
  rw [directoryAt, hnames, habsolute]
  rfl

/-- A name behind a directory leads into the directory. -/
theorem destination_join (fs : FileSystem) (directory : Path) {name : String}
    (hname : Path.IsName name.toList) (hdots : name ≠ "..") :
    fs.destination (directory.join ⟨name⟩) = fs.destination directory ++ [name] := by
  obtain ⟨before, hparts, hbefore⟩ := exists_parts_join fs directory hname
  rw [destination_of_parts hparts hdots, hbefore]

theorem entryName_ne_dots (key : String) : entryName key ≠ ".." := by
  intro hdots
  have hlast := congrArg (fun name => name.toList.getLast?) hdots
  simp [entryName, String.toList_append] at hlast

theorem destination_entryPath (fs : FileSystem) (directory : Path) (key : String) :
    fs.destination (entryPath directory key) = fs.destination directory ++ [entryName key] :=
  destination_join fs directory (isName_entryName key) (entryName_ne_dots key)

theorem fileName?_entryPath (directory : Path) (key : String) :
    (entryPath directory key).fileName? = some (entryName key) := by
  obtain ⟨before, hparts, -⟩ := exists_parts_join ⟨[], []⟩ directory (isName_entryName key)
  have hlast : (entryPath directory key).names.getLast? = some (entryName key) :=
    (congrArg List.getLast? hparts.namesIn_eq).trans List.getLast?_concat
  simp only [Path.fileName?, hlast, if_neg (entryName_ne_dots key)]

theorem isInside_entryPath (fs : FileSystem) (directory : Path) (key : String) :
    IsInside (fs.destination directory) (fs.destination (entryPath directory key)) := by
  rw [destination_entryPath]
  exact isInside_concat.mpr (List.prefix_refl _)

/-- The file of a key is not its own stand-in. -/
theorem destination_standIn_entryPath_ne (fs : FileSystem) (directory : Path) (key : String)
    (h : (TextFile.standIn (entryPath directory key)).fileName? ≠ none) :
    fs.destination (entryPath directory key) ≠
      fs.destination (TextFile.standIn (entryPath directory key)) := by
  obtain ⟨parent, hpath, hnone | ⟨start, -, hstart⟩⟩ :=
    destination_standIn fs (fileName?_entryPath directory key)
  · exact absurd hnone h
  · rw [hpath, hstart]
    intro heq
    exact entryName_ne (name_inj heq)

end FileSystem

/-! ## Reading and writing -/

theorem get_fileStore (fs : FileSystem) (directory : Path) (key : String) :
    (fileStore directory).get fs key =
      (TextFile.read fs (entryPath directory key)).mapError .storage := by
  rw [fileStore]

theorem at?_of_get {text : String} (h : (fileStore directory).get fs key = .ok (some text)) :
    ∃ content, fs.at? (fs.destination (entryPath directory key)) = some (.file content) ∧
      Utf8.decode? content = some text.toList := by
  rw [get_fileStore] at h
  exact TextFile.at?_of_read (mapError_eq_ok.mp h)

theorem fst_set (value : String) : ((fileStore directory).set fs key value).1 =
    (TextFile.write fs (entryPath directory key) value).1 := by
  simp only [fileStore]

theorem current_set (value : String) :
    ((fileStore directory).set fs key value).1.current = fs.current := by
  rw [fst_set, TextFile.current_write]

/-- What is set under a key is in its place, or the place is as it was. -/
theorem at?_set (value : String) :
    FileSystem.Remains (fs.at? (fs.destination (entryPath directory key)))
        (((fileStore directory).set fs key value).1.at?
          (fs.destination (entryPath directory key))) ∨
      ((fileStore directory).set fs key value).1.at?
        (fs.destination (entryPath directory key)) =
          some (.file (Utf8.encode value.toList)) := by
  rw [fst_set]
  exact TextFile.at?_write_self value (FileSystem.destination_standIn_entryPath_ne fs directory key)

end Storage
end RepoFeed
