import RepoFeed.Proofs.Storage.FileStore
import RepoFeed.Proofs.Storage.Success

/-
Single calls to a store of files.

A key is spelled in a file name without the characters that file names should not
have, and the file that stands in for the file of a key never has the name of
another one.  So a call under a key that no limit stands against succeeds; only for
the key that is a single dot there is no file to write to.
-/

namespace RepoFeed
namespace Storage

variable {fs : FileSystem} {directory : Path} {key other : String}

open FileSystem (IsInside IsReady Stands octetCount longestName longestPath)

/-! ## Spellings -/

theorem toList_sanitize (key : String) :
    (sanitize key).toList = key.toList.map fun c => if isProblematic c then '_' else c := by
  rw [sanitize, String.toList_ofList]

theorem toList_entryName (key : String) :
    (entryName key).toList = (sanitize key).toList ++ '.' :: ['j', 's', 'o', 'n'] := by
  rw [entryName, String.toList_append]
  rfl

theorem entryName_inj : entryName key = entryName other ↔ sanitize key = sanitize other := by
  constructor
  · intro h
    have htoList := congrArg String.toList h
    rw [toList_entryName, toList_entryName] at htoList
    exact String.toList_inj.mp (List.append_cancel_right htoList)
  · intro h
    rw [entryName, entryName, h]

theorem nul_mem_sanitize : '\x00' ∈ (sanitize key).toList ↔ '\x00' ∈ key.toList := by
  rw [toList_sanitize, List.mem_map]
  constructor
  · intro h
    obtain ⟨c, hc, hnul⟩ := h
    split at hnul
    · exact absurd hnul (by decide)
    · exact hnul ▸ hc
  · intro h
    exact ⟨'\x00', h, rfl⟩

theorem nul_not_mem_entryName (h : '\x00' ∉ key.toList) : '\x00' ∉ (entryName key).toList := by
  rw [toList_entryName, List.mem_append, nul_mem_sanitize]
  exact not_or.mpr ⟨h, by decide⟩

/-- Characters that are replaced take one octet, as does what stands for them. -/
theorem octetCount_sanitize (key : String) : octetCount (sanitize key) = octetCount key := by
  have hchar : ∀ c : Char, (String.utf8EncodeChar (if isProblematic c then '_' else c)).length =
      (String.utf8EncodeChar c).length := by
    intro c
    split
    · rename_i hproblematic
      have hmem := List.contains_iff_mem.mp hproblematic
      simp only [List.mem_cons, List.not_mem_nil, or_false] at hmem
      obtain rfl | rfl | rfl | rfl | rfl | rfl | rfl | rfl | rfl := hmem <;> rfl
    · rfl
  rw [octetCount, octetCount, toList_sanitize]
  simp only [Utf8.encode, List.flatMap_map, List.length_flatMap, hchar]

theorem sanitize_eq_dot : sanitize key = "." ↔ key = "." := by
  constructor
  · intro h
    have htoList := congrArg String.toList h
    rw [toList_sanitize] at htoList
    obtain ⟨c, hkey, hc⟩ := List.map_eq_singleton_iff.mp htoList
    split at hc
    · exact absurd hc (by decide)
    · rw [hc] at hkey
      exact String.toList_inj.mp hkey
  · intro h
    rw [h]
    decide

/-! ## Names of stand-ins -/

/-- The name of the file that stands in for the file of a key. -/
def standInName (key : String) : String :=
  Path.tempName (entryName key).toList

theorem splitName_entryName (key : String) : Path.splitName (entryName key).toList =
    if (sanitize key).toList.isEmpty then ((entryName key).toList, none)
    else ((sanitize key).toList, some ['j', 's', 'o', 'n']) := by
  rw [toList_entryName]
  exact Path.splitName_append (by decide)

theorem toList_standInName (key : String) :
    (standInName key).toList = Path.stem (entryName key).toList ++ ['.', 't', 'm', 'p'] := by
  rw [standInName, Path.tempName, String.toList_ofList]

/-- No file is the stand-in of another. -/
theorem entryName_ne_standInName : entryName key ≠ standInName other :=
  entryName_ne

example : ["", "..", "a.json", "a.tmp"].map standInName =
    [".json.tmp", "...tmp", "a.json.tmp", "a.tmp.tmp"] := by decide

theorem standInName_ne_of_length {name : String} (h : name.toList.length < 4) :
    standInName key ≠ name := by
  intro heq
  rw [← heq, toList_standInName, List.length_append] at h
  exact absurd h (Nat.not_lt_of_le (Nat.le_add_left 4 _))

theorem nul_not_mem_standInName (h : '\x00' ∉ key.toList) : '\x00' ∉ (standInName key).toList := by
  rw [toList_standInName, List.mem_append]
  intro hnul
  obtain hstem | htmp := hnul
  · exact nul_not_mem_entryName h (Path.stem_subset _ hstem)
  · exact absurd htmp (by decide)

theorem octetCount_entryName (key : String) : octetCount (entryName key) = octetCount key + 5 := by
  have htoList : entryName key =
      String.ofList ((sanitize key).toList ++ ['.', 'j', 's', 'o', 'n']) := by
    rw [← toList_entryName, String.ofList_toList]
  rw [htoList, FileSystem.octetCount_append, String.ofList_toList, octetCount_sanitize]
  rfl

theorem octetCount_standInName_le (h : octetCount key ≤ 250) :
    octetCount (standInName key) ≤ longestName := by
  rw [standInName, Path.tempName, FileSystem.octetCount_append, Path.stem, splitName_entryName]
  split
  · rename_i hempty
    rw [toList_entryName, List.isEmpty_iff.mp hempty]
    decide
  · show octetCount (String.ofList (sanitize key).toList) + 4 ≤ 255
    rw [String.ofList_toList, octetCount_sanitize]
    omega

/-! ## Where files and stand-ins can be reached -/

/-- A key against which no limit on names and paths stands. -/
structure Admits (directory : Path) (key : String) : Prop where
  nulFree : '\x00' ∉ key.toList
  short : octetCount key ≤ 250
  entry : octetCount (entryPath directory key).text ≤ longestPath
  standIn : octetCount (TextFile.standIn (entryPath directory key)).text ≤ longestPath

theorem Admits.congr (h : Admits directory key) (hsame : sanitize other = sanitize key) :
    Admits directory other := by
  have hpath : entryPath directory other = entryPath directory key := by
    rw [entryPath, entryPath, entryName_inj.mpr hsame]
  refine ⟨?_, ?_, ?_, ?_⟩
  · rw [← nul_mem_sanitize, hsame, nul_mem_sanitize]
    exact h.nulFree
  · rw [← octetCount_sanitize, hsame, octetCount_sanitize]
    exact h.short
  · rw [hpath]
    exact h.entry
  · rw [hpath]
    exact h.standIn

theorem child_entryName (h : Stands fs directory) (hadmits : Admits directory key) :
    fs.child (fs.destination directory) (entryName key) =
      .ok (fs.destination directory ++ [entryName key]) := by
  have hname := isName_entryName key
  apply FileSystem.child_of_name h.isDirectory
  · intro heq
    exact hname.ne_dot (congrArg String.toList heq)
  · exact FileSystem.entryName_ne_dots key
  · have hshort := hadmits.short
    rw [octetCount_entryName]
    show octetCount key + 5 ≤ 255
    omega

theorem child_standInName (h : Stands fs directory) (hadmits : Admits directory key) :
    fs.child (fs.destination directory) (standInName key) =
      .ok (fs.destination directory ++ [standInName key]) := by
  apply FileSystem.child_of_name h.isDirectory
  · exact standInName_ne_of_length (by decide)
  · exact standInName_ne_of_length (by decide)
  · exact octetCount_standInName_le hadmits.short

theorem liesIn_entryPath (directory : Path) (key : String) :
    Path.LiesIn (entryPath directory key) directory (entryName key) :=
  Path.exists_parts_join directory (isName_entryName key)

theorem liesIn_standIn (directory : Path) (hkey : key ≠ ".") :
    Path.LiesIn (TextFile.standIn (entryPath directory key)) directory (standInName key) := by
  apply (liesIn_entryPath directory key).standIn (FileSystem.entryName_ne_dots key)
  rw [Path.extension?, Path.stem, splitName_entryName]
  split
  · intro hnone
    exact absurd rfl hnone
  · intro _ hdot
    exact hkey (sanitize_eq_dot.mp (String.toList_inj.mp hdot))

/-- The stand-in for the file of the single dot is the parent of the directory. -/
theorem liesIn_standIn_dot (directory : Path) :
    Path.LiesIn (TextFile.standIn (entryPath directory ".")) directory ".." := by
  have hsplit : Path.splitName (entryName ".").toList = (['.'], some ['j', 's', 'o', 'n']) := by
    rw [splitName_entryName]
    decide
  apply (liesIn_entryPath directory ".").standIn_of_dot (FileSystem.entryName_ne_dots ".")
  · rw [Path.extension?, hsplit]
  · rw [Path.stem, hsplit]

theorem locate_entryPath (h : Stands fs directory) (hadmits : Admits directory key) :
    fs.locate (.ofPath (entryPath directory key)) =
      .ok (fs.destination directory ++ [entryName key]) :=
  (FileSystem.locate_of_liesIn h (liesIn_entryPath directory key)
    (nul_not_mem_entryName hadmits.nulFree) hadmits.entry).trans (child_entryName h hadmits)

theorem locate_standIn (h : Stands fs directory) (hadmits : Admits directory key)
    (hkey : key ≠ ".") : fs.locate (.ofPath (TextFile.standIn (entryPath directory key))) =
      .ok (fs.destination directory ++ [standInName key]) :=
  (FileSystem.locate_of_liesIn h (liesIn_standIn directory hkey)
    (nul_not_mem_standInName hadmits.nulFree) hadmits.standIn).trans (child_standInName h hadmits)

/-! ## Single calls -/

theorem isInside_concat_self (place : Place) (name : String) : IsInside place (place ++ [name]) :=
  FileSystem.isInside_concat.mpr (List.prefix_refl place)

/-- The first step of every write to a directory that can be made. -/
theorem exists_makeParents (h : IsReady fs directory) (hadmits : Admits directory key)
    (text : List Char) :
    ∃ made, TextFile.Step.makeParents.perform (entryPath directory key) text fs = (made, .ok ()) ∧
      Stands made directory ∧ made.destination directory = fs.destination directory ∧
      ∀ place, IsInside (fs.destination directory) place → made.at? place = fs.at? place := by
  obtain ⟨made, hmade, hstands, hcurrent, hinside⟩ := h.exists_made
  refine ⟨made, ?_, hstands, FileSystem.destination_congr hcurrent directory, hinside⟩
  rw [TextFile.perform_makeParents (liesIn_entryPath directory key) hstands.nulFree hadmits.entry]
  exact hmade

theorem exists_set (h : IsReady fs directory) (hadmits : Admits directory key) (hkey : key ≠ ".")
    (hfree : fs.at? (fs.destination directory ++ [standInName key]) = none)
    (hfile : fs.at? (fs.destination directory ++ [entryName key]) ≠ some .directory)
    (value : String) :
    ∃ after, (fileStore directory).set fs key value = (after, .ok ()) ∧ Stands after directory ∧
      after.destination directory = fs.destination directory ∧
      after.at? (fs.destination directory ++ [entryName key]) =
        some (.file (Utf8.encode value.toList)) ∧
      ∀ place, IsInside (fs.destination directory) place →
        place ≠ fs.destination directory ++ [entryName key] → after.at? place = fs.at? place := by
  obtain ⟨made, hparents, hstands, hdestination, hinside⟩ :=
    exists_makeParents h hadmits value.toList
  have hstandIn := liesIn_standIn directory hkey
  have hentry := liesIn_entryPath directory key
  have htemp := locate_standIn hstands hadmits hkey
  have hgoal := locate_entryPath hstands hadmits
  rw [hdestination] at htemp hgoal
  have hne : fs.destination directory ++ [standInName key] ≠
      fs.destination directory ++ [entryName key] := by
    intro heq
    exact entryName_ne_standInName (FileSystem.name_inj heq).symm
  have hstandInName : (FileSystem.Route.ofPath
      (TextFile.standIn (entryPath directory key))).endsInName = true := by
    rw [hstandIn.endsInName, bne_iff_ne]
    exact standInName_ne_of_length (by decide)
  have hentryName : (FileSystem.Route.ofPath (entryPath directory key)).endsInName = true := by
    rw [hentry.endsInName, bne_iff_ne]
    exact FileSystem.entryName_ne_dots key
  rw [← hinside _ (isInside_concat_self _ _)] at hfree hfile
  obtain ⟨after, hwrite, hkeeps, hwritten, helse⟩ := TextFile.write_of_locate hparents htemp
    hstandInName hstandIn.endsInSlash hgoal hentryName hentry.endsInSlash hfree hfile hne
  refine ⟨after, ?_, hstands.keeps hkeeps, ?_, hwritten, fun place hplace hother => ?_⟩
  · simp only [fileStore, hwrite]
    rfl
  · rw [FileSystem.destination_congr hkeeps.current, hdestination]
  · rw [helse place hother, hinside place hplace]

/-- A single dot cannot be written to.  What stands in for its file would be the
parent of the directory. -/
theorem exists_set_dot (h : IsReady fs directory) (hadmits : Admits directory ".")
    (value : String) :
    ∃ after, (fileStore directory).set fs "." value = (after, .error (.storage .isDirectory)) ∧
      Stands after directory ∧ after.destination directory = fs.destination directory ∧
      ∀ place, IsInside (fs.destination directory) place → after.at? place = fs.at? place := by
  obtain ⟨made, hparents, hstands, hdestination, hinside⟩ :=
    exists_makeParents h hadmits value.toList
  have hstandIn := liesIn_standIn_dot directory
  have hparent : made.child (made.destination directory) ".." =
      .ok (made.destination directory).dropLast := by
    simp only [FileSystem.child, hstands.isDirectory]
    rfl
  have hlocate := (FileSystem.locate_of_liesIn hstands hstandIn (by decide) hadmits.standIn).trans
    hparent
  have hcreate : made.create (.ofPath (TextFile.standIn (entryPath directory "."))) =
      .error .isDirectory := by
    rw [FileSystem.create, hlocate, ok_bind, hstandIn.endsInName]
    rfl
  refine ⟨made, ?_, hstands, hdestination, hinside⟩
  have hwrite : TextFile.write fs (entryPath directory ".") value =
      (made, .error .isDirectory) := by
    rw [TextFile.write, TextFile.steps, TextFile.run, hparents]
    show TextFile.run _ value.toList made _ = _
    rw [TextFile.run, TextFile.Step.perform, hcreate, TextFile.attempt]
  simp only [fileStore, hwrite]
  rfl

theorem get_of_file (h : Stands fs directory) (hadmits : Admits directory key) {value : String}
    (hfile : fs.at? (fs.destination directory ++ [entryName key]) =
      some (.file (Utf8.encode value.toList))) :
    (fileStore directory).get fs key = .ok (some value) := by
  have hlookup : fs.lookup (.ofPath (entryPath directory key)) =
      .ok (.file (Utf8.encode value.toList)) := by
    rw [FileSystem.lookup, locate_entryPath h hadmits, ok_bind, hfile]
    simp only [(liesIn_entryPath directory key).endsInSlash]
    rfl
  rw [get_fileStore, TextFile.read, hlookup]
  simp only [Utf8.decode?_encode, String.ofList_toList]
  rfl

theorem get_of_none (h : fs.at? (fs.destination directory ++ [entryName key]) = none) :
    (fileStore directory).get fs key = .ok none := by
  have hlookup : ∃ fault, fs.lookup (.ofPath (entryPath directory key)) = .error fault := by
    cases hlocate : fs.locate (.ofPath (entryPath directory key)) with
    | error fault =>
      refine ⟨fault, ?_⟩
      rw [FileSystem.lookup, hlocate]
      rfl
    | ok place =>
      refine ⟨.missing, ?_⟩
      have hplace := FileSystem.locate_eq_ok hlocate
      rw [FileSystem.destination_entryPath] at hplace
      rw [FileSystem.lookup, hlocate, ok_bind, hplace, h]
  obtain ⟨fault, hfault⟩ := hlookup
  rw [get_fileStore, TextFile.read, hfault]
  rfl

end Storage
end RepoFeed
