import RepoFeed.Proofs.Storage.Steps

/-
Writes that succeed.

Where the directory of a file stands and neither the file nor its stand-in is a
directory, each step of a write finds what the step before it left, and none of
them has anything to fail of.
-/

namespace RepoFeed
namespace Storage
/-- A path that ends in a name, before which it leads where a directory is. -/
def Path.LiesIn (path directory : Path) (name : String) : Prop :=
  ∃ before, Path.Parts path.text.toList before name [] ∧
    Path.namesIn before = directory.names ∧ (before.head? == some '/') = directory.isAbsolute

namespace Path.LiesIn

variable {path directory : Path} {name : String}

/-- The stand-in of a file lies where the file does, unless it is left without a
name. -/
theorem standIn (h : LiesIn path directory name) (hdots : name ≠ "..")
    (hstem : extension? name.toList ≠ none → stem name.toList ≠ ['.']) :
    LiesIn (TextFile.standIn path) directory (tempName name.toList) := by
  obtain ⟨before, hparts, hbefore⟩ := h
  exact ⟨before, parts_standIn hparts hdots hstem, hbefore⟩

theorem standIn_of_dot {extension : List Char} (h : LiesIn path directory name)
    (hdots : name ≠ "..") (hextension : extension? name.toList = some extension)
    (hstem : stem name.toList = ['.']) : LiesIn (TextFile.standIn path) directory ".." := by
  obtain ⟨before, hparts, hbefore⟩ := h
  exact ⟨before, parts_standIn_of_dot hparts hdots hextension hstem, hbefore⟩

theorem isAbsolute_eq (h : LiesIn path directory name) :
    path.isAbsolute = directory.isAbsolute := by
  obtain ⟨before, hparts, -, habsolute⟩ := h
  exact (isAbsolute_of_parts hparts).trans habsolute

theorem names_eq (h : LiesIn path directory name) : path.names = directory.names ++ [name] := by
  obtain ⟨before, hparts, hnames, -⟩ := h
  rw [← hnames]
  exact hparts.namesIn_eq

/-- Without single dots the pieces before the name are the names of the directory. -/
theorem exists_pieces (h : LiesIn path directory name) :
    ∃ front, path.pieces = front ++ [name] ∧ front.filter (· != ".") = directory.names := by
  obtain ⟨before, hparts, hnames, -⟩ := h
  refine ⟨piecesIn before, hparts.piecesIn_eq, ?_⟩
  rw [← namesIn_eq_filter, hnames]

theorem endsInName (h : LiesIn path directory name) :
    (FileSystem.Route.ofPath path).endsInName = (name != "..") := by
  obtain ⟨before, hparts, -, -⟩ := h
  have hdot : (name != ".") = true := by
    rw [bne_iff_ne]
    intro heq
    subst heq
    exact hparts.isName.ne_dot rfl
  have hlast : (FileSystem.Route.ofPath path).pieces.getLast? = some name := by
    show (piecesIn path.text.toList).getLast? = some name
    rw [hparts.piecesIn_eq, List.getLast?_concat]
  rw [FileSystem.Route.endsInName, hlast]
  simp only [hdot, Bool.true_and]

theorem endsInSlash (h : LiesIn path directory name) :
    (FileSystem.Route.ofPath path).endsInSlash = false := by
  obtain ⟨before, hparts, -, -⟩ := h
  show (path.text.toList.getLast? == some '/') = false
  rw [hparts.text_eq, List.append_nil, List.getLast?_append,
    List.getLast?_eq_some_getLast hparts.isName.ne_nil, Option.some_or, beq_eq_false_iff_ne]
  intro heq
  exact hparts.isName.slashless (Option.some.inj heq ▸ List.getLast_mem hparts.isName.ne_nil)

end Path.LiesIn

namespace FileSystem

variable {fs : FileSystem} {path directory : Path} {name : String}

/-! ## Names in directories that stand -/

/-- A path that leads to a standing directory and ends in a name, leads on to what
the name is in the directory. -/
theorem locate_of_liesIn (h : Stands fs directory) (hlies : Path.LiesIn path directory name)
    (hnul : '\x00' ∉ name.toList) (hlength : octetCount path.text ≤ longestPath) :
    fs.locate (.ofPath path) = fs.child (fs.destination directory) name := by
  obtain ⟨front, hpieces, hfront⟩ := hlies.exists_pieces
  have hfault : (Route.ofPath path).fault? = none := by
    apply Route.fault?_eq_none
    · intro piece hpiece
      change piece ∈ path.pieces at hpiece
      rw [hpieces, List.mem_append, List.mem_singleton] at hpiece
      obtain hpiece | rfl := hpiece
      · by_cases hdot : piece = "."
        · subst hdot
          decide
        · apply h.nulFree
          rw [← hfront]
          exact List.mem_filter.mpr ⟨hpiece, by simpa using hdot⟩
      · exact hnul
    · exact hlength
  have hwalk : fs.walk (fs.start directory.isAbsolute) front = .ok (fs.destination directory) := by
    apply walk_of_filter _ h.isDirectory
    rw [hfront]
    exact h.walk
  have hempty : ¬ ((Route.ofPath path).pieces.isEmpty = true ∧
      (!(Route.ofPath path).isAbsolute) = true) := by
    simp [Route.ofPath, hpieces]
  unfold FileSystem.locate
  rw [hfault]
  simp only [if_neg hempty]
  show fs.walk (fs.start path.isAbsolute) path.pieces = _
  rw [hlies.isAbsolute_eq, hpieces, walk_append hwalk]
  show (fs.child _ _ >>= fun place => .ok place) = _
  cases fs.child (fs.destination directory) name <;> rfl

/-! ## Octets of paths -/

theorem octetCount_append (a b : List Char) :
    octetCount (String.ofList (a ++ b)) =
      octetCount (String.ofList a) + octetCount (String.ofList b) := by
  simp only [octetCount, String.toList_ofList, Utf8.encode, List.flatMap_append, List.length_append]

/-- The directory of a path is not written in more octets than the path. -/
theorem octetCount_parent_le (h : Path.LiesIn path directory name)
    (hlength : octetCount path.text ≤ longestPath) :
    octetCount path.parent.text ≤ longestPath := by
  have hlast : path.names.getLast? = some name := by
    rw [h.names_eq, List.getLast?_concat]
  obtain ⟨before, hparts, -, -⟩ := h
  have hbefore : (before ++ name.toList).take ((before ++ name.toList).length - name.length) =
      before := by
    rw [List.length_append, String.length_toList, Nat.add_sub_cancel, List.take_left]
  simp only [Path.parent, hlast, hparts.trimEnding_eq, hbefore]
  split
  · have hslash : octetCount "/" = 1 := by decide
    rw [hslash, longestPath]
    omega
  · obtain ⟨-, ending, htrim, -⟩ := Path.exists_of_trimEnding before
    have htext : path.text = String.ofList (Path.trimEnding before ++ (ending ++ name.toList)) := by
      rw [← List.append_assoc, ← htrim, ← List.append_nil (before ++ name.toList), ← hparts.text_eq,
        String.ofList_toList]
    rw [htext, octetCount_append] at hlength
    exact Nat.le_trans (Nat.le_add_right _ _) hlength

end FileSystem

namespace TextFile

open FileSystem

variable {fs : FileSystem} {path directory : Path} {name : String}

/-- What a write makes first is the directory of the path. -/
theorem perform_makeParents (h : Path.LiesIn path directory name)
    (hnul : ∀ name ∈ directory.names, '\x00' ∉ name.toList)
    (hlength : octetCount path.text ≤ longestPath) (text : List Char) :
    Step.makeParents.perform path text fs =
      fs.makeDirectories directory.isAbsolute directory.names.reverse := by
  have hroute : (Route.parent path).pieces = directory.names := by
    show path.names.dropLast = _
    rw [h.names_eq, List.dropLast_concat]
  have hparent : (Route.parent path).length = octetCount path.parent.text := by
    rw [Route.parent]
  have hfault : (Route.parent path).fault? = none := by
    apply Route.fault?_eq_none
    · rw [hroute]
      exact hnul
    · rw [hparent]
      exact octetCount_parent_le h hlength
  simp only [Step.perform, hfault, hroute]
  show fs.makeDirectories path.isAbsolute _ = _
  rw [h.isAbsolute_eq]

/-- A write succeeds where its directory can be made, its file and its stand-in can
then be reached, nothing is in the place of the stand-in, and the file is no
directory.  Apart from the file everything is as it was when the directory was
made. -/
theorem write_of_locate {made : FileSystem} {entry temp : Place} {text : String}
    (hparents : Step.makeParents.perform path text.toList fs = (made, .ok ()))
    (htemp : made.locate (.ofPath (standIn path)) = .ok temp)
    (htempName : (Route.ofPath (standIn path)).endsInName = true)
    (htempSlash : (Route.ofPath (standIn path)).endsInSlash = false)
    (hentry : made.locate (.ofPath path) = .ok entry)
    (hentryName : (Route.ofPath path).endsInName = true)
    (hentrySlash : (Route.ofPath path).endsInSlash = false)
    (hnone : made.at? temp = none) (hfile : made.at? entry ≠ some .directory)
    (hne : temp ≠ entry) :
    ∃ after, write fs path text = (after, .ok ()) ∧ KeepsDirectories made after ∧
      after.at? entry = some (.file (Utf8.encode text.toList)) ∧
      ∀ place, place ≠ entry → after.at? place = made.at? place := by
  have hfree : made.at? temp ≠ some .directory := by
    rw [hnone]
    nofun
  have hcreate : Step.createStandIn.perform path text.toList made =
      (made.put temp (.file []), .ok ()) := by
    rw [Step.perform, create_of_locate htemp htempName htempSlash hfree, attempt]
  obtain ⟨filled, hfilled⟩ := run_of_createStandIn hcreate
  have hprepared : run path text.toList fs preparation = (filled, .ok ()) :=
    run_cons_eq_ok.mpr ⟨made, hparents, hfilled⟩
  have hkeeps := keepsDirectories_of_run hfilled
  have hmade : parentsMade path fs = made := congrArg Prod.fst hparents
  have htempPlace : fs.destination (standIn path) = temp := by
    rw [locate_eq_ok htemp, ← hmade, destination_congr (current_parentsMade path fs)]
  obtain ⟨hfilledTemp, hfilledElse⟩ := at?_prepared hprepared
  rw [htempPlace] at hfilledTemp hfilledElse
  rw [hmade] at hfilledElse
  have hfilledEntry : filled.at? entry ≠ some .directory := by
    rwa [hfilledElse entry hne.symm]
  have hrename := rename_of_locate (hkeeps.locate htemp) (hkeeps.locate hentry) hentryName
    hentrySlash hfilledTemp hfilledEntry hne
  obtain ⟨after, hpublish⟩ : ∃ after,
      Step.publish.perform path text.toList filled = (after, .ok ()) :=
    ⟨_, by rw [Step.perform, hrename, attempt]⟩
  have hpublished := keepsDirectories_of_perform hpublish
  have htempFilled := locate_eq_ok (hkeeps.locate htemp)
  have hentryFilled := locate_eq_ok (hkeeps.locate hentry)
  rw [htempFilled] at hfilledTemp
  obtain ⟨hfile, hmoved, helse⟩ := at?_of_publish hfilledTemp hpublish
  rw [← htempFilled, ← hentryFilled] at hmoved helse
  refine ⟨after, ?_, hkeeps.trans hpublished, hentryFilled ▸ hfile, fun place hplace => ?_⟩
  · rw [write_eq, hprepared]
    exact hpublish
  · by_cases hother : place = temp
    · rw [hother, hmoved hne, hnone]
    · rw [helse place hplace hother, hfilledElse place hother]

end TextFile
end Storage
end RepoFeed
