import RepoFeed.Proofs.Storage.SingleCall

/-
The files of keys.

A key can be any text, a path to somewhere else included.  Its file lies in the
directory of the store all the same, directly and under a name of its own, and the
only keys that share a file are those that differ in characters which a file name
should not have, or in one of these and the character that stands for them.

Paths are compared by what they are made of, as far as it says something: a second
slash or a single dot further on makes no other path of it.
-/

namespace RepoFeed
namespace Storage

/-! ## What a path is made of -/

inductive Component where
  | root
  /-- A single dot that a path begins with. -/
  | here
  | name (text : String)
deriving DecidableEq, Repr

namespace Path

/-- Whether a path begins with a single dot.  Further on such a dot says nothing. -/
def startsHere (path : Path) : Bool :=
  (Text.split (· == '/') path.text.toList).head? == some ['.']

def components (path : Path) : List Component :=
  (if path.isAbsolute then [.root] else if path.startsHere then [.here] else []) ++
    path.names.map .name

/-- What stands before the first slash is not changed by what follows. -/
theorem head?_split_append_cons (a b : List Char) :
    (Text.split (· == '/') (a ++ '/' :: b)).head? = (Text.split (· == '/') a).head? := by
  rw [Text.split_append_cons (by rfl) a b, List.head?_append]
  cases hsplit : Text.split (· == '/') a with
  | nil => exact absurd hsplit (Text.split_ne_nil a)
  | cons piece pieces => rfl

theorem startsHere_join (directory : Path) {name : String} (hname : IsName name.toList) :
    (directory.join ⟨name⟩).startsHere = directory.startsHere := by
  have hrelative := isAbsolute_of_isName hname
  unfold join
  by_cases hempty : directory.text = ""
  · have hslashless : ∀ c ∈ name.toList, (c == '/') = false :=
      fun c hc => beq_eq_false_iff_ne.mpr (ne_of_mem_of_not_mem hc hname.slashless)
    rw [if_pos (.inr hempty), startsHere, startsHere, hempty, Text.split_of_forall hslashless]
    simpa [Text.split] using hname.ne_dot
  · rw [if_neg (by simp [hrelative, hempty])]
    by_cases hslash : directory.endsInSlash = true
    · obtain ⟨text, htext⟩ : ∃ text, directory.text.toList = text ++ ['/'] :=
        List.getLast?_eq_some_iff.mp (by simpa [endsInSlash] using hslash)
      have hjoined : (directory.text ++ name).toList = text ++ '/' :: name.toList := by
        rw [String.toList_append, htext, List.append_assoc, List.singleton_append]
      rw [if_pos hslash, startsHere, startsHere, hjoined, htext, head?_split_append_cons,
        head?_split_append_cons]
    · have hjoined : (directory.text ++ "/" ++ name).toList =
          directory.text.toList ++ '/' :: name.toList := by
        rw [String.toList_append, String.toList_append, List.append_assoc]
        rfl
      rw [if_neg hslash, startsHere, startsHere, hjoined, head?_split_append_cons]

/-- A path behind a directory has one component more. -/
theorem components_join (directory : Path) {name : String} (hname : IsName name.toList) :
    (directory.join ⟨name⟩).components = directory.components ++ [.name name] := by
  have hlies : LiesIn (directory.join ⟨name⟩) directory name := exists_parts_join directory hname
  rw [components, components, hlies.isAbsolute_eq, hlies.names_eq, startsHere_join directory hname,
    List.map_append, List.append_assoc]
  rfl

end Path

/-! ## Keys that share a file -/

/-- Characters that are all spelled alike in file names. -/
def IsBlurred (c : Char) : Prop :=
  c ∈ ['/', '\\', ':', '*', '?', '"', '<', '>', '|', '_']

/-- Keys that agree in all places but those where both have a blurred character. -/
def AreAlike (key other : String) : Prop :=
  key.toList.length = other.toList.length ∧
    ∀ (i : Nat) (hkey : i < key.toList.length) (hother : i < other.toList.length),
      key.toList[i] = other.toList[i] ∨
        (IsBlurred key.toList[i] ∧ IsBlurred other.toList[i])

variable {key other : String}

theorem isBlurred_iff (c : Char) : IsBlurred c ↔ isProblematic c = true ∨ c = '_' := by
  simp [IsBlurred, isProblematic, or_assoc]

/-- Two characters are spelled alike if they are the same or both blurred. -/
theorem spelling_eq_iff (c d : Char) :
    (if isProblematic c then '_' else c) = (if isProblematic d then '_' else d) ↔
      c = d ∨ (IsBlurred c ∧ IsBlurred d) := by
  have hbar : isProblematic '_' = false := by decide
  rw [isBlurred_iff, isBlurred_iff]
  by_cases hc : isProblematic c = true
  · by_cases hd : isProblematic d = true
    · simp [hc, hd]
    · rw [if_pos hc, if_neg hd]
      constructor
      · intro h
        exact .inr ⟨.inl hc, .inr h.symm⟩
      · rintro (rfl | ⟨-, hblurred⟩)
        · exact absurd hc hd
        · exact (hblurred.resolve_left hd).symm
  · by_cases hd : isProblematic d = true
    · rw [if_neg hc, if_pos hd]
      constructor
      · intro h
        exact .inr ⟨.inr h, .inl hd⟩
      · rintro (rfl | ⟨hblurred, -⟩)
        · exact absurd hd hc
        · exact hblurred.resolve_left hc
    · rw [if_neg hc, if_neg hd]
      constructor
      · exact .inl
      · rintro (heq | ⟨hblurred, hother⟩)
        · exact heq
        · rw [hblurred.resolve_left hc, hother.resolve_left hd]

/-- The spelling of a key is found place by place. -/
theorem sanitize_eq_iff : sanitize key = sanitize other ↔ AreAlike key other := by
  rw [← String.toList_inj, toList_sanitize, toList_sanitize, List.ext_getElem_iff]
  simp only [List.length_map, List.getElem_map, spelling_eq_iff, AreAlike]

theorem components_entryPath (directory : Path) (key : String) :
    (entryPath directory key).components = directory.components ++ [.name (entryName key)] :=
  Path.components_join directory (isName_entryName key)

/-- The file of a key lies directly in the directory and has the spelled key as its
name, and two keys have the same file exactly if they are alike. -/
theorem entryPath_eq_iff (directory : Path) (key other : String) :
    (entryPath directory key).components =
        directory.components ++ [.name (sanitize key ++ ".json")] ∧
      (entryPath directory key).fileName? = some (sanitize key ++ ".json") ∧
      '/' ∉ (sanitize key ++ ".json").toList ∧
      sanitize key ++ ".json" ≠ "." ∧ sanitize key ++ ".json" ≠ ".." ∧
      ((entryPath directory key).components = (entryPath directory other).components ↔
        AreAlike key other) ∧
      (entryPath directory key = entryPath directory other ↔ AreAlike key other) := by
  have hname := isName_entryName key
  have halike : (entryPath directory key).components = (entryPath directory other).components →
      AreAlike key other := by
    intro h
    rw [components_entryPath, components_entryPath] at h
    have hlast := List.append_cancel_left h
    rw [← sanitize_eq_iff, ← entryName_inj]
    exact Component.name.inj (List.cons.inj hlast).1
  have hsame : AreAlike key other → entryPath directory key = entryPath directory other := by
    intro h
    rw [entryPath, entryPath, entryName_inj.mpr (sanitize_eq_iff.mpr h)]
  refine ⟨components_entryPath directory key, FileSystem.fileName?_entryPath directory key,
    hname.slashless, fun hdot => hname.ne_dot (congrArg String.toList hdot),
    FileSystem.entryName_ne_dots key, ⟨halike, fun h => congrArg _ (hsame h)⟩,
    ⟨fun h => halike (congrArg _ h), hsame⟩⟩

example : entryPath ⟨"./cache"⟩ "../a:b" = entryPath ⟨"./cache"⟩ "..|a_b" := by decide

end Storage
end RepoFeed
