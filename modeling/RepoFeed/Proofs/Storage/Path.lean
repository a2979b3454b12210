import RepoFeed.Proofs.Text.Split
import RepoFeed.Storage.TextFile

/-
The names in paths.

A path that ends in a name of its own is taken apart into what stands before the
name, the name, and slashes and single dots behind it.  The stand-in of a file
has another name behind the same beginning, so it lies in the same directory.
-/

namespace RepoFeed
namespace Storage
namespace Path

/-! ## Names in texts -/

/-- The names in a text, as `names` finds them in a path. -/
def namesIn (text : List Char) : List String :=
  ((((Text.split (· == '/') text).filter (! ·.isEmpty)).map String.ofList)).filter (· != ".")

/-- The pieces in a text, with the single dots that are no names. -/
def piecesIn (text : List Char) : List String :=
  ((Text.split (· == '/') text).filter (! ·.isEmpty)).map String.ofList

theorem namesIn_eq_filter (text : List Char) :
    namesIn text = (piecesIn text).filter (· != ".") := rfl

theorem piecesIn_append_cons (a b : List Char) :
    piecesIn (a ++ '/' :: b) = piecesIn a ++ piecesIn b := by
  have hsplit : Text.split (· == '/') (a ++ '/' :: b) = _ := Text.split_append_cons rfl a b
  rw [piecesIn, hsplit, List.filter_append, List.map_append]
  rfl

theorem namesIn_append_cons (a b : List Char) :
    namesIn (a ++ '/' :: b) = namesIn a ++ namesIn b := by
  rw [namesIn_eq_filter, piecesIn_append_cons, List.filter_append]
  rfl

/-- A text that names a file of its own in a directory. -/
structure IsName (name : List Char) : Prop where
  ne_nil : name ≠ []
  ne_dot : name ≠ ['.']
  slashless : '/' ∉ name

theorem IsName.piecesIn_eq {name : List Char} (h : IsName name) :
    piecesIn name = [String.ofList name] := by
  have hsplit : Text.split (· == '/') name = [name] :=
    Text.split_of_forall fun c hc => by
      rw [beq_eq_false_iff_ne]
      intro heq
      subst heq
      exact h.slashless hc
  rw [piecesIn, hsplit]
  simp [h.ne_nil]

theorem IsName.namesIn_eq {name : List Char} (h : IsName name) :
    namesIn name = [String.ofList name] := by
  have hdot : String.ofList name ≠ "." := fun heq => h.ne_dot (by
    rw [← String.toList_ofList (l := name), heq]
    rfl)
  rw [namesIn_eq_filter, h.piecesIn_eq]
  simp [hdot]

/-- Texts behind which a name can start. -/
def Opens (before : List Char) : Prop :=
  before = [] ∨ ∃ text, before = text ++ ['/']

theorem Opens.piecesIn_append {before : List Char} (h : Opens before) (text : List Char) :
    piecesIn (before ++ text) = piecesIn before ++ piecesIn text := by
  have hnil : piecesIn [] = [] := rfl
  obtain rfl | ⟨start, rfl⟩ := h
  · rfl
  · rw [List.append_assoc, List.singleton_append, piecesIn_append_cons, piecesIn_append_cons, hnil,
      List.append_nil]

theorem Opens.namesIn_append {before : List Char} (h : Opens before) (text : List Char) :
    namesIn (before ++ text) = namesIn before ++ namesIn text := by
  rw [namesIn_eq_filter, h.piecesIn_append, List.filter_append]
  rfl

theorem exists_opens (text : List Char) :
    ∃ before name, text = before ++ name ∧ Opens before ∧ '/' ∉ name := by
  induction text with
  | nil => exact ⟨[], [], rfl, .inl rfl, nofun⟩
  | cons c text ih =>
    obtain ⟨before, name, rfl, hopens, hname⟩ := ih
    obtain rfl | ⟨start, rfl⟩ := hopens
    · by_cases hc : c = '/'
      · exact ⟨[c], name, rfl, .inr ⟨[], by rw [hc]; rfl⟩, hname⟩
      · refine ⟨[], c :: name, rfl, .inl rfl, ?_⟩
        rw [List.mem_cons]
        intro h
        obtain h | h := h
        · exact hc h.symm
        · exact hname h
    · exact ⟨c :: (start ++ ['/']), name, rfl, .inr ⟨c :: start, rfl⟩, hname⟩

/-! ## Endings that say nothing -/

/-- Slashes, and single dots between them, behind a text. -/
inductive IsMute : List Char → Prop
  | nil : IsMute []
  | slash {ending : List Char} (h : IsMute ending) : IsMute (ending ++ ['/'])
  | dot {ending : List Char} (h : IsMute (ending ++ ['/'])) : IsMute (ending ++ ['/'] ++ ['.'])

theorem IsMute.namesIn_append {ending : List Char} (h : IsMute ending) (text : List Char) :
    namesIn (text ++ ending) = namesIn text := by
  induction h with
  | nil => rw [List.append_nil]
  | slash _ ih =>
    rw [← List.append_assoc, namesIn_append_cons, ih]
    exact List.append_nil _
  | @dot ending _ ih =>
    have hdot : namesIn ['.'] = namesIn [] := rfl
    rw [← List.append_assoc, ← List.append_assoc, List.append_assoc _ ['/'],
      List.singleton_append, namesIn_append_cons, hdot, ← namesIn_append_cons,
      List.append_assoc, ih]

theorem IsMute.take {ending : List Char} (h : IsMute ending) (k : Nat) :
    IsMute (ending.take k) := by
  induction h with
  | nil => rw [List.take_nil]; exact .nil
  | @slash ending h ih =>
    by_cases hk : k ≤ ending.length
    · rwa [List.take_append_of_le_length hk]
    · rw [List.take_of_length_le (by simp; omega)]
      exact h.slash
  | @dot ending h ih =>
    by_cases hk : k ≤ (ending ++ ['/']).length
    · rwa [List.take_append_of_le_length hk]
    · rw [List.take_of_length_le (by simp at hk ⊢; omega)]
      exact h.dot

/-- Texts that end neither in a slash nor in a slash and a dot. -/
def IsTrim (text : List Char) : Prop :=
  (∀ start, text ≠ start ++ ['/']) ∧ ∀ start, text ≠ start ++ ['/', '.']

theorem eq_of_append_concat {before name start : List Char} {c : Char} (hname : name ≠ [])
    (h : before ++ name = start ++ [c]) : ∃ rest, name = rest ++ [c] ∧ start = before ++ rest := by
  obtain ⟨rest, last, rfl⟩ : ∃ rest last, name = rest ++ [last] :=
    ⟨_, _, (List.dropLast_concat_getLast hname).symm⟩
  rw [← List.append_assoc] at h
  obtain ⟨hstart, hlast⟩ := List.append_inj' h rfl
  exact ⟨rest, by rw [hlast], hstart.symm⟩

theorem isTrim_of_isName {name : List Char} (hname : IsName name) (before : List Char) :
    IsTrim (before ++ name) := by
  constructor
  · intro start hstart
    obtain ⟨rest, hrest, -⟩ := eq_of_append_concat hname.ne_nil hstart
    exact hname.slashless (by simp [hrest])
  · intro start hstart
    have hslash : before ++ name = start ++ ['/'] ++ ['.'] := by rw [hstart, List.append_assoc]; rfl
    obtain ⟨rest, rfl, hbefore⟩ := eq_of_append_concat hname.ne_nil hslash
    by_cases hrest : rest = []
    · exact hname.ne_dot (by rw [hrest]; rfl)
    · obtain ⟨_, hslash, -⟩ := eq_of_append_concat hrest hbefore.symm
      exact hname.slashless (by simp [hslash])

theorem trimEnding_of_isTrim {text : List Char} (h : IsTrim text) : trimEnding text = text := by
  rw [trimEnding, trimEnding.go.eq_def]
  split
  · rename_i rest _ hreversed
    refine absurd ?_ (h.1 rest.reverse)
    rw [← List.reverse_reverse text, hreversed, List.reverse_cons]
  · rename_i rest _ hreversed
    refine absurd ?_ (h.2 rest.reverse)
    rw [← List.reverse_reverse text, hreversed, List.reverse_cons, List.reverse_cons,
      List.append_assoc]
    rfl
  · exact List.reverse_reverse text

/-- Only a mute ending is trimmed, and all of it. -/
theorem trimEnding_append {text ending : List Char} (h : IsTrim text) (hmute : IsMute ending) :
    trimEnding (text ++ ending) = text := by
  induction hmute with
  | nil => rw [List.append_nil, trimEnding_of_isTrim h]
  | slash _ ih =>
    rw [← List.append_assoc, trimEnding, List.reverse_append]
    exact ih
  | dot _ ih =>
    rw [← List.append_assoc, trimEnding, List.reverse_append, ← List.append_assoc,
      List.reverse_append]
    rw [← List.append_assoc, trimEnding, List.reverse_append] at ih
    exact ih

theorem exists_of_trimEnding_go {steps : Nat} {reversed : List Char}
    (h : reversed.length ≤ steps) :
    IsTrim (trimEnding.go steps reversed) ∧
      ∃ ending, reversed.reverse = trimEnding.go steps reversed ++ ending ∧ IsMute ending := by
  fun_induction trimEnding.go steps reversed with
  | case1 steps rest ih =>
    rw [List.length_cons] at h
    obtain ⟨htrim, ending, hrest, hmute⟩ := ih (by omega)
    exact ⟨htrim, _, by rw [List.reverse_cons, hrest, List.append_assoc], hmute.slash⟩
  | case2 steps rest ih =>
    simp only [List.length_cons] at h
    obtain ⟨htrim, ending, hrest, hmute⟩ := ih (by simp only [List.length_cons]; omega)
    refine ⟨htrim, ending ++ ['.'], by rw [List.reverse_cons, hrest, List.append_assoc], ?_⟩
    -- The slash before the dot is no part of what is left, so it is mute too.
    rw [List.reverse_cons] at hrest
    cases hmute with
    | nil => exact absurd (by rw [hrest, List.append_nil]) (htrim.1 rest.reverse)
    | slash hmute => exact hmute.slash.dot
    | dot hmute =>
      rw [← List.append_assoc] at hrest
      have hlast := List.append_inj_right' hrest rfl
      contradiction
  | case3 steps reversed hslash hdot =>
    refine ⟨⟨?_, ?_⟩, [], (List.append_nil _).symm, .nil⟩
    · intro start hstart
      have hreversed : reversed = '/' :: start.reverse := by
        rw [← List.reverse_reverse reversed, hstart, List.reverse_append]
        rfl
      rw [hreversed, List.length_cons] at h
      exact hslash (steps - 1) start.reverse (by omega) hreversed
    · intro start hstart
      have hreversed : reversed = '.' :: '/' :: start.reverse := by
        rw [← List.reverse_reverse reversed, hstart, List.reverse_append]
        rfl
      rw [hreversed, List.length_cons] at h
      exact hdot (steps - 1) start.reverse (by omega) hreversed

theorem exists_of_trimEnding (text : List Char) :
    IsTrim (trimEnding text) ∧ ∃ ending, text = trimEnding text ++ ending ∧ IsMute ending := by
  have hgo := exists_of_trimEnding_go (Nat.le_refl text.reverse.length)
  rwa [List.reverse_reverse] at hgo

/-- What stands before the last name of a text, the name, and what is behind
it. -/
structure Parts (text before : List Char) (name : String) (ending : List Char) : Prop where
  opens : Opens before
  isName : IsName name.toList
  isMute : IsMute ending
  text_eq : text = before ++ name.toList ++ ending

theorem Parts.namesIn_eq {text before ending : List Char} {name : String}
    (h : Parts text before name ending) : namesIn text = namesIn before ++ [name] := by
  rw [h.text_eq, h.isMute.namesIn_append, h.opens.namesIn_append, h.isName.namesIn_eq,
    String.ofList_toList]

theorem Parts.piecesIn_eq {text before : List Char} {name : String}
    (h : Parts text before name []) : piecesIn text = piecesIn before ++ [name] := by
  rw [h.text_eq, List.append_nil, h.opens.piecesIn_append, h.isName.piecesIn_eq,
    String.ofList_toList]

theorem Parts.trimEnding_eq {text before ending : List Char} {name : String}
    (h : Parts text before name ending) : trimEnding text = before ++ name.toList := by
  rw [h.text_eq, trimEnding_append (isTrim_of_isName h.isName before) h.isMute]

theorem exists_parts {text : List Char} {name : String}
    (h : (namesIn text).getLast? = some name) : ∃ before ending, Parts text before name ending := by
  obtain ⟨htrim, ending, htext, hmute⟩ := exists_of_trimEnding text
  obtain ⟨before, last, hlast, hopens, hslashless⟩ := exists_opens (trimEnding text)
  rw [hlast] at htext htrim
  have hnames : namesIn text = namesIn (before ++ last) := by rw [htext, hmute.namesIn_append]
  have hname : IsName last := by
    refine ⟨?_, ?_, hslashless⟩
    · intro heq
      subst heq
      rw [List.append_nil] at htrim hnames
      obtain rfl | ⟨start, rfl⟩ := hopens
      · rw [hnames] at h
        contradiction
      · exact htrim.1 start rfl
    · intro heq
      subst heq
      obtain rfl | ⟨start, rfl⟩ := hopens
      · rw [hnames] at h
        contradiction
      · exact htrim.2 start (List.append_assoc _ _ _)
  obtain rfl : String.ofList last = name := by
    rw [hnames, hopens.namesIn_append, hname.namesIn_eq, List.getLast?_append] at h
    exact Option.some.inj h
  rw [← String.toList_ofList (l := last)] at htext hname
  exact ⟨before, ending, hopens, hname, hmute, htext⟩

/-! ## Other extensions -/

theorem getLast?_of_fileName? {path : Path} {name : String} (h : path.fileName? = some name) :
    path.names.getLast? = some name ∧ name ≠ ".." := by
  unfold fileName? at h
  split at h
  · split at h
    · contradiction
    · cases h
      exact ⟨‹_›, ‹_›⟩
  · contradiction

theorem setExtension_of_parts {path : Path} {name : String} (h : path.fileName? = some name)
    {before ending : List Char} (hparts : Parts path.text.toList before name ending)
    (extension : String) : (path.setExtension extension).text.toList =
      before ++ (stem name.toList ++ '.' :: extension.toList) := by
  have hlength : (before ++ name.toList).length - name.toList.length = before.length := by
    rw [List.length_append]
    omega
  have hdot : ".".toList = ['.'] := rfl
  simp only [setExtension, h, hparts.trimEnding_eq, hlength, List.take_left, String.toList_append,
    String.toList_ofList, List.append_assoc, hdot, List.singleton_append]

/-- A text with a dot, from its last dot on. -/
theorem exists_last_dot {name : List Char} (h : '.' ∈ name) :
    ∃ start, name = start ++ '.' :: (name.reverse.takeWhile (· != '.')).reverse := by
  obtain ⟨before, behind, hreverse, hbefore⟩ := List.eq_append_cons_of_mem (List.mem_reverse.mpr h)
  have htake : name.reverse.takeWhile (· != '.') = before := by
    have hall : ∀ c ∈ before, (c != '.') = true := fun c hc => by
      rw [bne_iff_ne]
      intro heq
      subst heq
      exact hbefore hc
    rw [hreverse, List.takeWhile_append_of_pos hall]
    simp
  have hname := congrArg List.reverse hreverse
  rw [List.reverse_reverse, List.reverse_append, List.reverse_cons, List.append_assoc] at hname
  rw [htake]
  exact ⟨behind.reverse, hname⟩

theorem stem_subset (name : List Char) : stem name ⊆ name := by
  simp only [stem, splitName]
  split
  · split
    · exact List.Subset.refl _
    · exact List.take_subset _ _
  · exact List.Subset.refl _

theorem stem_ne_nil {name : List Char} (h : name ≠ []) : stem name ≠ [] := by
  simp only [stem, splitName]
  split
  · split
    · exact h
    · simp_all
  · exact h

/-- A name with an extension is its stem, a dot and the extension. -/
theorem eq_of_extension? {name extension : List Char} (h : extension? name = some extension) :
    stem name ≠ [] ∧ name = stem name ++ '.' :: extension := by
  simp only [extension?, stem, splitName] at h ⊢
  split at h
  · rename_i hdot
    obtain ⟨start, hstart⟩ := exists_last_dot (List.contains_iff_mem.mp hdot)
    revert h
    generalize hbehind : (name.reverse.takeWhile (· != '.')).reverse = behind at hstart ⊢
    have htake : name.take (name.length - behind.length - 1) = start := by
      have hlength : name.length - behind.length - 1 = start.length := by
        rw [hstart, List.length_append, List.length_cons]
        omega
      rw [hlength, hstart, List.take_left]
    rw [htake, if_pos hdot]
    intro h
    split at h
    · contradiction
    · rename_i hstem
      cases h
      rw [if_neg hstem]
      exact ⟨by simpa using hstem, hstart⟩
  · contradiction

/-! ## Stand-ins -/

/-- A path without a file name is its own stand-in. -/
theorem standIn_of_none {path : Path} (h : path.fileName? = none) :
    TextFile.standIn path = path := by
  simp only [TextFile.standIn, withExtension, setExtension, h, Option.bind_none]

/-- Without as many characters as the extension has, a text keeps a name with
the same stem and dot. -/
theorem exists_parts_take {text before ending start extension : List Char} {name : String}
    (h : Parts text before name ending) (hstart : start ≠ [])
    (hname : name.toList = start ++ '.' :: extension) :
    ∃ shorter rest, Parts (text.take (text.length - extension.length)) before shorter rest := by
  have hlength := congrArg List.length h.text_eq
  rw [List.length_append] at hlength
  by_cases hending : extension.length ≤ ending.length
  · refine ⟨name, ending.take (ending.length - extension.length), h.opens, h.isName,
      h.isMute.take _, ?_⟩
    have hcount : text.length - extension.length =
        (before ++ name.toList).length + (ending.length - extension.length) := by omega
    rw [hcount, h.text_eq, List.take_length_add_append]
  · have hshorter : IsName (start ++ '.' :: extension.take ending.length) := by
      refine ⟨by simp, ?_, ?_⟩
      · intro hdot
        have hone := congrArg List.length hdot
        have hpos := List.length_pos_iff.mpr hstart
        simp only [List.length_append, List.length_cons, List.length_nil] at hone
        omega
      · intro hslash
        refine h.isName.slashless ?_
        rw [hname, List.mem_append, List.mem_cons]
        rw [List.mem_append, List.mem_cons] at hslash
        exact hslash.imp_right fun hin => hin.imp_right List.mem_of_mem_take
    rw [← String.toList_ofList (l := start ++ '.' :: extension.take ending.length)] at hshorter
    refine ⟨_, [], h.opens, hshorter, .nil, ?_⟩
    have hcount : text.length - extension.length =
        (before ++ start ++ ['.']).length + ending.length := by
      simp only [hname, List.length_append, List.length_cons, List.length_nil] at hlength ⊢
      omega
    have htext : text = (before ++ start ++ ['.']) ++ (extension ++ ending) := by
      rw [h.text_eq, hname]
      simp
    rw [hcount, htext, List.take_length_add_append, List.take_append_of_le_length (by omega),
      String.toList_ofList]
    simp

/-- The name of a file that stands in for a file of another name. -/
def tempName (name : List Char) : String :=
  String.ofList (stem name ++ ['.', 't', 'm', 'p'])

theorem parts_setExtension {path : Path} {before ending : List Char} {name : String}
    (h : path.fileName? = some name) (hparts : Parts path.text.toList before name ending) :
    Parts (path.setExtension "tmp").text.toList before (tempName name.toList) [] := by
  refine ⟨hparts.opens, ?_, .nil, ?_⟩
  · rw [tempName, String.toList_ofList]
    refine ⟨by simp, fun hdot => ?_, fun hslash => ?_⟩
    · have hone := congrArg List.length hdot
      rw [List.length_append] at hone
      simp at hone
    · rw [List.mem_append] at hslash
      exact hslash.elim (fun h => hparts.isName.slashless (stem_subset _ h)) (by decide)
  · rw [tempName, String.toList_ofList, List.append_nil, setExtension_of_parts h hparts]
    rfl

/-- Without its extension a path is cut behind the last dot of its name. -/
theorem exists_cut {path : Path} {name : String} {extension : List Char}
    (h : path.fileName? = some name) (hextension : extension? name.toList = some extension) :
    ∃ cut : Path, TextFile.standIn path = cut.setExtension "tmp" ∧
      cut.text.toList = path.text.toList.take (path.text.toList.length - extension.length) := by
  refine ⟨⟨String.ofList (path.text.toList.take (path.text.toList.length - extension.length))⟩, ?_,
    String.toList_ofList⟩
  simp only [TextFile.standIn, withExtension, h, Option.bind_some, hextension]

/-- The stand-in of a file lies where the file does and has the extension `tmp`,
unless what is left of the name are two dots. -/
theorem standIn_cases {path : Path} {name : String} (h : path.fileName? = some name) :
    ∃ before ending last rest, Parts path.text.toList before name ending ∧
      Parts (TextFile.standIn path).text.toList before last rest ∧
      ((TextFile.standIn path).fileName? = none ∨
        ∃ start, start ≠ [] ∧ last = String.ofList (start ++ ['.', 't', 'm', 'p'])) := by
  obtain ⟨before, ending, hparts⟩ := exists_parts (getLast?_of_fileName? h).1
  cases hextension : extension? name.toList with
  | none =>
    have hstandIn : TextFile.standIn path = path.setExtension "tmp" := by
      simp only [TextFile.standIn, withExtension, h, Option.bind_some, hextension]
    rw [hstandIn]
    exact ⟨before, ending, _, _, hparts, parts_setExtension h hparts,
      .inr ⟨_, stem_ne_nil hparts.isName.ne_nil, rfl⟩⟩
  | some extension =>
    obtain ⟨hstem, hname⟩ := eq_of_extension? hextension
    obtain ⟨shorter, rest, hrest⟩ := exists_parts_take hparts hstem hname
    obtain ⟨cut, hstandIn, htext⟩ := exists_cut h hextension
    rw [← htext] at hrest
    rw [hstandIn]
    cases hfile : cut.fileName? with
    | none =>
      have hcut : cut.setExtension "tmp" = cut := by simp only [setExtension, hfile]
      rw [hcut]
      exact ⟨before, ending, shorter, rest, hparts, hrest, .inl hfile⟩
    | some last =>
      obtain rfl : shorter = last := by
        have hlast := (getLast?_of_fileName? hfile).1
        change (namesIn cut.text.toList).getLast? = some last at hlast
        rw [hrest.namesIn_eq, List.getLast?_append] at hlast
        exact Option.some.inj hlast
      exact ⟨before, ending, _, _, hparts, parts_setExtension hfile hrest,
        .inr ⟨_, stem_ne_nil hrest.isName.ne_nil, rfl⟩⟩

/-! ## Paths that end in a name -/

theorem exists_fileName? {path : Path}
    (h : (FileSystem.Route.ofPath path).endsInName = true) :
    ∃ name, path.fileName? = some name := by
  unfold FileSystem.Route.endsInName at h
  split at h
  · rename_i piece hlast
    rw [Bool.and_eq_true, bne_iff_ne, bne_iff_ne] at h
    refine ⟨piece, ?_⟩
    have hkept : [piece].filter (· != ".") = [piece] := by
      rw [List.filter_eq_self]
      simpa using h.1
    have hnames : path.names.getLast? = some piece := by
      obtain ⟨pieces, hpieces⟩ := List.getLast?_eq_some_iff.mp hlast
      change path.pieces = pieces ++ [piece] at hpieces
      rw [names, hpieces, List.filter_append, hkept]
      exact List.getLast?_concat
    simp only [fileName?, hnames, if_neg h.2]
  · contradiction

theorem isAbsolute_of_parts {path : Path} {before ending : List Char} {name : String}
    (h : Parts path.text.toList before name ending) :
    path.isAbsolute = (before.head? == some '/') := by
  obtain ⟨c, rest, hname⟩ := List.exists_cons_of_ne_nil h.isName.ne_nil
  have hc : c ≠ '/' := by
    intro heq
    subst heq
    exact h.isName.slashless (by simp [hname])
  rw [isAbsolute, h.text_eq, hname]
  cases before with
  | nil => simp [hc]
  | cons d before => rfl

theorem dot_not_mem_names (path : Path) : "." ∉ path.names :=
  fun hin => absurd (List.mem_filter.mp hin).2 (by decide)

theorem fileName?_of_parts {path : Path} {before ending : List Char} {name : String}
    (h : Parts path.text.toList before name ending) (hdots : name ≠ "..") :
    path.fileName? = some name := by
  have hlast : path.names.getLast? = some name := by
    show (namesIn path.text.toList).getLast? = some name
    rw [h.namesIn_eq, List.getLast?_concat]
  simp only [fileName?, hlast, if_neg hdots]

/-- The stand-in of a file has another last name. -/
theorem exists_names_standIn {path : Path} {name : String} (h : path.fileName? = some name) :
    path.names = path.names.dropLast ++ [name] ∧
      (∃ last, (TextFile.standIn path).names = path.names.dropLast ++ [last]) ∧
        (TextFile.standIn path).isAbsolute = path.isAbsolute := by
  obtain ⟨before, ending, last, rest, hparts, hstandIn, -⟩ := standIn_cases h
  have hnames : path.names = namesIn before ++ [name] := hparts.namesIn_eq
  have hother : (TextFile.standIn path).names = namesIn before ++ [last] := hstandIn.namesIn_eq
  rw [hnames, List.dropLast_concat, isAbsolute_of_parts hparts, isAbsolute_of_parts hstandIn]
  exact ⟨rfl, ⟨last, hother⟩, rfl⟩

/-- The last dot parts a name, unless it is also the first character. -/
theorem splitName_append {start behind : List Char} (h : '.' ∉ behind) :
    splitName (start ++ '.' :: behind) =
      if start.isEmpty then (start ++ '.' :: behind, none) else (start, some behind) := by
  have hdot : (start ++ '.' :: behind).contains '.' = true := by simp
  have hall : ∀ c ∈ behind.reverse, (c != '.') = true := by
    intro c hc
    rw [bne_iff_ne]
    intro heq
    subst heq
    exact h (List.mem_reverse.mp hc)
  have hbehind : ((start ++ '.' :: behind).reverse.takeWhile (· != '.')).reverse = behind := by
    rw [List.reverse_append, List.reverse_cons, List.append_assoc, List.singleton_append,
      List.takeWhile_append_of_pos hall]
    simp
  have hstart : (start ++ '.' :: behind).take
      ((start ++ '.' :: behind).length - behind.length - 1) = start := by
    have hlength : (start ++ '.' :: behind).length - behind.length - 1 = start.length := by
      rw [List.length_append, List.length_cons]
      omega
    rw [hlength, List.take_left]
  simp only [splitName, hdot, if_true, hbehind, hstart]

/-- What is left of a path that ends in a name when the extension is cut off. -/
theorem exists_parts_cut {path : Path} {before extension : List Char} {name : String}
    (h : Parts path.text.toList before name []) (hdots : name ≠ "..")
    (hextension : extension? name.toList = some extension) :
    ∃ cut : Path, TextFile.standIn path = cut.setExtension "tmp" ∧
      Parts cut.text.toList before (String.ofList (stem name.toList ++ ['.'])) [] := by
  obtain ⟨hne, hsplit⟩ := eq_of_extension? hextension
  have hslash : '/' ∉ stem name.toList := fun hin => h.isName.slashless (stem_subset _ hin)
  revert hne hsplit hslash
  generalize stem name.toList = start
  intro hne hsplit hslash
  obtain ⟨cut, hstandIn, htext⟩ := exists_cut (fileName?_of_parts h hdots) hextension
  have hwhole : path.text.toList = (before ++ (start ++ ['.'])) ++ extension := by
    rw [h.text_eq, hsplit]
    simp
  have hlength : path.text.toList.length - extension.length =
      (before ++ (start ++ ['.'])).length := by
    rw [hwhole, List.length_append, Nat.add_sub_cancel]
  refine ⟨cut, hstandIn, h.opens, ⟨?_, ?_, ?_⟩, .nil, ?_⟩
  · simp
  · rw [String.toList_ofList]
    exact fun heq => hne (List.append_left_eq_self.mp heq)
  · simp [hslash]
  · rw [htext, hlength, hwhole, List.take_left, String.toList_ofList, List.append_nil]

/-- The stand-in of a path that ends in a name, with nothing behind the name. -/
theorem parts_standIn {path : Path} {before : List Char} {name : String}
    (h : Parts path.text.toList before name []) (hdots : name ≠ "..")
    (hstem : extension? name.toList ≠ none → stem name.toList ≠ ['.']) :
    Parts (TextFile.standIn path).text.toList before (tempName name.toList) [] := by
  cases hextension : extension? name.toList with
  | none =>
    have hname := fileName?_of_parts h hdots
    have hstandIn : TextFile.standIn path = path.setExtension "tmp" := by
      simp only [TextFile.standIn, withExtension, hname, Option.bind_some, hextension]
    rw [hstandIn]
    exact parts_setExtension hname h
  | some extension =>
    obtain ⟨hne, -⟩ := eq_of_extension? hextension
    obtain ⟨cut, hstandIn, hcut⟩ := exists_parts_cut h hdots hextension
    have hfile : cut.fileName? = some (String.ofList (stem name.toList ++ ['.'])) := by
      apply fileName?_of_parts hcut
      intro heq
      have htwo : stem name.toList ++ ['.'] = ['.'] ++ ['.'] := by
        rw [← String.toList_ofList (l := stem name.toList ++ ['.']), heq]
        rfl
      exact hstem (by simp [hextension]) (List.append_cancel_right htwo)
    have hagain : stem (stem name.toList ++ ['.']) = stem name.toList := by
      rw [stem, splitName_append List.not_mem_nil, if_neg (by simpa using hne)]
    have htemp := parts_setExtension hfile hcut
    rwa [← hstandIn, tempName, String.toList_ofList, hagain] at htemp

/-- A name that is a dot and an extension behind it leaves its directory's parent as
its stand-in. -/
theorem parts_standIn_of_dot {path : Path} {before extension : List Char} {name : String}
    (h : Parts path.text.toList before name []) (hdots : name ≠ "..")
    (hextension : extension? name.toList = some extension) (hstem : stem name.toList = ['.']) :
    Parts (TextFile.standIn path).text.toList before ".." [] := by
  obtain ⟨cut, hstandIn, hcut⟩ := exists_parts_cut h hdots hextension
  rw [hstem] at hcut
  have hlast : cut.names.getLast? = some ".." := by
    show (namesIn cut.text.toList).getLast? = some ".."
    rw [hcut.namesIn_eq, List.getLast?_concat]
    rfl
  have hfile : cut.fileName? = none := by
    simp only [fileName?, hlast, if_true]
  rw [hstandIn]
  simp only [setExtension, hfile]
  exact hcut

theorem isAbsolute_of_isName {name : String} (hname : IsName name.toList) :
    isAbsolute ⟨name⟩ = false := by
  obtain ⟨c, rest, hcons⟩ := List.exists_cons_of_ne_nil hname.ne_nil
  have hc : c ≠ '/' := by
    intro heq
    subst heq
    exact hname.slashless (by simp [hcons])
  simp [isAbsolute, hcons, hc]

/-- A name behind a directory, and what stands before it. -/
theorem exists_parts_join (directory : Path) {name : String} (hname : IsName name.toList) :
    ∃ before, Parts (directory.join ⟨name⟩).text.toList before name [] ∧
      namesIn before = directory.names ∧
      (before.head? == some '/') = directory.isAbsolute := by
  have hrelative := isAbsolute_of_isName hname
  unfold join
  by_cases hempty : directory.text = ""
  · rw [if_pos (.inr hempty)]
    refine ⟨[], ⟨.inl rfl, hname, .nil, (List.append_nil _).symm⟩, ?_, ?_⟩
    · show namesIn [] = namesIn directory.text.toList
      rw [hempty]
      rfl
    · rw [isAbsolute, hempty]
      rfl
  · have hnil : directory.text.toList ≠ [] := fun h => hempty (String.toList_eq_nil_iff.mp h)
    rw [if_neg (by simp [hrelative, hempty])]
    by_cases hslash : directory.endsInSlash = true
    · rw [if_pos hslash]
      obtain ⟨text, htext⟩ : ∃ text, directory.text.toList = text ++ ['/'] :=
        List.getLast?_eq_some_iff.mp (by simpa [endsInSlash] using hslash)
      exact ⟨directory.text.toList, ⟨.inr ⟨text, htext⟩, hname, .nil, by simp⟩, rfl, rfl⟩
    · rw [if_neg hslash]
      refine ⟨directory.text.toList ++ ['/'], ⟨.inr ⟨_, rfl⟩, hname, .nil, by simp⟩, ?_, ?_⟩
      · rw [namesIn_append_cons]
        exact List.append_nil _
      · rw [List.head?_append, List.head?_eq_some_head hnil, Option.some_or, isAbsolute,
          List.head?_eq_some_head hnil]

end Path
end Storage
end RepoFeed
