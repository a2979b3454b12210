import RepoFeed.Proofs.Storage.SingleCall

/-
A store of files as a map.

A store of files that nobody else writes to answers like entries in memory that
are kept under the spellings of their keys, whatever calls are made and in whatever
order.  The directory shows the entries: there is one file for each, and nothing
besides.
-/

namespace RepoFeed
namespace Storage

variable {σ : Type}

/-! ## Calls -/

/-- A call to a store. -/
inductive Call where
  | get (key : String)
  | set (key value : String)
deriving DecidableEq, Repr

/-- What a store answers to a call.  The answer to a set that succeeds holds no
value. -/
def Call.perform (store : Store σ) (state : σ) : Call → σ × Except Problem (Option String)
  | .get key => (state, store.get state key)
  | .set key value =>
    let (state, outcome) := store.set state key value
    (state, outcome.map fun _ => none)

/-- The value that a call leaves under the spelling of a key. -/
def Call.written? (key : String) : Call → Option String
  | .get _ => none
  | .set other value => if sanitize other = sanitize key then some value else none

/-- The value of the latest set under a key of the same spelling. -/
def latest? (calls : List Call) (key : String) : Option String :=
  (calls.filterMap (Call.written? key)).getLast?

namespace Store

/-- The state in which calls leave a store. -/
def after (store : Store σ) (state : σ) (calls : List Call) : σ :=
  calls.foldl (fun state call => (call.perform store state).1) state

/-- The answers to calls, in order. -/
def answers (store : Store σ) : σ → List Call → List (Except Problem (Option String))
  | _, [] => []
  | state, call :: calls =>
    (call.perform store state).2 :: store.answers (call.perform store state).1 calls

/-- A store that is given the spellings of keys. -/
def spelling (store : Store σ) (spell : String → String) : Store σ where
  get state key := store.get state (spell key)
  set state key value := store.set state (spell key) value

/-- A store that takes nothing under one key. -/
def refusing (store : Store σ) (refused : String) (problem : Problem) : Store σ where
  get := store.get
  set state key value :=
    if key = refused then (state, .error problem) else store.set state key value

variable {store : Store σ} {state : σ}

theorem length_answers (calls : List Call) :
    (store.answers state calls).length = calls.length := by
  induction calls generalizing state with
  | nil => rfl
  | cons call calls ih => exact congrArg (· + 1) ih

theorem answers_append (before behind : List Call) :
    store.answers state (before ++ behind) =
      store.answers state before ++ store.answers (store.after state before) behind := by
  induction before generalizing state with
  | nil => rfl
  | cons call before ih => exact congrArg (_ :: ·) ih

/-- The answer to a call after others. -/
theorem getElem?_answers (before behind : List Call) (call : Call) :
    (store.answers state (before ++ call :: behind))[before.length]? =
      some (call.perform store (store.after state before)).2 := by
  rw [answers_append, List.getElem?_append_right (Nat.le_of_eq (length_answers before)),
    length_answers, Nat.sub_self]
  rfl

variable {refused : String} {problem : Problem} {calls : List Call}

theorem perform_refusing {call : Call} (h : ∀ value, call ≠ .set refused value) :
    call.perform (store.refusing refused problem) state = call.perform store state := by
  cases call with
  | get key => rfl
  | set key value =>
    have hkey : key ≠ refused := by
      intro heq
      subst heq
      exact h value rfl
    simp only [Call.perform, refusing, if_neg hkey]

/-- What is never asked for needs no refusal. -/
theorem run_refusing (h : ∀ value, .set refused value ∉ calls) :
    (store.refusing refused problem).answers state calls = store.answers state calls ∧
      (store.refusing refused problem).after state calls = store.after state calls := by
  induction calls generalizing state with
  | nil => exact ⟨rfl, rfl⟩
  | cons call calls ih =>
    have hcall : call.perform (store.refusing refused problem) state = call.perform store state :=
      perform_refusing fun value heq => h value (heq ▸ List.mem_cons_self)
    have hrest : ∀ value, .set refused value ∉ calls :=
      fun value hin => h value (List.mem_cons_of_mem _ hin)
    constructor
    · rw [answers, answers, hcall, (ih hrest).1]
    · rw [after, List.foldl_cons, hcall]
      exact (ih hrest).2

/-- A refusal is answered by the problem. -/
theorem mem_answers_refusing {value : String} (h : .set refused value ∈ calls) :
    .error problem ∈ (store.refusing refused problem).answers state calls := by
  induction calls generalizing state with
  | nil => cases h
  | cons call calls ih =>
    rw [answers]
    obtain rfl | h := List.mem_cons.mp h
    · have hrefused : (Call.set refused value).perform (store.refusing refused problem) state =
          (state, .error problem) := by
        simp only [Call.perform, refusing, if_true]
        rfl
      rw [hrefused]
      exact List.mem_cons_self
    · exact List.mem_cons_of_mem _ (ih h)

end Store

/-! ## Entries under spellings -/

/-- Entries in memory never fail. -/
theorem error_not_mem_answers_memoryStore (spell : String → String) (entries : Entries)
    (calls : List Call) (problem : Problem) :
    .error problem ∉ (memoryStore.spelling spell).answers entries calls := by
  induction calls generalizing entries with
  | nil => exact List.not_mem_nil
  | cons call calls ih =>
    rw [Store.answers, List.mem_cons, not_or]
    refine ⟨?_, ih _⟩
    cases call with
    | get key => exact nofun
    | set key value => exact nofun

/-- What is found under a key was set last, or was there before. -/
theorem get?_after_memoryStore (entries : Entries) (calls : List Call) (key : String) :
    ((memoryStore.spelling sanitize).after entries calls).get? (sanitize key) =
      (latest? calls key).or (entries.get? (sanitize key)) := by
  have hcall : ∀ (entries : Entries) (call : Call),
      (call.perform (memoryStore.spelling sanitize) entries).1.get? (sanitize key) =
        (call.written? key).or (entries.get? (sanitize key)) := by
    intro entries call
    cases call with
    | get other => rfl
    | set other value => exact Entries.get?_insert entries (sanitize other) value (sanitize key)
  exact view_foldl (·.get? (sanitize key)) hcall entries calls

/-! ## Directories that show entries -/

open FileSystem (IsInside IsReady Stands)

/-- Inside a directory is one file for each spelling under which there is a value,
with the value for its text, and nothing else. -/
structure Holds (fs : FileSystem) (directory : Path) (value? : String → Option String) : Prop where
  file : ∀ key, fs.at? (fs.destination directory ++ [entryName key]) =
    (value? key).map fun value => .file (Utf8.encode value.toList)
  only : ∀ place, IsInside (fs.destination directory) place →
    (∀ key, place ≠ fs.destination directory ++ [entryName key]) → fs.at? place = none

/-- A directory shows the entries that are kept under the spellings of keys. -/
structure Shows (fs : FileSystem) (directory : Path) (entries : Entries) : Prop where
  ready : IsReady fs directory
  holds : Holds fs directory fun key => entries.get? (sanitize key)
  stands : ∀ key value, entries.get? (sanitize key) = some value → Stands fs directory
  admits : ∀ key value, entries.get? (sanitize key) = some value → Admits directory key

namespace Shows

variable {fs : FileSystem} {directory : Path} {entries : Entries} {key : String}

theorem nil (hready : IsReady fs directory)
    (hempty : ∀ place, IsInside (fs.destination directory) place → fs.at? place = none) :
    Shows fs directory [] :=
  ⟨hready, ⟨fun _ => hempty _ (isInside_concat_self _ _),
    fun place hplace _ => hempty place hplace⟩, nofun, nofun⟩

theorem get (h : Shows fs directory entries) (key : String) :
    (fileStore directory).get fs key = .ok (entries.get? (sanitize key)) := by
  have hfile := h.holds.file key
  cases hvalue : entries.get? (sanitize key) with
  | none =>
    rw [hvalue] at hfile
    exact get_of_none hfile
  | some value =>
    rw [hvalue] at hfile
    exact get_of_file (h.stands key value hvalue) (h.admits key value hvalue) hfile

theorem set (h : Shows fs directory entries) (hadmits : Admits directory key) (hkey : key ≠ ".")
    (value : String) :
    ∃ after, (fileStore directory).set fs key value = (after, .ok ()) ∧
      Shows after directory (entries.insert (sanitize key) value) := by
  have hfree : fs.at? (fs.destination directory ++ [standInName key]) = none := by
    apply h.holds.only _ (isInside_concat_self _ _)
    intro other heq
    exact entryName_ne_standInName (FileSystem.name_inj heq).symm
  have hfile : fs.at? (fs.destination directory ++ [entryName key]) ≠ some .directory := by
    rw [h.holds.file key]
    cases entries.get? (sanitize key) <;> exact nofun
  obtain ⟨after, hset, hstands, hdestination, hwritten, helse⟩ :=
    exists_set h.ready hadmits hkey hfree hfile value
  refine ⟨after, hset, .of_stands hstands, ⟨fun other => ?_, fun place hplace hnot => ?_⟩,
    fun _ _ _ => hstands, fun other found hfound => ?_⟩
  · rw [hdestination]
    by_cases hsame : sanitize other = sanitize key
    · rw [entryName_inj.mpr hsame, hwritten, hsame, Entries.get?_insert_self]
      rfl
    · have hne : fs.destination directory ++ [entryName other] ≠
          fs.destination directory ++ [entryName key] := by
        intro heq
        exact hsame (entryName_inj.mp (FileSystem.name_inj heq))
      rw [helse _ (isInside_concat_self _ _) hne, h.holds.file other,
        Entries.get?_insert_of_ne hsame]
  · rw [hdestination] at hplace hnot
    rw [helse place hplace (hnot key)]
    exact h.holds.only place hplace hnot
  · by_cases hsame : sanitize other = sanitize key
    · exact hadmits.congr hsame
    · rw [Entries.get?_insert_of_ne hsame] at hfound
      exact h.admits other found hfound

theorem set_dot (h : Shows fs directory entries) (hadmits : Admits directory ".")
    (value : String) :
    ∃ after, (fileStore directory).set fs "." value = (after, .error (.storage .isDirectory)) ∧
      Shows after directory entries := by
  obtain ⟨after, hset, hstands, hdestination, hinside⟩ := exists_set_dot h.ready hadmits value
  refine ⟨after, hset, .of_stands hstands, ⟨fun key => ?_, fun place hplace hnot => ?_⟩,
    fun _ _ _ => hstands, h.admits⟩
  · rw [hdestination, hinside _ (isInside_concat_self _ _)]
    exact h.holds.file key
  · rw [hdestination] at hplace hnot
    rw [hinside place hplace]
    exact h.holds.only place hplace hnot

end Shows

/-! ## Runs -/

/-- Entries under the spellings of keys, as a store of files can keep them. -/
def spelledStore : Store Entries :=
  (memoryStore.spelling sanitize).refusing "." (.storage .isDirectory)

variable {fs : FileSystem} {directory : Path} {entries : Entries} {calls : List Call}

theorem get_spelledStore (entries : Entries) (key : String) :
    spelledStore.get entries key = .ok (entries.get? (sanitize key)) := rfl

theorem set_spelledStore {key : String} (h : key ≠ ".") (entries : Entries) (value : String) :
    spelledStore.set entries key value = (entries.insert (sanitize key) value, .ok ()) := by
  simp only [spelledStore, Store.refusing, if_neg h]
  rfl

/-- A call to files is answered as from the entries that they show, and leaves files
that show the entries which the call leaves. -/
theorem Shows.perform (h : Shows fs directory entries) {call : Call}
    (hadmits : ∀ key value, call = .set key value → Admits directory key) :
    (call.perform (fileStore directory) fs).2 = (call.perform spelledStore entries).2 ∧
      Shows (call.perform (fileStore directory) fs).1 directory
        (call.perform spelledStore entries).1 := by
  cases call with
  | get key =>
    simp only [Call.perform, h.get key, get_spelledStore, true_and]
    exact h
  | set key value =>
    have hkeyAdmits := hadmits key value rfl
    by_cases hdot : key = "."
    · subst hdot
      obtain ⟨after, hset, hafter⟩ := h.set_dot hkeyAdmits value
      simp only [Call.perform, hset]
      exact ⟨rfl, hafter⟩
    · obtain ⟨after, hset, hafter⟩ := h.set hkeyAdmits hdot value
      simp only [Call.perform, hset, set_spelledStore hdot, true_and]
      exact hafter

theorem Shows.run (h : Shows fs directory entries)
    (hadmits : ∀ key value, .set key value ∈ calls → Admits directory key) :
    (fileStore directory).answers fs calls = spelledStore.answers entries calls ∧
      Shows ((fileStore directory).after fs calls) directory
        (spelledStore.after entries calls) := by
  induction calls generalizing fs entries with
  | nil => exact ⟨rfl, h⟩
  | cons call calls ih =>
    obtain ⟨hanswer, hshows⟩ := h.perform fun key value heq =>
      hadmits key value (heq ▸ List.mem_cons_self)
    obtain ⟨hanswers, hafter⟩ := ih hshows fun key value hin =>
      hadmits key value (List.mem_cons_of_mem _ hin)
    refine ⟨?_, hafter⟩
    rw [Store.answers, Store.answers, hanswer, hanswers]

/-- A store of files on an empty directory is a map from spellings of keys to values,
save that it takes nothing under a single dot.  Its calls fail exactly when something
is set there. -/
theorem run_fileStore (hready : IsReady fs directory)
    (hempty : ∀ place, IsInside (fs.destination directory) place → fs.at? place = none)
    (hadmits : ∀ key value, .set key value ∈ calls → Admits directory key) :
    (fileStore directory).answers fs calls = spelledStore.answers [] calls ∧
      ((∀ problem, .error problem ∉ (fileStore directory).answers fs calls) ↔
        ∀ value, .set "." value ∉ calls) ∧
      ((∀ value, .set "." value ∉ calls) →
        (fileStore directory).answers fs calls =
            (memoryStore.spelling sanitize).answers [] calls ∧
          ∀ before behind, calls = before ++ behind →
            Holds ((fileStore directory).after fs before) directory (latest? before) ∧
            ∀ key rest, behind = .get key :: rest →
              ((fileStore directory).answers fs calls)[before.length]? =
                some (.ok (latest? before key))) := by
  have hnil := Shows.nil hready hempty
  obtain ⟨hanswers, -⟩ := hnil.run hadmits
  have hclean : (∀ value, .set "." value ∉ calls) →
      (fileStore directory).answers fs calls = (memoryStore.spelling sanitize).answers [] calls :=
    fun hdot => hanswers.trans (Store.run_refusing hdot).1
  refine ⟨hanswers, ⟨fun herror value hin => ?_, fun hdot problem hproblem => ?_⟩,
    fun hdot => ⟨hclean hdot, ?_⟩⟩
  · rw [hanswers] at herror
    exact herror _ (Store.mem_answers_refusing hin)
  · rw [hclean hdot] at hproblem
    exact error_not_mem_answers_memoryStore _ _ _ _ hproblem
  · intro before behind hsplit
    have hbefore : ∀ call ∈ before, call ∈ calls := by
      intro call hcall
      rw [hsplit]
      exact List.mem_append_left _ hcall
    obtain ⟨-, hshows⟩ := hnil.run fun key value hin => hadmits key value (hbefore _ hin)
    have hafter : spelledStore.after [] before = (memoryStore.spelling sanitize).after [] before :=
      (Store.run_refusing fun value hin => hdot value (hbefore _ hin)).2
    have hfound : (fun key => (spelledStore.after [] before).get? (sanitize key)) =
        latest? before := by
      funext key
      rw [hafter, get?_after_memoryStore]
      exact Option.or_none
    refine ⟨hfound ▸ hshows.holds, fun key rest hrest => ?_⟩
    have hkey : (spelledStore.after [] before).get? (sanitize key) = latest? before key :=
      congrFun hfound key
    rw [hsplit, hrest, Store.getElem?_answers]
    simp only [Call.perform, hshows.get key, hkey]

theorem isReady_cache : IsReady ⟨[], []⟩ ⟨"cache"⟩ :=
  FileSystem.isReady_of_makeDirectories rfl rfl (by decide)

theorem at?_of_isInside_of_nil {directory place : Place} (h : IsInside directory place)
    (current : Place) : FileSystem.at? ⟨[], current⟩ place = none := by
  have hroot : place ≠ [] := by
    intro heq
    subst heq
    exact h.2 (List.prefix_nil.mp h.1).symm
  rw [FileSystem.at?, if_neg hroot]
  rfl

/-- Three keys, two of which are spelled the same. -/
def sharedCalls : List Call :=
  [.set "owner/repo" "1", .get "owner:repo", .set "" "2", .set "owner_repo" "3",
    .get "owner/repo", .get "a"]

theorem run_fileStore_sharedCalls :
    (fileStore ⟨"cache"⟩).answers ⟨[], []⟩ sharedCalls =
        [.ok none, .ok (some "1"), .ok none, .ok none, .ok (some "3"), .ok none] ∧
      Holds ((fileStore ⟨"cache"⟩).after ⟨[], []⟩ sharedCalls) ⟨"cache"⟩ (latest? sharedCalls) := by
  have hadmits : ∀ key value, .set key value ∈ sharedCalls → Admits ⟨"cache"⟩ key := by
    intro key value hin
    simp only [sharedCalls, List.mem_cons, reduceCtorEq, Call.set.injEq, List.not_mem_nil,
      false_or, or_false] at hin
    obtain ⟨rfl, -⟩ | ⟨rfl, -⟩ | ⟨rfl, -⟩ := hin
    · exact ⟨by decide, by decide, by decide, by decide⟩
    · exact ⟨by decide, by decide, by decide, by decide⟩
    · exact ⟨by decide, by decide, by decide, by decide⟩
  have hdot : ∀ value, .set "." value ∉ sharedCalls := by
    intro value hin
    simp [sharedCalls] at hin
  obtain ⟨-, -, hrun⟩ := run_fileStore isReady_cache
    (fun place hplace => at?_of_isInside_of_nil hplace []) hadmits
  obtain ⟨hanswers, hbetween⟩ := hrun hdot
  exact ⟨hanswers.trans rfl, (hbetween sharedCalls [] (List.append_nil _).symm).1⟩

/-- One key among those that no limit stands against cannot be set. -/
theorem not_forall_answers_fileStore :
    ¬ ∀ (fs : FileSystem) (directory : Path) (calls : List Call), IsReady fs directory →
      (∀ place, IsInside (fs.destination directory) place → fs.at? place = none) →
      (∀ key value, .set key value ∈ calls → Admits directory key) →
      ∀ problem, .error problem ∉ (fileStore directory).answers fs calls := by
  intro h
  have hadmits : ∀ key value, .set key value ∈ [Call.set "." "v"] → Admits ⟨"cache"⟩ key := by
    intro key value hin
    obtain ⟨rfl, -⟩ := Call.set.inj (List.mem_singleton.mp hin)
    exact ⟨by decide, by decide, by decide, by decide⟩
  have hempty : ∀ place, IsInside (FileSystem.destination ⟨[], []⟩ ⟨"cache"⟩) place →
      FileSystem.at? ⟨[], []⟩ place = none :=
    fun place hplace => at?_of_isInside_of_nil hplace []
  have hanswers := ((Shows.nil isReady_cache hempty).run hadmits).1
  apply h ⟨[], []⟩ ⟨"cache"⟩ [.set "." "v"] isReady_cache hempty hadmits (.storage .isDirectory)
  rw [hanswers]
  exact Store.mem_answers_refusing List.mem_cons_self

end Storage
end RepoFeed
