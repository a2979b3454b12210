import RepoFeed.Proofs.CommandLine.Opening
import RepoFeed.Proofs.CommandLine.Snapshot
import RepoFeed.Proofs.Markup.Lines

/-
Runs of the program that share a cache.

A snapshot says nothing of the repository that it was fetched for, and the key is
the same whatever repository is asked for.  So a run shows what it has fetched
itself or what an earlier run has fetched for its own repository and stored,
and nothing else.
-/

namespace RepoFeed
namespace CommandLine

open Storage (FileSystem)
open Storage.FileSystem (IsInside)

/-! ## Launches -/

/-- A run and the files that it finds. -/
structure Launch where
  invocation : Invocation
  files : FileSystem

/-- Runs one after the other, each on the files that the one before it left. -/
def launches : List Invocation → FileSystem → List Launch
  | [], _ => []
  | invocation :: invocations, files =>
    ⟨invocation, files⟩ :: launches invocations (run invocation files).files

namespace Launch

/-- The texts that a run writes to its target. -/
def shown (launch : Launch) : List String :=
  match launch.invocation.opening with
  | .ended .. => []
  | .ready options _ => (options.refreshed launch.invocation launch.files).shown

/-- The repository that a run is given. -/
def IsFor (launch : Launch) (repository : Repository) : Prop :=
  ∃ options, parse launch.invocation.words = .ok options ∧
    repository = ⟨options.owner, options.repo⟩

/-- A run asks for the events of its repository, once, and is given these. -/
def Fetches (launch : Launch) (repository : Repository) (events : List Event) : Prop :=
  ∃ options, parse launch.invocation.words = .ok options ∧
    repository = ⟨options.owner, options.repo⟩ ∧
    (run launch.invocation launch.files).requests =
      [Endpoint.request ⟨repository, options.callback⟩ launch.invocation.environment.usedToken] ∧
    (Exchange.hear ⟨repository, options.callback⟩ .unknown launch.invocation.reply).result =
      .ok events

/-- A text is the page of events as a run sees it. -/
def Projects (launch : Launch) (text : String) (events : List Event) : Prop :=
  ∃ options, parse launch.invocation.words = .ok options ∧
    Markup.page (options.refresher launch.invocation).view events = .ok text

end Launch

/-- Every text that a run writes is the page of events that this run or one
before it has been given for the repository of this run. -/
def ShowsOwn (runs : List Launch) : Prop :=
  ∀ before launch after, runs = before ++ launch :: after → ∀ text ∈ launch.shown,
    ∃ source ∈ before ++ [launch], ∃ repository events,
      launch.IsFor repository ∧ source.Fetches repository events ∧ launch.Projects text events

/-- A run uses no cache or the one of a directory and a key, and does not write
its output into the directory. -/
structure Invocation.Shares (invocation : Invocation) (directory : Storage.Path) (key : String)
    (files : FileSystem) : Prop where
  clock : Word.fitsSigned 64 invocation.clock = true
  cache : ∀ options, parse invocation.words = .ok options →
    options.cacheKey = key ∧ ∀ other ∈ options.cacheAt invocation.environment, other = directory
  output : ∀ options, parse invocation.words = .ok options → ∀ text ∈ options.output,
    ¬ IsInside (files.destination directory) (files.destination ⟨text⟩)

section

variable {directory : Storage.Path} {key : String} {options : Options} {invocation : Invocation}

/-! ## One run -/

theorem Invocation.Shares.congr {files files' : FileSystem}
    (h : invocation.Shares directory key files) (hcurrent : files'.current = files.current) :
    invocation.Shares directory key files' := by
  refine ⟨h.clock, h.cache, fun options hparse text htext => ?_⟩
  rw [Storage.FileSystem.destination_congr hcurrent, Storage.FileSystem.destination_congr hcurrent]
  exact h.output options hparse text htext

/-- A run that comes to its refresh begins it without output. -/
theorem run_of_opening {filter : Filter} (hopening : invocation.opening = .ready options filter)
    (files : FileSystem) :
    ∃ result after, Refresher.Course (options.refresher invocation) invocation.clock
        invocation.reply .unknown ⟨files, []⟩ result after (Launch.shown ⟨invocation, files⟩)
        (run invocation files).requests ∧
      (run invocation files).files = after.files := by
  have hcourse := course_refreshed options invocation files
  simp only [run_of_ready hopening, execute, Launch.shown, hopening]
  exact ⟨_, _, hcourse, rfl⟩

/-- Otherwise it shows nothing and leaves the files as they are. -/
theorem run_cases (invocation : Invocation) (files : FileSystem) :
    (∃ options filter, invocation.opening = .ready options filter ∧
      ∃ result after, Refresher.Course (options.refresher invocation) invocation.clock
          invocation.reply .unknown ⟨files, []⟩ result after (Launch.shown ⟨invocation, files⟩)
          (run invocation files).requests ∧
        (run invocation files).files = after.files) ∨
      (run invocation files).files = files ∧ Launch.shown ⟨invocation, files⟩ = [] := by
  cases hopening : invocation.opening with
  | ended code output log =>
    right
    simp only [run_of_ended hopening, Launch.shown, hopening, and_self]
  | ready options filter => exact .inl ⟨options, filter, rfl, run_of_opening hopening files⟩

/-- A file where the snapshot is kept holds what one of the runs has fetched. -/
def IsStored (directory : Storage.Path) (key : String) (past : List Launch)
    (files : FileSystem) : Prop :=
  ∀ content, files.at? (snapshotPlace directory key files) = some (.file content) →
    ∃ source ∈ past, ∃ repository events, source.Fetches repository events ∧
      Word.fitsSigned 64 source.invocation.clock = true ∧
      content = Utf8.encode (Cache.storedText events source.invocation.clock).toList

variable {files : FileSystem} {past : List Launch}

theorem isStored_run (hshares : invocation.Shares directory key files)
    (hstored : IsStored directory key past files) :
    (run invocation files).files.current = files.current ∧
      IsStored directory key (past ++ [⟨invocation, files⟩]) (run invocation files).files := by
  obtain ⟨options, filter, hopening, result, after, hcourse, hfiles⟩ | ⟨hfiles, -⟩ :=
    run_cases invocation files
  · have hparse := parse_of_opening hopening
    obtain ⟨hcurrent, hsnapshot⟩ := snapshot_of_course hcourse (hshares.cache options hparse)
      (hshares.output options hparse)
    rw [hfiles]
    refine ⟨hcurrent, fun content hcontent => ?_⟩
    rw [snapshotPlace, Storage.FileSystem.destination_congr hcurrent] at hcontent
    obtain hremains | ⟨events, hasked, hhear, hfile⟩ := hsnapshot
    · obtain ⟨source, hsource, hrest⟩ := hstored content ((hremains.file_iff content).mp hcontent)
      exact ⟨source, List.mem_append_left _ hsource, hrest⟩
    · refine ⟨⟨invocation, files⟩, List.mem_append_right _ (List.mem_singleton_self _),
        ⟨options.owner, options.repo⟩, events,
        ⟨options, hparse, rfl, hasked, hhear⟩, hshares.clock, ?_⟩
      exact (Storage.Entry.file.inj (Option.some.inj (hfile.symm.trans hcontent))).symm
  · rw [hfiles]
    refine ⟨rfl, fun content hcontent => ?_⟩
    obtain ⟨source, hsource, hrest⟩ := hstored content hcontent
    exact ⟨source, List.mem_append_left _ hsource, hrest⟩

/-! ## Runs one after the other -/

theorem isStored_of_launches {invocations : List Invocation} {before after : List Launch}
    {launch : Launch}
    (hshares : ∀ invocation ∈ invocations, invocation.Shares directory key files)
    (hstored : IsStored directory key past files)
    (h : launches invocations files = before ++ launch :: after) :
    launch.invocation.Shares directory key launch.files ∧
      IsStored directory key (past ++ before) launch.files := by
  induction before generalizing invocations files past with
  | nil =>
    cases invocations with
    | nil => contradiction
    | cons invocation invocations =>
      obtain ⟨rfl, -⟩ := List.cons.inj h
      rw [List.append_nil]
      exact ⟨hshares invocation List.mem_cons_self, hstored⟩
  | cons first before ih =>
    cases invocations with
    | nil => contradiction
    | cons invocation invocations =>
      obtain ⟨rfl, hrest⟩ := List.cons.inj h
      obtain ⟨hcurrent, hnext⟩ := isStored_run (hshares invocation List.mem_cons_self) hstored
      have hlater : ∀ later ∈ invocations,
          later.Shares directory key (run invocation files).files :=
        fun later hlater => (hshares later (List.mem_cons_of_mem _ hlater)).congr hcurrent
      have hlaunch := ih hlater hnext hrest
      rwa [List.append_assoc] at hlaunch

/-- A text is the page of events that a run has fetched itself, or of those whose
snapshot it found and which an earlier run has fetched. -/
def Launch.ShowsSource (launch : Launch) (directory : Storage.Path) (key : String)
    (past : List Launch) (text : String) : Prop :=
  ∃ source ∈ past ++ [launch], ∃ repository events, source.Fetches repository events ∧
    launch.Projects text events ∧
    (source = launch ∧ launch.IsFor repository ∨
      source ∈ past ∧ launch.files.at? (snapshotPlace directory key launch.files) =
        some (.file (Utf8.encode (Cache.storedText events source.invocation.clock).toList)))

theorem showsSource_of_load {launch : Launch}
    (hshares : launch.invocation.Shares directory key launch.files)
    (hstored : IsStored directory key past launch.files)
    (hparse : parse launch.invocation.words = .ok options) {cached : Cached}
    (hload : ((options.refresher launch.invocation).cache.load launch.invocation.clock
      ⟨launch.files, []⟩).1 = some cached) {shownText : String}
    (hpage : Markup.page (options.refresher launch.invocation).view cached.events =
      .ok shownText) :
    launch.ShowsSource directory key past shownText := by
  obtain ⟨store, text, hstore, hget, hjudge⟩ := Cache.exists_of_load hload
  obtain ⟨rfl, hdirectory⟩ := hshares.cache options hparse
  obtain ⟨other, hat, rfl⟩ := Option.map_eq_some_iff.mp hstore
  obtain rfl := hdirectory other hat
  simp only [Options.refresher, Storage.Store.within] at hget
  obtain ⟨content, hcontent, hdecode⟩ := Storage.at?_of_get hget
  obtain ⟨source, hsource, repository, events, hfetches, hclock, rfl⟩ := hstored content hcontent
  refine ⟨source, List.mem_append_left _ hsource, repository, events, hfetches,
    ⟨options, hparse, ?_⟩, .inr ⟨hsource, hcontent⟩⟩
  rw [Utf8.decode?_encode, Option.some_inj, String.toList_inj] at hdecode
  obtain ⟨_, -, -, -, hhear⟩ := hfetches
  rw [← hdecode] at hjudge
  rw [← hpage]
  exact (Markup.page_eq_of_bare (Cache.bare_of_judge_storedText
    (Exchange.isRegular_of_hear hhear) hclock hjudge) _).symm

theorem showsSource_of_course {launch : Launch}
    (hshares : launch.invocation.Shares directory key launch.files)
    (hstored : IsStored directory key past launch.files)
    (hparse : parse launch.invocation.words = .ok options)
    {result : Except Setback Freshening} {after : Machine} {shown : List String}
    {requests : List Request}
    (hrequests : (run launch.invocation launch.files).requests = requests)
    (hcourse : Refresher.Course (options.refresher launch.invocation) launch.invocation.clock
      launch.invocation.reply .unknown ⟨launch.files, []⟩ result after shown requests)
    {text : String} (htext : text ∈ shown) : launch.ShowsSource directory key past text := by
  have hpreview : ∀ {before : Machine} {shown : List String},
      Refresher.Preview (options.refresher launch.invocation) launch.invocation.clock
        ⟨launch.files, []⟩ before shown → ∀ text ∈ shown,
          launch.ShowsSource directory key past text := by
    intro before shown hpreview text htext
    cases hpreview with
    | nothing => cases htext
    | stale hload _ _ hrender =>
      obtain rfl := List.mem_singleton.mp htext
      exact showsSource_of_load hshares hstored hparse hload
        (Refresher.render_eq_ok_iff.mp hrender).1
  cases hcourse with
  | cached hload _ hrender =>
    obtain rfl := List.mem_singleton.mp htext
    exact showsSource_of_load hshares hstored hparse hload
      (Refresher.render_eq_ok_iff.mp hrender).1
  | snapshotNotShown => cases htext
  | unheard hbefore => exact hpreview hbefore text htext
  | notShown hbefore => exact hpreview hbefore text htext
  | fetched hbefore hhear hrender =>
    obtain htext | htext := List.mem_append.mp htext
    · exact hpreview hbefore text htext
    · obtain rfl := List.mem_singleton.mp htext
      exact ⟨launch, List.mem_append_right _ (List.mem_singleton_self _), _, _,
        ⟨options, hparse, rfl, hrequests, hhear⟩,
        ⟨options, hparse, (Refresher.render_eq_ok_iff.mp hrender).1⟩,
        .inl ⟨rfl, options, hparse, rfl⟩⟩

theorem showsSource_of_shown {launch : Launch}
    (hshares : launch.invocation.Shares directory key launch.files)
    (hstored : IsStored directory key past launch.files) {text : String}
    (htext : text ∈ launch.shown) : launch.ShowsSource directory key past text := by
  obtain ⟨options, filter, hopening, result, after, hcourse, -⟩ | ⟨-, hshown⟩ :=
    run_cases launch.invocation launch.files
  · exact showsSource_of_course hshares hstored (parse_of_opening hopening) rfl hcourse htext
  · change text ∈ Launch.shown ⟨launch.invocation, launch.files⟩ at htext
    rw [hshown] at htext
    cases htext

/-! ## Two repositories -/

def pushed : Event := ⟨⟨"ada"⟩, ⟨0, 0⟩, .push ⟨"refs/heads/master", []⟩⟩

/-- A run for a repository of its own. -/
def engineRun : Invocation where
  words := ["--owner", "ada", "--repo", "engine"]
  environment := ⟨some "/root", none, none, none, none⟩
  clock := 1000
  zone := fun _ => 0
  output := .boundless
  clientFault := none
  reply := Exchange.carrier "tpieevents" [pushed]

/-- A run without options, one second later. -/
def standardRun : Invocation where
  words := []
  environment := ⟨some "/root", none, none, none, none⟩
  clock := 2000
  zone := fun _ => 0
  output := .boundless
  clientFault := none
  reply := none

def engineOptions : Options :=
  ⟨"ada", "engine", none, none, "tpieevents", "tpieevents", false⟩

def standardOptions : Options :=
  ⟨"thomasmoelhave", "tpie", none, none, "tpieevents", "tpieevents", false⟩

def standardDirectory : Storage.Path := ⟨"/root/.cache/activity-feed"⟩

theorem shares_of_parse (options : Options) (hclock : Word.fitsSigned 64 invocation.clock = true)
    (hparse : parse invocation.words = .ok options) (hkey : options.cacheKey = key)
    (hat : options.cacheAt invocation.environment = some directory)
    (houtput : options.output = none) : invocation.Shares directory key files := by
  refine ⟨hclock, fun other hother => ?_, fun other hother => ?_⟩
  · obtain rfl := Except.ok.inj (hparse.symm.trans hother)
    refine ⟨hkey, ?_⟩
    rw [hat]
    intro _ heq
    cases heq
    rfl
  · obtain rfl := Except.ok.inj (hparse.symm.trans hother)
    rw [houtput]
    exact nofun

theorem shares_engineRun_standardRun (files : FileSystem) :
    ∀ invocation ∈ [engineRun, standardRun],
      invocation.Shares standardDirectory "tpieevents" files := by
  have hengine : engineRun.Shares standardDirectory "tpieevents" files :=
    shares_of_parse engineOptions (by decide) rfl rfl (by decide +kernel) rfl
  have hstandard : standardRun.Shares standardDirectory "tpieevents" files :=
    shares_of_parse standardOptions (by decide) rfl rfl (by decide +kernel) rfl
  simpa using ⟨hengine, hstandard⟩

/-- The files after a run that has stored its snapshot in an empty file system. -/
def storedFiles (content : Utf8.Octets) : FileSystem where
  entries := [
    (["root", ".cache", "activity-feed", "tpieevents.json"], .file content),
    (["root", ".cache", "activity-feed"], .directory),
    (["root", ".cache"], .directory),
    (["root"], .directory)]
  current := []

theorem write_snapshot (text : String) :
    (Storage.TextFile.write ⟨[], []⟩ (Storage.entryPath standardDirectory "tpieevents") text).1 =
      storedFiles (Utf8.encode text.toList) := by
  have hwrite : (Storage.TextFile.write ⟨[], []⟩
      (Storage.entryPath standardDirectory "tpieevents") text).1 = storedFiles
        (Utf8.encode text.toList ++ [].drop (Utf8.encode text.toList).length) := by
    with_unfolding_all rfl
  rwa [List.drop_nil, List.append_nil] at hwrite

theorem read_snapshot (text : String) :
    Storage.TextFile.read (storedFiles (Utf8.encode text.toList))
      (Storage.entryPath standardDirectory "tpieevents") = .ok (some text) := by
  have hlookup : (storedFiles (Utf8.encode text.toList)).lookup
      (.ofPath (Storage.entryPath standardDirectory "tpieevents")) =
        .ok (.file (Utf8.encode text.toList)) := by
    with_unfolding_all rfl
  rw [Storage.TextFile.read, hlookup]
  simp only [Utf8.decode?_encode, String.ofList_toList]

theorem hear_pushed : (Exchange.hear ⟨⟨"ada", "engine"⟩, "tpieevents"⟩ .unknown
    (Exchange.carrier "tpieevents" [pushed])).result = .ok [pushed] := by
  have hcallback : Exchange.IsCallback "tpieevents" := by decide
  have hpushed : ∀ e ∈ [pushed], e.IsRegular ∧ e.IsFloatFree := by
    simpa using ⟨⟨by decide, trivial⟩, trivial⟩
  exact Exchange.hear_carrier hcallback hpushed (by decide) .unknown

/-- What the first run leaves to the second. -/
def foundFiles : FileSystem :=
  storedFiles (Utf8.encode (Cache.storedText [pushed] 1000).toList)

theorem run_engineRun :
    (run engineRun ⟨[], []⟩).files = foundFiles ∧
      (run engineRun ⟨[], []⟩).requests =
        [Endpoint.request ⟨⟨"ada", "engine"⟩, "tpieevents"⟩ none] := by
  have hopening : engineRun.opening = .ready engineOptions .standard := rfl
  have hat : engineOptions.cacheAt engineRun.environment = some standardDirectory := by
    decide +kernel
  have hload : ((engineOptions.refresher engineRun).cache.load engineRun.clock
      ⟨⟨[], []⟩, []⟩).1 = none := by
    with_unfolding_all rfl
  have hhear : (Exchange.hear (engineOptions.refresher engineRun).endpoint .unknown
      engineRun.reply).result = .ok [pushed] := hear_pushed
  obtain ⟨result, after, hcourse, hfiles⟩ := run_of_opening hopening ⟨[], []⟩
  obtain ⟨rfl, hrequests⟩ := hcourse.of_no_snapshot hload hhear rfl
  constructor
  · rw [hfiles, files_save hat, Storage.fst_set]
    exact write_snapshot _
  · exact hrequests

theorem run_standardRun :
    (run standardRun foundFiles).requests = [] ∧
      ∃ page, Markup.page (standardOptions.refresher standardRun).view [pushed] = .ok page ∧
        Launch.shown ⟨standardRun, foundFiles⟩ = [page] := by
  have hopening : standardRun.opening = .ready standardOptions .standard := rfl
  have hat : standardOptions.cacheAt standardRun.environment = some standardDirectory := by
    decide +kernel
  have hload : ((standardOptions.refresher standardRun).cache.load standardRun.clock
      ⟨foundFiles, []⟩).1 = some ⟨[pushed], 1000⟩ := by
    have hget : (Storage.fileStore standardDirectory).get foundFiles "tpieevents" =
        .ok (some (Cache.storedText [pushed] 1000)) := by
      rw [foundFiles, Storage.get_fileStore, read_snapshot]
      rfl
    have hpushed : ∀ e ∈ [pushed], e.IsRegular ∧ e.IsFloatFree := by
      simpa using ⟨⟨by decide, trivial⟩, trivial⟩
    rw [load_of_get (m := ⟨foundFiles, []⟩) hat hget (Cache.storedText_ne_empty _ _),
      Cache.judge_storedText_of_shallow hpushed (by decide) (by decide)]
    rfl
  have hshows : ∀ m markup, ((standardOptions.refresher standardRun).target.display m markup).2 =
      .ok () := fun _ _ => rfl
  obtain ⟨page, hpage⟩ : ∃ page,
      Markup.page (standardOptions.refresher standardRun).view [pushed] = .ok page := by
    refine Markup.exists_page (by decide) fun e he => ?_
    obtain rfl := List.mem_singleton.mp he
    decide
  obtain ⟨result, after, hcourse, -⟩ := run_of_opening hopening foundFiles
  obtain ⟨-, hrequests, hshown, -⟩ := hcourse.of_fresh hshows hload (by decide) hpage
  exact ⟨hrequests, page, hpage, hshown⟩

theorem launches_engineRun_standardRun :
    launches [engineRun, standardRun] ⟨[], []⟩ =
      [⟨engineRun, ⟨[], []⟩⟩, ⟨standardRun, foundFiles⟩] := by
  rw [launches, launches, launches, run_engineRun.1]

theorem at?_empty_ne (place : Storage.Place) (content : Utf8.Octets) :
    (FileSystem.mk [] []).at? place ≠ some (.file content) := by
  unfold Storage.FileSystem.at?
  split
  · simp
  · simp

/-! ## What runs show -/

/-- What a run shows it has fetched itself, or an earlier run has fetched it for the
repository that the earlier run was given and it is stored.  So a run shows its
own repository if all runs are given the same. -/
theorem shown_of_launches {invocations : List Invocation}
    (hshares : ∀ invocation ∈ invocations, invocation.Shares directory key files)
    (hnone : ∀ content, files.at? (snapshotPlace directory key files) ≠ some (.file content)) :
    (∀ before launch after, launches invocations files = before ++ launch :: after →
      ∀ text ∈ launch.shown, launch.ShowsSource directory key before text) ∧
    ((∀ repository other, (∃ launch ∈ launches invocations files, launch.IsFor repository) →
        (∃ launch ∈ launches invocations files, launch.IsFor other) → repository = other) →
      ShowsOwn (launches invocations files)) := by
  have hsource : ∀ before launch after, launches invocations files = before ++ launch :: after →
      ∀ text ∈ launch.shown, launch.ShowsSource directory key before text := by
    intro before launch after hlaunches text htext
    have hempty : IsStored directory key [] files :=
      fun content hcontent => absurd hcontent (hnone content)
    obtain ⟨hlaunch, hstored⟩ := isStored_of_launches hshares hempty hlaunches
    exact showsSource_of_shown hlaunch hstored htext
  refine ⟨hsource, fun hsame before launch after hlaunches text htext => ?_⟩
  obtain ⟨source, hmem, repository, events, hfetches, hprojects, -⟩ :=
    hsource before launch after hlaunches text htext
  refine ⟨source, hmem, repository, events, ?_, hfetches, hprojects⟩
  obtain ⟨options, hparse, hpage⟩ := hprojects
  obtain ⟨given, hgiven, hrepository, -⟩ := hfetches
  refine ⟨options, hparse, hsame repository _ ⟨source, ?_, given, hgiven, hrepository⟩
    ⟨launch, ?_, options, hparse, rfl⟩⟩
  · rw [hlaunches, ← List.singleton_append, ← List.append_assoc]
    exact List.mem_append_left _ hmem
  · rw [hlaunches]
    exact List.mem_append_right _ List.mem_cons_self

end

/-- The second run shows what the first one has fetched and stored. -/
theorem shown_of_engineRun_standardRun :
    ∃ page, Markup.page (standardOptions.refresher standardRun).view [pushed] = .ok page ∧
      Launch.shown ⟨standardRun, foundFiles⟩ = [page] ∧
      Launch.ShowsSource ⟨standardRun, foundFiles⟩ standardDirectory "tpieevents"
        [⟨engineRun, ⟨[], []⟩⟩] page := by
  obtain ⟨hsource, -⟩ := shown_of_launches (shares_engineRun_standardRun ⟨[], []⟩)
    (at?_empty_ne _)
  obtain ⟨-, page, hpage, hshown⟩ := run_standardRun
  refine ⟨page, hpage, hshown, hsource [_] _ [] launches_engineRun_standardRun _ ?_⟩
  rw [hshown]
  exact List.mem_singleton_self _

/-- The second run shows the events of another repository. -/
theorem not_showsOwn_engineRun_standardRun :
    (∀ invocation ∈ [engineRun, standardRun],
      invocation.Shares standardDirectory "tpieevents" ⟨[], []⟩) ∧
    (∀ content, (FileSystem.mk [] []).at?
      (snapshotPlace standardDirectory "tpieevents" ⟨[], []⟩) ≠ some (.file content)) ∧
    ¬ ShowsOwn (launches [engineRun, standardRun] ⟨[], []⟩) := by
  refine ⟨shares_engineRun_standardRun _, at?_empty_ne _, fun h => ?_⟩
  obtain ⟨hnothing, page, -, hshown⟩ := run_standardRun
  have hpage : page ∈ Launch.shown ⟨standardRun, foundFiles⟩ := by
    rw [hshown]
    exact List.mem_singleton_self _
  obtain ⟨source, hsource, repository, events, ⟨options, hparse, rfl⟩, hfetches, -⟩ :=
    h [⟨engineRun, ⟨[], []⟩⟩] ⟨standardRun, foundFiles⟩ [] launches_engineRun_standardRun _ hpage
  obtain ⟨given, hgiven, hrepository, hasked, -⟩ := hfetches
  have hstandard : parse standardRun.words = .ok standardOptions := rfl
  have hengine : parse engineRun.words = .ok engineOptions := rfl
  obtain rfl := Except.ok.inj (hstandard.symm.trans hparse)
  obtain rfl | rfl : source = ⟨engineRun, ⟨[], []⟩⟩ ∨ source = ⟨standardRun, foundFiles⟩ := by
    simpa using hsource
  · obtain rfl := Except.ok.inj (hengine.symm.trans hgiven)
    revert hrepository
    decide
  · exact absurd (hnothing.symm.trans hasked) (List.cons_ne_nil _ _).symm

end CommandLine
end RepoFeed
