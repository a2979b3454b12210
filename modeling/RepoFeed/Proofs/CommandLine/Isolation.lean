import RepoFeed.Proofs.CommandLine.Launch
import RepoFeed.Proofs.Storage.Isolation

/-
Runs without a cache.

A run that is told to use no cache looks into no directory to find a snapshot.  It
takes two file systems alike that differ only inside a directory that its output does
not lead into, and leaves what is inside as it is.
-/

namespace RepoFeed

/-! ## Refreshes without a store -/

namespace Refresher

variable {σ : Type} {r : Refresher σ} {s s' : σ}

/-- Two refreshes that differ in their states only, which are related. -/
structure SameEnd (R : σ → σ → Prop) (did did' : Refreshed σ) : Prop where
  result : did'.result = did.result
  quota : did'.quota = did.quota
  shown : did'.shown = did.shown
  requests : did'.requests = did.requests
  notices : did'.notices = did.notices
  state : R did.state did'.state

theorem refresh_of_no_store (hstore : r.cache.store = none) (clock : Int) (reply : Reply)
    (quota : Quota) (s : σ) :
    r.refresh clock reply quota s = r.fetch clock reply quota s [] [.cacheMiss] := by
  simp only [refresh, Cache.load, hstore, List.nil_append]

theorem sameEnd_render {R : σ → σ → Prop} (hstate : R s s')
    (hdisplay : ∀ markup, R (r.target.display s markup).1 (r.target.display s' markup).1 ∧
      (r.target.display s' markup).2 = (r.target.display s markup).2) (events : List Event) :
    R (r.render s events).1 (r.render s' events).1 ∧
      (r.render s' events).2 = (r.render s events).2 := by
  unfold render
  cases Markup.page r.view events with
  | error panic => exact ⟨hstate, rfl⟩
  | ok markup =>
    obtain ⟨hshown, houtcome⟩ := hdisplay markup
    rcases hfirst : r.target.display s markup with ⟨after, outcome⟩
    rcases hsecond : r.target.display s' markup with ⟨after', outcome'⟩
    rw [hfirst, hsecond] at hshown houtcome
    obtain rfl : outcome' = outcome := houtcome
    cases outcome' with
    | error problem =>
      simp only [hfirst, hsecond]
      exact ⟨hshown, trivial⟩
    | ok done =>
      simp only [hfirst, hsecond]
      exact ⟨hshown, trivial⟩

/-- Without a store, two states lead to the same end if the target cannot tell them
apart. -/
theorem sameEnd_of_no_store {R : σ → σ → Prop} (hstore : r.cache.store = none) (hstate : R s s')
    (hdisplay : ∀ markup, R (r.target.display s markup).1 (r.target.display s' markup).1 ∧
      (r.target.display s' markup).2 = (r.target.display s markup).2)
    (clock : Int) (reply : Reply) (quota : Quota) :
    SameEnd R (r.refresh clock reply quota s) (r.refresh clock reply quota s') := by
  rw [refresh_of_no_store hstore, refresh_of_no_store hstore, fetch, fetch]
  cases (Exchange.hear r.endpoint quota reply).result with
  | error problem => exact ⟨rfl, rfl, rfl, rfl, rfl, hstate⟩
  | ok events =>
    obtain ⟨hshown, houtcome⟩ := sameEnd_render hstate hdisplay events
    rcases hfirst : r.render s events with ⟨after, outcome⟩
    rcases hsecond : r.render s' events with ⟨after', outcome'⟩
    rw [hfirst, hsecond] at hshown houtcome
    obtain rfl : outcome' = outcome := houtcome
    cases outcome' with
    | error setback =>
      simp only [hfirst, hsecond]
      exact ⟨rfl, rfl, rfl, rfl, rfl, hshown⟩
    | ok markup =>
      simp only [hfirst, hsecond, Cache.save, hstore]
      exact ⟨rfl, rfl, rfl, rfl, rfl, hshown⟩

/-- Without a store a refresh shows what it is told, and does nothing else to the
state. -/
theorem state_of_no_store (hstore : r.cache.store = none) (clock : Int) (reply : Reply)
    (quota : Quota) (s : σ) :
    (r.refresh clock reply quota s).state =
      match (Exchange.hear r.endpoint quota reply).result with
      | .error _ => s
      | .ok events => (r.render s events).1 := by
  rw [refresh_of_no_store hstore, fetch]
  cases (Exchange.hear r.endpoint quota reply).result with
  | error problem => rfl
  | ok events =>
    rcases hrender : r.render s events with ⟨after, outcome⟩
    cases outcome with
    | error setback => simp only [hrender]
    | ok markup => simp only [hrender, Cache.save, hstore]

end Refresher

namespace CommandLine

open Storage (FileSystem Place)
open Storage.FileSystem (AgreeOn IsInside)
open Storage.TextFile (StaysOutside)

variable {options : Options} {invocation : Invocation} {directory : Place}
variable {files files' : FileSystem}

/-! ## Machines that differ inside a directory -/

/-- The same output, and the same files outside a directory. -/
def SameOutside (directory : Place) (m m' : Machine) : Prop :=
  AgreeOn (¬ IsInside directory ·) m.files m'.files ∧ m'.output = m.output

theorem sameOutside_display {m m' : Machine} (h : SameOutside directory m m')
    (houtput : ∀ text ∈ options.output, StaysOutside directory m.files ⟨text⟩) (sink : Sink)
    (markup : String) :
    SameOutside directory ((options.target sink).display m markup).1
        ((options.target sink).display m' markup).1 ∧
      ((options.target sink).display m' markup).2 =
        ((options.target sink).display m markup).2 := by
  obtain ⟨hagree, heq⟩ := h
  unfold Options.target
  cases hout : options.output with
  | none =>
    simp only [Target.within, Target.stream, heq]
    exact ⟨⟨hagree, rfl⟩, trivial⟩
  | some text =>
    obtain ⟨hwritten, houtcome⟩ := StaysOutside.endAlike_write (houtput text hout) hagree markup
    simp only [Target.within, Target.file]
    exact ⟨⟨hwritten, heq⟩, congrArg (Except.mapError Problem.storage) houtcome⟩

theorem at?_display {m : Machine}
    (houtput : ∀ text ∈ options.output, StaysOutside directory m.files ⟨text⟩) (sink : Sink)
    (markup : String) {place : Place} (hinside : IsInside directory place) :
    ((options.target sink).display m markup).1.files.at? place = m.files.at? place := by
  unfold Options.target
  cases hout : options.output with
  | none => rfl
  | some text =>
    simp only [Target.within, Target.file]
    exact StaysOutside.at?_write (houtput text hout) markup hinside

theorem store_of_noCache (h : options.noCache = true) (invocation : Invocation) :
    (options.refresher invocation).cache.store = none := by
  simp only [Options.refresher, Options.cacheAt, h, if_true, Option.map_none]

/-! ## Runs -/

/-- Two runs that are the same to whoever does not look into a directory. -/
structure Run.Alike (directory : Place) (run run' : Run) : Prop where
  code : run'.code = run.code
  output : run'.output = run.output
  log : run'.log = run.log
  requests : run'.requests = run.requests
  files : AgreeOn (¬ IsInside directory ·) run.files run'.files

/-- Without a cache a run leaves everything inside a directory as it is that its output
does not lead into. -/
theorem at?_run_of_noCache (hparse : parse invocation.words = .ok options)
    (hcache : options.noCache = true)
    (houtput : ∀ text ∈ options.output, StaysOutside directory files ⟨text⟩)
    {place : Place} (hinside : IsInside directory place) :
    (run invocation files).files.at? place = files.at? place := by
  cases hopening : invocation.opening with
  | ended code output log => rw [run_of_ended hopening]
  | ready given filter =>
    obtain rfl := Except.ok.inj (hparse.symm.trans (parse_of_opening hopening))
    rw [files_of_ready hopening, Options.refreshed,
      Refresher.state_of_no_store (store_of_noCache hcache invocation)]
    split
    · rfl
    · exact Refresher.state_of_render
        (fun m m' : Machine => m'.files.at? place = m.files.at? place) rfl
        (fun markup => at?_display houtput invocation.output markup hinside) rfl

/-- Without a cache a run does not depend on what is inside a directory that its output
does not lead into, and leaves it as it is. -/
theorem run_of_noCache (hparse : parse invocation.words = .ok options)
    (hcache : options.noCache = true) (hagree : AgreeOn (¬ IsInside directory ·) files files')
    (houtput : ∀ text ∈ options.output, StaysOutside directory files ⟨text⟩) :
    Run.Alike directory (run invocation files) (run invocation files') ∧
      (∀ text ∈ options.output, (run invocation files').files.at? (files.destination ⟨text⟩) =
        (run invocation files).files.at? (files.destination ⟨text⟩)) ∧
      ∀ place, IsInside directory place →
        (run invocation files).files.at? place = files.at? place ∧
          (run invocation files').files.at? place = files'.at? place := by
  have houtput' : ∀ text ∈ options.output, StaysOutside directory files' ⟨text⟩ := by
    intro text htext place hplace
    rw [Storage.FileSystem.Passes, hagree.start] at hplace
    exact houtput text htext place hplace
  have halike : Run.Alike directory (run invocation files) (run invocation files') := by
    cases hopening : invocation.opening with
    | ended code output log =>
      rw [run_of_ended hopening, run_of_ended hopening]
      exact ⟨rfl, rfl, rfl, rfl, hagree⟩
    | ready given filter =>
      obtain rfl := Except.ok.inj (hparse.symm.trans (parse_of_opening hopening))
      have hstate : SameOutside directory ⟨files, []⟩ ⟨files', []⟩ := ⟨hagree, rfl⟩
      have hend : Refresher.SameEnd (SameOutside directory) (options.refreshed invocation files)
          (options.refreshed invocation files') :=
        Refresher.sameEnd_of_no_store (store_of_noCache hcache invocation) hstate
          (sameOutside_display hstate houtput invocation.output) invocation.clock
          invocation.reply .unknown
      rw [run_of_ready hopening, run_of_ready hopening, execute, execute]
      exact ⟨by rw [hend.result], hend.state.2, by rw [hend.notices, hend.result],
        hend.requests, hend.state.1⟩
  refine ⟨halike, fun text htext => ?_, fun place hinside => ⟨?_, ?_⟩⟩
  · exact halike.files.at? _ (houtput text htext _ (.last _ _))
  · exact at?_run_of_noCache hparse hcache houtput hinside
  · exact at?_run_of_noCache hparse hcache houtput' hinside

/-! ## Ways through the directory -/

/-- A run without a cache that shows no events. -/
def plainRun (output : String) : Invocation where
  words := ["--no-cache", "--cache-dir", "/cache", "--output", output]
  environment := ⟨some "/root", none, none, none, none⟩
  clock := 1000
  zone := fun _ => 0
  output := .boundless
  clientFault := none
  reply := Exchange.carrier "tpieevents" []

def plainOptions (output : String) : Options :=
  ⟨"thomasmoelhave", "tpie", some output, some "/cache", "tpieevents", "tpieevents", true⟩

/-- A cache directory without anything in it. -/
def plainFiles : FileSystem := ⟨[(["cache"], .directory)], []⟩

theorem agreeOn_plainFiles (name : String) (entry : Storage.Entry) :
    AgreeOn (¬ IsInside ["cache"] ·) plainFiles (plainFiles.put ["cache", name] entry) := by
  refine .of_put (not_not.mpr ?_) entry
  exact Storage.FileSystem.isInside_concat.mpr (List.prefix_refl ["cache"])

/-- A run that writes beside the directory, with an entry that cannot be read and without
one. -/
theorem run_of_noCache_beside :
    Run.Alike ["cache"] (run (plainRun "feed.html") plainFiles)
        (run (plainRun "feed.html") (plainFiles.put ["cache", "tpieevents.json"] .directory)) ∧
      (run (plainRun "feed.html")
        (plainFiles.put ["cache", "tpieevents.json"] .directory)).files.at?
          ["cache", "tpieevents.json"] = some .directory := by
  have hoptions : parse (plainRun "feed.html").words = .ok (plainOptions "feed.html") := rfl
  have houtput : ∀ text ∈ (plainOptions "feed.html").output,
      StaysOutside ["cache"] plainFiles ⟨text⟩ := by
    intro text htext
    cases htext
    exact Storage.TextFile.staysOutside_of_names (by decide) (by decide)
  obtain ⟨halike, -, hinside⟩ := run_of_noCache hoptions rfl
    (agreeOn_plainFiles "tpieevents.json" .directory) houtput
  refine ⟨halike, (hinside ["cache", "tpieevents.json"] ?_).2⟩
  exact Storage.FileSystem.isInside_concat.mpr (List.prefix_refl ["cache"])

theorem files_plainRun {output : String}
    (hoptions : parse (plainRun output).words = .ok (plainOptions output)) (files : FileSystem) :
    (run (plainRun output) files).files =
      (Storage.TextFile.write files ⟨output⟩ "").1 := by
  have hcallback : Exchange.IsCallback "tpieevents" := by decide
  have hhear : (Exchange.hear ((plainOptions output).refresher (plainRun output)).endpoint .unknown
      (plainRun output).reply).result = .ok [] :=
    Exchange.hear_carrier hcallback (List.forall_mem_nil _) (List.forall_mem_nil _) .unknown
  have hopening : (plainRun output).opening = .ready (plainOptions output) .standard :=
    opening_eq_ready_iff.mpr ⟨hoptions, rfl, rfl, rfl, rfl⟩
  rw [files_of_ready hopening, Options.refreshed,
    Refresher.state_of_no_store (store_of_noCache rfl _), hhear]
  exact congrArg Machine.files (Refresher.fst_render_of_page rfl _)

/-- A run whose output leads through the directory depends on what is there, although it
ends outside and does not hold the directory. -/
theorem not_alike_run_through :
    AgreeOn (¬ IsInside ["cache"] ·) plainFiles (plainFiles.put ["cache", "sub"] (.file [])) ∧
      plainFiles.destination ⟨"cache/sub/../../feed.html"⟩ = ["feed.html"] ∧
      parse (plainRun "cache/sub/../../feed.html").words =
        .ok (plainOptions "cache/sub/../../feed.html") ∧
      ¬ Run.Alike ["cache"] (run (plainRun "cache/sub/../../feed.html") plainFiles)
        (run (plainRun "cache/sub/../../feed.html")
          (plainFiles.put ["cache", "sub"] (.file []))) := by
  refine ⟨agreeOn_plainFiles "sub" _, by decide, rfl, fun halike => ?_⟩
  have hplace := halike.files.at? ["feed.html"] (by decide)
  rw [files_plainRun rfl, files_plainRun rfl] at hplace
  exact absurd hplace (by decide)

end CommandLine
end RepoFeed
