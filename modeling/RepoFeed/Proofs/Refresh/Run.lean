import RepoFeed.Proofs.Refresh.Cache
import RepoFeed.Proofs.Refresh.Course

/-
Refreshes one after the other.

Of a run over entries in memory only the last refresh that fetched matters: its
events and its clock are what is stored, whatever failed or was shown from the
cache before and after it.
-/

namespace RepoFeed
namespace Refresher

variable {σ τ : Type}

/-! ## Runs -/

/-- What a refresh is given: the clock, and what comes back if it asks for the
events. -/
structure Call where
  clock : Int
  reply : Reply

/-- A refresh with what it was given. -/
structure Step (σ : Type) where
  clock : Int
  reply : Reply
  quota : Quota
  did : Refreshed σ

/-- The refreshes of a run, each with the quota and the state that the one before
it left. -/
def run (r : Refresher σ) : List Call → Quota → σ → List (Step σ)
  | [], _, _ => []
  | call :: calls, quota, state =>
    let did := r.refresh call.clock call.reply quota state
    ⟨call.clock, call.reply, quota, did⟩ :: r.run calls did.quota did.state

/-- The state after some refreshes. -/
def stateAfter (state : σ) : List (Step σ) → σ
  | [] => state
  | step :: steps => stateAfter step.did.state steps

def Step.hasFetched (step : Step σ) : Bool :=
  match step.did.result with
  | .ok .fetched => true
  | _ => false

theorem Step.hasFetched_iff {step : Step σ} :
    step.hasFetched = true ↔ step.did.result = .ok .fetched := by
  unfold Step.hasFetched
  split
  · simp [*]
  · simpa using ‹_›

/-- The last refresh that fetched. -/
def lastFetched : List (Step σ) → Option (Step σ)
  | [] => none
  | step :: steps => (lastFetched steps).or (if step.hasFetched then some step else none)

theorem lastFetched_run_singleton {r : Refresher σ} {call : Call} {quota : Quota} {state : σ}
    (h : (r.refresh call.clock call.reply quota state).result = .ok .fetched) :
    lastFetched (r.run [call] quota state) = some ⟨call.clock, call.reply, quota,
      r.refresh call.clock call.reply quota state⟩ := by
  rw [run, run, lastFetched, lastFetched, Option.none_or]
  exact if_pos (Step.hasFetched_iff.2 h)

/-! ## Entries in memory -/

/-- A refresher whose cache is in memory, beside the state of a target. -/
def overMemory (key : String) (target : Target τ) (view : Markup.View) (endpoint : Endpoint)
    (token : Token) : Refresher (Storage.Entries × τ) where
  cache := {
    store := some (Storage.memoryStore.within Prod.fst fun s entries => (entries, s.2))
    key }
  target := target.within Prod.snd fun s t => (s.1, t)
  view
  endpoint
  token

section OverMemory

variable {target : Target τ} {key : String} {view : Markup.View} {endpoint : Endpoint}
variable {token : Token} {state : Storage.Entries × τ}

theorem entries_of_render {events : List Event} {after : Storage.Entries × τ}
    {outcome : Except Setback String}
    (h : (overMemory key target view endpoint token).render state events = (after, outcome)) :
    after.1 = state.1 :=
  state_of_render (fun s s' => s'.1 = s.1) rfl (fun _ => rfl) h

theorem entries_of_preview {clock : Int} {before : Storage.Entries × τ} {shown : List String}
    (h : Preview (overMemory key target view endpoint token) clock state before shown) :
    before.1 = state.1 := by
  cases h with
  | nothing h => rfl
  | stale hload hstale hreplaces hrender => exact entries_of_render hrender

theorem load_overMemory {text : String} (h : state.1.get? key = some text) (hne : text ≠ "")
    (now : Int) :
    ((overMemory key target view endpoint token).cache.load now state).1 =
      (Cache.judge now text).1 := by
  have hget : Storage.memoryStore.get state.1 key = .ok (some text) := congrArg Except.ok h
  rw [overMemory, Cache.load_within, Cache.load_of_get hget hne]

variable {clock : Int} {reply : Reply} {quota : Quota} {result : Except Setback Freshening}
variable {after : Storage.Entries × τ} {shown : List String} {requests : List Request}

/-- Only a refresh that fetches changes the entries. -/
theorem Course.entries_of_not_fetched
    (hcourse : Course (overMemory key target view endpoint token) clock reply quota state result
      after shown requests)
    (h : result ≠ .ok .fetched) : after.1 = state.1 := by
  cases hcourse with
  | cached _ _ hrender => exact entries_of_render hrender
  | snapshotNotShown _ _ hrender => exact entries_of_render hrender
  | unheard hpreview _ => exact entries_of_preview hpreview
  | notShown hpreview _ hrender =>
    exact (entries_of_render hrender).trans (entries_of_preview hpreview)
  | fetched => exact absurd rfl h

/-- A refresh that fetches stores what it has heard and shows it last. -/
theorem Course.entries_of_fetched
    (hcourse : Course (overMemory key target view endpoint token) clock reply quota state result
      after shown requests)
    (h : result = .ok .fetched) :
    ∃ events markup, (Exchange.hear endpoint quota reply).result = .ok events ∧
      after.1 = state.1.insert key (Cache.storedText events clock) ∧
      Markup.page view events = .ok markup ∧ shown.getLast? = some markup := by
  cases hcourse with
  | cached => cases h
  | snapshotNotShown => cases h
  | unheard => cases h
  | notShown => cases h
  | @fetched before shownState shown events markup hpreview hhear hrender =>
    have hentries := (entries_of_render hrender).trans (entries_of_preview hpreview)
    refine ⟨events, markup, hhear, ?_, (render_eq_ok_iff.mp hrender).1, List.getLast?_concat⟩
    show shownState.1.insert key _ = _
    rw [hentries]
    rfl

theorem get?_stateAfter_of_ne {other : String} (h : other ≠ key) (calls : List Call)
    (quota : Quota) (state : Storage.Entries × τ) :
    (stateAfter state ((overMemory key target view endpoint token).run calls quota state)).1.get?
      other = state.1.get? other := by
  induction calls generalizing quota state with
  | nil => rfl
  | cons call calls ih =>
    rw [run, stateAfter, ih]
    by_cases hfetched : ((overMemory key target view endpoint token).refresh call.clock call.reply
        quota state).result = .ok .fetched
    · obtain ⟨events, -, -, hentries, -⟩ := (course _ _ _ _ _).entries_of_fetched hfetched
      rw [hentries, Storage.Entries.get?_insert_of_ne h]
    · rw [(course _ _ _ _ _).entries_of_not_fetched hfetched]

theorem get?_stateAfter_of_none {calls : List Call} {quota : Quota}
    {state : Storage.Entries × τ}
    (h : lastFetched ((overMemory key target view endpoint token).run calls quota state) = none) :
    (stateAfter state ((overMemory key target view endpoint token).run calls quota state)).1.get?
      key = state.1.get? key := by
  induction calls generalizing quota state with
  | nil => rfl
  | cons call calls ih =>
    rw [run, lastFetched, Option.or_eq_none_iff] at h
    obtain ⟨hlater, hnow⟩ := h
    rw [run, stateAfter, ih hlater, (course _ _ _ _ _).entries_of_not_fetched]
    intro hfetched
    rw [if_pos (Step.hasFetched_iff.2 hfetched)] at hnow
    contradiction

theorem get?_stateAfter_of_some {calls : List Call} {quota : Quota}
    {state : Storage.Entries × τ} {step : Step (Storage.Entries × τ)}
    (h : lastFetched ((overMemory key target view endpoint token).run calls quota state) =
      some step) :
    ∃ events markup, (Exchange.hear endpoint step.quota step.reply).result = .ok events ∧
      (stateAfter state ((overMemory key target view endpoint token).run calls quota state)).1.get?
        key = some (Cache.storedText events step.clock) ∧
      Markup.page view events = .ok markup ∧ step.did.shown.getLast? = some markup := by
  induction calls generalizing quota state with
  | nil => contradiction
  | cons call calls ih =>
    rw [run, lastFetched, Option.or_eq_some_iff] at h
    rw [run, stateAfter]
    obtain hlater | ⟨hlater, hnow⟩ := h
    · exact ih hlater
    · obtain ⟨hfetched, hstep⟩ := Option.ite_none_right_eq_some.1 hnow
      cases hstep
      obtain ⟨events, markup, hhear, hentries, hpage⟩ :=
        (course _ _ _ _ _).entries_of_fetched (Step.hasFetched_iff.1 hfetched)
      refine ⟨events, markup, hhear, ?_, hpage⟩
      rw [get?_stateAfter_of_none hlater, hentries, Storage.Entries.get?_insert_self]

/-- The last refresh that fetched decides what is stored and, as long as its
snapshot can be read, what the next refresh does. -/
theorem run_overMemory (hshows : ∀ t markup, (target.display t markup).2 = .ok ())
    (key : String) (view : Markup.View) (endpoint : Endpoint) (token : Token)
    (calls : List Call) (quota : Quota) (state : Storage.Entries × τ) :
    let r := overMemory key target view endpoint token
    let steps := r.run calls quota state
    let after := stateAfter state steps
    (∀ other, other ≠ key → after.1.get? other = state.1.get? other) ∧
      (lastFetched steps = none → after.1.get? key = state.1.get? key) ∧
      ∀ step, lastFetched steps = some step → ∃ events,
        (Exchange.hear endpoint step.quota step.reply).result = .ok events ∧
        after.1.get? key = some (Cache.storedText events step.clock) ∧
        (Word.fitsSigned 64 step.clock = true → step.clock ≠ 0 →
          (∀ e ∈ events, e.payloadDepth ≤ 123 ∧ e.IsFloatFree) →
          ∀ now reply quota,
            let next := r.refresh now reply quota after
            (step.clock ≤ now ∧ now ≤ step.clock + 30000 →
              next.result = .ok .cached ∧ next.requests = [] ∧
              ∃ text, step.did.shown.getLast? = some text ∧ next.shown = [text] ∧
                next.state = (after.1, (target.display after.2 text).1)) ∧
            (¬ (step.clock ≤ now ∧ now ≤ step.clock + 30000) →
              next.requests = [endpoint.request token])) := by
  intro r steps after
  refine ⟨fun other h => get?_stateAfter_of_ne h calls quota state, get?_stateAfter_of_none, ?_⟩
  intro step hlast
  obtain ⟨events, markup, hhear, hstored, hpage, hshown⟩ := get?_stateAfter_of_some hlast
  refine ⟨events, hhear, hstored, ?_⟩
  intro htime hzero hshallow now reply quota next
  have hregular := Exchange.isRegular_of_hear hhear
  have hload : (r.cache.load now after).1 = Cache.judged now events step.clock := by
    rw [load_overMemory hstored (Cache.storedText_ne_empty events step.clock)]
    exact Cache.judge_storedText_of_shallow (fun e he => ⟨hregular e he, (hshallow e he).2⟩)
      (fun e he => (hshallow e he).1) htime now
  have hdisplays : ∀ s markup, (r.target.display s markup).2 = .ok () :=
    fun s markup => hshows s.2 markup
  refine ⟨fun hfresh => ?_, fun hstale => ?_⟩
  · obtain ⟨cached, hjudged, hcached⟩ := (Cache.isFresh_judged hzero).2 hfresh
    have hwritten : Markup.page view cached.events = .ok markup :=
      Cache.events_of_judged hjudged ▸ hpage
    obtain ⟨hresult, hrequests, htexts, hstate⟩ :=
      (r.course now reply quota after).of_fresh hdisplays (hload.trans hjudged) hcached hwritten
    exact ⟨hresult, hrequests, _, hshown, htexts, hstate⟩
  · have hnot : ∀ cached, (r.cache.load now after).1 = some cached → cached.isFresh ≠ true ∧
        (r.target.replaces = true → ∃ markup, Markup.page view cached.events = .ok markup) := by
      intro cached hcached
      have hjudged := hload.symm.trans hcached
      refine ⟨fun hfresh => hstale ((Cache.isFresh_judged hzero).1 ⟨cached, hjudged, hfresh⟩), ?_⟩
      exact fun _ => ⟨markup, Cache.events_of_judged hjudged ▸ hpage⟩
    exact ((r.course now reply quota after).of_not_fresh hdisplays hnot).1

/-- What was fetched at 1000 is shown at 31000 and asked for again at 31001. -/
theorem run_overMemory_nested :
    let r := overMemory "tpieevents" Target.page
      ⟨Cache.standardEndpoint.repository, ⟨⟨0, 0⟩, fun _ => 0⟩⟩ Cache.standardEndpoint none
    let after := stateAfter ([], []) (r.run
      [⟨1000, Exchange.carrier "tpieevents" [Event.nested 123]⟩] .unknown ([], []))
    (r.refresh 31000 none .unknown after).requests = [] ∧
      (r.refresh 31001 none .unknown after).requests = [Cache.standardEndpoint.request none] := by
  intro r after
  have hshows : ∀ t markup, (Target.page.display t markup).2 = .ok () := fun _ _ => rfl
  have hheard : (Exchange.hear Cache.standardEndpoint .unknown
      (Exchange.carrier "tpieevents" [Event.nested 123])).result = .ok [Event.nested 123] :=
    Cache.hear_nested (by decide)
  have hfetched : (r.refresh 1000 (Exchange.carrier "tpieevents" [Event.nested 123]) .unknown
      ([], [])).result = .ok .fetched := by
    have hnone : (r.cache.load 1000 ([], [])).1 = none := rfl
    obtain ⟨-, hresult⟩ := (r.course 1000 (Exchange.carrier "tpieevents" [Event.nested 123])
      .unknown ([], [])).of_not_fresh (fun _ _ => rfl) fun cached h => nomatch hnone.symm.trans h
    rw [hresult]
    exact congrArg (Except.map fun _ => Freshening.fetched) (heardPage_of_ok r.view hheard)
  obtain ⟨-, -, hrun⟩ := run_overMemory hshows "tpieevents"
    ⟨Cache.standardEndpoint.repository, ⟨⟨0, 0⟩, fun _ => 0⟩⟩ Cache.standardEndpoint none
    [⟨1000, Exchange.carrier "tpieevents" [Event.nested 123]⟩] .unknown ([], [])
  obtain ⟨events, hhear, -, hnext⟩ := hrun _ (lastFetched_run_singleton hfetched)
  obtain rfl : [Event.nested 123] = events := Except.ok.inj (hheard.symm.trans hhear)
  have hshallow : ∀ e ∈ [Event.nested 123], e.payloadDepth ≤ 123 ∧ e.IsFloatFree := by
    simpa [Event.payloadDepth_nested] using (Event.isRegular_nested 123).2
  have hafter := hnext (by decide) (by decide) hshallow
  exact ⟨((hafter 31000 none .unknown).1 (by decide)).2.1,
    (hafter 31001 none .unknown).2 (by decide)⟩

end OverMemory

end Refresher
end RepoFeed
