import RepoFeed.Proofs.Outcome
import RepoFeed.Refresh.Basic

/-
The courses that a refresh can take.

`Refresher.refresh` decides three times: whether a snapshot is fresh, whether a
stale one is shown, and whether what was asked for came and could be shown.  Its
five ends are the constructors of `Course`; everything that is proved about
refreshes is proved by these cases, and nothing else unfolds the definition.  A page
that cannot be written and a target that does not take it are one case here, since a
refresh stops in both.
-/

namespace RepoFeed

variable {σ : Type}

/-- Whatever is found at a time is not fresh. -/
def Cache.HasNothingFresh (cache : Cache σ) (now : Int) (state : σ) : Prop :=
  ∀ cached, (cache.load now state).1 = some cached → cached.isFresh = false

namespace Refresher

/-! ## Pages shown -/

section Render

variable {r : Refresher σ} {state after : σ} {events : List Event} {markup : String}
variable {setback : Setback}

theorem render_eq_ok_iff :
    r.render state events = (after, .ok markup) ↔
      Markup.page r.view events = .ok markup ∧
        r.target.display state markup = (after, .ok ()) := by
  unfold render
  cases hpage : Markup.page r.view events with
  | error panic => exact ⟨nofun, nofun⟩
  | ok written =>
    rcases hdisplay : r.target.display state written with ⟨shown, outcome⟩
    constructor
    · intro h
      cases outcome with
      | error problem => simp only [hdisplay, Prod.mk.injEq, reduceCtorEq, and_false] at h
      | ok done =>
        simp only [hdisplay] at h
        cases h
        exact ⟨rfl, hdisplay⟩
    · rintro ⟨hwritten, hshown⟩
      cases hwritten
      cases hdisplay.symm.trans hshown
      simp only [hdisplay]

/-- A page is not shown because it cannot be written, or because the target does not
take it. -/
theorem render_eq_error_iff :
    r.render state events = (after, .error setback) ↔
      (∃ panic, Markup.page r.view events = .error panic ∧ setback = .panic panic ∧
        after = state) ∨
      ∃ markup problem, Markup.page r.view events = .ok markup ∧ setback = .problem problem ∧
        r.target.display state markup = (after, .error problem) := by
  unfold render
  cases hpage : Markup.page r.view events with
  | error panic =>
    constructor
    · intro h
      cases h
      exact .inl ⟨panic, rfl, rfl, rfl⟩
    · rintro (⟨_, hpanic, rfl, rfl⟩ | ⟨_, _, hwritten, -⟩)
      · cases hpanic
        rfl
      · cases hwritten
  | ok written =>
    rcases hdisplay : r.target.display state written with ⟨shown, outcome⟩
    constructor
    · intro h
      cases outcome with
      | error problem =>
        simp only [hdisplay] at h
        cases h
        exact .inr ⟨written, problem, rfl, rfl, hdisplay⟩
      | ok done => simp only [hdisplay, Prod.mk.injEq, reduceCtorEq, and_false] at h
    · rintro (⟨_, hpanic, -⟩ | ⟨_, _, hwritten, rfl, hshown⟩)
      · cases hpanic
      · cases hwritten
        cases hdisplay.symm.trans hshown
        simp only [hdisplay]

theorem fst_render_of_page (hpage : Markup.page r.view events = .ok markup) (state : σ) :
    (r.render state events).1 = (r.target.display state markup).1 := by
  rcases hdisplay : r.target.display state markup with ⟨after, outcome⟩
  cases outcome <;> simp only [render, hpage, hdisplay]

/-- Whatever showing a page comes to, the state is as it was or as the target left it. -/
theorem state_of_render (kept : σ → σ → Prop) (hrefl : kept state state)
    (hdisplay : ∀ markup, kept state (r.target.display state markup).1)
    {outcome : Except Setback String} (h : r.render state events = (after, outcome)) :
    kept state after := by
  have hshown : ∀ {markup : String} {outcome : Except Problem Unit},
      r.target.display state markup = (after, outcome) → kept state after := by
    intro markup outcome heq
    have hkept := hdisplay markup
    rwa [heq] at hkept
  cases outcome with
  | ok markup => exact hshown (render_eq_ok_iff.mp h).2
  | error setback =>
    obtain ⟨panic, -, -, rfl⟩ | ⟨markup, problem, -, -, heq⟩ := render_eq_error_iff.mp h
    · exact hrefl
    · exact hshown heq

end Render

/-! ## Courses -/

/-- What a refresh has done to the state and what it has shown before it asks
for the events. -/
inductive Preview (r : Refresher σ) (clock : Int) (state : σ) : σ → List String → Prop
  /-- There was no snapshot, or a stale one that has to be left out. -/
  | nothing (h : ∀ cached, (r.cache.load clock state).1 = some cached →
      cached.isFresh = false ∧ r.target.replaces = false) : Preview r clock state state []
  | stale {cached : Cached} {shownState : σ} {markup : String}
      (hload : (r.cache.load clock state).1 = some cached) (hstale : cached.isFresh = false)
      (hreplaces : r.target.replaces = true)
      (hrender : r.render state cached.events = (shownState, .ok markup)) :
      Preview r clock state shownState [markup]

/-- The result, the state, the texts shown and the requests of a refresh. -/
inductive Course (r : Refresher σ) (clock : Int) (reply : Reply) (quota : Quota) (state : σ) :
    Except Setback Freshening → σ → List String → List Request → Prop
  | cached {cached : Cached} {shownState : σ} {markup : String}
      (hload : (r.cache.load clock state).1 = some cached) (hfresh : cached.isFresh = true)
      (hrender : r.render state cached.events = (shownState, .ok markup)) :
      Course r clock reply quota state (.ok .cached) shownState [markup] []
  /-- A snapshot, fresh or stale, could not be shown. -/
  | snapshotNotShown {cached : Cached} {failedState : σ} {setback : Setback}
      (hload : (r.cache.load clock state).1 = some cached)
      (hshow : cached.isFresh = true ∨ r.target.replaces = true)
      (hrender : r.render state cached.events = (failedState, .error setback)) :
      Course r clock reply quota state (.error setback) failedState [] []
  | unheard {before : σ} {shown : List String} {problem : Problem}
      (hpreview : Preview r clock state before shown)
      (hhear : (Exchange.hear r.endpoint quota reply).result = .error problem) :
      Course r clock reply quota state (.error (.problem problem)) before shown
        [r.endpoint.request r.token]
  | notShown {before failedState : σ} {shown : List String} {events : List Event}
      {setback : Setback} (hpreview : Preview r clock state before shown)
      (hhear : (Exchange.hear r.endpoint quota reply).result = .ok events)
      (hrender : r.render before events = (failedState, .error setback)) :
      Course r clock reply quota state (.error setback) failedState shown
        [r.endpoint.request r.token]
  | fetched {before shownState : σ} {shown : List String} {events : List Event}
      {markup : String} (hpreview : Preview r clock state before shown)
      (hhear : (Exchange.hear r.endpoint quota reply).result = .ok events)
      (hrender : r.render before events = (shownState, .ok markup)) :
      Course r clock reply quota state (.ok .fetched) (r.cache.save events clock shownState).1
        (shown ++ [markup]) [r.endpoint.request r.token]

variable {r : Refresher σ} {clock : Int} {reply : Reply} {quota : Quota} {state : σ}

theorem course_of_preview {before : σ} {shown : List String}
    (h : Preview r clock state before shown) (notices : List Notice) :
    Course r clock reply quota state (r.fetch clock reply quota before shown notices).result
      (r.fetch clock reply quota before shown notices).state
      (r.fetch clock reply quota before shown notices).shown
      (r.fetch clock reply quota before shown notices).requests := by
  cases hhear : (Exchange.hear r.endpoint quota reply).result with
  | error problem =>
    simp only [fetch, hhear]
    exact .unheard h hhear
  | ok events =>
    rcases hrender : r.render before events with ⟨after, outcome⟩
    cases outcome with
    | error setback =>
      simp only [fetch, hhear, hrender]
      exact .notShown h hhear hrender
    | ok markup =>
      simp only [fetch, hhear, hrender]
      exact .fetched h hhear hrender

/-- Every refresh takes one of the courses. -/
theorem course (r : Refresher σ) (clock : Int) (reply : Reply) (quota : Quota) (state : σ) :
    Course r clock reply quota state (r.refresh clock reply quota state).result
      (r.refresh clock reply quota state).state (r.refresh clock reply quota state).shown
      (r.refresh clock reply quota state).requests := by
  unfold refresh
  rcases hload : r.cache.load clock state with ⟨loaded, notices⟩
  cases loaded with
  | none =>
    refine course_of_preview (.nothing fun cached h => ?_) _
    rw [hload] at h
    contradiction
  | some cached =>
    have hsome : (r.cache.load clock state).1 = some cached := by rw [hload]
    by_cases hshow : cached.isFresh = true ∨ r.target.replaces = true
    · rcases hrender : r.render state cached.events with ⟨after, outcome⟩
      cases outcome with
      | error setback =>
        simp only [if_pos hshow, hrender]
        exact .snapshotNotShown hsome hshow hrender
      | ok markup =>
        by_cases hfresh : cached.isFresh = true
        · simp only [if_pos hshow, hrender, if_pos hfresh]
          exact .cached hsome hfresh hrender
        · simp only [if_pos hshow, hrender, if_neg hfresh]
          have hstale : cached.isFresh = false := by simpa using hfresh
          exact course_of_preview
            (.stale hsome hstale (hshow.resolve_left hfresh) hrender) _
    · simp only [if_neg hshow]
      refine course_of_preview (.nothing fun other h => ?_) _
      obtain rfl : cached = other := Option.some.inj (hsome.symm.trans h)
      simpa using hshow

variable {result : Except Setback Freshening} {after : σ} {shown : List String}
variable {requests : List Request}

/-- Where there is a fresh snapshot, nothing goes before it. -/
theorem Preview.hasNothingFresh {before : σ} (h : Preview r clock state before shown) :
    r.cache.HasNothingFresh clock state := by
  intro cached hload
  cases h with
  | nothing h => exact (h cached hload).1
  | stale hother hstale =>
    obtain rfl := Option.some.inj (hload.symm.trans hother)
    exact hstale

/-- Without a snapshot, what has come and been shown is stored. -/
theorem Course.of_no_snapshot
    (hcourse : Course r clock reply quota state result after shown requests)
    (hload : (r.cache.load clock state).1 = none) {events : List Event}
    (hhear : (Exchange.hear r.endpoint quota reply).result = .ok events) {shownState : σ}
    {markup : String} (hrender : r.render state events = (shownState, .ok markup)) :
    after = (r.cache.save events clock shownState).1 ∧
      requests = [r.endpoint.request r.token] := by
  have hbefore : ∀ {before : σ} {shown : List String},
      Preview r clock state before shown → before = state := by
    intro before shown hpreview
    cases hpreview with
    | nothing => rfl
    | stale hsome => exact nomatch hload.symm.trans hsome
  cases hcourse with
  | cached hsome => exact nomatch hload.symm.trans hsome
  | snapshotNotShown hsome => exact nomatch hload.symm.trans hsome
  | unheard _ hunheard => exact nomatch hhear.symm.trans hunheard
  | notShown hpreview hheard hfailed =>
    obtain rfl := hbefore hpreview
    obtain rfl := Except.ok.inj (hhear.symm.trans hheard)
    exact nomatch (Prod.mk.inj (hrender.symm.trans hfailed)).2
  | fetched hpreview hheard hshown =>
    obtain rfl := hbefore hpreview
    obtain rfl := Except.ok.inj (hhear.symm.trans hheard)
    obtain ⟨rfl, -⟩ := Prod.mk.inj (hrender.symm.trans hshown)
    exact ⟨rfl, rfl⟩

/-- The page of the events that a reply brings. -/
def heardPage (view : Markup.View) (endpoint : Endpoint) (quota : Quota) (reply : Reply) :
    Except Setback String := do
  let events ← (Exchange.hear endpoint quota reply).result.mapError Setback.problem
  (Markup.page view events).mapError Setback.panic

theorem heardPage_of_ok (view : Markup.View) {endpoint : Endpoint} {events : List Event}
    (h : (Exchange.hear endpoint quota reply).result = .ok events) :
    heardPage view endpoint quota reply = (Markup.page view events).mapError Setback.panic := by
  simp only [heardPage, h]
  rfl

theorem heardPage_of_error (view : Markup.View) {endpoint : Endpoint} {problem : Problem}
    (h : (Exchange.hear endpoint quota reply).result = .error problem) :
    heardPage view endpoint quota reply = .error (.problem problem) := by
  simp only [heardPage, h]
  rfl

section

variable (hshows : ∀ s markup, (r.target.display s markup).2 = .ok ())

include hshows in
/-- On such a target only a page that cannot be written is not shown. -/
theorem page_of_render_error {s failedState : σ} {events : List Event} {setback : Setback}
    (h : r.render s events = (failedState, .error setback)) :
    ∃ panic, Markup.page r.view events = .error panic ∧ setback = .panic panic ∧
      failedState = s := by
  obtain hpanic | ⟨markup, problem, -, -, hdisplay⟩ := render_eq_error_iff.mp h
  · exact hpanic
  · have hok := hshows s markup
    rw [hdisplay] at hok
    contradiction

include hshows in
/-- A fresh snapshot whose page can be written is shown, and nothing is asked for. -/
theorem Course.of_fresh (hcourse : Course r clock reply quota state result after shown requests)
    {cached : Cached} (hload : (r.cache.load clock state).1 = some cached)
    (hfresh : cached.isFresh = true) {markup : String}
    (hpage : Markup.page r.view cached.events = .ok markup) :
    result = .ok .cached ∧ requests = [] ∧ shown = [markup] ∧
      after = (r.target.display state markup).1 := by
  have hnothing : ∀ before shown, ¬ Preview r clock state before shown := by
    intro before shown h
    exact absurd (hfresh.symm.trans (h.hasNothingFresh _ hload)) nofun
  cases hcourse with
  | cached hother _ hrender =>
    obtain rfl := Option.some.inj (hload.symm.trans hother)
    obtain ⟨hwritten, hdisplay⟩ := render_eq_ok_iff.mp hrender
    obtain rfl := Except.ok.inj (hpage.symm.trans hwritten)
    exact ⟨rfl, rfl, rfl, by rw [hdisplay]⟩
  | snapshotNotShown hother _ hrender =>
    obtain rfl := Option.some.inj (hload.symm.trans hother)
    obtain ⟨panic, hpanic, -⟩ := page_of_render_error hshows hrender
    exact nomatch hpage.symm.trans hpanic
  | unheard hpreview => exact absurd hpreview (hnothing _ _)
  | notShown hpreview => exact absurd hpreview (hnothing _ _)
  | fetched hpreview => exact absurd hpreview (hnothing _ _)

include hshows in
/-- Without a fresh snapshot the events are asked for, once, and what is asked for
decides the result, unless a stale page cannot be written. -/
theorem Course.of_not_fresh
    (hcourse : Course r clock reply quota state result after shown requests)
    (h : ∀ cached, (r.cache.load clock state).1 = some cached → cached.isFresh ≠ true ∧
      (r.target.replaces = true → ∃ markup, Markup.page r.view cached.events = .ok markup)) :
    requests = [r.endpoint.request r.token] ∧
      result = (heardPage r.view r.endpoint quota reply).map fun _ => .fetched := by
  cases hcourse with
  | cached hload hfresh => exact absurd hfresh (h _ hload).1
  | snapshotNotShown hload hshow hrender =>
    obtain ⟨hstale, hwritten⟩ := h _ hload
    obtain ⟨markup, hpage⟩ := hwritten (hshow.resolve_left hstale)
    obtain ⟨panic, hpanic, -⟩ := page_of_render_error hshows hrender
    exact nomatch hpage.symm.trans hpanic
  | unheard _ hhear =>
    rw [heardPage_of_error _ hhear]
    exact ⟨rfl, rfl⟩
  | notShown _ hhear hrender =>
    obtain ⟨panic, hpanic, rfl, -⟩ := page_of_render_error hshows hrender
    rw [heardPage_of_ok _ hhear, hpanic]
    exact ⟨rfl, rfl⟩
  | fetched _ hhear hrender =>
    rw [heardPage_of_ok _ hhear, (render_eq_ok_iff.mp hrender).1]
    exact ⟨rfl, rfl⟩

end

end Refresher
end RepoFeed
