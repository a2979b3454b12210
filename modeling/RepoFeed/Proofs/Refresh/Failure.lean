import RepoFeed.Proofs.Refresh.Cache
import RepoFeed.Proofs.Refresh.Course
import RepoFeed.Proofs.Storage.TextFile

/-
What a refresh that fails leaves behind.

The cache is written last and by refreshes only that have succeeded, so what a
failed one can have changed is what its target changes, whether it has met a problem
or a panic.  A target with a state of
its own changes nothing else; a file outside the directory of a cache is written
beside what the cache keeps.
-/

namespace RepoFeed
namespace Refresher

section

variable {σ : Type} {r : Refresher σ} {clock : Int} {reply : Reply} {quota : Quota}
variable {state after : σ} {result : Except Setback Freshening} {shown : List String}
variable {requests : List Request} {setback : Setback} {problem : Problem}

/-- What displaying does not change, nor storing where it comes to that, a refresh does
not change. -/
theorem Course.kept (kept : σ → σ → Prop)
    (hcourse : Course r clock reply quota state result after shown requests)
    (hrefl : ∀ s, kept s s) (htrans : ∀ a b c, kept a b → kept b c → kept a c)
    (hdisplay : ∀ s markup, kept s (r.target.display s markup).1)
    (hsave : result = .ok .fetched → ∀ s events, kept s (r.cache.save events clock s).1) :
    kept state after := by
  have hafter : ∀ {s after : σ} {events : List Event} {outcome : Except Setback String},
      r.render s events = (after, outcome) → kept s after := by
    intro s after events outcome hrender
    exact state_of_render kept (hrefl s) (hdisplay s) hrender
  have hbefore : ∀ {before : σ} {shown : List String},
      Preview r clock state before shown → kept state before := by
    intro before shown hpreview
    cases hpreview with
    | nothing => exact hrefl state
    | stale _ _ _ hrender => exact hafter hrender
  cases hcourse with
  | cached _ _ hrender => exact hafter hrender
  | snapshotNotShown _ _ hrender => exact hafter hrender
  | unheard hpreview => exact hbefore hpreview
  | notShown hpreview _ hrender => exact htrans _ _ _ (hbefore hpreview) (hafter hrender)
  | fetched hpreview _ hrender =>
    exact htrans _ _ _ (htrans _ _ _ (hbefore hpreview) (hafter hrender)) (hsave rfl _ _)

theorem Course.kept_of_error {kept : σ → σ → Prop}
    (hcourse : Course r clock reply quota state result after shown requests)
    (hrefl : ∀ s, kept s s) (htrans : ∀ a b c, kept a b → kept b c → kept a c)
    (hdisplay : ∀ s markup, kept s (r.target.display s markup).1)
    (h : result = .error setback) : kept state after :=
  hcourse.kept kept hrefl htrans hdisplay fun hok => nomatch h.symm.trans hok

/-- If asking for the events fails, nothing has been shown but a stale snapshot
where it can be replaced. -/
theorem Course.preview_of_unheard
    (hcourse : Course r clock reply quota state result after shown requests)
    (hasked : requests ≠ [])
    (hhear : (Exchange.hear r.endpoint quota reply).result = .error problem) :
    Preview r clock state after shown := by
  cases hcourse with
  | cached => exact absurd rfl hasked
  | snapshotNotShown => exact absurd rfl hasked
  | unheard hpreview => exact hpreview
  | notShown _ hheard => exact nomatch hhear.symm.trans hheard
  | fetched _ hheard => exact nomatch hhear.symm.trans hheard

end

/-! ## Stores and targets of all kinds -/

/-- What stores and targets work on: entries in memory, files, and whatever a
target keeps of its own. -/
structure World (τ : Type) where
  entries : Storage.Entries
  files : Storage.FileSystem
  own : τ

/-- Where snapshots are kept. -/
inductive Backing where
  | memory
  | files (directory : Storage.Path)
  | nothing
  | broken (problem : Problem)

/-- Where a feed is shown: a file, or a target that changes nothing outside its
own state and may take nothing back or fail as it likes. -/
inductive Outlet (τ : Type) where
  | file (path : Storage.Path)
  | own (target : Target τ)

section Kinds

variable {τ : Type}

def Backing.store : Backing → Option (Storage.Store (World τ))
  | .memory => some (Storage.memoryStore.within (·.entries) fun w entries => { w with entries })
  | .files directory =>
    some ((Storage.fileStore directory).within (·.files) fun w files => { w with files })
  | .nothing => none
  | .broken problem => some (Storage.brokenStore problem)

def Outlet.target : Outlet τ → Target (World τ)
  | .file path => (Target.file path).within (·.files) fun w files => { w with files }
  | .own target => target.within (·.own) fun w own => { w with own }

/-- A refresher over a store and a target of some kind. -/
def ofKinds (backing : Backing) (outlet : Outlet τ) (key : String) (view : Markup.View)
    (endpoint : Endpoint) (token : Token) : Refresher (World τ) where
  cache := { store := backing.store, key }
  target := outlet.target
  view
  endpoint
  token

/-- A file lies outside a directory, and other targets lie nowhere. -/
def Outlet.LiesOutside (outlet : Outlet τ) (files : Storage.FileSystem)
    (directory : Storage.Path) : Prop :=
  match outlet with
  | .file path =>
    ¬ Storage.FileSystem.IsInside (files.destination directory) (files.destination path)
  | .own _ => True

/-- The entries are the same, and so are the files in every directory that an
outlet lies outside of. -/
structure KeepsCaches (outlet : Outlet τ) (before after : World τ) : Prop where
  entries : after.entries = before.entries
  current : after.files.current = before.files.current
  files : ∀ directory, outlet.LiesOutside before.files directory → ∀ place,
    Storage.FileSystem.IsInside (before.files.destination directory) place → ∀ content,
      after.files.at? place = some (.file content) ↔ before.files.at? place = some (.file content)

namespace KeepsCaches

variable {outlet : Outlet τ}

theorem refl (w : World τ) : KeepsCaches outlet w w :=
  ⟨rfl, rfl, fun _ _ _ _ _ => Iff.rfl⟩

theorem trans {a b c : World τ} (hab : KeepsCaches outlet a b) (hbc : KeepsCaches outlet b c) :
    KeepsCaches outlet a c := by
  refine ⟨hbc.entries.trans hab.entries, hbc.current.trans hab.current, ?_⟩
  intro directory houtside place hinside content
  have hdestination := Storage.FileSystem.destination_congr hab.current
  have houtside' : outlet.LiesOutside b.files directory := by
    cases outlet with
    | file path =>
      show ¬ Storage.FileSystem.IsInside _ _
      rw [hdestination, hdestination]
      exact houtside
    | own target => trivial
  rw [hbc.files directory houtside' place (by rw [hdestination]; exact hinside) content]
  exact hab.files directory houtside place hinside content

/-- Displaying keeps caches. -/
theorem display (w : World τ) (markup : String) :
    KeepsCaches outlet w (outlet.target.display w markup).1 := by
  cases outlet with
  | own target => exact ⟨rfl, rfl, fun _ _ _ _ _ => Iff.rfl⟩
  | file path =>
    simp only [Outlet.target, Target.within, Target.file]
    refine ⟨rfl, Storage.TextFile.current_write w.files path markup, ?_⟩
    intro directory houtside place hinside content
    exact (Storage.TextFile.remains_write_of_outside markup hinside houtside).file_iff content

end KeepsCaches

/-- Whatever a refresh fails of, no cache has changed.  If asking for the events
has failed, nothing has been shown but the page of a stale snapshot, where there
was one and it could be replaced. -/
theorem refresh_of_error (backing : Backing) (outlet : Outlet τ) (key : String)
    (view : Markup.View) (endpoint : Endpoint) (token : Token) (clock : Int) (reply : Reply)
    (quota : Quota) (world : World τ) {setback : Setback}
    (h : ((ofKinds backing outlet key view endpoint token).refresh clock reply quota
      world).result = .error setback) :
    let r := ofKinds backing outlet key view endpoint token
    let did := r.refresh clock reply quota world
    KeepsCaches outlet world did.state ∧
      ∀ problem, did.requests ≠ [] →
        (Exchange.hear endpoint quota reply).result = .error problem →
          (∀ cached, (r.cache.load clock world).1 = some cached → cached.isFresh = false →
            r.target.replaces = true → ∃ markup, Markup.page view cached.events = .ok markup ∧
              did.shown = [markup] ∧ did.state = (r.target.display world markup).1) ∧
          ((¬ ∃ cached, (r.cache.load clock world).1 = some cached ∧ cached.isFresh = false ∧
            r.target.replaces = true) → did.shown = [] ∧ did.state = world) := by
  intro r did
  have hcourse := r.course clock reply quota world
  refine ⟨hcourse.kept_of_error KeepsCaches.refl (fun _ _ _ => KeepsCaches.trans)
    KeepsCaches.display h, ?_⟩
  intro problem hasked hhear
  have hpreview : Preview r clock world did.state did.shown :=
    hcourse.preview_of_unheard hasked hhear
  revert hpreview
  generalize did.state = after
  generalize did.shown = shown
  intro hpreview
  cases hpreview with
  | nothing hnothing =>
    refine ⟨fun cached hload _ hreplaces => ?_, fun _ => ⟨rfl, rfl⟩⟩
    rw [(hnothing cached hload).2] at hreplaces
    contradiction
  | @stale cached after markup hload hstale hreplaces hrender =>
    refine ⟨fun other hother _ _ => ?_, fun hnone => ?_⟩
    · obtain rfl := Option.some.inj (hload.symm.trans hother)
      obtain ⟨hpage, hdisplay⟩ := render_eq_ok_iff.mp hrender
      exact ⟨markup, hpage, rfl, (congrArg Prod.fst hdisplay).symm⟩
    · exact absurd ⟨cached, hload, hstale, hreplaces⟩ hnone

/-- A snapshot of the time 1000 is shown at 50000, and then no reply comes. -/
theorem refresh_of_error_stale :
    let r := ofKinds .memory (.own Target.page) "tpieevents"
      ⟨Cache.standardEndpoint.repository, ⟨⟨0, 0⟩, fun _ => 0⟩⟩ Cache.standardEndpoint none
    let world : World (List String) :=
      ⟨[("tpieevents", Cache.storedText [Event.nested 1] 1000)], ⟨[], []⟩, []⟩
    (∃ markup, Markup.page r.view [Event.nested 1] = .ok markup ∧
        (r.refresh 50000 none .unknown world).shown = [markup]) ∧
      KeepsCaches (.own Target.page) world (r.refresh 50000 none .unknown world).state := by
  intro r world
  have hshows : ∀ w markup, (r.target.display w markup).2 = .ok () := fun _ _ => rfl
  have hload : (r.cache.load 50000 world).1 = some ⟨[Event.nested 1], 49000⟩ := by
    have hget : Storage.memoryStore.get world.entries "tpieevents" =
        .ok (some (Cache.storedText [Event.nested 1] 1000)) := rfl
    have hshallow : ∀ e ∈ [Event.nested 1], e.payloadDepth ≤ Snapshot.payloadLevels := by
      simpa [Event.payloadDepth_nested] using (by decide : 1 ≤ Snapshot.payloadLevels)
    show ((Cache.mk (some (Storage.memoryStore.within _ _)) _).load _ _).1 = _
    rw [Cache.load_within, Cache.load_storedText hget (by simpa using Event.isRegular_nested 1)
      hshallow (by decide)]
    rfl
  have hstale : (⟨[Event.nested 1], 49000⟩ : Cached).isFresh = false := by decide
  have hnot : ∀ cached, (r.cache.load 50000 world).1 = some cached → cached.isFresh ≠ true ∧
      (r.target.replaces = true → ∃ markup, Markup.page r.view cached.events = .ok markup) := by
    intro cached hcached
    obtain rfl := Option.some.inj (hload.symm.trans hcached)
    exact ⟨by rw [hstale]; decide, fun _ => ⟨_, rfl⟩⟩
  have hhear : (Exchange.hear Cache.standardEndpoint .unknown none).result =
      .error (.unanswered Cache.standardEndpoint.url) := rfl
  obtain ⟨hasked, hdecided⟩ := (r.course 50000 none .unknown world).of_not_fresh hshows hnot
  have hresult := hdecided.trans
    (congrArg (Except.map fun _ => Freshening.fetched) (heardPage_of_error r.view hhear))
  have hreplaces : r.target.replaces = true := rfl
  obtain ⟨hkeeps, hshown⟩ := refresh_of_error .memory (.own Target.page) "tpieevents"
    ⟨Cache.standardEndpoint.repository, ⟨⟨0, 0⟩, fun _ => 0⟩⟩ Cache.standardEndpoint none 50000
    none .unknown world hresult
  obtain ⟨markup, hpage, htexts, -⟩ :=
    (hshown _ (hasked.trans_ne (List.cons_ne_nil _ _)) hhear).1 _ hload hstale hreplaces
  exact ⟨⟨markup, hpage, htexts⟩, hkeeps⟩

end Kinds

end Refresher
end RepoFeed
