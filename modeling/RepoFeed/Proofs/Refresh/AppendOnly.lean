import RepoFeed.Proofs.Refresh.Run

/-
Output that cannot be taken back.

On a target that takes nothing back, a refresh shows its outcome or nothing: a
stale snapshot is left out, and what is heard is shown when all that could fail has
been done.  The cache may be of any kind and in any state, since all that it does is
to find a fresh snapshot or not to.
-/

namespace RepoFeed

namespace Refresher

variable {σ τ : Type}

/-! ## Single refreshes -/

section

variable {r : Refresher σ} {clock : Int} {reply : Reply} {quota : Quota} {state after : σ}
variable {result : Except Setback Freshening} {shown : List String} {requests : List Request}

/-- How a refresh ends where it can show its outcome only: with the page of a fresh
snapshot and no request, with the page of what it has heard, with a problem and no page,
or with a page that cannot be written. -/
inductive Outcome (r : Refresher σ) (clock : Int) (reply : Reply) (quota : Quota) (state : σ) :
    Except Setback Freshening → List String → List Request → Prop
  | cached {cached : Cached} {page : String} (hload : (r.cache.load clock state).1 = some cached)
      (hfresh : cached.isFresh = true) (hpage : Markup.page r.view cached.events = .ok page) :
      Outcome r clock reply quota state (.ok .cached) [page] []
  | snapshotUnwritten {cached : Cached} {panic : Panic}
      (hload : (r.cache.load clock state).1 = some cached) (hfresh : cached.isFresh = true)
      (hpage : Markup.page r.view cached.events = .error panic) :
      Outcome r clock reply quota state (.error (.panic panic)) [] []
  | fetched {events : List Event} {page : String} (hnot : r.cache.HasNothingFresh clock state)
      (hhear : (Exchange.hear r.endpoint quota reply).result = .ok events)
      (hpage : Markup.page r.view events = .ok page) :
      Outcome r clock reply quota state (.ok .fetched) [page] [r.endpoint.request r.token]
  | failed {problem : Problem} (hnot : r.cache.HasNothingFresh clock state)
      (hhear : (Exchange.hear r.endpoint quota reply).result = .error problem) :
      Outcome r clock reply quota state (.error (.problem problem)) []
        [r.endpoint.request r.token]
  | unwritten {events : List Event} {panic : Panic} (hnot : r.cache.HasNothingFresh clock state)
      (hhear : (Exchange.hear r.endpoint quota reply).result = .ok events)
      (hpage : Markup.page r.view events = .error panic) :
      Outcome r clock reply quota state (.error (.panic panic)) [] [r.endpoint.request r.token]

/-- What cannot be replaced is not shown ahead of time. -/
theorem Preview.shown_eq_nil (h : Preview r clock state after shown)
    (hreplaces : r.target.replaces = false) : shown = [] := by
  cases h with
  | nothing => rfl
  | stale _ _ hreplaces' => exact nomatch hreplaces.symm.trans hreplaces'

theorem Course.outcome
    (hcourse : Course r clock reply quota state result after shown requests)
    (hreplaces : r.target.replaces = false)
    (hshows : ∀ s markup, (r.target.display s markup).2 = .ok ()) :
    Outcome r clock reply quota state result shown requests := by
  cases hcourse with
  | cached hload hfresh hrender => exact .cached hload hfresh (render_eq_ok_iff.mp hrender).1
  | snapshotNotShown hload hshow hrender =>
    have hfresh := hshow.resolve_right fun hreplaces' => nomatch hreplaces.symm.trans hreplaces'
    obtain ⟨panic, hpage, rfl, -⟩ := page_of_render_error hshows hrender
    exact .snapshotUnwritten hload hfresh hpage
  | unheard hpreview hhear =>
    rw [hpreview.shown_eq_nil hreplaces]
    exact .failed hpreview.hasNothingFresh hhear
  | notShown hpreview hhear hrender =>
    rw [hpreview.shown_eq_nil hreplaces]
    obtain ⟨panic, hpage, rfl, -⟩ := page_of_render_error hshows hrender
    exact .unwritten hpreview.hasNothingFresh hhear hpage
  | fetched hpreview hhear hrender =>
    rw [hpreview.shown_eq_nil hreplaces]
    exact .fetched hpreview.hasNothingFresh hhear (render_eq_ok_iff.mp hrender).1

end

/-! ## Targets beside stores -/

section

variable {store : Option (Storage.Store σ)} {target : Target τ} {key : String}
variable {view : Markup.View} {endpoint : Endpoint} {token : Token}
variable {clock : Int} {reply : Reply} {quota : Quota} {state after : σ × τ}
variable {result : Except Setback Freshening} {shown : List String} {requests : List Request}

end

/-! ## Runs -/

theorem run_singleton (r : Refresher σ) (call : Call) (quota : Quota) (state : σ) :
    r.run [call] quota state = [⟨call.clock, call.reply, quota,
      r.refresh call.clock call.reply quota state⟩] := rfl

section

variable {target : Target τ}

end

end Refresher
end RepoFeed
