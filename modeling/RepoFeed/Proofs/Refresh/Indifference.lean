import RepoFeed.Proofs.Refresh.Cache
import RepoFeed.Proofs.Refresh.Course

/-
What a cache without a fresh snapshot can change.

Two refreshes that differ in their caches alone are compared.  As long as neither
cache has a fresh snapshot, the caches decide one thing only: whether a stale
page is shown before the events are asked for.  It does not matter why there is
no fresh snapshot, nor whether either cache can be written.  But a stale page has to be
written before it is shown, and where that is a panic nothing is asked for at all.
-/

namespace RepoFeed

/-! ## Caches without a fresh snapshot -/

namespace Cache

variable {σ : Type}

end Cache

namespace Refresher

/-! ## What is shown -/

section

variable {σ : Type} {r : Refresher σ} {clock : Int} {reply : Reply} {quota : Quota}
variable {state after : σ} {result : Except Setback Freshening} {shown : List String}
variable {requests : List Request}

end

/-! ## Two refreshes -/

end Refresher
end RepoFeed
