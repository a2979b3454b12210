import Mathlib.Algebra.Group.Int.Defs
import RepoFeed.Proofs.Outcome
import RepoFeed.Proofs.Request.Quota
import RepoFeed.Proofs.Time.Clock

/-
Calls that are refused.

A call is refused by the status of its reply or by the status in the document that
the reply wraps.  Either way what is known of the quota by then, this reply
included, decides whether it was used up.  A new client knows of nothing that
remains, so it takes a refusal for a used up quota until a reply has told it of a
number that remains.
-/

namespace RepoFeed

namespace Quota

/-! ## What was told of a field -/

/-- Some text is a count. -/
def IsTold (texts : List String) : Prop :=
  ∃ text ∈ texts, ∃ n, IsCount text n

/-- The last count among some texts is zero. -/
def IsExhausted (texts : List String) : Prop :=
  ∃ before text after, texts = before ++ text :: after ∧ IsCount text 0 ∧
    ∀ later ∈ after, ∀ n, ¬ IsCount later n

theorem foldl_observe_of_not {texts : List String} (h : ∀ text ∈ texts, ∀ n, ¬ IsCount text n)
    (old : Nat) : texts.foldl (fun old text => observe old (some text)) old = old := by
  induction texts with
  | nil => rfl
  | cons text texts ih =>
    obtain ⟨hnone, hrest⟩ := List.forall_mem_cons.mp h
    have hread : readCount? text = none := by
      cases hread : readCount? text with
      | none => rfl
      | some n => exact absurd (readCount?_eq_some_iff.mp hread) (hnone n)
    rw [List.foldl_cons, observe, Option.bind_some, hread, Option.getD_none]
    exact ih hrest

/-- Nothing remains if the last count says so, or if there was none. -/
theorem foldl_observe_eq_zero_iff (texts : List String) :
    texts.foldl (fun old text => observe old (some text)) 0 = 0 ↔
      IsExhausted texts ∨ ¬ IsTold texts := by
  constructor
  · intro hzero
    have hlatest := isLatest_foldl_observe texts
    rw [hzero] at hlatest
    cases hlatest with
    | untold hnone =>
      right
      rintro ⟨text, htext, n, hcount⟩
      exact hnone text htext n hcount
    | told hcount hafter => exact .inl ⟨_, _, _, rfl, hcount, hafter⟩
  · rintro (⟨before, text, after, rfl, hcount, hafter⟩ | huntold)
    · rw [List.foldl_append, List.foldl_cons, observe, Option.bind_some,
        readCount?_eq_some_iff.mpr hcount, Option.getD_some]
      exact foldl_observe_of_not hafter 0
    · exact foldl_observe_of_not (fun text htext n hcount => huntold ⟨text, htext, n, hcount⟩) 0

/-! ## The time of the reset -/

/-- The last second that has a date. -/
def lastSecond : Nat := 8210266876799

/-- The least count that is the two's complement of a second which has a date. -/
def leastWrapped : Nat := 18446735739108322816

theorem supported_bounds :
    Time.Stamp.leastSecond = (leastWrapped : Int) - 2 ^ 64 ∧
      Time.Stamp.greatestSecond = lastSecond := by
  decide

/-- Counts of 2⁶³ and more stand for seconds before 1970. -/
theorem resetInstant?_eq {quota : Quota} (h : quota.reset < 2 ^ 64) :
    quota.resetInstant? =
      if quota.reset ≤ lastSecond then some ⟨quota.reset, 0⟩
      else if quota.reset < leastWrapped then none
      else some ⟨quota.reset - 2 ^ 64, 0⟩ := by
  obtain ⟨hleast, hgreatest⟩ := supported_bounds
  have hlast : lastSecond = 8210266876799 := rfl
  have hwrapped : leastWrapped = 18446735739108322816 := rfl
  obtain hsmall | hlarge := Nat.lt_or_ge quota.reset (2 ^ 63)
  · have hword : Word.toSigned 64 quota.reset = quota.reset := if_pos hsmall
    rw [resetInstant?, hword, hleast, hgreatest]
    by_cases hlow : quota.reset ≤ lastSecond
    · rw [if_pos hlow, if_pos (by omega)]
    · rw [if_neg hlow, if_pos (show quota.reset < leastWrapped by omega), if_neg (by omega)]
  · have hword : Word.toSigned 64 quota.reset = (quota.reset : Int) - 2 ^ 64 :=
      if_neg (Nat.not_lt_of_ge hlarge)
    rw [resetInstant?, hword, hleast, hgreatest,
      if_neg (show ¬ quota.reset ≤ lastSecond by omega)]
    by_cases hhigh : quota.reset < leastWrapped
    · rw [if_pos hhigh, if_neg (by omega)]
    · rw [if_neg hhigh, if_pos (by omega)]

/-- The time of day of a count of seconds since 1970, whatever the day. -/
def clockOf (seconds : Int) : String :=
  String.ofList (Time.clockText (seconds % 86400).toNat)

theorem resetClock_eq {quota : Quota} (h : quota.reset < 2 ^ 64) :
    quota.resetClock =
      if quota.reset ≤ lastSecond then clockOf quota.reset
      else if quota.reset < leastWrapped then "unknown"
      else clockOf (quota.reset - 2 ^ 64) := by
  have hclock : ∀ seconds : Int,
      String.ofList ((⟨seconds, 0⟩ : Time.Instant).renderClock 0) = clockOf seconds := by
    intro seconds
    rw [Time.renderClock_eq rfl, Time.Instant.secondOfDay, Int.add_zero]
    rfl
  rw [resetClock, resetInstant?_eq h]
  split_ifs
  · exact hclock _
  · rfl
  · exact hclock _

theorem clockOf_ne_unknown (seconds : Int) : clockOf seconds ≠ "unknown" := by
  intro heq
  have hlength := congrArg String.length heq
  rw [clockOf, String.length_ofList] at hlength
  exact absurd hlength (by decide : (8 : Nat) ≠ 7)

end Quota

namespace Exchange

open Quota (IsTold IsExhausted)

/-! ## Refusals -/

/-- Calls that are refused with the status 403, and the message of the refusal. -/
inductive IsForbidden : Call → String → Prop
  | byReply {endpoint : Endpoint} {response : Response} (hstatus : response.status.code = 403) :
      IsForbidden ⟨endpoint, some response⟩ (response.text?.getD "")
  | byDocument {endpoint : Endpoint} {response : Response} {body : String} {envelope : Envelope}
      (hanswered : isAnswered response.status = true) (htext : response.text? = some body)
      (hopen : openEnvelope body endpoint.callback = .ok envelope)
      (hstatus : envelope.info.status = 403) :
      IsForbidden ⟨endpoint, some response⟩ envelope.message

/-- What a refusal comes to is decided by what remains after the whole reply has
been heard. -/
theorem result_of_forbidden {call : Call} {message : String} (h : IsForbidden call message)
    (quota : Quota) :
    (hear call.endpoint quota call.reply).result =
      .error (if (hear call.endpoint quota call.reply).quota.remaining = 0 then
        .rateLimited (hear call.endpoint quota call.reply).quota.resetClock
      else .forbidden message) := by
  cases h with
  | byReply hstatus =>
    have hunanswered : ∀ status : Status, status.code = 403 → isAnswered status = false := by
      rintro ⟨code⟩ rfl
      rfl
    simp [hear, hunanswered _ hstatus, statusProblem, hstatus]
  | byDocument hanswered htext hopen hstatus =>
    have hcode : Status.ofCode? 403 = some ⟨403⟩ := rfl
    have hfailure : Status.isSuccess ⟨403⟩ = false := rfl
    simp [hear, hanswered, htext, hopen, eventsOf, hstatus, hcode, hfailure, statusProblem]

theorem code_of_statusProblem {quota : Quota} {status : Status} {resource message clock : String}
    (h : statusProblem quota status resource message = .rateLimited clock) :
    status.code = 403 := by
  unfold statusProblem at h
  split_ifs at h
  assumption

theorem openEnvelope_ne_rateLimited {body callback clock : String} :
    openEnvelope body callback ≠ .error (.rateLimited clock) := by
  intro h
  obtain h | ⟨document, -, h⟩ := bind_eq_error.mp h
  · obtain ⟨_, -, hproblem⟩ := mapError_eq_error.mp h
    cases hproblem
  · obtain ⟨_, -, hproblem⟩ := mapError_eq_error.mp h
    cases hproblem

theorem status_of_eventsOf {quota : Quota} {path clock : String} {envelope : Envelope}
    (h : eventsOf quota path envelope = .error (.rateLimited clock)) :
    envelope.info.status = 403 := by
  unfold eventsOf Status.ofCode? at h
  split_ifs at h with hrange
  · dsimp only at h
    split_ifs at h
    · obtain ⟨_, -, hproblem⟩ := mapError_eq_error.mp h
      cases hproblem
    · have hcode := code_of_statusProblem (Except.error.inj h)
      dsimp only at hcode
      omega
  · cases h

/-- Only a refusal is taken for a used up quota. -/
theorem isForbidden_of_rateLimited {call : Call} {quota : Quota} {clock : String}
    (h : (hear call.endpoint quota call.reply).result = .error (.rateLimited clock)) :
    ∃ message, IsForbidden call message := by
  obtain ⟨endpoint, reply⟩ := call
  cases reply with
  | none => cases h
  | some response =>
    by_cases hanswered : isAnswered response.status = true
    · cases htext : response.text? with
      | none =>
        simp only [hear, hanswered, htext, if_true] at h
        cases h
      | some body =>
        cases hopen : openEnvelope body endpoint.callback with
        | error problem =>
          simp only [hear, hanswered, htext, hopen, if_true, Except.error.injEq] at h
          rw [h] at hopen
          exact absurd hopen openEnvelope_ne_rateLimited
        | ok envelope =>
          simp only [hear, hanswered, htext, hopen, if_true] at h
          exact ⟨_, .byDocument hanswered htext hopen (status_of_eventsOf h)⟩
    · simp only [hear, hanswered, if_false, Bool.false_eq_true, Except.error.injEq] at h
      exact ⟨_, .byReply (code_of_statusProblem h)⟩

theorem quotaAfter_concat (quota : Quota) (calls : List Call) (call : Call) :
    quotaAfter quota (calls ++ [call]) =
      (hear call.endpoint (quotaAfter quota calls) call.reply).quota := by
  induction calls generalizing quota with
  | nil => rfl
  | cons first calls ih => exact ih _

/-- A new client takes a refusal for a used up quota if the last count that it was told
of what remains is zero, or if it was told none.  Any other refusal is forbidden. -/
theorem rateLimited_iff (calls : List Call) (call : Call) :
    let seen := (calls ++ [call]).flatMap (observations .remaining)
    let outcome := hear call.endpoint (quotaAfter .unknown calls) call.reply
    ((∃ clock, outcome.result = .error (.rateLimited clock)) ↔
        (∃ message, IsForbidden call message) ∧ (IsExhausted seen ∨ ¬ IsTold seen)) ∧
      ∀ message, IsForbidden call message → IsTold seen → ¬ IsExhausted seen →
        outcome.result = .error (.forbidden message) ∧
          (Problem.forbidden message).message = "Forbidden: " ++ message := by
  intro seen outcome
  have hremaining : outcome.quota.remaining = 0 ↔ IsExhausted seen ∨ ¬ IsTold seen := by
    rw [← Quota.foldl_observe_eq_zero_iff]
    have hafter := get_quotaAfter .remaining .unknown (calls ++ [call])
    rw [quotaAfter_concat] at hafter
    exact Eq.congr_left hafter
  constructor
  · constructor
    · rintro ⟨clock, hresult⟩
      obtain ⟨message, hforbidden⟩ := isForbidden_of_rateLimited hresult
      refine ⟨⟨message, hforbidden⟩, hremaining.mp ?_⟩
      by_contra hsome
      rw [result_of_forbidden hforbidden, if_neg hsome] at hresult
      cases hresult
    · rintro ⟨⟨message, hforbidden⟩, hseen⟩
      exact ⟨_, by rw [result_of_forbidden hforbidden, if_pos (hremaining.mpr hseen)]⟩
  · intro message hforbidden htold hnot
    have hsome : ¬ outcome.quota.remaining = 0 := by
      rw [hremaining]
      rintro (hexhausted | huntold)
      · exact hnot hexhausted
      · exact huntold htold
    refine ⟨?_, rfl⟩
    rw [result_of_forbidden hforbidden, if_neg hsome]

/-- Calls of a client that is told to be used up, then of seven requests that remain,
and then nothing that is a count. -/
def renewedCalls : List Call :=
  let endpoint : Endpoint := ⟨⟨"o", "r"⟩, "cb"⟩
  [⟨endpoint, some ⟨⟨403⟩, [("x-ratelimit-remaining", "0")], none, none⟩⟩,
    ⟨endpoint,
      some ⟨⟨200⟩, [], some (Utf8.encode "cb([[404,null,\"7\",null],null])".toList), none⟩⟩]

def vagueRefusal : Call :=
  ⟨⟨⟨"o", "r"⟩, "cb"⟩,
    some ⟨⟨403⟩, [("x-ratelimit-remaining", "none")], some (Utf8.encode "nope".toList), none⟩⟩

theorem rateLimited_iff_renewed :
    let seen := (renewedCalls ++ [vagueRefusal]).flatMap (observations .remaining)
    IsForbidden vagueRefusal "nope" ∧ IsTold seen ∧ ¬ IsExhausted seen ∧
      (hear vagueRefusal.endpoint (quotaAfter .unknown renewedCalls) vagueRefusal.reply).result =
        .error (.forbidden "nope") := by
  intro seen
  have hseen : seen = ["0", "7", "none"] := by decide +kernel
  have hcounts : ¬ (IsExhausted seen ∨ ¬ IsTold seen) := by
    rw [← Quota.foldl_observe_eq_zero_iff, hseen]
    decide +kernel
  obtain ⟨hexhausted, htold⟩ := not_or.mp hcounts
  have hforbidden : IsForbidden vagueRefusal "nope" := by
    have htext : (vagueRefusal.reply.bind Response.text?).getD "" = "nope" := by decide +kernel
    rw [← htext]
    exact .byReply rfl
  have hresult := (rateLimited_iff renewedCalls vagueRefusal).2 _ hforbidden
    (not_not.mp htold) hexhausted
  exact ⟨hforbidden, not_not.mp htold, hexhausted, hresult.1⟩

/-- A refusal that says nothing of a quota. -/
def plainRefusal : Call :=
  ⟨⟨⟨"o", "r"⟩, "cb"⟩, some ⟨⟨403⟩, [], some (Utf8.encode "nope".toList), none⟩⟩

theorem not_isExhausted_plainRefusal :
    (hear plainRefusal.endpoint (quotaAfter .unknown []) plainRefusal.reply).result =
        .error (.rateLimited "00:00:00") ∧
      ¬ IsExhausted (([] ++ [plainRefusal]).flatMap (observations .remaining)) := by
  have hseen : ([] ++ [plainRefusal]).flatMap (observations .remaining) = [] := by decide
  refine ⟨by decide +kernel, ?_⟩
  rw [hseen]
  rintro ⟨before, text, after, hnil, -⟩
  exact absurd hnil.symm (List.append_ne_nil_of_right_ne_nil _ (List.cons_ne_nil _ _))

/-! ## When a refusal ends -/

/-- A refusal for a used up quota gives the time of day of the reset, or `unknown` if the
reset has no date.  Counts from 2⁶⁴ − 8334601228800 on have none either, but they are
taken for seconds before 1970. -/
theorem rateLimited_clock_iff {call : Call} {message : String} (h : IsForbidden call message)
    (quota : Quota) (hnone : (hear call.endpoint quota call.reply).quota.remaining = 0)
    (hreset : (hear call.endpoint quota call.reply).quota.reset < 2 ^ 64) :
    let outcome := hear call.endpoint quota call.reply
    (outcome.result = .error (.rateLimited
        (if outcome.quota.reset ≤ Quota.lastSecond then Quota.clockOf outcome.quota.reset
          else "unknown")) ↔
      outcome.quota.reset < Quota.leastWrapped) ∧
    (Quota.leastWrapped ≤ outcome.quota.reset →
      outcome.result =
        .error (.rateLimited (Quota.clockOf (outcome.quota.reset - 2 ^ 64)))) := by
  intro outcome
  have hresult : outcome.result = .error (.rateLimited outcome.quota.resetClock) := by
    rw [result_of_forbidden h, if_pos hnone]
  rw [hresult, Quota.resetClock_eq hreset, Except.error.injEq, Problem.rateLimited.injEq]
  have hbounds : Quota.lastSecond < Quota.leastWrapped := by decide
  obtain hlow | hlow := Nat.lt_or_ge Quota.lastSecond outcome.quota.reset
  · rw [if_neg (Nat.not_le_of_lt hlow), if_neg (Nat.not_le_of_lt hlow)]
    obtain hwrapped | hwrapped := Nat.lt_or_ge outcome.quota.reset Quota.leastWrapped
    · rw [if_pos hwrapped]
      exact ⟨iff_of_true rfl hwrapped, fun h => absurd hwrapped (Nat.not_lt_of_ge h)⟩
    · rw [if_neg (Nat.not_lt_of_ge hwrapped)]
      exact ⟨iff_of_false (Quota.clockOf_ne_unknown _) (Nat.not_lt_of_ge hwrapped),
        fun _ => rfl⟩
  · have hlt := Nat.lt_of_le_of_lt hlow hbounds
    rw [if_pos hlow, if_pos hlow]
    exact ⟨iff_of_true rfl hlt, fun h => absurd hlt (Nat.not_lt_of_ge h)⟩

/-- The document of a refusal that tells that the quota is used up, and that the reset
is in the last second which has a date. -/
def lastRefusalText : String :=
  "cb([[403,null,\"0\",\"8210266876799\"],\x7b\"message\":\"slow down\"\x7d])"

def lastRefusalEnvelope : Envelope :=
  ⟨⟨403, none, some "0", some "8210266876799"⟩, .object [("message", .text "slow down")]⟩

def lastRefusal : Call :=
  ⟨⟨⟨"o", "r"⟩, "cb"⟩, some ⟨⟨200⟩, [], some (Utf8.encode lastRefusalText.toList), none⟩⟩

theorem rateLimited_clock_iff_lastRefusal :
    IsForbidden lastRefusal "slow down" ∧
      (hear lastRefusal.endpoint .unknown lastRefusal.reply).quota = ⟨0, 0, 8210266876799⟩ ∧
      (hear lastRefusal.endpoint .unknown lastRefusal.reply).result =
        .error (.rateLimited "23:59:59") := by
  have hforbidden : IsForbidden lastRefusal "slow down" := by
    have htext : (⟨⟨200⟩, [], some (Utf8.encode lastRefusalText.toList), none⟩ : Response).text? =
        some lastRefusalText := by decide +kernel
    have hopen : openEnvelope lastRefusalText "cb" = .ok lastRefusalEnvelope := by
      decide +kernel
    have hmessage : lastRefusalEnvelope.message = "slow down" := by decide +kernel
    rw [← hmessage]
    exact .byDocument rfl htext hopen rfl
  have hquota : (hear lastRefusal.endpoint .unknown lastRefusal.reply).quota =
      ⟨0, 0, 8210266876799⟩ := by decide +kernel
  have hclock := (rateLimited_clock_iff hforbidden .unknown (by rw [hquota])
    (by rw [hquota]; decide)).1.mpr (by rw [hquota]; decide)
  rw [hquota] at hclock
  exact ⟨hforbidden, hquota, hclock.trans (by decide +kernel)⟩

/-- A refusal of a used up quota whose reset is the greatest count. -/
def wrappedRefusal : Call :=
  ⟨⟨⟨"o", "r"⟩, "cb"⟩, some ⟨⟨403⟩,
    [("x-ratelimit-remaining", "0"), ("x-ratelimit-reset", "18446744073709551615")], none, none⟩⟩

theorem not_rateLimited_unknown_wrappedRefusal :
    (hear wrappedRefusal.endpoint .unknown wrappedRefusal.reply).quota =
        ⟨0, 0, 18446744073709551615⟩ ∧
      Quota.lastSecond < 18446744073709551615 ∧
      (hear wrappedRefusal.endpoint .unknown wrappedRefusal.reply).result =
        .error (.rateLimited "23:59:59") ∧
      (hear wrappedRefusal.endpoint .unknown wrappedRefusal.reply).result ≠
        .error (.rateLimited "unknown") := by
  have hresult : (hear wrappedRefusal.endpoint .unknown wrappedRefusal.reply).result =
      .error (.rateLimited "23:59:59") := by decide +kernel
  refine ⟨by decide +kernel, by decide, hresult, ?_⟩
  rw [hresult]
  decide

end Exchange
end RepoFeed
