import RepoFeed.Proofs.Request.Carrier
import RepoFeed.Proofs.Request.Quota

/-
Two ways to refuse a request.

A server can refuse with the status of its reply, or it can reply that all is well and
refuse in the document that it sends.  Whoever asked learns the same from both: the quota
is noted before the status is looked at, and a status stands for the same problem
wherever it comes from.  Only what was not found goes by the URL of the reply in the one
case and by its path in the other.
-/

namespace RepoFeed

open Json (Rereads Value)
open Quota (Field)

namespace Response

/-- A reply that tells a status, a quota and a message by itself. -/
structure Tells (response : Response) (info : ReplyInfo) (message : String) : Prop where
  status : (response.status.code : Int) = info.status
  headers : ∀ field : Field, response.header? field.header = field.inDocument info
  encoding : response.encoding = .utf8
  body : response.body = some (Utf8.encode message.toList)

/-- A reply that tells them in its document only. -/
structure Wraps (response : Response) (callback : String) (info : ReplyInfo)
    (message : String) : Prop where
  status : response.status.code = 200
  headers : ∀ field : Field, response.header? field.header = none
  document : ∃ body, response.text? = some body ∧
    Exchange.openEnvelope body callback = .ok ⟨info, .object [("message", .text message)]⟩

end Response

namespace Exchange

variable {info : ReplyInfo} {message : String} {response : Response}

/-! ## What a refusal comes to -/

/-- Statuses that are codes and stand for no success. -/
def IsFailure (status : Int) : Prop :=
  100 ≤ status ∧ status < 1000 ∧ ¬ (200 ≤ status ∧ status < 300)

instance (status : Int) : Decidable (IsFailure status) :=
  inferInstanceAs (Decidable (_ ∧ _))

/-- What is known after a refusal: the quota with what was told of it, and the problem
that the status stands for at this quota. -/
def refusal (quota : Quota) (info : ReplyInfo) (resource message : String) : Outcome :=
  let quota := quota.note info.limit info.remaining info.reset
  ⟨quota, .error (statusProblem quota ⟨info.status.toNat⟩ resource message)⟩

theorem noteHeaders_eq {told : Field → Option String}
    (h : ∀ field : Field, response.header? field.header = told field) (quota : Quota) :
    noteHeaders quota response =
      quota.note (told .limit) (told .remaining) (told .reset) := by
  rw [← h .limit, ← h .remaining, ← h .reset]
  rfl

theorem hear_of_tells (h : response.Tells info message) (hstatus : IsFailure info.status)
    (hmark : message.toList.head? ≠ some '\uFEFF') (endpoint : Endpoint) (quota : Quota) :
    hear endpoint quota (some response) =
      refusal quota info (response.redirectedTo.getD endpoint.url) message := by
  have hcode : response.status = ⟨info.status.toNat⟩ := by
    rw [← h.status]
    rfl
  have hanswered : isAnswered response.status = false := by
    obtain ⟨-, -, hfailure⟩ := hstatus
    rw [← h.status] at hfailure
    simp only [isAnswered, Bool.or_eq_false_iff, beq_eq_false_iff_ne]
    omega
  have htext : response.text? = some message := by
    rw [text?_of_utf8 h.encoding h.body hmark, String.ofList_toList]
  have hnoted := noteHeaders_eq h.headers quota
  simp only [hear, hnoted, hanswered, Bool.false_eq_true, if_false, htext, Option.getD_some]
  rw [hcode]
  rfl

theorem hear_of_wraps {endpoint : Endpoint} (h : response.Wraps endpoint.callback info message)
    (hstatus : IsFailure info.status) (quota : Quota) :
    hear endpoint quota (some response) = refusal quota info endpoint.path message := by
  obtain ⟨body, htext, hopen⟩ := h.document
  have hanswered : isAnswered response.status = true := by
    simp [isAnswered, h.status]
  have hcode : Status.ofCode? info.status = some ⟨info.status.toNat⟩ :=
    if_pos ⟨hstatus.1, hstatus.2.1⟩
  have hfailure : Status.isSuccess ⟨info.status.toNat⟩ = false := by
    obtain ⟨hlow, -, hfailure⟩ := hstatus
    simp only [Status.isSuccess, Bool.and_eq_false_iff, decide_eq_false_iff_not]
    omega
  have hnoted : noteHeaders quota response = quota := noteHeaders_eq h.headers quota
  simp only [hear, hnoted, hanswered, if_true, htext, hopen, eventsOf, hcode, hfailure,
    Bool.false_eq_true, if_false]
  rfl

/-- What was asked for is named only where it was not found. -/
theorem refusal_congr (h : info.status ≠ 404) (quota : Quota) (resource other message : String) :
    refusal quota info resource message = refusal quota info other message := by
  have hcode : info.status.toNat ≠ 404 := by omega
  simp only [refusal, statusProblem, if_neg hcode]

theorem refusal_of_missing (h : info.status = 404) (quota : Quota) (resource message : String) :
    (refusal quota info resource message).result = .error (.notFound resource) := by
  simp only [refusal, statusProblem, h]
  rfl

/-! ## Replies that refuse -/

/-- The reply that refuses by itself. -/
def directReply (info : ReplyInfo) (message : String) : Response where
  status := ⟨info.status.toNat⟩
  headers := [Field.limit, .remaining, .reset].filterMap fun field =>
    (field.inDocument info).map (field.header, ·)
  body := some (Utf8.encode message.toList)

def toldToJson : Option String → Value
  | some text => .text text
  | none => .null

def infoToJson (info : ReplyInfo) : Value :=
  .object [
    ("status", .number (.whole info.status)),
    ("X-RateLimit-Limit", toldToJson info.limit),
    ("X-RateLimit-Remaining", toldToJson info.remaining),
    ("X-RateLimit-Reset", toldToJson info.reset)]

/-- The document that refuses. -/
def refusalDocument (info : ReplyInfo) (message : String) : Value :=
  .object [("meta", infoToJson info), ("data", .object [("message", .text message)])]

/-- The reply that refuses in its document. -/
def wrappedReply (callback : String) (info : ReplyInfo) (message : String) : Response where
  status := ⟨200⟩
  headers := []
  body := some (Utf8.encode
    (Wrapper.guard ++ Wrapper.call callback.toList (refusalDocument info message).write))

theorem isVisible_of_isDigit {c : Char} (h : c.isDigit = true) : Response.isVisible c = true := by
  have hc : 48 ≤ c.toNat ∧ c.toNat ≤ 57 := by
    simpa [Char.isDigit, UInt32.le_iff_toNat_le] using h
  simp only [Response.isVisible, Bool.or_eq_true, Bool.and_eq_true, decide_eq_true_eq]
  omega

theorem lowerCase_header_beq (other field : Field) :
    (Response.lowerCase other.header == field.header.toList) = (other == field) := by
  cases other <;> cases field <;> decide

theorem find?_headers_directReply (info : ReplyInfo) (message : String) (field : Field) :
    (directReply info message).headers.find? (Response.lowerCase ·.1 == field.header.toList) =
      (field.inDocument info).map (field.header, ·) := by
  have hany : ∀ other : Field, ((other.inDocument info).map (other.header, ·)).any
      (Response.lowerCase ·.1 == field.header.toList) =
        (other == field && (field.inDocument info).isSome) := by
    intro other
    by_cases hsame : other = field
    · subst hsame
      cases other.inDocument info <;> simp [lowerCase_header_beq]
    · cases other.inDocument info <;> simp [lowerCase_header_beq, hsame]
  rw [directReply, List.find?_filterMap]
  simp only [hany]
  cases htold : field.inDocument info with
  | none => simp
  | some told => cases field <;> simp [htold]

theorem header?_directReply (hdigits : ∀ field : Field, ∀ told ∈ field.inDocument info,
    Text.AreDigits told.toList) (message : String) (field : Field) :
    (directReply info message).header? field.header = field.inDocument info := by
  rw [Response.header?, find?_headers_directReply]
  cases htold : field.inDocument info with
  | none => rfl
  | some told =>
    have hvisible : told.toList.all Response.isVisible = true :=
      List.all_eq_true.mpr fun c hc => isVisible_of_isDigit (hdigits field told htold c hc)
    exact if_pos hvisible

theorem encoding_directReply (info : ReplyInfo) (message : String) :
    (directReply info message).encoding = .utf8 := by
  have hnone : (directReply info message).headers.find?
      (Response.lowerCase ·.1 == "content-type".toList) = none := by
    have hother : ∀ field : Field,
        ¬ (Response.lowerCase field.header == "content-type".toList) = true := by
      intro field
      cases field <;> decide
    rw [List.find?_eq_none]
    intro header hheader
    obtain ⟨field, -, hfield⟩ := List.mem_filterMap.mp hheader
    obtain ⟨told, -, rfl⟩ := Option.map_eq_some_iff.mp hfield
    exact hother field
  rw [Response.encoding, Response.header?, hnone]
  rfl

theorem tells_directReply (hstatus : IsFailure info.status)
    (hdigits : ∀ field : Field, ∀ told ∈ field.inDocument info, Text.AreDigits told.toList)
    (message : String) : (directReply info message).Tells info message where
  status := Int.toNat_of_nonneg (Int.le_trans (by decide) hstatus.1)
  headers := header?_directReply hdigits message
  encoding := encoding_directReply info message
  body := rfl

theorem read_toldToJson (told : Option String) (levels : Nat) (rest : List Char) :
    (Json.Schema.optional .text).read levels ((toldToJson told).write ++ rest) =
      .ok (told, rest) := by
  cases told with
  | none => exact Json.Schema.read_optional_null .text levels rest
  | some text => exact Json.Schema.read_optional_some nofun (Json.Schema.read_text levels text rest)

theorem rereads_infoToJson (hstatus : Word.fitsUnsigned 16 info.status = true) (levels : Nat)
    (rest : List Char) :
    Rereads (· = info) False rest
      (ReplyInfo.record.schema.read (levels + 1) ((infoToJson info).write ++ rest)) := by
  have hword := Json.Schema.isWord_of_fitsUnsigned hstatus
  refine Json.Record.rereads_object
    (· = ⟨some info.status, some info.limit, some info.remaining, some info.reset⟩) ?_ ?_
  · intro fuel hfuel
    obtain ⟨fuel, rfl⟩ : ∃ k, fuel = k + 4 := ⟨fuel - 4, (Nat.sub_add_cancel hfuel).symm⟩
    simp only [Json.writeMembersFrom, List.append_assoc, List.cons_append, List.nil_append]
    refine Json.Record.rereads_member_of_ok rfl rfl
      (Json.Schema.read_whole hstatus hword levels (Json.boundary_comma _)) ?_ true
    refine Json.Record.rereads_member_of_ok rfl rfl (read_toldToJson info.limit levels _) ?_ false
    refine Json.Record.rereads_member_of_ok rfl rfl
      (read_toldToJson info.remaining levels _) ?_ false
    refine Json.Record.rereads_member_of_ok rfl rfl (read_toldToJson info.reset levels _) ?_ false
    refine Json.Record.rereads_end ?_ false
    rfl
  · intro draft heq
    subst heq
    exact ⟨_, rfl, rfl⟩

theorem decode_refusalDocument (hstatus : IsFailure info.status) (message : String) :
    Envelope.record.schema.decode (refusalDocument info message).render =
      .ok ⟨info, .object [("message", .text message)]⟩ := by
  have hfits : Word.fitsUnsigned 16 info.status = true :=
    fitsUnsigned_of_code ⟨Int.le_trans (by decide) hstatus.1, hstatus.2.1⟩
  have hdepth : (Value.object [("message", .text message)]).depth ≤ 126 := by
    simp [Value.depth, Value.depthMembers]
  exact decode_envelope (rereads_infoToJson hfits) ⟨trivial, trivial⟩ hdepth

theorem wraps_wrappedReply {callback : String}
    (hcallback : ∀ c ∈ callback.toList.head?, Text.isBlank c = false)
    (hstatus : IsFailure info.status) (message : String) :
    (wrappedReply callback info message).Wraps callback info message := by
  have hmark : (Wrapper.guard ++
      Wrapper.call callback.toList (refusalDocument info message).write).head? ≠ some '\uFEFF' := by
    show some '/' ≠ some '\uFEFF'
    decide
  have hnone : Wrapper.AreBlank [] := nofun
  have hcall : Wrapper.IsCallOf callback.toList (refusalDocument info message).write
      (Wrapper.guard ++ Wrapper.call callback.toList (refusalDocument info message).write) :=
    .guarded hnone hnone hnone (.inl rfl) rfl
  refine ⟨rfl, fun field => by cases field <;> rfl, _, text?_of_utf8 rfl rfl hmark, ?_⟩
  refine openEnvelope_of_unwrap ?_ (decode_refusalDocument hstatus message)
  rw [String.toList_ofList]
  exact Wrapper.unwrap_of_isCallOf hcallback hcall

/-! ## Agreement -/

/-- A reply that refuses by itself and one that refuses in its document leave the same
quota and come to the same problem, but for the name of what was not found.  There are
such replies: a quota told in digits can stand in headers, and any callback that does not
begin with a blank can be called with the document. -/
theorem hear_agree_of_tells_of_wraps (endpoint : Endpoint) (hstatus : IsFailure info.status)
    (hmark : message.toList.head? ≠ some '\uFEFF') :
    (∀ direct wrapped quota, Response.Tells direct info message →
        Response.Wraps wrapped endpoint.callback info message →
          (hear endpoint quota (some wrapped)).quota = (hear endpoint quota (some direct)).quota ∧
          (info.status ≠ 404 → ∃ problem,
            (hear endpoint quota (some direct)).result = .error problem ∧
              (hear endpoint quota (some wrapped)).result = .error problem) ∧
          (info.status = 404 →
            (hear endpoint quota (some direct)).result =
                .error (.notFound (direct.redirectedTo.getD endpoint.url)) ∧
              (hear endpoint quota (some wrapped)).result = .error (.notFound endpoint.path))) ∧
      ((∀ field : Field, ∀ told ∈ field.inDocument info, Text.AreDigits told.toList) →
        (directReply info message).Tells info message) ∧
      ((∀ c ∈ endpoint.callback.toList.head?, Text.isBlank c = false) →
        (wrappedReply endpoint.callback info message).Wraps endpoint.callback info message) := by
  refine ⟨fun direct wrapped quota hdirect hwrapped => ?_,
    fun hdigits => tells_directReply hstatus hdigits message,
    fun hcallback => wraps_wrappedReply hcallback hstatus message⟩
  rw [hear_of_tells hdirect hstatus hmark, hear_of_wraps hwrapped hstatus]
  refine ⟨rfl, fun hfound => ⟨_, rfl, ?_⟩, fun hmissing => ?_⟩
  · rw [refusal_congr hfound quota endpoint.path (direct.redirectedTo.getD endpoint.url)]
    rfl
  · exact ⟨refusal_of_missing hmissing quota _ message,
      refusal_of_missing hmissing quota endpoint.path message⟩

/-- A refusal with the last request of a quota. -/
def lastRequestInfo : ReplyInfo := ⟨403, some "60", some "0", some "1372700873"⟩

def lastRequestText : String := "no \"more\"\n"

def lastRequestEndpoint : Endpoint := ⟨⟨"o", "r"⟩, "cb"⟩

/-- Five requests remained before the refusal, so what it tells decides what it is. -/
theorem hear_agree_of_tells_of_wraps_lastRequest :
    let direct := directReply lastRequestInfo lastRequestText
    let wrapped := wrappedReply lastRequestEndpoint.callback lastRequestInfo lastRequestText
    IsFailure lastRequestInfo.status ∧
      (hear lastRequestEndpoint ⟨60, 5, 0⟩ (some direct)).quota = ⟨60, 0, 1372700873⟩ ∧
      (hear lastRequestEndpoint ⟨60, 5, 0⟩ (some wrapped)).quota = ⟨60, 0, 1372700873⟩ ∧
      (hear lastRequestEndpoint ⟨60, 5, 0⟩ (some direct)).result =
        .error (.rateLimited "17:47:53") ∧
      (hear lastRequestEndpoint ⟨60, 5, 0⟩ (some wrapped)).result =
        .error (.rateLimited "17:47:53") := by
  intro direct wrapped
  have hstatus : IsFailure lastRequestInfo.status := by decide
  have hmark : lastRequestText.toList.head? ≠ some '\uFEFF' := by decide
  have hdigits : ∀ field : Field, ∀ told ∈ field.inDocument lastRequestInfo,
      Text.AreDigits told.toList := by
    intro field told htold
    cases field <;> cases htold <;> simp [Text.AreDigits]
  have hcallback : ∀ c ∈ lastRequestEndpoint.callback.toList.head?, Text.isBlank c = false := by
    simp [lastRequestEndpoint, Text.isBlank]
  obtain ⟨hagree, htells, hwraps⟩ :=
    hear_agree_of_tells_of_wraps lastRequestEndpoint hstatus hmark
  obtain ⟨hquota, hsame, -⟩ := hagree direct wrapped ⟨60, 5, 0⟩ (htells hdigits) (hwraps hcallback)
  obtain ⟨problem, hdirect, hwrapped⟩ := hsame (by decide)
  have hheard : (hear lastRequestEndpoint ⟨60, 5, 0⟩ (some direct)).quota =
      ⟨60, 0, 1372700873⟩ := by decide +kernel
  have hresult : (hear lastRequestEndpoint ⟨60, 5, 0⟩ (some direct)).result =
      .error (.rateLimited "17:47:53") := by decide +kernel
  refine ⟨hstatus, hheard, hquota.trans hheard, hresult, ?_⟩
  exact hwrapped.trans (hdirect.symm.trans hresult)

end Exchange
end RepoFeed
