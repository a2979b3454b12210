import Mathlib.Data.List.Induction
import RepoFeed.Proofs.Text.Digits
import RepoFeed.Request.Exchange

/-
What is known of the quota after any exchanges.

A reply may tell a field of the quota twice, in a header and in its document.
Whether the exchange then fails does not matter, only how far the reply could be
read.  A field is what was last told of it as a count, and what is told of one
field says nothing about another.
-/

namespace RepoFeed

namespace Quota

/-! ## Counts -/

/-- A text is a count of 64 bits, written in digits with or without a plus sign. -/
def IsCount (text : String) (n : Nat) : Prop :=
  ∃ digits, digits ≠ [] ∧ Text.AreDigits digits ∧
    (text.toList = digits ∨ text.toList = '+' :: digits) ∧
    Nat.ofDigitChars 10 digits 0 = n ∧ n < 2 ^ 64

theorem digitsValue_eq (digits : List Char) :
    Text.digitsValue digits = Nat.ofDigitChars 10 digits 0 := by
  have hfrom : ∀ value : Nat, digits.foldl (fun n c => n * 10 + Text.digitValue c) value =
      Nat.ofDigitChars 10 digits value := by
    induction digits with
    | nil =>
      intro value
      rfl
    | cons c digits ih =>
      intro value
      rw [List.foldl_cons, Text.ofDigitChars_cons_digitValue]
      exact ih _
  exact hfrom 0

theorem natural?_of_unsigned {text : List Char} (h : ∀ rest, text ≠ '+' :: rest) :
    Text.natural? text =
      if text.isEmpty ∨ !text.all Char.isDigit then none else some (Text.digitsValue text) := by
  unfold Text.natural?
  dsimp only
  split
  · exact absurd rfl (h _)
  · rfl

/-- Digits behind an optional plus sign are read as the number they stand for. -/
theorem natural?_eq_some_iff {text : List Char} {n : Nat} :
    Text.natural? text = some n ↔ ∃ digits, digits ≠ [] ∧ Text.AreDigits digits ∧
      (text = digits ∨ text = '+' :: digits) ∧ Nat.ofDigitChars 10 digits 0 = n := by
  have hread : ∀ digits : List Char,
      (if digits.isEmpty ∨ !digits.all Char.isDigit then none
        else some (Text.digitsValue digits)) = some n ↔
        digits ≠ [] ∧ Text.AreDigits digits ∧ Nat.ofDigitChars 10 digits 0 = n := by
    intro digits
    rw [digitsValue_eq]
    simp [Text.AreDigits, and_assoc]
  by_cases hsign : ∃ rest, text = '+' :: rest
  · obtain ⟨rest, rfl⟩ := hsign
    show (if rest.isEmpty ∨ !rest.all Char.isDigit then none
      else some (Text.digitsValue rest)) = some n ↔ _
    rw [hread]
    constructor
    · intro h
      exact ⟨rest, h.1, h.2.1, .inr rfl, h.2.2⟩
    · intro h
      obtain ⟨digits, hne, hdigits, heq | heq, hvalue⟩ := h
      · subst heq
        exact absurd hdigits.head (by decide)
      · obtain rfl : rest = digits := List.tail_eq_of_cons_eq heq
        exact ⟨hne, hdigits, hvalue⟩
  · have hunsigned : ∀ rest, text ≠ '+' :: rest := fun rest heq => hsign ⟨rest, heq⟩
    rw [natural?_of_unsigned hunsigned, hread]
    constructor
    · intro h
      exact ⟨text, h.1, h.2.1, .inl rfl, h.2.2⟩
    · intro h
      obtain ⟨digits, hne, hdigits, rfl | heq, hvalue⟩ := h
      · exact ⟨hne, hdigits, hvalue⟩
      · exact absurd heq (hunsigned digits)

theorem readCount?_eq_some_iff {text : String} {n : Nat} :
    readCount? text = some n ↔ IsCount text n := by
  have hlimit : Word.fitsUnsigned 64 (n : Int) = true ↔ n < 2 ^ 64 := by
    have hword : twoPow 64 = 2 ^ 64 := rfl
    simp only [Word.fitsUnsigned, hword, Bool.and_eq_true, decide_eq_true_eq]
    omega
  rw [readCount?, Option.filter_eq_some_iff, natural?_eq_some_iff, hlimit]
  constructor
  · intro h
    obtain ⟨⟨digits, hne, hdigits, htext, hvalue⟩, hfits⟩ := h
    exact ⟨digits, hne, hdigits, htext, hvalue, hfits⟩
  · intro h
    obtain ⟨digits, hne, hdigits, htext, hvalue, hfits⟩ := h
    exact ⟨⟨digits, hne, hdigits, htext, hvalue⟩, hfits⟩

/-- The last count among some texts, or zero if none of them is a count. -/
inductive IsLatest : List String → Nat → Prop
  | untold {texts : List String} (h : ∀ text ∈ texts, ∀ n, ¬ IsCount text n) : IsLatest texts 0
  | told {before after : List String} {text : String} {n : Nat} (hcount : IsCount text n)
      (hafter : ∀ later ∈ after, ∀ m, ¬ IsCount later m) : IsLatest (before ++ text :: after) n

theorem IsLatest.append_of_not {texts : List String} {text : String} {n : Nat}
    (h : IsLatest texts n) (hnone : ∀ m, ¬ IsCount text m) : IsLatest (texts ++ [text]) n := by
  cases h with
  | untold h =>
    refine .untold fun other hother => ?_
    obtain hother | hother := List.mem_append.mp hother
    · exact h other hother
    · obtain rfl := List.mem_singleton.mp hother
      exact hnone
  | told hcount hafter =>
    rw [List.append_assoc, List.cons_append]
    refine .told hcount fun later hlater => ?_
    obtain hlater | hlater := List.mem_append.mp hlater
    · exact hafter later hlater
    · obtain rfl := List.mem_singleton.mp hlater
      exact hnone

/-- Texts that are observed one after the other leave the last count. -/
theorem isLatest_foldl_observe (texts : List String) :
    IsLatest texts (texts.foldl (fun old text => observe old (some text)) 0) := by
  induction texts using List.reverseRecOn with
  | nil => exact .untold nofun
  | append_singleton texts text ih =>
    rw [List.foldl_append, List.foldl_cons, List.foldl_nil, observe, Option.bind_some]
    cases hread : readCount? text with
    | some n => exact .told (readCount?_eq_some_iff.mp hread) nofun
    | none =>
      apply ih.append_of_not
      intro m hcount
      rw [readCount?_eq_some_iff.mpr hcount] at hread
      contradiction

/-! ## Fields -/

inductive Field where
  | limit
  | remaining
  | reset
deriving DecidableEq, Repr

namespace Field

def get : Field → Quota → Nat
  | .limit, quota => quota.limit
  | .remaining, quota => quota.remaining
  | .reset, quota => quota.reset

/-- The header that tells a field. -/
def header : Field → String
  | .limit => "x-ratelimit-limit"
  | .remaining => "x-ratelimit-remaining"
  | .reset => "x-ratelimit-reset"

/-- What a document tells of a field. -/
def inDocument : Field → ReplyInfo → Option String
  | .limit, info => info.limit
  | .remaining, info => info.remaining
  | .reset, info => info.reset

end Field
end Quota

namespace Exchange

open Quota (Field IsLatest observe)

/-! ## Observations -/

/-- A request and what came back. -/
structure Call where
  endpoint : Endpoint
  reply : Reply

/-- What the document in a reply tells of a field.  Only the document of an answer
counts, whatever status and data it has. -/
def toldByDocument (field : Field) (callback : String) (response : Response) : Option String :=
  if isAnswered response.status then
    match response.text? with
    | none => none
    | some body =>
      match openEnvelope body callback with
      | .error _ => none
      | .ok envelope => field.inDocument envelope.info
  else none

/-- What a call lets one observe of a field, in order: the header first, whatever the
status, and then the document. -/
def observations (field : Field) (call : Call) : List String :=
  match call.reply with
  | none => []
  | some response =>
    (response.header? field.header).toList ++
      (toldByDocument field call.endpoint.callback response).toList

/-- What is known of the quota after calls one after the other. -/
def quotaAfter (quota : Quota) : List Call → Quota
  | [] => quota
  | call :: calls => quotaAfter (hear call.endpoint quota call.reply).quota calls

section

variable (field : Field) (quota : Quota)

theorem get_noteHeaders (response : Response) :
    field.get (noteHeaders quota response) =
      observe (field.get quota) (response.header? field.header) := by
  cases field <;> rfl

theorem get_noteEnvelope (envelope : Envelope) :
    field.get (noteEnvelope quota envelope) =
      observe (field.get quota) (field.inDocument envelope.info) := by
  cases field <;> rfl

theorem foldl_observe_toList (old : Nat) (seen : Option String) :
    seen.toList.foldl (fun old text => observe old (some text)) old = observe old seen := by
  cases seen <;> rfl

/-- One call moves a field along its own observations. -/
theorem get_hear (call : Call) :
    field.get (hear call.endpoint quota call.reply).quota =
      (observations field call).foldl (fun old text => observe old (some text))
        (field.get quota) := by
  obtain ⟨endpoint, reply⟩ := call
  cases reply with
  | none => rfl
  | some response =>
    have hheader := get_noteHeaders field quota response
    simp only [observations, List.foldl_append, foldl_observe_toList]
    rw [← hheader]
    by_cases hanswered : isAnswered response.status = true
    · cases htext : response.text? with
      | none =>
        simp only [hear, toldByDocument, hanswered, htext, if_true, observe, Option.bind_none,
          Option.getD_none]
      | some body =>
        cases hopen : openEnvelope body endpoint.callback with
        | error problem =>
          simp only [hear, toldByDocument, hanswered, htext, hopen, if_true, observe,
            Option.bind_none, Option.getD_none]
        | ok envelope =>
          simp only [hear, toldByDocument, hanswered, htext, hopen, if_true]
          exact get_noteEnvelope field _ envelope
    · simp only [hear, toldByDocument, hanswered, if_false, Bool.false_eq_true, observe,
        Option.bind_none, Option.getD_none]

theorem get_quotaAfter (calls : List Call) :
    field.get (quotaAfter quota calls) =
      (calls.flatMap (observations field)).foldl (fun old text => observe old (some text))
        (field.get quota) := by
  induction calls generalizing quota with
  | nil => rfl
  | cons call calls ih =>
    rw [quotaAfter, ih, List.flatMap_cons, List.foldl_append, get_hear]

end

/-- After any calls of a new client each field is the last count that was told of it,
or zero.  Neither the other fields nor what is told of them have a part in it. -/
theorem isLatest_quotaAfter (calls : List Call) (field : Field) :
    IsLatest (calls.flatMap (observations field)) (field.get (quotaAfter .unknown calls)) ∧
      ∀ quota others, field.get quota = 0 →
        others.flatMap (observations field) = calls.flatMap (observations field) →
          field.get (quotaAfter quota others) = field.get (quotaAfter .unknown calls) := by
  have hunknown : field.get .unknown = 0 := by cases field <;> rfl
  have hcalls := get_quotaAfter field .unknown calls
  rw [hunknown] at hcalls
  constructor
  · rw [hcalls]
    exact Quota.isLatest_foldl_observe _
  · intro quota others hzero hsame
    rw [get_quotaAfter, hzero, hsame, hcalls]

/-- A failure with headers, a request that is never answered, and an answer that has a
header which is no text and a document which refuses. -/
def refusedCalls : List Call :=
  let endpoint : Endpoint := ⟨⟨"o", "r"⟩, "cb"⟩
  [⟨endpoint, some ⟨⟨500⟩, [("X-RateLimit-Limit", "60"), ("x-ratelimit-remaining", "59"),
      ("x-ratelimit-limit", "70")], none, none⟩⟩,
    ⟨endpoint, none⟩,
    ⟨endpoint, some ⟨⟨200⟩, [("X-RateLimit-Remaining", "5é")],
      some (Utf8.encode "cb([[404,\"18446744073709551616\",\"+7\",null],null])".toList), none⟩⟩]

/-- Two failures that tell the same of the limit and nothing else. -/
def limitCalls : List Call :=
  ["60", "18446744073709551616"].map fun limit =>
    ⟨⟨⟨"o", "r"⟩, "cb"⟩, some ⟨⟨500⟩, [("X-RateLimit-Limit", limit)], none, none⟩⟩

theorem isLatest_quotaAfter_refused :
    quotaAfter .unknown refusedCalls = ⟨60, 7, 0⟩ ∧
      IsLatest ["60", "18446744073709551616"] (quotaAfter .unknown refusedCalls).limit ∧
      (quotaAfter ⟨0, 8, 9⟩ limitCalls).limit = (quotaAfter .unknown refusedCalls).limit := by
  have hafter : quotaAfter .unknown refusedCalls = ⟨60, 7, 0⟩ := by decide +kernel
  have hrefused : refusedCalls.flatMap (observations .limit) = ["60", "18446744073709551616"] := by
    decide +kernel
  have hlimit : limitCalls.flatMap (observations .limit) = ["60", "18446744073709551616"] := by
    decide +kernel
  obtain ⟨hlatest, hsame⟩ := isLatest_quotaAfter refusedCalls .limit
  rw [hrefused] at hlatest hsame
  exact ⟨hafter, hlatest, hsame ⟨0, 8, 9⟩ limitCalls rfl hlimit⟩

end Exchange
end RepoFeed
