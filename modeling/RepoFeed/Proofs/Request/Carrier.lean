import RepoFeed.Proofs.Reply.Grammar
import RepoFeed.Proofs.Request.Exchange
import RepoFeed.Proofs.Text.Utf8

/-
Replies that bring given events.

The server is not part of the library, but what it would have to send can be
written down with the library's own writers: any list of regular events without
floats has a reply that is accepted as just these events.  Two objects and a
list are open around a payload in it, so it has room for payloads of 124 lists
and objects inside one another.
-/

namespace RepoFeed

open Json (Value Rereads)

namespace Exchange

/-- The document that brings events. -/
def document (events : List Event) : Value :=
  .object [
    ("meta", .object [("status", .number (.whole 200))]),
    ("data", Event.listToJson events)]

/-- The same with any status. -/
def documentOf (status : Int) (events : List Event) : Value :=
  .object [
    ("meta", .object [("status", .number (.whole status))]),
    ("data", Event.listToJson events)]

/-- The reply that brings events to a callback. -/
def carrier (callback : String) (events : List Event) : Reply :=
  some {
    status := ⟨200⟩
    headers := []
    body := some (Utf8.encode (Wrapper.call callback.toList (document events).write)) }

/-! ## The body -/

/-- A text that does not begin with a byte order mark comes back from its octets: the
marks of other encodings are not the octets of any text. -/
theorem read_encode {text : List Char} (h : text.head? ≠ some '\uFEFF') :
    Encoding.read .utf8 (Utf8.encode text) = text := by
  have hitems := Utf8.items_encode text
  have hwhole : none ∉ text.map some := by simp
  unfold Encoding.read
  split
  · rename_i octets heq
    have hmark : Utf8.items .ready (0xEF :: 0xBB :: 0xBF :: octets) =
        some '\uFEFF' :: Utf8.items .ready octets := Utf8.items_utf8EncodeChar '\uFEFF' octets
    rw [heq, hmark] at hitems
    cases text with
    | nil => cases hitems
    | cons c text =>
      obtain ⟨hc, -⟩ := List.cons.inj hitems
      exact absurd (congrArg some (Option.some.inj hc).symm) h
  · rename_i octets heq
    rw [← hitems, heq] at hwhole
    exact absurd List.mem_cons_self hwhole
  · rename_i octets heq
    rw [← hitems, heq] at hwhole
    exact absurd List.mem_cons_self hwhole
  · exact Utf8.decodeLossy_encode text

/-- A body in UTF-8 is taken as it is, unless it begins with a byte order mark. -/
theorem text?_of_utf8 {response : Response} {text : List Char}
    (hencoding : response.encoding = .utf8) (hbody : response.body = some (Utf8.encode text))
    (hmark : text.head? ≠ some '\uFEFF') : response.text? = some (String.ofList text) := by
  rw [Response.text?, hbody, hencoding, Option.map_some, read_encode hmark]

/-- Callbacks that begin with a letter, as the names of functions do. -/
def IsCallback (callback : String) : Prop :=
  ∀ c ∈ callback.toList.head?, c.isAlpha = true

instance (callback : String) : Decidable (IsCallback callback) :=
  decidable_of_iff (callback.toList.head?.all Char.isAlpha = true) (Option.all_eq_true _ _)

theorem text?_carrier {callback : String} (h : IsCallback callback) (events : List Event) :
    (carrier callback events).bind Response.text? =
      some (String.ofList (Wrapper.call callback.toList (document events).write)) := by
  refine text?_of_utf8 rfl rfl ?_
  cases hname : callback.toList with
  | nil => exact nofun
  | cons c name =>
    intro hmark
    obtain rfl := Option.some.inj hmark
    have hbounds := Text.letter_bounds (h '\uFEFF' (by rw [hname]; rfl))
    revert hbounds
    decide

/-! ## The document -/

theorem fitsUnsigned_of_code {status : Int} (h : 0 ≤ status ∧ status < 1000) :
    Word.fitsUnsigned 16 status = true := by
  have hbits : 1000 < twoPow 16 := by decide
  simp only [Word.fitsUnsigned, Bool.and_eq_true, decide_eq_true_eq]
  omega

theorem rereads_info {status : Int} (hstatus : Word.fitsUnsigned 16 status = true)
    (levels : Nat) (rest : List Char) :
    Rereads (· = ⟨status, none, none, none⟩) False rest
      (ReplyInfo.record.schema.read (levels + 1)
        ((Value.object [("status", .number (.whole status))]).write ++ rest)) := by
  have hword := Json.Schema.isWord_of_fitsUnsigned hstatus
  refine Json.Record.rereads_object (· = ⟨some status, none, none, none⟩) ?_ ?_
  · intro fuel hfuel
    obtain ⟨fuel, rfl⟩ : ∃ k, fuel = k + 1 := ⟨fuel - 1, (Nat.sub_add_cancel hfuel).symm⟩
    simp only [Json.writeMembersFrom, List.append_assoc, List.cons_append, List.nil_append]
    refine Json.Record.rereads_member_of_ok rfl rfl
      (Json.Schema.read_whole hstatus hword levels (Json.boundary_brace rest)) ?_ true
    refine Json.Record.rereads_end ?_ false
    rfl
  · intro draft heq
    subst heq
    exact ⟨_, rfl, rfl⟩

/-- A document whose part on the reply is read comes back with its data in normal form. -/
theorem decode_envelope {written data : Value} {info : ReplyInfo}
    (hinfo : ∀ levels rest, Rereads (· = info) False rest
      (ReplyInfo.record.schema.read (levels + 1) (written.write ++ rest)))
    (hexact : data.IsExact) (hdepth : data.depth ≤ 126) :
    Envelope.record.schema.decode (Value.object [("meta", written), ("data", data)]).render =
      .ok ⟨info, data.normal⟩ := by
  have hread : Rereads (· = ⟨info, data.normal⟩) False []
      (Envelope.record.schema.read Json.depthLimit
        ((Value.object [("meta", written), ("data", data)]).write ++ [])) := by
    refine Json.Record.rereads_object (· = ⟨some info, some data.normal⟩) ?_ ?_
    · intro fuel hfuel
      obtain ⟨fuel, rfl⟩ : ∃ k, fuel = k + 2 := ⟨fuel - 2, (Nat.sub_add_cancel hfuel).symm⟩
      simp only [Json.writeMembersFrom, List.append_assoc, List.cons_append, List.nil_append]
      refine Json.Record.rereads_member rfl rfl (hinfo 125 _) ?_ id true
      intro _ heq
      subst heq
      refine Json.Record.rereads_member rfl rfl
        (Json.Schema.rereads_anything _ _ (Json.boundary_brace [])) ?_
        (fun hdeep => absurd hdepth (Nat.not_le_of_lt (hdeep hexact))) false
      intro found hfound
      obtain ⟨-, hdata⟩ := hfound
      refine Json.Record.rereads_end ?_ false
      rw [hdata hexact]
    · intro draft heq
      subst heq
      exact ⟨_, rfl, rfl⟩
  exact Json.Schema.decode_render (hread.eq_ok (fun _ => id) id)

/-- A reply whose call comes off around a document brings what is in the document. -/
theorem openEnvelope_of_unwrap {body callback : String} {document : Value} {envelope : Envelope}
    (hunwrap : Wrapper.unwrap body.toList callback.toList = .ok document.write)
    (hdecode : Envelope.record.schema.decode document.render = .ok envelope) :
    openEnvelope body callback = .ok envelope :=
  bind_eq_ok.mpr ⟨_, mapError_eq_ok.mpr hunwrap, mapError_eq_ok.mpr hdecode⟩

/-! ## The events -/

theorem normal_toJson {event : Event} (h : event.kind.IsRegular) :
    event.toJson.normal = .object [
      ("actor", event.actor.toJson),
      ("created_at", .text event.createdAt.render),
      ("payload", event.kind.payload),
      ("type", .text event.kind.type)] := by
  have hactor : event.actor.toJson.normal = event.actor.toJson := by
    simp only [Actor.toJson, Value.normal, Value.normalMembers_eq_map, List.map_cons,
      List.map_nil, Value.sortMembers, List.foldl_cons, List.foldl_nil, Value.insertMember]
  rw [Event.toJson, Value.normal, Value.normalMembers_eq_map]
  simp only [List.map_cons, List.map_nil, hactor, Event.Kind.normal_payload h, Value.normal]
  simp only [Value.sortMembers, List.foldl_cons, List.foldl_nil, Value.insertMember,
    String.reduceEq, String.reduceLT, reduceIte]

theorem ofValue_actor (actor : Actor) :
    Actor.record.schema.ofValue actor.toJson = .ok actor := by
  show Actor.record.ofValue actor.toJson = .ok actor
  simp [Actor.toJson, Actor.record, Json.Record.ofValue, Json.Record.ofMembers,
    Json.Record.field?, Json.Schema.map, Json.Schema.text, Json.Schema.textual, Json.needed,
    bind, Except.bind, Except.map, pure, Except.pure]

theorem ofValue_toJson {event : Event} (h : event.IsRegular) (hfloat : event.IsFloatFree) :
    Event.schema.ofValue event.toJson.normal = .ok event := by
  have hstamp : (Time.Instant.schema).ofValue (.text event.createdAt.render) =
      .ok event.createdAt := by
    rw [Time.Instant.schema, Json.Schema.textual]
    simp only [Time.Instant.parse_render h.stampable]
    rfl
  have hraw : Event.Raw.record.ofValue event.toJson.normal =
      .ok ⟨event.kind.type, event.actor, event.createdAt, event.kind.payload⟩ := by
    rw [normal_toJson h.kind]
    simp [Event.Raw.record, Json.Record.ofValue, Json.Record.ofMembers, Json.Record.field?,
      Json.Schema.map, Json.Schema.text, Json.Schema.textual, Json.needed,
      Json.Schema.anything, hstamp, ofValue_actor, Event.Kind.normal_payload h.kind,
      bind, Except.bind, Except.map, pure, Except.pure]
  have hreadFrom : Event.Raw.ReadFrom event event.kind.payload.depth
      ⟨event.kind.type, event.actor, event.createdAt, event.kind.payload⟩ :=
    ⟨rfl, rfl, rfl, Nat.le_refl _, fun _ => (Event.Kind.normal_payload h.kind).symm⟩
  obtain ⟨read, hread, hfrom⟩ := hreadFrom.interpret h.kind
  rw [hfrom.eq (Event.Kind.isExact_payload h.kind hfloat)] at hread
  exact bind_eq_ok.mpr ⟨_, hraw, hread⟩

theorem convert_listToJson {events : List Event} (h : ∀ e ∈ events, e.IsRegular ∧ e.IsFloatFree) :
    Event.listSchema.convert (Event.listToJson events).normal = .ok events := by
  refine mapError_eq_ok.mpr ?_
  rw [Event.listToJson, Value.normal, Value.normalItems_eq_map, List.map_map]
  exact mapM_map_of_ok events fun e he => ofValue_toJson (h e he).1 (h e he).2

theorem isExact_listToJson {events : List Event}
    (h : ∀ e ∈ events, e.IsRegular ∧ e.IsFloatFree) : (Event.listToJson events).IsExact := by
  refine Value.everyNumber_list.mpr fun v hv => ?_
  obtain ⟨e, he, rfl⟩ := List.mem_map.mp hv
  have hpayload := Event.Kind.isExact_payload (h e he).1.kind (h e he).2
  exact ⟨trivial, ⟨trivial, trivial⟩, trivial, hpayload, trivial⟩

theorem depth_listToJson_le {events : List Event} (h : ∀ e ∈ events, e.payloadDepth ≤ 124) :
    (Event.listToJson events).depth ≤ 126 := by
  refine Nat.succ_le_succ (Value.depthItems_le_iff.mpr fun v hv => ?_)
  obtain ⟨e, he, rfl⟩ := List.mem_map.mp hv
  have hpayload := (Event.depth_payload_le_iff (by decide)).mpr (h e he)
  refine Nat.succ_le_succ (Value.depthMembers_le_iff.mpr ?_)
  simp [Actor.toJson, Value.depth, Value.depthMembers, hpayload]

/-- An answer whose call comes off around a document for some events brings these
events. -/
theorem hear_of_unwrap {endpoint : Endpoint} {response : Response} {body : String}
    {status : Int} {events : List Event} (hanswered : isAnswered response.status = true)
    (htext : response.text? = some body)
    (hunwrap : Wrapper.unwrap body.toList endpoint.callback.toList =
      .ok (documentOf status events).write)
    (hstatus : 200 ≤ status ∧ status < 300) (h : ∀ e ∈ events, e.IsRegular ∧ e.IsFloatFree)
    (hdepth : ∀ e ∈ events, e.payloadDepth ≤ 124) (quota : Quota) :
    (hear endpoint quota (some response)).result = .ok events := by
  have hword : Word.fitsUnsigned 16 status = true := fitsUnsigned_of_code (by omega)
  have hopen : openEnvelope body endpoint.callback =
      .ok ⟨⟨status, none, none, none⟩, (Event.listToJson events).normal⟩ :=
    openEnvelope_of_unwrap hunwrap
      (decode_envelope (rereads_info hword) (isExact_listToJson h) (depth_listToJson_le hdepth))
  have hcode : Status.ofCode? status = some ⟨status.toNat⟩ := if_pos (by omega)
  have hsuccess : Status.isSuccess ⟨status.toNat⟩ = true := by
    simp only [Status.isSuccess, Bool.and_eq_true, decide_eq_true_eq]
    omega
  simp only [hear, hanswered, htext, hopen, eventsOf, hcode, hsuccess, if_true,
    convert_listToJson h]
  rfl

/-- Regular events without floats, whose payloads are nested at most 124 lists
and objects deep, are what their carrier brings. -/
theorem hear_carrier {endpoint : Endpoint} (hcallback : IsCallback endpoint.callback)
    {events : List Event} (h : ∀ e ∈ events, e.IsRegular ∧ e.IsFloatFree)
    (hdepth : ∀ e ∈ events, e.payloadDepth ≤ 124) (quota : Quota) :
    (hear endpoint quota (carrier endpoint.callback events)).result = .ok events := by
  have hletter : ∀ c ∈ endpoint.callback.toList.head?, Text.isBlank c = false ∧ c ≠ '/' := by
    intro c hc
    have hbounds := Text.letter_bounds (hcallback c hc)
    constructor
    · simp only [Text.isBlank]
      simp
      omega
    · intro heq
      subst heq
      revert hbounds
      decide
  have hunwrap := Wrapper.unwrap_call hletter (document events).write
  rw [← String.toList_ofList (l := Wrapper.call _ _)] at hunwrap
  exact hear_of_unwrap rfl (text?_carrier hcallback events) hunwrap (by decide) h hdepth quota

end Exchange

/-! ## Events with deep payloads -/

namespace Event

/-- Lists inside one another around null. -/
def nestedLists : (levels : Nat) → Value
  | 0 => .null
  | levels + 1 => .list [nestedLists levels]

/-- An event whose payload is lists inside one another. -/
def nested (levels : Nat) : Event :=
  ⟨⟨"thomasmoelhave"⟩, ⟨0, 0⟩, .other "WatchEvent" (nestedLists levels)⟩

theorem payloadDepth_nested (levels : Nat) : (nested levels).payloadDepth = levels := by
  show (nestedLists levels).depth = levels
  induction levels with
  | zero => rfl
  | succ levels ih => simp [nestedLists, Value.depth, Value.depthItems, ih]

theorem isRegular_nested (levels : Nat) :
    (nested levels).IsRegular ∧ (nested levels).IsFloatFree := by
  obtain ⟨hnormal, hnumbers⟩ : (nestedLists levels).normal = nestedLists levels ∧
      ∀ p, (nestedLists levels).EveryNumber p := by
    induction levels with
    | zero => exact ⟨rfl, fun _ => trivial⟩
    | succ levels ih =>
      refine ⟨?_, fun p => ⟨ih.2 p, trivial⟩⟩
      simp only [nestedLists, Value.normal, Value.normalItems, ih.1]
  have hstamp : Time.Instant.IsStampable ⟨0, 0⟩ := by decide
  exact ⟨⟨hstamp, by decide, by decide, hnormal, hnumbers _⟩, hnumbers _⟩

end Event
end RepoFeed
