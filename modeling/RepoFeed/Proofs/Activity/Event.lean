import RepoFeed.Proofs.Activity.Payload
import RepoFeed.Proofs.Json.Reading
import RepoFeed.Proofs.Json.Record
import RepoFeed.Proofs.Time.Stamp

/-
Events that are written and read back.

An event that came from a reader is regular: its date has a stamp, its type
agrees with its kind, and a payload that is kept unread is in normal form.  A
regular event comes back with everything that a page shows of it; all that can
be lost is the payload that was kept unread, and only where it has binary64
numbers.
-/

namespace RepoFeed

open Json (Value Number Rereads)

/-- Numbers without fraction and exponent. -/
def Json.Number.IsWhole : Number → Prop
  | .whole _ => True
  | .binary _ => False

namespace Event

def Kind.IsRegular : Kind → Prop
  | .push _ | .create _ => True
  | .other type payload =>
    type ≠ pushType ∧ type ≠ createType ∧ payload.normal = payload ∧
      payload.EveryNumber Number.IsReadable

/-- The events that a reader gives. -/
structure IsRegular (event : Event) : Prop where
  stampable : event.createdAt.IsStampable
  kind : event.kind.IsRegular

/-- How many lists and objects are nested in a payload that is kept unread. -/
def payloadDepth (event : Event) : Nat :=
  match event.kind with
  | .push _ | .create _ => 0
  | .other _ payload => payload.depth

/-- Whether a payload that is kept unread has no binary64 numbers. -/
def IsFloatFree (event : Event) : Prop :=
  match event.kind with
  | .push _ | .create _ => True
  | .other _ payload => payload.EveryNumber Number.IsWhole

/-- An event without a payload that is kept unread. -/
def bare (event : Event) : Event :=
  match event.kind with
  | .push _ | .create _ => event
  | .other type _ => { event with kind := .other type .null }

theorem Kind.isExact_payload {event : Event} (h : event.kind.IsRegular) (hf : event.IsFloatFree) :
    event.kind.payload.IsExact := by
  obtain ⟨actor, createdAt, kind⟩ := event
  cases kind with
  | push push => exact push.isExact_toJson
  | create creation => exact creation.isExact_toJson
  | other type payload =>
    refine Value.EveryNumber.imp (fun n hn => ?_) (h.2.2.2.and hf)
    cases n with
    | whole n => exact hn.1
    | binary x => exact hn.2

theorem Kind.normal_payload {kind : Kind} (h : kind.IsRegular) :
    kind.payload.normal = kind.payload := by
  cases kind with
  | push push => exact push.normal_toJson
  | create creation => exact creation.normal_toJson
  | other type payload => exact h.2.2.1

/-- Only payloads that are kept unread can be nested deeply. -/
theorem depth_payload_le_iff {event : Event} {levels : Nat} (hlevels : 3 ≤ levels) :
    event.kind.payload.depth ≤ levels ↔ event.payloadDepth ≤ levels := by
  obtain ⟨actor, createdAt, kind⟩ := event
  cases kind with
  | push push =>
    have := push.depth_toJson_le
    simp only [Kind.payload, payloadDepth]
    omega
  | create creation =>
    have := creation.depth_toJson_le
    simp only [Kind.payload, payloadDepth]
    omega
  | other type payload => exact Iff.rfl

/-! ## One event -/

/-- What is known of the parts of a written event when they have been read. -/
structure Raw.ReadFrom (event : Event) (levels : Nat) (raw : Raw) : Prop where
  type : raw.type = event.kind.type
  actor : raw.actor = event.actor
  createdAt : raw.createdAt = event.createdAt
  depth : event.kind.payload.depth ≤ levels
  payload : event.kind.payload.IsExact → raw.payload = event.kind.payload.normal

/-- What is known of an event that was read from a written one. -/
structure ReadFrom (event : Event) (levels : Nat) (read : Event) : Prop where
  depth : event.kind.payload.depth ≤ levels
  bare : read.bare = event.bare
  eq : event.kind.payload.IsExact → read = event

theorem Raw.ReadFrom.interpret {event : Event} {levels : Nat} {raw : Raw}
    (hevent : event.kind.IsRegular) (h : raw.ReadFrom event levels) :
    ∃ read, raw.interpret = .ok read ∧ event.ReadFrom levels read := by
  obtain ⟨type, actor, createdAt, payload⟩ := raw
  obtain ⟨rfl, rfl, rfl, hdepth, hpayload⟩ := h
  obtain ⟨actor, createdAt, kind⟩ := event
  cases kind with
  | push push =>
    have hpush := hpayload push.isExact_toJson
    refine ⟨⟨actor, createdAt, .push push⟩, ?_, hdepth, rfl, fun _ => rfl⟩
    simp only [Kind.payload, push.normal_toJson] at hpush
    simp [Raw.interpret, Kind.type, hpush, push.ofValue_toJson, bind, Except.bind, pure,
      Except.pure, Functor.map, Except.map]
  | create creation =>
    have hcreate := hpayload creation.isExact_toJson
    refine ⟨⟨actor, createdAt, .create creation⟩, ?_, hdepth, rfl, fun _ => rfl⟩
    simp only [Kind.payload, creation.normal_toJson] at hcreate
    have hne : createType ≠ pushType := by decide
    simp [Raw.interpret, Kind.type, hne, hcreate, creation.ofValue_toJson, bind, Except.bind, pure,
      Except.pure, Functor.map, Except.map]
  | other type kept =>
    obtain ⟨hpush, hcreate, hnormal, -⟩ := hevent
    refine ⟨⟨actor, createdAt, .other type payload⟩, ?_, hdepth, rfl, fun hexact => ?_⟩
    · simp [Raw.interpret, Kind.type, hpush, hcreate, bind, Except.bind, pure, Except.pure]
    · have hsame : payload = kept := (hpayload hexact).trans hnormal
      rw [hsame]

theorem read_actor (levels : Nat) (actor : Actor) (rest : List Char) :
    Actor.record.schema.read (levels + 1) (actor.toJson.write ++ rest) = .ok (actor, rest) := by
  have hread : Rereads (· = actor) False rest
      (Actor.record.schema.read (levels + 1) (actor.toJson.write ++ rest)) := by
    refine Json.Record.rereads_object (· = ⟨some actor.login⟩) ?_ ?_
    · intro fuel hfuel
      obtain ⟨fuel, rfl⟩ : ∃ k, fuel = k + 1 := ⟨fuel - 1, (Nat.sub_add_cancel hfuel).symm⟩
      simp only [Json.writeMembersFrom, List.append_assoc, List.cons_append, List.nil_append]
      refine Json.Record.rereads_member_of_ok rfl rfl (Json.Schema.read_text _ _ _) ?_ true
      refine Json.Record.rereads_end ?_ false
      rfl
    · intro draft heq
      subst heq
      exact ⟨actor, rfl, rfl⟩
  exact hread.eq_ok (fun _ => id) id

theorem read_instant {t : Time.Instant} (h : t.IsStampable) (levels : Nat) (rest : List Char) :
    Time.Instant.schema.read levels ((Value.text t.render).write ++ rest) = .ok (t, rest) := by
  rw [Time.Instant.schema, Json.Schema.read_textual, Time.Instant.parse_render h]
  rfl

/-- A written event comes back, unless a payload that is kept unread is nested
too deeply. -/
theorem rereads (event : Event) (h : event.IsRegular) (levels : Nat) (rest : List Char) :
    Rereads (event.ReadFrom (levels + 1))
      (event.kind.payload.IsExact → levels + 1 < event.kind.payload.depth) rest
      (schema.read (levels + 2) (event.toJson.write ++ rest)) := by
  have hraw : Rereads (Raw.ReadFrom event (levels + 1))
      (event.kind.payload.IsExact → levels + 1 < event.kind.payload.depth) rest
      (Raw.record.schema.read (levels + 2) (event.toJson.write ++ rest)) := by
    refine Json.Record.rereads_object (fun draft => ∃ raw : Raw, raw.ReadFrom event (levels + 1) ∧
      draft = ⟨some raw.type, some raw.actor, some raw.createdAt, some raw.payload⟩) ?_ ?_
    · intro fuel hfuel
      obtain ⟨fuel, rfl⟩ : ∃ k, fuel = k + 4 := ⟨fuel - 4, (Nat.sub_add_cancel hfuel).symm⟩
      simp only [Json.writeMembersFrom, List.append_assoc, List.cons_append, List.nil_append]
      refine Json.Record.rereads_member_of_ok rfl rfl (Json.Schema.read_text _ _ _) ?_ true
      refine Json.Record.rereads_member_of_ok rfl rfl (read_actor levels _ _) ?_ false
      refine Json.Record.rereads_member_of_ok rfl rfl (read_instant h.stampable _ _) ?_ false
      refine Json.Record.rereads_member rfl rfl
        (Json.Schema.rereads_anything _ _ (Json.boundary_brace rest)) ?_ id false
      intro payload hdeep
      obtain ⟨hdepth, hpayload⟩ := hdeep
      refine Json.Record.rereads_end ?_ false
      exact ⟨⟨_, _, _, payload⟩, ⟨rfl, rfl, rfl, hdepth, hpayload⟩, rfl⟩
    · intro draft hdraft
      obtain ⟨raw, hraw, rfl⟩ := hdraft
      exact ⟨raw, rfl, hraw⟩
  exact Json.Schema.rereads_refine hraw fun raw hraw => hraw.interpret h.kind

/-- The events that come back as they were, with some levels left for a payload. -/
structure IsFaithful (event : Event) (levels : Nat) : Prop where
  regular : event.IsRegular
  floatFree : event.IsFloatFree
  depth : event.payloadDepth ≤ levels

/-- There is no excuse for not reading a faithful event. -/
theorem IsFaithful.not_refused {event : Event} {levels : Nat} (hlevels : 3 ≤ levels)
    (h : event.IsFaithful levels) :
    ¬(event.kind.payload.IsExact → levels < event.kind.payload.depth) := by
  intro hdeep
  have hexact := Kind.isExact_payload h.regular.kind h.floatFree
  exact Nat.not_le_of_lt (hdeep hexact) ((depth_payload_le_iff hlevels).mpr h.depth)

theorem read_toJson {event : Event} (levels : Nat) (h : event.IsFaithful (levels + 3))
    (rest : List Char) :
    schema.read (levels + 4) (event.toJson.write ++ rest) = .ok (event, rest) := by
  have hexact := Kind.isExact_payload h.regular.kind h.floatFree
  exact (event.rereads h.regular (levels + 2) rest).eq_ok (fun _ hread => hread.eq hexact)
    (h.not_refused (Nat.le_add_left 3 levels))

/-- A list of written events comes back event by event. -/
theorem rereads_list {events : List Event} (h : ∀ e ∈ events, e.IsRegular) (levels : Nat)
    (rest : List Char) :
    Rereads (List.Forall₂ (fun e => e.ReadFrom (levels + 1)) events)
      (∃ e ∈ events, e.kind.payload.IsExact → levels + 1 < e.kind.payload.depth) rest
      (listSchema.read (levels + 3) ((listToJson events).write ++ rest)) :=
  Json.Schema.rereads_listOf toJson (fun e he rest _ => e.rereads (h e he) levels rest) rest

/-! ## Events that have been taken from a value -/

/-- What is known of the draft of an event. -/
def Raw.Draft.IsRegular (draft : Raw.Draft) : Prop :=
  (∀ t ∈ draft.createdAt, t.IsStampable) ∧
    ∀ v ∈ draft.payload, v.normal = v ∧ v.EveryNumber Number.IsReadable

theorem Raw.keepsTaking_record :
    Raw.record.KeepsTaking (·.EveryNumber Number.IsReadable) Raw.Draft.IsRegular := by
  intro field hfield value update draft hvalue hupdate hdraft
  simp only [Raw.record, List.mem_cons, List.not_mem_nil, or_false] at hfield
  rcases hfield with rfl | rfl | rfl | rfl
  · obtain ⟨_, -, rfl⟩ := map_eq_ok.mp hupdate
    exact hdraft
  · obtain ⟨_, -, rfl⟩ := map_eq_ok.mp hupdate
    exact hdraft
  · obtain ⟨t, ht, rfl⟩ := map_eq_ok.mp hupdate
    refine ⟨?_, hdraft.2⟩
    intro _ heq
    cases heq
    cases value with
    | text s => exact Time.Instant.isStampable_of_parse (mapError_eq_ok.mp ht)
    | null | truth | number | list | object => contradiction
  · cases hupdate
    refine ⟨hdraft.1, ?_⟩
    intro _ heq
    cases heq
    exact ⟨value.normal_normal, hvalue.normal⟩

/-- The kinds that a payload can turn out to be of. -/
theorem Raw.of_interpret {raw : Raw} {event : Event} (h : raw.interpret = .ok event) :
    event.createdAt = raw.createdAt ∧
      ((∃ push, event.kind = .push push) ∨ (∃ creation, event.kind = .create creation) ∨
        raw.type ≠ pushType ∧ raw.type ≠ createType ∧
          event.kind = .other raw.type raw.payload) := by
  unfold Raw.interpret at h
  simp only at h
  split at h
  · obtain ⟨kind, hkind, h⟩ := bind_eq_ok.mp h
    obtain ⟨push, -, rfl⟩ := map_eq_ok.mp hkind
    cases h
    exact ⟨rfl, .inl ⟨push, rfl⟩⟩
  · rename_i hpush
    split at h
    · obtain ⟨kind, hkind, h⟩ := bind_eq_ok.mp h
      obtain ⟨creation, -, rfl⟩ := map_eq_ok.mp hkind
      cases h
      exact ⟨rfl, .inr (.inl ⟨creation, rfl⟩)⟩
    · rename_i hcreate
      cases h
      exact ⟨rfl, .inr (.inr ⟨hpush, hcreate, rfl⟩)⟩

theorem Raw.of_complete {draft : Raw.Draft} {raw : Raw}
    (h : Raw.record.complete draft = .ok raw) :
    draft.createdAt = some raw.createdAt ∧ raw.payload = draft.payload.getD .null := by
  obtain ⟨type, -, h⟩ := bind_eq_ok.mp h
  obtain ⟨actor, -, h⟩ := bind_eq_ok.mp h
  obtain ⟨createdAt, hcreatedAt, h⟩ := bind_eq_ok.mp h
  cases h
  refine ⟨?_, rfl⟩
  cases hdraft : draft.createdAt with
  | none =>
    rw [hdraft] at hcreatedAt
    contradiction
  | some t =>
    rw [hdraft] at hcreatedAt
    cases hcreatedAt
    rfl

/-- A regular draft makes a regular event. -/
theorem isRegular_of_complete {draft : Raw.Draft} {raw : Raw} {event : Event}
    (hdraft : draft.IsRegular) (hcomplete : Raw.record.complete draft = .ok raw)
    (h : raw.interpret = .ok event) : event.IsRegular := by
  obtain ⟨hcreatedAt, hpayload⟩ := Raw.of_complete hcomplete
  obtain ⟨hstamp, hkept⟩ := hdraft
  obtain ⟨hsame, hkind⟩ := Raw.of_interpret h
  refine ⟨hsame ▸ hstamp _ hcreatedAt, ?_⟩
  obtain ⟨push, hkind⟩ | ⟨creation, hkind⟩ | ⟨hpush, hcreate, hkind⟩ := hkind
  · rw [hkind]
    trivial
  · rw [hkind]
    trivial
  · rw [hkind, hpayload]
    cases hvalue : draft.payload with
    | none => exact ⟨hpush, hcreate, rfl, trivial⟩
    | some v => exact ⟨hpush, hcreate, hkept v hvalue⟩

theorem isRegular_of_ofValue {v : Value} {event : Event}
    (hv : v.EveryNumber Number.IsReadable) (h : schema.ofValue v = .ok event) :
    event.IsRegular := by
  obtain ⟨raw, hraw, hevent⟩ := bind_eq_ok.mp h
  obtain ⟨draft, hdraft, hcomplete⟩ :=
    Json.Record.exists_draft_of_ofValue Raw.keepsTaking_record ⟨nofun, nofun⟩
      (fun items hitems => Value.everyNumber_list.mp (hitems ▸ hv))
      (fun members hmembers => Value.everyNumber_object.mp (hmembers ▸ hv)) hraw
  exact isRegular_of_complete hdraft hcomplete hevent

theorem isRegular_of_convert {v : Value} {events : List Event}
    (hv : v.EveryNumber Number.IsReadable) (h : listSchema.convert v = .ok events) :
    ∀ e ∈ events, e.IsRegular := by
  have h := mapError_eq_ok.mp h
  cases v with
  | list items =>
    exact forall_of_mapM_eq_ok (fun v hv event => isRegular_of_ofValue hv)
      (Value.everyNumber_list.mp hv) h
  | null | truth | number | text | object => contradiction

/-! ## Events that have been read from a text -/

/-- The draft of an event that is read with some levels left is regular, and its
payload is nested no more deeply than that. -/
theorem Raw.keepsReading_record (levels : Nat) :
    Raw.record.KeepsReadingAt levels fun draft =>
      draft.IsRegular ∧ ∀ v ∈ draft.payload, v.depth ≤ levels := by
  intro field hfield text update rest draft hupdate hdraft
  simp only [Raw.record, List.mem_cons, List.not_mem_nil, or_false] at hfield
  rcases hfield with rfl | rfl | rfl | rfl <;> dsimp only at hupdate
  · obtain ⟨_, -, rfl⟩ := Json.Schema.exists_of_read_map hupdate
    exact hdraft
  · obtain ⟨_, -, rfl⟩ := Json.Schema.exists_of_read_map hupdate
    exact hdraft
  · obtain ⟨t, ht, rfl⟩ := Json.Schema.exists_of_read_map hupdate
    obtain ⟨s, hs⟩ := Json.Schema.exists_of_read_textual ht
    refine ⟨⟨?_, hdraft.1.2⟩, hdraft.2⟩
    intro _ heq
    cases heq
    exact Time.Instant.isStampable_of_parse (mapError_eq_ok.mp hs)
  · obtain ⟨_, hv, rfl⟩ := Json.Schema.exists_of_read_map hupdate
    obtain ⟨v, hread, rfl⟩ := Json.Schema.exists_of_read_anything hv
    refine ⟨⟨hdraft.1.1, ?_⟩, ?_⟩
    · intro _ heq
      cases heq
      exact ⟨v.normal_normal, (Json.isReadable_of_readValue hread).normal⟩
    · intro _ heq
      cases heq
      exact Nat.le_trans v.depth_normal_le (Json.depth_of_readValue hread)

/-- An event that is read from a text is regular, and its payload fits into the
levels that were left for it. -/
theorem of_read {levels : Nat} {text rest : List Char} {event : Event}
    (h : schema.read levels text = .ok (event, rest)) :
    event.IsRegular ∧ event.payloadDepth < levels := by
  obtain ⟨raw, hraw, hevent⟩ := Json.Schema.exists_of_read_refine h
  obtain ⟨levels, draft, rfl, ⟨hdraft, hdepth⟩, hcomplete⟩ :=
    Json.Record.exists_draft_of_read Raw.keepsReading_record (fun _ => ⟨⟨nofun, nofun⟩, nofun⟩) hraw
  refine ⟨isRegular_of_complete hdraft hcomplete hevent, Nat.lt_succ_of_le ?_⟩
  obtain ⟨-, ⟨push, hkind⟩ | ⟨creation, hkind⟩ | ⟨-, -, hkind⟩⟩ := Raw.of_interpret hevent
  · simp only [payloadDepth, hkind, Nat.zero_le]
  · simp only [payloadDepth, hkind, Nat.zero_le]
  · simp only [payloadDepth, hkind, (Raw.of_complete hcomplete).2]
    cases hpayload : draft.payload with
    | none => exact Nat.zero_le levels
    | some v => exact hdepth v hpayload

theorem of_read_list {levels : Nat} {text rest : List Char} {events : List Event}
    (h : listSchema.read levels text = .ok (events, rest)) :
    ∀ e ∈ events, e.IsRegular ∧ e.payloadDepth + 1 < levels := by
  obtain ⟨levels, rfl, hevents⟩ :=
    Json.Schema.of_read_listOf (p := fun n e => e.IsRegular ∧ e.payloadDepth < n)
      (fun _ _ _ _ => of_read) h
  exact fun e he => ⟨(hevents e he).1, Nat.succ_lt_succ (hevents e he).2⟩

end Event
end RepoFeed
