import RepoFeed.Activity.Snapshot
import RepoFeed.Proofs.Activity.Event

/-
Snapshots that are written and read back.

Three objects and a list are open around a payload, so a snapshot has room for
payloads that are four levels less deep than a document may be.
-/

namespace RepoFeed

open Json (Rereads)

namespace Feed

theorem rereads {events : List Event} (h : ∀ e ∈ events, e.IsRegular) (levels : Nat)
    (rest : List Char) :
    Rereads (fun feed => List.Forall₂ (fun e => e.ReadFrom (levels + 1)) events feed.events)
      (∃ e ∈ events, e.kind.payload.IsExact → levels + 1 < e.kind.payload.depth) rest
      (record.schema.read (levels + 4) ((toJson ⟨events⟩).write ++ rest)) := by
  refine Json.Record.rereads_object (fun draft => ∃ read : List Event,
    List.Forall₂ (fun e => e.ReadFrom (levels + 1)) events read ∧ draft = ⟨some read⟩) ?_ ?_
  · intro fuel hfuel
    obtain ⟨fuel, rfl⟩ : ∃ k, fuel = k + 1 := ⟨fuel - 1, (Nat.sub_add_cancel hfuel).symm⟩
    simp only [Json.writeMembersFrom, List.append_assoc, List.cons_append, List.nil_append]
    refine Json.Record.rereads_member rfl rfl (Event.rereads_list h levels _) ?_ id true
    intro read hread
    refine Json.Record.rereads_end ?_ false
    exact ⟨read, hread, rfl⟩
  · intro draft hdraft
    obtain ⟨read, hread, rfl⟩ := hdraft
    exact ⟨⟨read⟩, rfl, hread⟩

theorem read_toJson {feed : Feed} (levels : Nat)
    (h : ∀ e ∈ feed.events, e.IsFaithful (levels + 3)) (rest : List Char) :
    record.schema.read (levels + 6) (feed.toJson.write ++ rest) = .ok (feed, rest) := by
  refine (rereads (fun e he => (h e he).regular) (levels + 2) rest).eq_ok (fun read hread => ?_) ?_
  · have hsame : List.Forall₂ (fun e r => e.kind.payload.IsExact → r = e) feed.events
        read.events := hread.imp fun _ _ hread => hread.eq
    have hevents : read.events = feed.events := Json.eq_of_forall₂ hsame fun e he =>
      Event.Kind.isExact_payload (h e he).regular.kind (h e he).floatFree
    exact congrArg Feed.mk hevents
  · intro hdeep
    obtain ⟨e, he, hdeep⟩ := hdeep
    exact (h e he).not_refused (Nat.le_add_left 3 levels) hdeep

/-- The events of a feed that is read from a text are regular, and their payloads fit
into the levels that were left for them. -/
theorem of_read {levels : Nat} {text rest : List Char} {feed : Feed}
    (h : record.schema.read levels text = .ok (feed, rest)) :
    ∀ e ∈ feed.events, e.IsRegular ∧ e.payloadDepth + 2 < levels := by
  have hkeeps : ∀ n, record.KeepsReadingAt n fun draft =>
      ∀ events ∈ draft.events, ∀ e ∈ events, e.IsRegular ∧ e.payloadDepth + 1 < n := by
    intro n field hfield text update rest draft hupdate _
    simp only [record, List.mem_cons, List.not_mem_nil, or_false] at hfield
    subst hfield
    dsimp only at hupdate
    obtain ⟨events, hevents, rfl⟩ := Json.Schema.exists_of_read_map hupdate
    intro _ heq
    cases heq
    exact Event.of_read_list hevents
  obtain ⟨n, draft, rfl, hdraft, hcomplete⟩ :=
    Json.Record.exists_draft_of_read hkeeps (fun _ => nofun) h
  obtain ⟨events, hneeded, hcomplete⟩ := bind_eq_ok.mp hcomplete
  cases hcomplete
  obtain ⟨events'⟩ := draft
  cases events' with
  | none => contradiction
  | some _ =>
    cases hneeded
    exact fun e he => ⟨(hdraft _ rfl e he).1, Nat.succ_lt_succ (hdraft _ rfl e he).2⟩

end Feed

namespace Snapshot

/-- How many lists and objects a payload in a snapshot may have inside one
another. -/
def payloadLevels : Nat := Json.depthLimit - 4

theorem rereads {events : List Event} (h : ∀ e ∈ events, e.IsRegular) {time : Int}
    (htime : Word.fitsSigned 64 time = true) (rest : List Char) :
    Rereads
      (fun snapshot => ∃ read, List.Forall₂ (fun e => e.ReadFrom payloadLevels) events read ∧
        snapshot = ofEvents read time)
      (∃ e ∈ events, e.kind.payload.IsExact → payloadLevels < e.kind.payload.depth) rest
      (record.schema.read Json.depthLimit ((ofEvents events time).toJson.write ++ rest)) := by
  refine Json.Record.rereads_object (fun draft => ∃ read : List Event,
    List.Forall₂ (fun e => e.ReadFrom payloadLevels) events read ∧
      draft = ⟨some (some ⟨read⟩), some (some time)⟩) ?_ ?_
  · intro fuel hfuel
    obtain ⟨fuel, rfl⟩ : ∃ k, fuel = k + 2 := ⟨fuel - 2, (Nat.sub_add_cancel hfuel).symm⟩
    have hfeed : ∀ rest, Rereads _ _ rest ((Json.Schema.optional Feed.record.schema).read 126
        ((Feed.toJson ⟨events⟩).write ++ rest)) := fun rest =>
      Json.Schema.rereads_optional (by simp [Feed.toJson]) (Feed.rereads h 122 rest)
    have hclock : Rereads _ False _ ((Json.Schema.optional .integer64).read 126
        ((Json.Value.number (.whole time)).write ++ '\x7d' :: rest)) :=
      Json.Schema.rereads_optional (by simp)
        (.of_eq_ok (Json.Schema.read_whole htime (Json.Schema.isWord_of_fitsSigned htime) 126
          (Json.boundary_brace rest)) (Eq.refl time))
    simp only [Json.writeMembersFrom, List.append_assoc, List.cons_append, List.nil_append]
    refine Json.Record.rereads_member rfl rfl (hfeed _) ?_ id true
    intro _ hfirst
    obtain ⟨⟨read⟩, rfl, hread⟩ := hfirst
    refine Json.Record.rereads_member rfl rfl hclock ?_ False.elim false
    intro _ hsecond
    obtain ⟨_, rfl, rfl⟩ := hsecond
    refine Json.Record.rereads_end ?_ false
    exact ⟨read, hread, rfl⟩
  · intro draft hdraft
    obtain ⟨read, hread, rfl⟩ := hdraft
    exact ⟨ofEvents read time, rfl, read, hread, rfl⟩

/-- The snapshots that come back as they were. -/
structure IsStorable (snapshot : Snapshot) : Prop where
  feed : ∀ feed ∈ snapshot.feed, ∀ e ∈ feed.events, e.IsFaithful payloadLevels
  storedAt : ∀ time ∈ snapshot.storedAt, Word.fitsSigned 64 time = true

theorem toJson_eq (snapshot : Snapshot) : snapshot.toJson = .object [
    ("input", snapshot.feed.elim .null Feed.toJson),
    ("cachetime", snapshot.storedAt.elim .null fun time => .number (.whole time))] := by
  obtain ⟨feed, storedAt⟩ := snapshot
  cases feed <;> cases storedAt <;> rfl

/-- A storable snapshot comes back, whether or not it has a feed and a time. -/
theorem decode_render_of_isStorable {snapshot : Snapshot} (h : snapshot.IsStorable) :
    record.schema.decode snapshot.toJson.render = .ok snapshot := by
  obtain ⟨feed, storedAt⟩ := snapshot
  have hfeed : ∀ rest, (Json.Schema.optional Feed.record.schema).read 126
      ((feed.elim .null Feed.toJson).write ++ rest) = .ok (feed, rest) := by
    intro rest
    cases feed with
    | none => exact Json.Schema.read_optional_null _ _ _
    | some feed =>
      exact Json.Schema.read_optional_some (by simp [Feed.toJson])
        (Feed.read_toJson 120 (h.feed feed rfl) rest)
  have hclock : ∀ rest, (Json.Schema.optional .integer64).read 126
      ((storedAt.elim Json.Value.null fun time => .number (.whole time)).write ++ '\x7d' :: rest) =
        .ok (storedAt, '\x7d' :: rest) := by
    intro rest
    cases storedAt with
    | none => exact Json.Schema.read_optional_null _ _ _
    | some time =>
      have htime := h.storedAt time rfl
      exact Json.Schema.read_optional_some (by simp)
        (Json.Schema.read_whole htime (Json.Schema.isWord_of_fitsSigned htime) 126
          (Json.boundary_brace rest))
  have hread : Rereads (· = ⟨feed, storedAt⟩) False []
      (record.schema.read Json.depthLimit ((toJson ⟨feed, storedAt⟩).write ++ [])) := by
    rw [toJson_eq]
    refine Json.Record.rereads_object (· = ⟨some feed, some storedAt⟩) ?_ ?_
    · intro fuel hfuel
      obtain ⟨fuel, rfl⟩ : ∃ k, fuel = k + 2 := ⟨fuel - 2, (Nat.sub_add_cancel hfuel).symm⟩
      simp only [Json.writeMembersFrom, List.append_assoc, List.cons_append, List.nil_append]
      refine Json.Record.rereads_member_of_ok rfl rfl (hfeed _) ?_ true
      refine Json.Record.rereads_member_of_ok rfl rfl (hclock _) ?_ false
      refine Json.Record.rereads_end ?_ false
      rfl
    · intro draft heq
      subst heq
      exact ⟨_, rfl, rfl⟩
  exact Json.Schema.decode_render (hread.eq_ok (fun _ => id) id)

/-! ## Stored texts -/

section

variable {events : List Event} {time : Int}

theorem decode_render (h : ∀ e ∈ events, e.IsRegular) (htime : Word.fitsSigned 64 time = true) :
    (∃ read, record.schema.decode (ofEvents events time).toJson.render = .ok (ofEvents read time) ∧
      List.Forall₂ (fun e => e.ReadFrom payloadLevels) events read) ∨
    (∃ error, record.schema.decode (ofEvents events time).toJson.render = .error error) ∧
      ∃ e ∈ events, e.kind.payload.IsExact → payloadLevels < e.kind.payload.depth := by
  have hread := rereads h htime []
  rw [List.append_nil] at hread
  have htext : (ofEvents events time).toJson.render.toList = (ofEvents events time).toJson.write :=
    String.toList_ofList
  rw [← htext] at hread
  rcases Json.Schema.decode_of_rereads hread with ⟨_, hdecode, read, hforall, rfl⟩ | herror
  · exact .inl ⟨read, hdecode, hforall⟩
  · exact .inr herror

/-- Events without floats and without deep payloads come back as they were. -/
theorem decode_render_of_shallow (h : ∀ e ∈ events, e.IsRegular ∧ e.IsFloatFree)
    (hdepth : ∀ e ∈ events, e.payloadDepth ≤ payloadLevels)
    (htime : Word.fitsSigned 64 time = true) :
    record.schema.decode (ofEvents events time).toJson.render = .ok (ofEvents events time) := by
  refine decode_render_of_isStorable ⟨?_, ?_⟩
  · intro _ heq
    cases heq
    exact fun e he => ⟨(h e he).1, (h e he).2, hdepth e he⟩
  · intro _ heq
    cases heq
    exact htime

/-- A payload that is nested more deeply makes the whole snapshot unreadable. -/
theorem decode_render_of_deep (h : ∀ e ∈ events, e.IsRegular)
    (hdepth : ∃ e ∈ events, payloadLevels < e.payloadDepth)
    (htime : Word.fitsSigned 64 time = true) :
    ∃ error, record.schema.decode (ofEvents events time).toJson.render = .error error := by
  rcases decode_render h htime with ⟨read, -, hread⟩ | ⟨herror, -⟩
  · obtain ⟨e, he, hdeep⟩ := hdepth
    have hdepths : List.Forall₂ (fun e (_ : Event) => e.kind.payload.depth ≤ payloadLevels ∧ True)
        events read := hread.imp fun _ _ h => ⟨h.depth, trivial⟩
    have hshallow := ((List.forall₂_and_left _ _).mp hdepths).1 e he
    have := (Event.depth_payload_le_iff (by decide)).mp hshallow
    omega
  · exact herror

/-- Whatever comes back shows the same page. -/
theorem bare_of_decode_render (h : ∀ e ∈ events, e.IsRegular)
    (htime : Word.fitsSigned 64 time = true) {snapshot : Snapshot}
    (hdecode : record.schema.decode (ofEvents events time).toJson.render = .ok snapshot) :
    ∃ read, snapshot = ofEvents read time ∧ read.map Event.bare = events.map Event.bare := by
  rcases decode_render h htime with ⟨read, hread, hforall⟩ | ⟨⟨error, herror⟩, -⟩
  · rw [hread] at hdecode
    cases hdecode
    refine ⟨read, rfl, ?_⟩
    clear hread h
    induction hforall with
    | nil => rfl
    | cons h _ ih => rw [List.map_cons, List.map_cons, h.bare, ih]
  · rw [herror] at hdecode
    contradiction

end

end Snapshot
end RepoFeed
