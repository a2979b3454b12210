import RepoFeed.Proofs.Activity.Snapshot

/-
The texts that are written are normal forms.

A reader forgets much of a text: order, spaces, escapes, unknown members, the
offset of a date, and whether a record stood in an object or in a list.  What it
keeps is written in one way only, and no text of the library's own has to be read
twice to come to rest.  Since a payload stands as deep in the written text as in
the one that was read, there is always room for it.
-/

namespace RepoFeed

/-- A value that comes back from its text is written the same again. -/
theorem Json.Schema.decode_render_twice {α : Type} {schema : Json.Schema α}
    {toJson : α → Json.Value} {a : α} (h : schema.decode (toJson a).render = .ok a) :
    schema.decode (toJson a).render = .ok a ∧
      (schema.decode (toJson a).render).map (fun a => (toJson a).render) = .ok (toJson a).render :=
  ⟨h, by rw [h]; rfl⟩

/-- An event comes back, since it was read as a regular one and from as deep a text. -/
theorem Event.decode_again {document : String} {event : Event}
    (h : schema.decode document = .ok event) (hfloat : event.IsFloatFree) :
    schema.decode event.toJson.render = .ok event := by
  obtain ⟨rest, hread, -⟩ := Json.Schema.exists_of_decode h
  obtain ⟨hregular, hdepth⟩ := of_read hread
  exact Json.Schema.decode_render
    (read_toJson 123 ⟨hregular, hfloat, Nat.le_of_lt_succ hdepth⟩ [])

theorem Feed.decode_again {document : String} {feed : Feed}
    (h : record.schema.decode document = .ok feed) (hfloat : ∀ e ∈ feed.events, e.IsFloatFree) :
    record.schema.decode feed.toJson.render = .ok feed := by
  obtain ⟨rest, hread, -⟩ := Json.Schema.exists_of_decode h
  refine Json.Schema.decode_render (read_toJson 121 (fun e he => ?_) [])
  obtain ⟨hregular, hdepth⟩ := of_read hread e he
  exact ⟨hregular, hfloat e he, Nat.le_of_lt_succ (Nat.lt_of_add_lt_add_right hdepth)⟩

namespace Snapshot

/-- What is read of a snapshot: regular events whose payloads fit into the levels
that were left for them, and a time of 64 bits. -/
theorem of_read {levels : Nat} {text rest : List Char} {snapshot : Snapshot}
    (h : record.schema.read levels text = .ok (snapshot, rest)) :
    (∀ feed ∈ snapshot.feed, ∀ e ∈ feed.events, e.IsRegular ∧ e.payloadDepth + 3 < levels) ∧
      ∀ time ∈ snapshot.storedAt, Word.fitsSigned 64 time = true := by
  have hkeeps : ∀ n, record.KeepsReadingAt n fun draft =>
      (∀ feed ∈ draft.feed.getD none, ∀ e ∈ feed.events,
        e.IsRegular ∧ e.payloadDepth + 2 < n) ∧
      ∀ time ∈ draft.storedAt.getD none, Word.fitsSigned 64 time = true := by
    intro n field hfield text update rest draft hupdate hdraft
    simp only [record, List.mem_cons, List.not_mem_nil, or_false] at hfield
    rcases hfield with rfl | rfl <;> dsimp only at hupdate
    · obtain ⟨found, hfound, rfl⟩ := Json.Schema.exists_of_read_map hupdate
      exact ⟨Json.Schema.of_read_optional (fun _ _ _ => Feed.of_read) hfound, hdraft.2⟩
    · obtain ⟨found, hfound, rfl⟩ := Json.Schema.exists_of_read_map hupdate
      exact ⟨hdraft.1,
        Json.Schema.of_read_optional (fun _ _ _ => Json.Schema.accepts_of_read_whole) hfound⟩
  obtain ⟨n, draft, rfl, ⟨hfeed, htime⟩, hcomplete⟩ :=
    Json.Record.exists_draft_of_read hkeeps (fun _ => ⟨nofun, nofun⟩) h
  cases hcomplete
  refine ⟨fun feed hfound e he => ?_, htime⟩
  obtain ⟨hregular, hdepth⟩ := hfeed feed hfound e he
  exact ⟨hregular, Nat.succ_lt_succ hdepth⟩

theorem decode_again {document : String} {snapshot : Snapshot}
    (h : record.schema.decode document = .ok snapshot)
    (hfloat : ∀ feed ∈ snapshot.feed, ∀ e ∈ feed.events, e.IsFloatFree) :
    record.schema.decode snapshot.toJson.render = .ok snapshot := by
  obtain ⟨rest, hread, -⟩ := Json.Schema.exists_of_decode h
  obtain ⟨hfeed, htime⟩ := of_read hread
  refine decode_render_of_isStorable ⟨fun feed hfound e he => ?_, htime⟩
  obtain ⟨hregular, hdepth⟩ := hfeed feed hfound e he
  exact ⟨hregular, hfloat feed hfound e he, Nat.le_of_lt_succ (Nat.lt_of_add_lt_add_right hdepth)⟩

end Snapshot

/-- Whatever an event, a feed or a snapshot was read from, the text that is written
for it reads as the same and is written the same again, as long as no payload that
is kept unread has binary64 numbers. -/
theorem decode_render_of_decode :
    (∀ document event, Event.schema.decode document = .ok event → event.IsFloatFree →
      Event.schema.decode event.toJson.render = .ok event ∧
        (Event.schema.decode event.toJson.render).map (·.toJson.render) =
          .ok event.toJson.render) ∧
    (∀ document feed, Feed.record.schema.decode document = .ok feed →
      (∀ e ∈ feed.events, e.IsFloatFree) →
        Feed.record.schema.decode feed.toJson.render = .ok feed ∧
          (Feed.record.schema.decode feed.toJson.render).map (·.toJson.render) =
            .ok feed.toJson.render) ∧
    ∀ document snapshot, Snapshot.record.schema.decode document = .ok snapshot →
      (∀ feed ∈ snapshot.feed, ∀ e ∈ feed.events, e.IsFloatFree) →
        Snapshot.record.schema.decode snapshot.toJson.render = .ok snapshot ∧
          (Snapshot.record.schema.decode snapshot.toJson.render).map (·.toJson.render) =
            .ok snapshot.toJson.render := by
  refine ⟨fun _ _ h hfloat => ?_, fun _ _ h hfloat => ?_, fun _ _ h hfloat => ?_⟩
  · exact Json.Schema.decode_render_twice (Event.decode_again h hfloat)
  · exact Json.Schema.decode_render_twice (Feed.decode_again h hfloat)
  · exact Json.Schema.decode_render_twice (Snapshot.decode_again h hfloat)

/-- A leap second with an offset, a character in two halves, a repeated member, and
records that stand in lists. -/
def listedDocument : String :=
  "[\"WatchEvent\",[\"a\\ud83d\\ude00\"],\"2017-01-01T01:59:60.25+02:00\"," ++
    "\x7b\"b\":1,\"a\":[null],\"b\":-2\x7d]"

def listedEvent : Event :=
  ⟨⟨"a😀"⟩, ⟨1483228799, 1250000000⟩,
    .other "WatchEvent" (.object [("a", .list [.null]), ("b", .number (.whole (-2)))])⟩

theorem decode_render_of_decode_listed :
    Event.schema.decode listedEvent.toJson.render = .ok listedEvent ∧
      Feed.record.schema.decode (Feed.toJson ⟨[]⟩).render = .ok ⟨[]⟩ ∧
      Snapshot.record.schema.decode (Snapshot.toJson ⟨none, some 5⟩).render =
        .ok ⟨none, some 5⟩ := by
  have hevent : Event.schema.decode listedDocument = .ok listedEvent := by decide +kernel
  have hfeed : Feed.record.schema.decode "[[]]" = .ok ⟨[]⟩ := by decide +kernel
  have hsnapshot : Snapshot.record.schema.decode "\x7b\"x\":[1e999],\"cachetime\":5\x7d" =
      .ok ⟨none, some 5⟩ := by decide +kernel
  have hfloat : listedEvent.IsFloatFree := ⟨⟨trivial, trivial⟩, trivial, trivial⟩
  obtain ⟨hevents, hfeeds, hsnapshots⟩ := decode_render_of_decode
  exact ⟨(hevents _ _ hevent hfloat).1, (hfeeds _ _ hfeed nofun).1,
    (hsnapshots _ _ hsnapshot nofun).1⟩

end RepoFeed
