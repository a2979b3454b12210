import RepoFeed.Proofs.Activity.NormalForm
import RepoFeed.Proofs.Request.Carrier
import RepoFeed.Proofs.Storage.Entries
import RepoFeed.Refresh.Cache

/-
What a cache gives back of what it was given.
-/

namespace RepoFeed
namespace Cache

/-- The text under which events are stored at a time. -/
def storedText (events : List Event) (time : Int) : String :=
  (Snapshot.ofEvents events time).toJson.render

theorem storedText_ne_empty (events : List Event) (time : Int) : storedText events time ≠ "" := by
  intro h
  have hwrite := congrArg String.toList h
  rw [storedText, Json.Value.render, String.toList_ofList] at hwrite
  simp [Snapshot.toJson, Json.Value.write] at hwrite

section

variable {σ : Type} {store : Storage.Store σ} {key : String} {state : σ} {text : String}

theorem load_of_get (h : store.get state key = .ok (some text)) (hne : text ≠ "") (now : Int) :
    (Cache.mk (some store) key).load now state = judge now text := by
  simp only [load, h, if_neg hne]

theorem load_within {τ : Type} (store : Storage.Store σ) (key : String) (view : τ → σ)
    (update : τ → σ → τ) (now : Int) (t : τ) :
    (Cache.mk (some (store.within view update)) key).load now t =
      (Cache.mk (some store) key).load now (view t) := rfl

theorem exists_of_load {cache : Cache σ} {now : Int} {cached : Cached}
    (h : (cache.load now state).1 = some cached) :
    ∃ store text, cache.store = some store ∧ store.get state cache.key = .ok (some text) ∧
      (judge now text).1 = some cached := by
  unfold load at h
  split at h
  · cases h
  · rename_i store hstore
    split at h
    · cases h
    · cases h
    · rename_i text hget
      split at h
      · cases h
      · exact ⟨store, text, hstore, hget, h⟩

theorem fst_save (events : List Event) (now : Int) :
    ((Cache.mk (some store) key).save events now state).1 =
      (store.set state key (storedText events now)).1 := by
  unfold storedText
  rcases hset : store.set state key (Snapshot.ofEvents events now).toJson.render with
    ⟨after, outcome⟩
  cases outcome <;> simp only [save, hset]

end

/-! ## Judging stored texts -/

section

variable {events : List Event} {time : Int}

/-- What the clock makes of a snapshot that can be read. -/
def judged (now : Int) (events : List Event) (time : Int) : Option Cached :=
  if time ≠ 0 ∧ Word.fitsSigned 64 (now - time) = true then some ⟨events, now - time⟩ else none

theorem events_of_judged {now : Int} {cached : Cached}
    (h : judged now events time = some cached) : cached.events = events := by
  unfold judged at h
  split at h
  · cases h
    rfl
  · contradiction

theorem judge_of_decode {text : String}
    (h : Snapshot.record.schema.decode text = .ok (Snapshot.ofEvents events time)) (now : Int) :
    (judge now text).1 = judged now events time := by
  simp only [judge, h, Snapshot.ofEvents, judged]
  by_cases hzero : time = 0
  · simp [hzero]
  · by_cases hfits : Word.fitsSigned 64 (now - time) = true
    · simp [hzero, hfits]
    · simp [hzero, hfits]

theorem judge_of_error {text : String} {error : Json.Error}
    (h : Snapshot.record.schema.decode text = .error error) (now : Int) :
    (judge now text).1 = none := by
  simp only [judge, h]

/-- What is judged to be of use: a feed with a time that is neither zero nor too
far away. -/
theorem judge_eq_some_iff {now : Int} {text : String} {cached : Cached} :
    (judge now text).1 = some cached ↔ ∃ feed time,
      Snapshot.record.schema.decode text = .ok ⟨some feed, some time⟩ ∧ time ≠ 0 ∧
        Word.fitsSigned 64 (now - time) = true ∧ cached = ⟨feed.events, now - time⟩ := by
  constructor
  · intro h
    cases hdecode : Snapshot.record.schema.decode text with
    | error error =>
      rw [judge_of_error hdecode] at h
      contradiction
    | ok snapshot =>
      obtain ⟨feed, time⟩ := snapshot
      cases feed with
      | none => simp [judge, hdecode] at h
      | some feed =>
        cases time with
        | none => simp [judge, hdecode] at h
        | some time =>
          rw [judge_of_decode hdecode, judged] at h
          obtain ⟨⟨hzero, hfits⟩, hcached⟩ := Option.ite_none_right_eq_some.mp h
          cases hcached
          exact ⟨feed, time, rfl, hzero, hfits, rfl⟩
  · rintro ⟨feed, time, hdecode, hzero, hfits, rfl⟩
    rw [judge_of_decode hdecode, judged, if_pos ⟨hzero, hfits⟩]

theorem judge_storedText_of_shallow (h : ∀ e ∈ events, e.IsRegular ∧ e.IsFloatFree)
    (hdepth : ∀ e ∈ events, e.payloadDepth ≤ Snapshot.payloadLevels)
    (htime : Word.fitsSigned 64 time = true) (now : Int) :
    (judge now (storedText events time)).1 = judged now events time :=
  judge_of_decode (Snapshot.decode_render_of_shallow h hdepth htime) now

/-- Events without floats and without deep payloads are found as they were stored. -/
theorem load_storedText {σ : Type} {store : Storage.Store σ} {key : String} {state : σ}
    (hget : store.get state key = .ok (some (storedText events time)))
    (h : ∀ e ∈ events, e.IsRegular ∧ e.IsFloatFree)
    (hdepth : ∀ e ∈ events, e.payloadDepth ≤ Snapshot.payloadLevels)
    (htime : Word.fitsSigned 64 time = true) (now : Int) :
    ((Cache.mk (some store) key).load now state).1 = judged now events time := by
  rw [load_of_get hget (storedText_ne_empty events time)]
  exact judge_storedText_of_shallow h hdepth htime now

theorem judge_storedText_of_deep (h : ∀ e ∈ events, e.IsRegular)
    (hdepth : ∃ e ∈ events, Snapshot.payloadLevels < e.payloadDepth)
    (htime : Word.fitsSigned 64 time = true) (now : Int) :
    (judge now (storedText events time)).1 = none := by
  obtain ⟨error, herror⟩ := Snapshot.decode_render_of_deep h hdepth htime
  exact judge_of_error herror now

/-- Whatever a stored text is judged to be, it shows the same page. -/
theorem bare_of_judge_storedText (h : ∀ e ∈ events, e.IsRegular)
    (htime : Word.fitsSigned 64 time = true) {now : Int} {cached : Cached}
    (hjudge : (judge now (storedText events time)).1 = some cached) :
    cached.events.map Event.bare = events.map Event.bare := by
  obtain ⟨feed, time', hdecode, -, -, rfl⟩ := judge_eq_some_iff.mp hjudge
  obtain ⟨read, heq, hbare⟩ := Snapshot.bare_of_decode_render h htime hdecode
  cases heq
  exact hbare

theorem isFresh_judged {now : Int} (hzero : time ≠ 0) :
    (∃ cached, judged now events time = some cached ∧ cached.isFresh = true) ↔
      time ≤ now ∧ now ≤ time + freshness := by
  have hfresh : freshness = 30000 := rfl
  have hlimit : (twoPow (64 - 1) : Int) = 9223372036854775808 := rfl
  simp only [judged, Word.fitsSigned, Bool.and_eq_true, decide_eq_true_eq, hlimit]
  constructor
  · intro hfresh
    obtain ⟨cached, hjudged, hage⟩ := hfresh
    split at hjudged
    · cases hjudged
      simp only [Cached.isFresh, isFreshAge, Bool.and_eq_true, decide_eq_true_eq] at hage
      omega
    · contradiction
  · intro h
    refine ⟨⟨events, now - time⟩, if_pos ⟨hzero, by omega, by omega⟩, ?_⟩
    simp only [Cached.isFresh, isFreshAge, Bool.and_eq_true, decide_eq_true_eq]
    omega

end

/-! ## Loading what has been saved -/

/-- A cache over entries in memory. -/
def inMemory (key : String) : Cache Storage.Entries := ⟨some Storage.memoryStore, key⟩

theorem load_save_inMemory (key : String) (events : List Event) (time now : Int)
    (entries : Storage.Entries) :
    ((inMemory key).load now ((inMemory key).save events time entries).1).1 =
      (judge now (storedText events time)).1 := by
  have hget : Storage.memoryStore.get ((inMemory key).save events time entries).1 key =
      .ok (some (storedText events time)) :=
    congrArg Except.ok (Storage.Entries.get?_insert_self _ _ _)
  exact congrArg Prod.fst (load_of_get hget (storedText_ne_empty events time) now)

/-- Events that a reply brought come back as they were, with age zero and fresh,
exactly if no payload among them has more than 123 lists and objects inside one
another.  Otherwise nothing comes back. -/
theorem load_save_heard_iff {endpoint : Endpoint} {quota : Quota} {reply : Reply}
    {events : List Event} (hhear : (Exchange.hear endpoint quota reply).result = .ok events)
    (hfloat : ∀ e ∈ events, e.IsFloatFree) {time : Int} (htime : Word.fitsSigned 64 time = true)
    (hzero : time ≠ 0) (key : String) (entries : Storage.Entries) :
    let loaded := ((inMemory key).load time ((inMemory key).save events time entries).1).1
    ((∃ cached, loaded = some cached ∧ cached.events = events ∧ cached.age = 0 ∧
        cached.isFresh = true) ↔ ∀ e ∈ events, e.payloadDepth ≤ 123) ∧
      ((∃ e ∈ events, 123 < e.payloadDepth) → loaded = none) := by
  intro loaded
  have hregular := Exchange.isRegular_of_hear hhear
  have hloaded : loaded = (judge time (storedText events time)).1 :=
    load_save_inMemory key events time time entries
  have hdeep : (∃ e ∈ events, 123 < e.payloadDepth) → loaded = none := fun h =>
    hloaded.trans (judge_storedText_of_deep hregular h htime time)
  refine ⟨⟨?_, ?_⟩, hdeep⟩
  · intro hloads e he
    obtain ⟨cached, hsome, -⟩ := hloads
    by_contra hlt
    rw [hdeep ⟨e, he, Nat.lt_of_not_le hlt⟩] at hsome
    contradiction
  · intro hdepth
    have hjudged := judge_storedText_of_shallow
      (fun e he => ⟨hregular e he, hfloat e he⟩) hdepth htime time
    have hself : Word.fitsSigned 64 (time - time) = true := by
      rw [Int.sub_self]
      rfl
    refine ⟨⟨events, time - time⟩, ?_, rfl, Int.sub_self time, ?_⟩
    · rw [hloaded, hjudged, judged, if_pos ⟨hzero, hself⟩]
    · rw [Cached.isFresh, Int.sub_self]
      rfl

/-- The endpoint of a run without options. -/
def standardEndpoint : Endpoint := ⟨⟨"thomasmoelhave", "tpie"⟩, "tpieevents"⟩

theorem hear_nested {levels : Nat} (h : levels ≤ 124) :
    (Exchange.hear standardEndpoint .unknown
      (Exchange.carrier "tpieevents" [Event.nested levels])).result =
        .ok [Event.nested levels] := by
  have hcallback : Exchange.IsCallback "tpieevents" := by decide
  refine Exchange.hear_carrier hcallback ?_ ?_ .unknown
  · simpa using Event.isRegular_nested levels
  · simpa [Event.payloadDepth_nested] using h

theorem load_save_heard_nested :
    let loaded := ((inMemory "tpieevents").load 1
      ((inMemory "tpieevents").save [Event.nested 123] 1 []).1).1
    ((∃ cached, loaded = some cached ∧ cached.events = [Event.nested 123] ∧ cached.age = 0 ∧
        cached.isFresh = true) ↔ ∀ e ∈ [Event.nested 123], e.payloadDepth ≤ 123) ∧
      ((∃ e ∈ [Event.nested 123], 123 < e.payloadDepth) → loaded = none) :=
  load_save_heard_iff (hear_nested (by decide))
    (by simpa using (Event.isRegular_nested 123).2) (by decide) (by decide) "tpieevents" []

/-- One level more, and a reply that has been accepted cannot be given back. -/
theorem not_load_save_heard_nested :
    (Exchange.hear standardEndpoint .unknown
        (Exchange.carrier "tpieevents" [Event.nested 124])).result = .ok [Event.nested 124] ∧
      (∀ e ∈ [Event.nested 124], e.IsFloatFree) ∧
      ((inMemory "tpieevents").load 1
        ((inMemory "tpieevents").save [Event.nested 124] 1 []).1).1 = none := by
  refine ⟨hear_nested (by decide), by simpa using (Event.isRegular_nested 124).2, ?_⟩
  rw [load_save_inMemory]
  refine judge_storedText_of_deep (by simpa using (Event.isRegular_nested 124).1) ?_ (by decide) 1
  exact ⟨_, List.mem_singleton_self _, by rw [Event.payloadDepth_nested]; decide⟩

end Cache
end RepoFeed
