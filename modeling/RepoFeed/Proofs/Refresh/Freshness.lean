import RepoFeed.Proofs.Refresh.Cache
import RepoFeed.Proofs.Request.Delivery

/-
How long what has been saved is fresh.

A cache over entries in memory shares them with others, who write under their own
keys.  What counts for a load is the last thing that was written under the key of
the cache; how long ago that was is the difference of two clocks, which is a whole
number and not a word that could wrap.
-/

namespace RepoFeed

/-- An event that a decoder gives, alone or in a list, from a text or from the value
that a text holds. -/
def Event.IsDecoded (event : Event) : Prop :=
  (∃ document, Event.schema.decode document = .ok event) ∨
    (∃ document data, Json.Schema.anything.decode document = .ok data ∧
      Event.schema.convert data = .ok event) ∨
    ∃ events, Event.AreDecoded events ∧ event ∈ events

theorem Event.IsDecoded.isRegular {event : Event} (h : event.IsDecoded) : event.IsRegular := by
  obtain ⟨document, h⟩ | ⟨document, data, hdata, h⟩ | ⟨events, h, hin⟩ := h
  · obtain ⟨rest, hread, -⟩ := Json.Schema.exists_of_decode h
    exact (Event.of_read hread).1
  · obtain ⟨rest, hread, -⟩ := Json.Schema.exists_of_decode hdata
    obtain ⟨tree, htree, rfl⟩ := Json.Schema.exists_of_read_anything hread
    exact Event.isRegular_of_ofValue (Json.isReadable_of_readValue htree).normal
      (mapError_eq_ok.mp h)
  · exact h.isRegular event hin

namespace Cache

open Storage (Entries)

/-! ## Runs -/

/-- What is done with a cache in memory, and by others with its entries. -/
inductive Action where
  | load (now : Int)
  | save (events : List Event) (time : Int)
  | write (key value : String)
deriving DecidableEq, Repr

namespace Action

/-- The entries that an action leaves to a cache under a key. -/
def perform (key : String) (entries : Entries) : Action → Entries
  | .load _ => entries
  | .save events time => ((inMemory key).save events time entries).1
  | .write other value => (Storage.memoryStore.set entries other value).1

def isLoad : Action → Bool
  | .load _ => true
  | _ => false

/-- The action leaves what stands under a key to itself, whatever the key is. -/
def Spares (key : String) : Action → Prop
  | .load _ => True
  | .save _ _ => False
  | .write other _ => other ≠ key

/-- What others write under a key. -/
def foreign? (key : String) : Action → Option String
  | .write other value => if other = key then some value else none
  | _ => none

/-- What is written under some key, by others or by a cache under a key. -/
def written? (key other : String) : Action → Option String
  | .save events time => if key = other then some (storedText events time) else none
  | action => action.foreign? other

end Action

/-- The entries after some actions. -/
def entriesAfter (key : String) (entries : Entries) (actions : List Action) : Entries :=
  actions.foldl (Action.perform key) entries

/-- Loads leave no trace. -/
theorem entriesAfter_filter_isLoad (key : String) (entries : Entries) (actions : List Action) :
    entriesAfter key entries (actions.filter (! ·.isLoad)) = entriesAfter key entries actions := by
  induction actions generalizing entries with
  | nil => rfl
  | cons action actions ih =>
    cases action with
    | load now => exact ih entries
    | save events time => exact ih _
    | write other value => exact ih _

/-- Under every key stands what was written there last. -/
theorem get?_entriesAfter (key other : String) (entries : Entries) (actions : List Action) :
    (entriesAfter key entries actions).get? other =
      (actions.filterMap (Action.written? key other)).getLast?.or (entries.get? other) := by
  apply Storage.view_foldl (fun entries : Entries => entries.get? other)
  intro entries action
  cases action with
  | load now => rfl
  | save events time => exact Storage.Entries.get?_insert entries key (storedText events time) other
  | write other' value => exact Storage.Entries.get?_insert entries other' value other

theorem written?_eq_foreign? {key other : String} (h : other ≠ key) (action : Action) :
    action.written? key other = action.foreign? other := by
  cases action with
  | load now => rfl
  | save events time => exact if_neg (Ne.symm h)
  | write other' value => rfl

theorem Action.Spares.written?_eq_none {key : String} {action : Action} (h : action.Spares key) :
    action.written? key key = none := by
  cases action with
  | load now => rfl
  | save events time => exact h.elim
  | write other value => exact if_neg h

/-- What was saved last stands under the key until someone else writes there. -/
theorem get?_entriesAfter_save {key : String} {between : List Action}
    (h : ∀ action ∈ between, action.Spares key) (before : List Action) (events : List Event)
    (time : Int) (entries : Entries) :
    (entriesAfter key entries (before ++ .save events time :: between)).get? key =
      some (storedText events time) := by
  have hbetween : between.filterMap (Action.written? key key) = [] :=
    List.filterMap_eq_nil_iff.mpr fun action hin => (h action hin).written?_eq_none
  have hsave : Action.written? key key (.save events time) = some (storedText events time) :=
    if_pos rfl
  rw [get?_entriesAfter, List.filterMap_append, List.filterMap_cons_some hsave, hbetween,
    List.getLast?_concat, Option.some_or]

/-! ## Loads -/

theorem isFreshAge_sub_iff (now time : Int) :
    isFreshAge (now - time) = true ↔ time ≤ now ∧ now ≤ time + 30000 := by
  have hfresh : freshness = 30000 := rfl
  rw [isFreshAge, Bool.and_eq_true, decide_eq_true_eq, decide_eq_true_eq, hfresh]
  omega

/-- What was saved last is found with its true age, unless that is not a word of 64
bits, and is fresh for thirty seconds.  Loads leave the entries as they are, and
under other keys stands what others have written. -/
theorem load_entriesAfter {key : String} {events : List Event} {time : Int}
    {between : List Action}
    (hevents : ∀ e ∈ events, e.IsDecoded ∧ e.IsFloatFree ∧ e.payloadDepth ≤ 123)
    (htime : Word.fitsSigned 64 time = true) (hzero : time ≠ 0)
    (hspares : ∀ action ∈ between, action.Spares key) (before : List Action) (entries : Entries)
    (now : Int) :
    let actions := before ++ .save events time :: between
    let after := entriesAfter key entries actions
    let loaded := ((inMemory key).load now after).1
    (Word.fitsSigned 64 (now - time) = true →
        ∃ cached, loaded = some cached ∧ cached.events = events ∧ cached.age = now - time ∧
          (cached.isFresh = true ↔ time ≤ now ∧ now ≤ time + 30000)) ∧
      (Word.fitsSigned 64 (now - time) = false → loaded = none) ∧
      after = entriesAfter key entries (actions.filter (! ·.isLoad)) ∧
      ∀ other, other ≠ key → after.get? other =
        (actions.filterMap (Action.foreign? other)).getLast?.or (entries.get? other) := by
  intro actions after loaded
  have hstored : after.get? key = some (storedText events time) :=
    get?_entriesAfter_save hspares before events time entries
  have hget : Storage.memoryStore.get after key = .ok (some (storedText events time)) :=
    congrArg Except.ok hstored
  have hloaded : loaded = judged now events time := by
    refine load_storedText hget (fun e he => ?_) (fun e he => ?_) htime now
    · exact ⟨(hevents e he).1.isRegular, (hevents e he).2.1⟩
    · exact (hevents e he).2.2
  refine ⟨fun hfits => ?_, fun hfits => ?_, ?_, fun other hother => ?_⟩
  · refine ⟨⟨events, now - time⟩, ?_, rfl, rfl, isFreshAge_sub_iff now time⟩
    rw [hloaded, judged, if_pos ⟨hzero, hfits⟩]
  · rw [hloaded, judged, if_neg]
    intro h
    rw [hfits] at h
    exact absurd h.2 (by decide)
  · exact (entriesAfter_filter_isLoad key entries actions).symm
  · have hforeign : Action.written? key other = Action.foreign? other :=
      funext (written?_eq_foreign? hother)
    rw [← hforeign]
    exact get?_entriesAfter key other entries actions

/-- A snapshot from 1000 is fresh at 31000 and stale at 31001, whatever was saved
before it and whatever others have written since. -/
theorem load_entriesAfter_nested :
    let after := entriesAfter "tpieevents" [] ([.save [] 5, .load 7] ++
      .save [Event.nested 123] 1000 :: [.write "other" "x", .load 900])
    (∃ cached, ((inMemory "tpieevents").load 31000 after).1 = some cached ∧
        cached.events = [Event.nested 123] ∧ cached.isFresh = true) ∧
      ∃ cached, ((inMemory "tpieevents").load 31001 after).1 = some cached ∧
        cached.events = [Event.nested 123] ∧ cached.isFresh = false := by
  intro after
  obtain ⟨hregular, hfloat⟩ := Event.isRegular_nested 123
  have hdepth : (Event.nested 123).payloadDepth ≤ 123 :=
    Nat.le_of_eq (Event.payloadDepth_nested 123)
  have hdecoded : (Event.nested 123).IsDecoded :=
    .inl ⟨_, Json.Schema.decode_render (Event.read_toJson 123
      ⟨hregular, hfloat, Nat.le_trans hdepth (Nat.le_add_right 123 3)⟩ [])⟩
  have hevents : ∀ e ∈ [Event.nested 123], e.IsDecoded ∧ e.IsFloatFree ∧ e.payloadDepth ≤ 123 :=
    List.forall_mem_singleton.mpr ⟨hdecoded, hfloat, hdepth⟩
  have hspares : ∀ action ∈ [Action.write "other" "x", .load 900],
      action.Spares "tpieevents" := by
    intro action hin
    obtain rfl | hin := List.mem_cons.mp hin
    · show "other" ≠ "tpieevents"
      decide
    · rw [List.mem_singleton.mp hin]
      trivial
  have hloads := fun now => load_entriesAfter hevents (by decide : Word.fitsSigned 64 1000 = true)
    (by decide) hspares [.save [] 5, .load 7] [] now
  obtain ⟨fresh, hfresh, hfreshEvents, -, hfreshIff⟩ := (hloads 31000).1 (by decide)
  obtain ⟨stale, hstale, hstaleEvents, -, hstaleIff⟩ := (hloads 31001).1 (by decide)
  refine ⟨⟨fresh, hfresh, hfreshEvents, hfreshIff.mpr (by decide)⟩,
    stale, hstale, hstaleEvents, ?_⟩
  rw [← Bool.not_eq_true, hstaleIff]
  decide

end Cache
end RepoFeed
