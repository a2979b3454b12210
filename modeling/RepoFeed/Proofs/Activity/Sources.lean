import Mathlib.Control.Monad.Basic
import RepoFeed.Activity.Codec
import RepoFeed.Proofs.Json.Sources

/-
Events that a reply brings and events that a store brings.

A reply is read into a value first and its events are taken from that value; what
is stored is read as events at once.  The two ways are one as long as no object
repeats a name.
-/

namespace RepoFeed

open Json (Schema Value)

theorem Actor.isCoherent_record : Actor.record.IsCoherent where
  schema field hfield := by
    obtain rfl := List.mem_singleton.mp hfield
    dsimp only
    exact (Schema.isCoherent_textual _ _).map _
  apart f hf g hg hne := by
    obtain rfl := List.mem_singleton.mp hf
    obtain rfl := List.mem_singleton.mp hg
    exact absurd rfl hne

namespace Event

theorem Raw.isCoherent_record : Raw.record.IsCoherent where
  schema field hfield := by
    simp only [Raw.record, List.mem_cons, List.not_mem_nil, or_false] at hfield
    rcases hfield with rfl | rfl | rfl | rfl <;> dsimp only
    · exact (Schema.isCoherent_textual _ _).map _
    · exact Actor.isCoherent_record.schema_isCoherent.map _
    · exact (Schema.isCoherent_textual _ _).map _
    · exact Schema.isCoherent_anything.map _
  apart f hf g hg hne := by
    simp only [Raw.record, List.mem_cons, List.not_mem_nil, or_false] at hf hg
    rcases hf with rfl | rfl | rfl | rfl <;> rcases hg with rfl | rfl | rfl | rfl <;>
      first
      | exact absurd rfl hne
      | exact Json.Field.apart_map fun _ _ _ => ⟨rfl, rfl, rfl⟩

theorem isCoherent_listSchema : listSchema.IsCoherent :=
  (Raw.isCoherent_record.schema_isCoherent.refine Raw.interpret).listOf

end Event

/-- Where no object repeats a name, events that are read as a value first and events
that are read at once fail together and are otherwise the same. -/
theorem decode_toOption_eq_convert {document : String} {data : Value}
    (hdata : Schema.anything.decode document = .ok data)
    (hnames : Json.HasDistinctNames document) :
    (Event.listSchema.decode document).toOption = (Event.listSchema.convert data).toOption :=
  (Event.isCoherent_listSchema.agree_decode hdata hnames).toOption_eq

/-- Two events, one in an object out of order, with an unknown member and an escaped
name, and one in a list that ends before its payload. -/
def mixedDocument : String :=
  "[ \x7b\"x\" : [12,\x7b\"b\":\"\\ud83d\\ude00\"\x7d], " ++
    "\"payload\":\x7b\"size\":1,\"ref\":\"r\"\x7d,\"created_at\":\"1970-01-01T00:00:00Z\"," ++
    "\"actor\":[\"a\"],\"\\u0074ype\":\"PushEvent\"\x7d, " ++
    "[\"WatchEvent\",\x7b\"login\":\"b\"\x7d,\"1970-01-01T00:00:01Z\"] ]"

def mixedTree : Value :=
  .list [
    .object [
      ("x", .list [.number (.whole 12), .object [("b", .text "😀")]]),
      ("payload", .object [("size", .number (.whole 1)), ("ref", .text "r")]),
      ("created_at", .text "1970-01-01T00:00:00Z"),
      ("actor", .list [.text "a"]),
      ("type", .text "PushEvent")],
    .list [.text "WatchEvent", .object [("login", .text "b")], .text "1970-01-01T00:00:01Z"]]

def mixedEvents : List Event := [
  ⟨⟨"a"⟩, ⟨0, 0⟩, .push ⟨"r", []⟩⟩,
  ⟨⟨"b"⟩, ⟨1, 0⟩, .other "WatchEvent" .null⟩]

theorem decode_toOption_eq_convert_mixed :
    Schema.anything.decode mixedDocument = .ok mixedTree.normal ∧
      Json.HasDistinctNames mixedDocument ∧
      (Event.listSchema.decode mixedDocument).toOption = some mixedEvents ∧
      (Event.listSchema.convert mixedTree.normal).toOption = some mixedEvents := by
  have hread : Json.readValue Json.depthLimit mixedDocument.toList = .ok (mixedTree, []) := by
    decide +kernel
  have hdata : Schema.anything.decode mixedDocument = .ok mixedTree.normal := by
    simp only [Schema.decode, Schema.anything, hread]
    rfl
  have hnames : Json.HasDistinctNames mixedDocument := by
    intro tree rest h
    rw [hread] at h
    cases h
    simp [mixedTree, Value.HasDistinctNames, Value.HasDistinctNamesItems,
      Value.HasDistinctNamesMembers]
  have hevents : (Event.listSchema.decode mixedDocument).toOption = some mixedEvents := by
    decide +kernel
  exact ⟨hdata, hnames, hevents, (decode_toOption_eq_convert hdata hnames).symm.trans hevents⟩

end RepoFeed
