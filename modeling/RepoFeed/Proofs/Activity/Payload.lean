import RepoFeed.Activity.Codec
import RepoFeed.Proofs.Json.RoundTrip
import RepoFeed.Proofs.Outcome

/-
Payloads of pushes and creations.

What is written for them is in normal form and is read as what it was written
from, so that a payload survives being kept as a value of any kind in between.
-/

namespace RepoFeed

open Json (Value)

theorem Commit.ofValue_toJson (commit : Commit) :
    Commit.record.ofValue commit.toJson = .ok commit := by
  simp [Commit.toJson, Commit.record, Json.Record.ofValue, Json.Record.ofMembers,
    Json.Record.field?, Json.Schema.map, Json.Schema.text, Json.Schema.textual, Json.needed,
    bind, Except.bind, Except.map, pure, Except.pure]

theorem Push.ofValue_toJson (push : Push) : Push.record.ofValue push.toJson = .ok push := by
  have hcommits : (push.commits.map Commit.toJson).mapM Commit.record.schema.ofValue =
      .ok push.commits :=
    mapM_map_of_ok push.commits fun commit _ => commit.ofValue_toJson
  simp [Push.toJson, Push.record, Json.Record.ofValue, Json.Record.ofMembers,
    Json.Record.field?, Json.Schema.map, Json.Schema.text, Json.Schema.textual, Json.needed,
    Json.Schema.listOf, hcommits, bind, Except.bind, Except.map, pure, Except.pure]

theorem Creation.ofValue_toJson (creation : Creation) :
    Creation.record.ofValue creation.toJson = .ok creation := by
  obtain ⟨ref, refType⟩ := creation
  cases ref <;>
    simp [Creation.toJson, Creation.record, Json.Record.ofValue, Json.Record.ofMembers,
      Json.Record.field?, Json.Schema.map, Json.Schema.text, Json.Schema.textual, Json.needed,
      Json.Schema.optional, bind, Except.bind, Except.map, pure, Except.pure]

/-! ## Normal form -/

theorem Commit.normal_toJson (commit : Commit) : commit.toJson.normal = commit.toJson := by
  simp only [Commit.toJson, Value.normal, Value.normalMembers_eq_map, List.map_cons, List.map_nil,
    Value.sortMembers, List.foldl_cons, List.foldl_nil, Value.insertMember, String.reduceEq,
    String.reduceLT, reduceIte]

theorem Push.normal_toJson (push : Push) : push.toJson.normal = push.toJson := by
  have hcommits : (Value.list (push.commits.map Commit.toJson)).normal =
      .list (push.commits.map Commit.toJson) := by
    rw [Value.normal, Value.normalItems_eq_map, List.map_map]
    exact congrArg Value.list (List.map_congr_left fun commit _ => commit.normal_toJson)
  simp only [Push.toJson, Value.normal, Value.normalMembers_eq_map, List.map_cons, List.map_nil,
    Value.sortMembers, List.foldl_cons, List.foldl_nil, Value.insertMember] at hcommits ⊢
  simp only [hcommits, String.reduceEq, String.reduceLT, reduceIte]

theorem Creation.normal_toJson (creation : Creation) :
    creation.toJson.normal = creation.toJson := by
  obtain ⟨ref, refType⟩ := creation
  cases ref <;>
    simp only [Creation.toJson, Value.normal, Value.normalMembers_eq_map, List.map_cons,
      List.map_nil, Value.sortMembers, List.foldl_cons, List.foldl_nil, Value.insertMember,
      String.reduceEq, String.reduceLT, reduceIte]

/-! ## Depth and numbers -/

theorem Push.depth_toJson_le (push : Push) : push.toJson.depth ≤ 3 := by
  have hcommits : Value.depthItems (push.commits.map Commit.toJson) ≤ 1 := by
    refine Value.depthItems_le_iff.mpr fun v hv => ?_
    obtain ⟨commit, -, rfl⟩ := List.mem_map.mp hv
    simp [Commit.toJson, Value.depth, Value.depthMembers]
  simp only [Push.toJson, Value.depth, Value.depthMembers]
  omega

theorem Creation.depth_toJson_le (creation : Creation) : creation.toJson.depth ≤ 3 := by
  obtain ⟨ref, refType⟩ := creation
  cases ref <;> simp [Creation.toJson, Value.depth, Value.depthMembers]

theorem Push.isExact_toJson (push : Push) : push.toJson.IsExact := by
  have hcommits : (Value.list (push.commits.map Commit.toJson)).IsExact := by
    refine Value.everyNumber_list.mpr fun v hv => ?_
    obtain ⟨commit, -, rfl⟩ := List.mem_map.mp hv
    simp [Commit.toJson, Value.EveryNumber, Value.EveryNumberMembers]
  exact ⟨hcommits, trivial, trivial⟩

theorem Creation.isExact_toJson (creation : Creation) : creation.toJson.IsExact := by
  obtain ⟨ref, refType⟩ := creation
  cases ref <;>
    simp [Creation.toJson, Value.IsExact, Value.EveryNumber, Value.EveryNumberMembers]

end RepoFeed
