import RepoFeed.Proofs.Activity.Event
import RepoFeed.Request.Exchange

/-
The events that an exchange gives.

They have been taken from a document that was read as any value, so they are
regular, whatever the reply was.
-/

namespace RepoFeed
namespace Exchange

open Json (Number)

theorem keepsReading_envelope :
    Envelope.record.KeepsReading fun draft =>
      ∀ v ∈ draft.data, v.EveryNumber Number.IsReadable := by
  intro field hfield levels text update rest draft hupdate hdraft
  simp only [Envelope.record, List.mem_cons, List.not_mem_nil, or_false] at hfield
  rcases hfield with rfl | rfl <;> dsimp only at hupdate
  · obtain ⟨_, -, rfl⟩ := Json.Schema.exists_of_read_map hupdate
    exact hdraft
  · obtain ⟨_, hdata, rfl⟩ := Json.Schema.exists_of_read_map hupdate
    obtain ⟨tree, htree, rfl⟩ := Json.Schema.exists_of_read_anything hdata
    intro _ heq
    cases heq
    exact (Json.isReadable_of_readValue htree).normal

theorem isReadable_of_openEnvelope {body callback : String} {envelope : Envelope}
    (h : openEnvelope body callback = .ok envelope) :
    envelope.data.EveryNumber Number.IsReadable := by
  obtain ⟨document, -, h⟩ := bind_eq_ok.mp h
  obtain ⟨rest, hread, -⟩ := Json.Schema.exists_of_decode (mapError_eq_ok.mp h)
  obtain ⟨_, ⟨info, data⟩, -, hdraft, hcomplete⟩ :=
    Json.Record.exists_draft_of_read (fun levels => keepsReading_envelope.at levels)
      (fun _ => nofun) hread
  obtain ⟨_, -, hcomplete⟩ := bind_eq_ok.mp hcomplete
  obtain ⟨data', hdata, hcomplete⟩ := bind_eq_ok.mp hcomplete
  cases hcomplete
  cases data with
  | none => contradiction
  | some _ =>
    cases hdata
    exact hdraft _ rfl

/-- All events that a reply gives are regular. -/
theorem isRegular_of_hear {endpoint : Endpoint} {quota : Quota} {reply : Reply}
    {events : List Event} (h : (hear endpoint quota reply).result = .ok events) :
    ∀ e ∈ events, e.IsRegular := by
  cases reply with
  | none => contradiction
  | some response =>
    simp only [hear] at h
    split at h
    · split at h
      · contradiction
      · split at h
        · contradiction
        · rename_i envelope henvelope
          have hdata := isReadable_of_openEnvelope henvelope
          simp only [eventsOf] at h
          split at h
          · contradiction
          · split at h
            · exact Event.isRegular_of_convert hdata (mapError_eq_ok.mp h)
            · contradiction
    · contradiction

end Exchange
end RepoFeed
