import RepoFeed.Proofs.Request.Carrier

/-
Events on their way from a server to whoever asked for them.

Whatever list of events a decoder gives can be written into a reply, and whoever
asked under the callback that the reply names gets exactly this list.  Whoever
asked under any other name gets no events at all, be one name the beginning of
the other or not.
-/

namespace RepoFeed

open Json (Schema Value)

namespace Event

/-- Lists of events that a decoder gives, from a text at once or from the value that
the text holds. -/
def AreDecoded (events : List Event) : Prop :=
  (∃ document, listSchema.decode document = .ok events) ∨
    ∃ document data, Schema.anything.decode document = .ok data ∧
      listSchema.convert data = .ok events

theorem AreDecoded.isRegular {events : List Event} (h : AreDecoded events) :
    ∀ e ∈ events, e.IsRegular := by
  obtain ⟨document, h⟩ | ⟨document, data, hdata, h⟩ := h
  · obtain ⟨rest, hread, -⟩ := Schema.exists_of_decode h
    exact fun e he => (of_read_list hread e he).1
  · obtain ⟨rest, hread, -⟩ := Schema.exists_of_decode hdata
    obtain ⟨tree, htree, rfl⟩ := Schema.exists_of_read_anything hread
    exact isRegular_of_convert (Json.isReadable_of_readValue htree).normal h

end Event

namespace Exchange

/-- The text of a reply that brings events to a callback. -/
def replyText (callback : String) (status : Nat) (events : List Event) (tail : String) :
    String :=
  "/**/" ++ callback ++ "(\x7b\"meta\":\x7b\"status\":" ++ toString status ++
    "\x7d,\"data\":" ++ (Event.listToJson events).render ++ "\x7d)" ++ tail

theorem toList_replyText (callback : String) (status : Nat) (events : List Event)
    (tail : String) :
    (replyText callback status events tail).toList =
      Wrapper.guard ++ Wrapper.call callback.toList (documentOf status events).write ++
        tail.toList := by
  simp [replyText, Wrapper.guard, Wrapper.call, documentOf, Value.render, Value.write,
    Json.writeMembers, Json.renderText, Json.renderChar, Json.Numeral.render_whole]

theorem text?_replyText {response : Response} {callback tail : String} {status : Nat}
    {events : List Event} (hencoding : response.encoding = .utf8)
    (hbody : response.body =
      some (Utf8.encode (replyText callback status events tail).toList)) :
    response.text? = some (replyText callback status events tail) := by
  have htext := toList_replyText callback status events tail
  rw [htext] at hbody
  rw [← String.ofList_toList (s := replyText callback status events tail), htext]
  refine text?_of_utf8 hencoding hbody ?_
  show some '/' ≠ some '\uFEFF'
  decide

/-- Events from a decoder that are written into a reply arrive where the callback of
the reply was asked for, and nowhere else. -/
theorem hear_replyText {endpoint : Endpoint} {response : Response} {callback tail : String}
    {status : Nat} {events : List Event} (hevents : Event.AreDecoded events)
    (hfloat : ∀ e ∈ events, e.IsFloatFree) (hdepth : ∀ e ∈ events, e.payloadDepth ≤ 124)
    (hname : Wrapper.IsName callback.toList) (hasked : Wrapper.IsName endpoint.callback.toList)
    (hanswered : response.status.code ∈ [200, 201, 202])
    (hstatus : 200 ≤ status ∧ status ≤ 299) (htail : Wrapper.IsTail tail.toList)
    (htext : response.text? = some (replyText callback status events tail)) (quota : Quota) :
    (callback = endpoint.callback →
      (hear endpoint quota (some response)).result = .ok events) ∧
    (callback ≠ endpoint.callback → ∃ fault,
      (hear endpoint quota (some response)).result = .error (.badWrapper fault)) := by
  have hisAnswered : isAnswered response.status = true := by
    simpa [isAnswered, or_assoc] using hanswered
  have hhead : ∀ c ∈ callback.toList.head?, Text.isBlank c = false :=
    fun c hc => (hname c (List.mem_of_mem_head? hc)).1
  have hunwrap := Wrapper.unwrap_guarded hhead (documentOf status events).write tail.toList
    endpoint.callback.toList
  rw [← toList_replyText] at hunwrap
  refine ⟨fun hsame => ?_, fun hother => ?_⟩
  · subst hsame
    rw [Wrapper.takeCall_call htail.trimEnd] at hunwrap
    exact hear_of_unwrap hisAnswered htext hunwrap (by omega)
      (fun e he => ⟨hevents.isRegular e he, hfloat e he⟩) hdepth quota
  · have hne : endpoint.callback.toList ≠ callback.toList := fun heq =>
      hother (String.toList_inj.mp heq).symm
    obtain ⟨fault, hfault⟩ := Wrapper.takeCall_of_ne hname hasked hne _
    rw [hfault] at hunwrap
    refine ⟨fault, ?_⟩
    have hopen : openEnvelope (replyText callback status events tail) endpoint.callback =
        .error (.badWrapper fault) := by
      rw [openEnvelope, hunwrap]
      rfl
    simp only [hear, hisAnswered, htext, hopen, if_true]

/-- An event whose payload ends as a reply does. -/
def closingEvent : Event :=
  ⟨⟨"a"⟩, ⟨0, 0⟩, .other "WatchEvent" (.list [.text ");"])⟩

/-- A reply in UTF-8, created rather than found, with one semicolon among the blanks. -/
def closingReply : Response where
  status := ⟨201⟩
  headers := []
  body := some (Utf8.encode (replyText "cbx" 204 [closingEvent] " ;\n").toList)

/-- The reply is for `cbx` and not for `cb`. -/
theorem hear_replyText_closing :
    Event.AreDecoded [closingEvent] ∧
      closingReply.text? = some (replyText "cbx" 204 [closingEvent] " ;\n") ∧
      (hear ⟨⟨"o", "r"⟩, "cbx"⟩ .unknown (some closingReply)).result = .ok [closingEvent] ∧
      ∃ fault, (hear ⟨⟨"o", "r"⟩, "cb"⟩ .unknown (some closingReply)).result =
        .error (.badWrapper fault) := by
  have hdecoded : Event.AreDecoded [closingEvent] := by
    have hdecode : Event.listSchema.decode
        "[[\"WatchEvent\",[\"a\"],\"1970-01-01T00:00:00Z\",[\");\"]]]" = .ok [closingEvent] := by
      decide +kernel
    exact .inl ⟨_, hdecode⟩
  have hfloat : ∀ e ∈ [closingEvent], e.IsFloatFree :=
    List.forall_mem_singleton.mpr ⟨trivial, trivial⟩
  have htext : closingReply.text? = some (replyText "cbx" 204 [closingEvent] " ;\n") :=
    text?_replyText rfl rfl
  have hname : Wrapper.IsName "cbx".toList := by simp [Wrapper.IsName, Text.isBlank]
  have hasked : Wrapper.IsName "cb".toList := by simp [Wrapper.IsName, Text.isBlank]
  have hears := fun (endpoint : Endpoint) (hasked : Wrapper.IsName endpoint.callback.toList) =>
    hear_replyText hdecoded hfloat (by decide) hname hasked (by decide) (by decide)
      (by decide) htext .unknown
  exact ⟨hdecoded, htext, (hears ⟨⟨"o", "r"⟩, "cbx"⟩ hname).1 rfl,
    (hears ⟨⟨"o", "r"⟩, "cb"⟩ hasked).2 (by decide)⟩

end Exchange
end RepoFeed
