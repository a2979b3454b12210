import RepoFeed.Proofs.Outcome
import RepoFeed.Proofs.Reply.Wrapper
import RepoFeed.Request.Exchange

/-
The bodies that are calls of a callback.

What may stand around the argument of a call is a grammar: blanks wherever a script
could have them, a comment in front, a semicolon behind.  The brackets that count are
the first one after the name and the last one of the body, so a body is a call with one
argument at most, and the argument keeps whatever blanks, brackets and semicolons it
has of its own.
-/

namespace RepoFeed
namespace Wrapper

open Text (after? before? isBlank trim trimEnd trimStart)

/-- White space only. -/
def AreBlank (text : List Char) : Prop :=
  ∀ c ∈ text, isBlank c = true

instance (text : List Char) : Decidable (AreBlank text) :=
  inferInstanceAs (Decidable (∀ c ∈ text, _))

/-- A body that is a call of `callback` with the argument `inner`.  A comment that the
body begins with is never part of the callback. -/
inductive IsCallOf (callback inner body : List Char) : Prop
  | guarded {lead gap space tail : List Char} (hlead : AreBlank lead) (hgap : AreBlank gap)
      (hspace : AreBlank space) (htail : IsTail tail)
      (hbody : body = lead ++ (guard ++ (gap ++ (callback ++ (space ++
        '(' :: (inner ++ ')' :: tail))))))
  | plain {lead space tail : List Char} (hlead : AreBlank lead) (hspace : AreBlank space)
      (htail : IsTail tail) (hguard : ¬ guard <+: trimStart body)
      (hbody : body = lead ++ (callback ++ (space ++ '(' :: (inner ++ ')' :: tail))))

/-! ## Blanks at the two ends -/

theorem exists_trimStart (text : List Char) :
    ∃ blanks, AreBlank blanks ∧ text = blanks ++ trimStart text := by
  refine ⟨text.takeWhile isBlank, fun c hc => ?_, List.takeWhile_append_dropWhile.symm⟩
  exact List.all_eq_true.mp List.all_takeWhile c hc

theorem exists_trimEnd (text : List Char) :
    ∃ blanks, AreBlank blanks ∧ text = trimEnd text ++ blanks := by
  obtain ⟨blanks, hblanks, htext⟩ := exists_trimStart text.reverse
  refine ⟨blanks.reverse, fun c hc => hblanks c (List.mem_reverse.mp hc), ?_⟩
  have hreverse := congrArg List.reverse htext
  rwa [List.reverse_reverse, List.reverse_append] at hreverse

theorem filter_of_blanks {blanks : List Char} (h : AreBlank blanks) :
    blanks.filter (!isBlank ·) = [] := by
  rw [List.filter_eq_nil_iff]
  intro c hc
  simp [h c hc]

theorem isTail_of_blanks {blanks : List Char} (h : AreBlank blanks) : IsTail blanks :=
  .inl (filter_of_blanks h)

theorem isTail_semicolon {blanks : List Char} (h : AreBlank blanks) : IsTail (blanks ++ [';']) :=
  .inr (by rw [List.filter_append, filter_of_blanks h]; rfl)

theorem IsTail.append {tail blanks : List Char} (htail : IsTail tail) (hblanks : AreBlank blanks) :
    IsTail (tail ++ blanks) := by
  rwa [IsTail, List.filter_append, filter_of_blanks hblanks, List.append_nil]

theorem trimStart_of_head {text : List Char} (h : ∀ c ∈ text.head?, isBlank c = false) :
    trimStart text = text := by
  cases text with
  | nil => rfl
  | cons c text => exact Text.trimStart_cons_of_not_blank (h c rfl)

theorem trimStart_of_blanks_append {blanks text : List Char} (h : AreBlank blanks)
    (htext : ∀ c ∈ text.head?, isBlank c = false) : trimStart (blanks ++ text) = text := by
  rw [Text.trimStart_append h, trimStart_of_head htext]

/-- Blanks in front of a callback go, and if it is the empty one, then with them the
blanks behind it. -/
theorem trimStart_callback {callback : List Char} (h : ∀ c ∈ callback.head?, isBlank c = false)
    {lead space : List Char} (hlead : AreBlank lead) (hspace : AreBlank space)
    (rest : List Char) :
    ∃ left, AreBlank left ∧ trimStart (lead ++ (callback ++ (space ++ '(' :: rest))) =
      callback ++ (left ++ '(' :: rest) := by
  cases callback with
  | nil =>
    refine ⟨[], nofun, ?_⟩
    rw [Text.trimStart_append hlead]
    exact trimStart_of_blanks_append hspace fun c hc => by cases hc; rfl
  | cons c callback =>
    refine ⟨space, hspace, trimStart_of_blanks_append hlead fun d hd => ?_⟩
    exact h d hd

/-! ## The argument -/

/-- From the bracket on a call is its argument, the last bracket, and a tail. -/
theorem exists_of_closing {rest inner : List Char}
    (h : before? [')'] (trimEnd ((before? [';'] (trimEnd rest)).getD (trimEnd rest))) =
      some inner) : ∃ tail, IsTail tail ∧ rest = inner ++ ')' :: tail := by
  rw [Text.before?_eq_some_iff] at h
  obtain ⟨behind, hbehind, hrest⟩ := exists_trimEnd rest
  cases hsemicolon : before? [';'] (trimEnd rest) with
  | none =>
    rw [hsemicolon, Option.getD_none] at h
    obtain ⟨blanks, hblanks, htrim⟩ := exists_trimEnd (trimEnd rest)
    rw [h] at htrim
    refine ⟨blanks ++ behind, (isTail_of_blanks hblanks).append hbehind, ?_⟩
    rw [hrest, htrim]
    simp
  | some before =>
    rw [hsemicolon, Option.getD_some] at h
    obtain ⟨blanks, hblanks, htrim⟩ := exists_trimEnd before
    rw [h] at htrim
    refine ⟨blanks ++ [';'] ++ behind, (isTail_semicolon hblanks).append hbehind, ?_⟩
    rw [hrest, Text.before?_eq_some_iff.mp hsemicolon, htrim]
    simp

/-! ## The call -/

/-- Blanks between the callback and the bracket do not matter. -/
theorem takeCall_space {space : List Char} (h : AreBlank space) (callback rest : List Char) :
    takeCall callback (callback ++ (space ++ rest)) = takeCall callback (callback ++ rest) := by
  have hafter : ∀ rest, after? callback (callback ++ rest) = some rest :=
    fun rest => Text.after?_eq_some_iff.mpr rfl
  simp only [takeCall, hafter, expecting, bind, Except.bind, Text.trimStart_append h]

theorem expecting_eq_ok {fault : Fault} {found : Option (List Char)} {rest : List Char} :
    expecting fault found = .ok rest ↔ found = some rest := by
  cases found <;> simp [expecting]

/-- From the callback on a body is a call exactly if its argument can be taken. -/
theorem takeCall_eq_ok_iff {callback rest inner : List Char} :
    takeCall callback rest = .ok inner ↔ ∃ space tail, AreBlank space ∧ IsTail tail ∧
      rest = callback ++ (space ++ '(' :: (inner ++ ')' :: tail)) := by
  constructor
  · intro h
    obtain ⟨behind, hcallback, h⟩ := bind_eq_ok.mp h
    obtain ⟨argument, hopening, h⟩ := bind_eq_ok.mp h
    rw [expecting_eq_ok, Text.after?_eq_some_iff] at hcallback hopening
    obtain ⟨tail, htail, rfl⟩ := exists_of_closing (expecting_eq_ok.mp h)
    obtain ⟨space, hspace, hbehind⟩ := exists_trimStart behind
    refine ⟨space, tail, hspace, htail, ?_⟩
    rw [hcallback, hbehind, hopening]
    rfl
  · rintro ⟨space, tail, hspace, htail, rfl⟩
    rw [takeCall_space hspace]
    exact takeCall_call htail callback inner

/-- What is trimmed from the end of a call is part of its tail. -/
theorem trim_of_trimStart {body front tail : List Char} (h : trimStart body = front ++ ')' :: tail) :
    trim body = front ++ ')' :: trimEnd tail := by
  rw [trim, h]
  exact trimEnd_append_cons rfl front tail

theorem guard_prefix_trim {body : List Char} :
    guard <+: trim body ↔ guard <+: trimStart body := by
  constructor
  · intro h
    obtain ⟨blanks, -, hbody⟩ := exists_trimEnd (trimStart body)
    rw [hbody]
    exact h.trans (List.prefix_append _ _)
  · rintro ⟨rest, hrest⟩
    have hslash : guard ++ rest = ['/', '*', '*'] ++ '/' :: rest := rfl
    rw [trim, ← hrest, hslash, trimEnd_append_cons rfl]
    exact ⟨trimEnd rest, rfl⟩

theorem unwrap_of_guard {body rest : List Char} (h : trim body = guard ++ rest)
    (callback : List Char) : unwrap body callback = takeCall callback (trimStart rest) := by
  rw [unwrap_eq, h, Text.after?_eq_some_iff.mpr rfl, Option.getD_some]

theorem unwrap_of_not_guard {body : List Char} (h : ¬ guard <+: trimStart body)
    (callback : List Char) : unwrap body callback = takeCall callback (trimStart (trim body)) := by
  have hnone : after? guard (trim body) = none := by
    cases hafter : after? guard (trim body) with
    | none => rfl
    | some rest =>
      have hguard : guard <+: trim body := ⟨rest, (Text.after?_eq_some_iff.mp hafter).symm⟩
      exact absurd (guard_prefix_trim.mp hguard) h
  rw [unwrap_eq, hnone, Option.getD_none]

theorem isCallOf_of_unwrap {callback inner body : List Char}
    (h : unwrap body callback = .ok inner) : IsCallOf callback inner body := by
  obtain ⟨lead, hlead, hbody⟩ := exists_trimStart body
  obtain ⟨behind, hbehind, hend⟩ := exists_trimEnd (trimStart body)
  by_cases hguard : guard <+: trimStart body
  · obtain ⟨rest, hrest⟩ := guard_prefix_trim.mpr hguard
    rw [unwrap_of_guard hrest.symm, takeCall_eq_ok_iff] at h
    obtain ⟨space, tail, hspace, htail, hcall⟩ := h
    obtain ⟨gap, hgap, hgapped⟩ := exists_trimStart rest
    refine .guarded hlead hgap hspace (htail.append hbehind) ?_
    rw [hbody, hend]
    show lead ++ (trim body ++ behind) = _
    rw [← hrest, hgapped, hcall]
    simp
  · rw [unwrap_of_not_guard hguard, takeCall_eq_ok_iff] at h
    obtain ⟨space, tail, hspace, htail, hcall⟩ := h
    obtain ⟨gap, hgap, hgapped⟩ := exists_trimStart (trim body)
    have hblank : AreBlank (lead ++ gap) :=
      fun c hc => (List.mem_append.mp hc).elim (hlead c) (hgap c)
    refine .plain hblank hspace (htail.append hbehind) hguard ?_
    rw [hbody, hend]
    show lead ++ (trim body ++ behind) = _
    rw [hgapped, hcall]
    simp

theorem unwrap_of_isCallOf {callback inner body : List Char}
    (hcallback : ∀ c ∈ callback.head?, isBlank c = false) (h : IsCallOf callback inner body) :
    unwrap body callback = .ok inner := by
  cases h with
  | @guarded lead gap space tail hlead hgap hspace htail hbody =>
    have hstart : trimStart body = (guard ++ (gap ++ (callback ++ (space ++
        '(' :: inner)))) ++ ')' :: tail := by
      rw [hbody, trimStart_of_blanks_append hlead fun c hc => by cases hc; rfl]
      simp
    have htrim : trim body = guard ++ (gap ++ (callback ++ (space ++
        '(' :: (inner ++ ')' :: trimEnd tail)))) := by
      rw [trim_of_trimStart hstart]
      simp
    obtain ⟨left, hleft, hrest⟩ :=
      trimStart_callback hcallback hgap hspace (inner ++ ')' :: trimEnd tail)
    rw [unwrap_of_guard htrim, hrest]
    exact takeCall_eq_ok_iff.mpr ⟨left, _, hleft, htail.trimEnd, rfl⟩
  | @plain lead space tail hlead hspace htail hguard hbody =>
    obtain ⟨left, hleft, hrest⟩ := trimStart_callback hcallback hlead hspace (inner ++ ')' :: tail)
    have hstart : trimStart body = (callback ++ (left ++ '(' :: inner)) ++ ')' :: tail := by
      rw [hbody, hrest]
      simp
    have htrim : trim body = callback ++ (left ++ '(' :: (inner ++ ')' :: trimEnd tail)) := by
      rw [trim_of_trimStart hstart]
      simp
    have hnone : AreBlank [] := nofun
    obtain ⟨again, hagain, hsame⟩ :=
      trimStart_callback hcallback hnone hleft (inner ++ ')' :: trimEnd tail)
    rw [unwrap_of_not_guard hguard, htrim]
    exact takeCall_eq_ok_iff.mpr ⟨again, _, hagain, htail.trimEnd, hsame⟩

/-- Only a callback that begins with a blank or like a comment can be mistaken
for something else. -/
theorem unwrap_call {callback : List Char}
    (h : ∀ c ∈ callback.head?, isBlank c = false ∧ c ≠ '/') (document : List Char) :
    unwrap (call callback document) callback = .ok document := by
  have hblank : ∀ c ∈ callback.head?, isBlank c = false := fun c hc => (h c hc).1
  have hnone : AreBlank [] := nofun
  have htail : IsTail [] := .inl rfl
  have hguard : ¬ guard <+: trimStart (call callback document) := by
    cases callback with
    | nil =>
      rw [call, List.nil_append, Text.trimStart_cons_of_not_blank rfl]
      rintro ⟨rest, hrest⟩
      cases hrest
    | cons c callback =>
      obtain ⟨hletter, hslash⟩ := h c rfl
      rw [call, List.cons_append, Text.trimStart_cons_of_not_blank hletter]
      rintro ⟨rest, hrest⟩
      exact hslash (List.cons.inj hrest).1.symm
  exact unwrap_of_isCallOf hblank (.plain hnone hnone htail hguard rfl)

/-- A comment in front of a call and blanks behind it are taken off, whatever callback
is asked for. -/
theorem unwrap_guarded {name : List Char} (hname : ∀ c ∈ name.head?, isBlank c = false)
    (document tail callback : List Char) :
    unwrap (guard ++ call name document ++ tail) callback =
      takeCall callback (name ++ '(' :: (document ++ ')' :: trimEnd tail)) := by
  have hbody : guard ++ call name document ++ tail =
      (guard ++ name ++ '(' :: document) ++ ')' :: tail := by simp [call]
  have hstart : trimStart (guard ++ call name document ++ tail) =
      (guard ++ name ++ '(' :: document) ++ ')' :: tail := by
    rw [hbody]
    exact Text.trimStart_cons_of_not_blank rfl
  have htrim : trim (guard ++ call name document ++ tail) =
      guard ++ (name ++ '(' :: (document ++ ')' :: trimEnd tail)) := by
    rw [trim_of_trimStart hstart]
    simp
  have hhead : trimStart (name ++ '(' :: (document ++ ')' :: trimEnd tail)) =
      name ++ '(' :: (document ++ ')' :: trimEnd tail) := by
    apply trimStart_of_head
    cases name with
    | nil => exact fun c hc => by cases hc; rfl
    | cons c name => exact hname
  rw [unwrap_of_guard htrim, hhead]

/-- A body is opened exactly if it is a call of the callback, and gives the one argument
of the call.  Any other body is refused for its wrapper. -/
theorem unwrap_eq_ok_iff {callback : String}
    (hcallback : ∀ c ∈ callback.toList.head?, isBlank c = false) (body : String) :
    (∀ inner, unwrap body.toList callback.toList = .ok inner ↔
        IsCallOf callback.toList inner body.toList) ∧
      (∀ inner other, IsCallOf callback.toList inner body.toList →
        IsCallOf callback.toList other body.toList → other = inner) ∧
      ((¬ ∃ inner, IsCallOf callback.toList inner body.toList) → ∃ fault,
        unwrap body.toList callback.toList = .error fault ∧
          Exchange.openEnvelope body callback = .error (.badWrapper fault)) := by
  have hiff : ∀ inner, unwrap body.toList callback.toList = .ok inner ↔
      IsCallOf callback.toList inner body.toList :=
    fun inner => ⟨isCallOf_of_unwrap, unwrap_of_isCallOf hcallback⟩
  refine ⟨hiff, fun inner other hinner hother => ?_, fun hnone => ?_⟩
  · rw [← hiff] at hinner hother
    exact Except.ok.inj (hother.symm.trans hinner)
  · cases hunwrap : unwrap body.toList callback.toList with
    | ok inner => exact absurd ⟨inner, (hiff inner).mp hunwrap⟩ hnone
    | error fault =>
      refine ⟨fault, rfl, ?_⟩
      rw [Exchange.openEnvelope, hunwrap]
      rfl

/-- A call with blanks everywhere, whose argument ends like a call. -/
theorem unwrap_eq_ok_iff_spaced :
    (∀ c ∈ "cb".toList.head?, isBlank c = false) ∧
      unwrap "\n/**/\u2003cb ( (a); ) ; \n".toList "cb".toList = .ok " (a); ".toList ∧
      ∀ other, IsCallOf "cb".toList other "\n/**/\u2003cb ( (a); ) ; \n".toList →
        other = " (a); ".toList := by
  have hcallback : ∀ c ∈ "cb".toList.head?, isBlank c = false := by simp [isBlank]
  obtain ⟨hiff, hunique, -⟩ := unwrap_eq_ok_iff hcallback "\n/**/\u2003cb ( (a); ) ; \n"
  have hlead : AreBlank "\n".toList := by simp [AreBlank, isBlank]
  have hgap : AreBlank "\u2003".toList := by simp [AreBlank, isBlank]
  have hspace : AreBlank " ".toList := by simp [AreBlank, isBlank]
  have htail : IsTail " ; \n".toList := by simp [IsTail, isBlank]
  have hcall : IsCallOf "cb".toList " (a); ".toList "\n/**/\u2003cb ( (a); ) ; \n".toList :=
    .guarded hlead hgap hspace htail (by decide)
  exact ⟨hcallback, (hiff _).mpr hcall, fun other hother => hunique _ other hcall hother⟩

end Wrapper
end RepoFeed
