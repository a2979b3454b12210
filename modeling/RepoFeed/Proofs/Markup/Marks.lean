import RepoFeed.Proofs.Markup.Lines
import RepoFeed.Proofs.Outcome
import RepoFeed.Proofs.Text.Digits

/-
The markup of a line and the marks in its data.

A tag begins with `<`, and a quote ends the value of an attribute.  These two marks
are counted in the lines of a feed: the templates of a line have a fixed number of
them, and whatever is beyond comes from data.  A message can add no `<`, since it is
escaped.  A ref that is no branch is shown as it is.  Of the names that a line puts
into its links and between them nothing is said unless they are free of marks.
-/

namespace RepoFeed
namespace Markup

/-! ## Counting a character -/

def occurrences (c : Char) (text : String) : Nat :=
  text.toList.count c

variable {c : Char}

@[simp]
theorem occurrences_append (a b : String) :
    occurrences c (a ++ b) = occurrences c a + occurrences c b := by
  rw [occurrences, String.toList_append, List.count_append]
  rfl

theorem occurrences_ofList (text : List Char) : occurrences c (String.ofList text) = text.count c := by
  rw [occurrences, String.toList_ofList]

theorem occurrences_eq_zero {text : String} : occurrences c text = 0 ↔ c ∉ text.toList :=
  List.count_eq_zero

/-- The marks of this file. -/
def IsMark (c : Char) : Prop := c = '<' ∨ c = '"'

theorem occurrences_of_unmarked {text : String} (hc : IsMark c)
    (htext : '<' ∉ text.toList ∧ '"' ∉ text.toList) : occurrences c text = 0 := by
  obtain rfl | rfl := hc
  · exact occurrences_eq_zero.mpr htext.1
  · exact occurrences_eq_zero.mpr htext.2

/-! ## Dates and numbers -/

theorem count_digits (hc : IsMark c) {digits : List Char} (h : Text.AreDigits digits) :
    digits.count c = 0 := by
  apply List.count_eq_zero.mpr
  intro hmem
  obtain rfl | rfl := hc <;> exact absurd (h _ hmem) (by decide)

theorem count_renderClock (hc : IsMark c) (t : Time.Instant) (offset : Int) :
    (t.renderClock offset).count c = 0 := by
  have hcolon : (':' == c) = false := by obtain rfl | rfl := hc <;> rfl
  have hpadded := fun n => count_digits hc (Time.areDigits_padded 2 n)
  simp only [Time.Instant.renderClock, List.count_append, List.count_cons, hpadded, hcolon]
  rfl

theorem count_renderYear (hc : IsMark c) (year : Int) : (Time.renderYear year).count c = 0 := by
  rw [List.count_eq_zero]
  intro h
  obtain hdigit | hsign := Time.of_mem_renderYear h
  · obtain rfl | rfl := hc <;> exact absurd hdigit (by decide)
  · obtain rfl | rfl := hc <;> exact absurd hsign (by decide)

theorem occurrences_eventDate (hc : IsMark c) {t : Time.Instant} {now : LocalTime}
    {text : String} (h : eventDate t now = .ok text) : occurrences c text = 0 := by
  obtain ⟨day, -, h⟩ := bind_eq_ok.mp h
  obtain ⟨today, -, h⟩ := bind_eq_ok.mp h
  obtain rfl := Except.ok.inj h
  have hdash : ('-' == c) = false := by obtain rfl | rfl := hc <;> rfl
  have hpadded := fun n => count_digits hc (Time.areDigits_padded 2 n)
  have hdate : (t.renderDate (now.offsetAt t)).count c = 0 := by
    simp only [Time.Instant.renderDate, Time.Date.render, List.count_append, List.count_cons,
      count_renderYear hc, hpadded, hdash]
    rfl
  have hon : occurrences c "on " = 0 := occurrences_of_unmarked hc (by decide)
  rw [occurrences_append, hon, occurrences_ofList, Nat.zero_add]
  split
  · exact count_renderClock hc t (now.offsetAt t)
  · exact hdate

theorem occurrences_toString (hc : IsMark c) (n : Nat) : occurrences c (toString n) = 0 := by
  show occurrences c (String.ofList (Nat.toDigits 10 n)) = 0
  rw [occurrences_ofList]
  exact count_digits hc (Text.areDigits_toDigits n)

/-! ## Messages -/

theorem count_flatMap_of_forall {f : Char → List Char} (h : ∀ d, (f d).count c = [d].count c)
    (text : List Char) : (text.flatMap f).count c = text.count c := by
  induction text with
  | nil => rfl
  | cons d text ih =>
    rw [List.flatMap_cons, List.count_append, h, ih, ← List.count_append]
    rfl

/-- A message brings no `<`, and of quotes those among the characters it is cut to. -/
theorem occurrences_commitMessage (message : String) :
    occurrences '<' (commitMessage message) = 0 ∧
      occurrences '"' (commitMessage message) = (message.toList.take 70).count '"' := by
  constructor
  · rw [commitMessage, occurrences_ofList]
    apply List.count_eq_zero.mpr
    intro hmem
    obtain ⟨d, -, hd⟩ := List.mem_flatMap.mp hmem
    unfold escapeLess at hd
    split_ifs at hd with hless
    · exact absurd hd (by decide)
    · exact hless (List.mem_singleton.mp hd).symm
  · have hampersand : ∀ d, (escapeAmpersand d).count '"' = [d].count '"' := by
      intro d
      unfold escapeAmpersand
      split_ifs with h
      · subst h
        rfl
      · rfl
    have hless : ∀ d, (escapeLess d).count '"' = [d].count '"' := by
      intro d
      unfold escapeLess
      split_ifs with h
      · subst h
        rfl
      · rfl
    rw [commitMessage, occurrences_ofList, count_flatMap_of_forall hless,
      count_flatMap_of_forall hampersand]
    rfl

/-! ## Links -/

/-- Repositories whose names can do no harm in markup. -/
def IsPlain (repository : Repository) : Prop :=
  ∀ c ∈ ['<', '>', '&', '"'],
    c ∉ repository.owner.toList ∧ c ∉ repository.name.toList

theorem occurrences_repositoryUrl (hc : IsMark c) {repository : Repository}
    (h : IsPlain repository) : occurrences c (repositoryUrl repository) = 0 := by
  have hnames : occurrences c repository.owner = 0 ∧ occurrences c repository.name = 0 := by
    have hmem : c ∈ ['<', '>', '&', '"'] := by obtain rfl | rfl := hc <;> decide
    exact (h c hmem).imp occurrences_eq_zero.mpr occurrences_eq_zero.mpr
  have hsite : occurrences c site = 0 := occurrences_of_unmarked hc (by decide)
  have hslash : occurrences c "/" = 0 := occurrences_of_unmarked hc (by decide)
  simp only [repositoryUrl, occurrences_append, hnames, hsite, hslash]

/-- A link has two marks of each kind. -/
theorem occurrences_anchor (hc : IsMark c) (url label : String) :
    occurrences c (anchor url label) = 2 + occurrences c url + occurrences c label := by
  have hframe : occurrences c "<a href=\"" + occurrences c "\">" + occurrences c "</a>" = 2 := by
    obtain rfl | rfl := hc <;> decide
  simp only [anchor, occurrences_append]
  omega

theorem occurrences_userUrl (hc : IsMark c) (login : String) :
    occurrences c (userUrl login) = occurrences c login := by
  have hsite : occurrences c site = 0 := occurrences_of_unmarked hc (by decide)
  have hslash : occurrences c "/" = 0 := occurrences_of_unmarked hc (by decide)
  simp only [userUrl, occurrences_append, hsite, hslash, Nat.zero_add]

theorem occurrences_branchLink (hc : IsMark c) {repository : Repository}
    (h : IsPlain repository) (branch : String) :
    occurrences c (branchLink repository branch) = 2 + 2 * occurrences c branch := by
  have htree : occurrences c "/tree/" = 0 := occurrences_of_unmarked hc (by decide)
  rw [branchLink, occurrences_anchor hc, treeUrl, occurrences_append, occurrences_append,
    occurrences_repositoryUrl hc h, htree]
  omega

theorem occurrences_refLabel (hc : IsMark c) {repository : Repository} (h : IsPlain repository)
    (ref : String) :
    occurrences c (refLabel repository ref) =
      if (Text.after? branchRefs.toList ref.toList).isSome then 2 + 2 * occurrences c ref
      else occurrences c ref := by
  unfold refLabel
  cases hafter : Text.after? branchRefs.toList ref.toList with
  | none => rfl
  | some branch =>
    have hopening : branchRefs.toList.count c = 0 := occurrences_of_unmarked hc (by decide)
    have hbranch : occurrences c ref = branch.count c := by
      rw [occurrences, Text.after?_eq_some_iff.mp hafter, List.count_append, hopening,
        Nat.zero_add]
    rw [hbranch, ← occurrences_ofList]
    exact occurrences_branchLink hc h _

/-! ## Lines -/

theorem occurrences_summary (hc : IsMark c) {view : View} {login description : String}
    {createdAt : Time.Instant} {text : String}
    (h : summary view login description createdAt = .ok text) :
    occurrences c text =
      (if c = '<' then 6 else 4) + 2 * occurrences c login + occurrences c description := by
  obtain ⟨date, hdate, h⟩ := bind_eq_ok.mp h
  obtain rfl := Except.ok.inj h
  have hframe : occurrences c "<li>" + occurrences c " " +
      occurrences c " <span class=\"date\">" + occurrences c "</span></li>" =
        if c = '<' then 4 else 2 := by
    obtain rfl | rfl := hc <;> decide
  simp only [occurrences_append, occurrences_anchor hc, occurrences_userUrl hc,
    occurrences_eventDate hc hdate]
  split_ifs at hframe ⊢ <;> omega

namespace Line

/-- Whether a line has a link to a branch. -/
def linksBranch : Line → Bool
  | .pushed _ ref _ => (Text.after? branchRefs.toList ref.toList).isSome
  | .created _ creation _ => creation.isBranch
  | .commit _ | .furtherCommits _ => false

/-- The marks in the templates of a line.  A link has two of each kind. -/
def template (c : Char) : Line → Nat
  | .commit _ => 4
  | .furtherCommits _ => 0
  | line => (if c = '<' then 6 else 4) + if line.linksBranch then 2 else 0

/-- What a message is cut to. -/
def shownMessage : Line → List Char
  | .commit shown => shown.message.toList.take 70
  | _ => []

/-- A ref that is no branch, which is shown as it is. -/
def unlinkedRef : Line → String
  | .pushed login ref createdAt => if (pushed login ref createdAt).linksBranch then "" else ref
  | _ => ""

/-- All other data of a line: logins, branches, what was created, and hashes. -/
def names : Line → List String
  | .pushed login ref createdAt =>
    if (pushed login ref createdAt).linksBranch then [login, ref] else [login]
  | .created login creation _ => [login, creation.refType, creation.ref.getD ""]
  | .commit shown => [shown.sha]
  | .furtherCommits _ => []

/-- The marks that data brings into a line.  What is linked is written twice, a hash
the second time in short. -/
def brought (c : Char) : Line → Nat
  | .pushed login ref createdAt =>
    2 * occurrences c login +
      (if (pushed login ref createdAt).linksBranch then 2 else 1) * occurrences c ref
  | .created login creation createdAt =>
    2 * occurrences c login + occurrences c creation.refType +
      (if (created login creation createdAt).linksBranch then 2 else 1) *
        occurrences c (creation.ref.getD "")
  | .commit shown =>
    occurrences c shown.sha + occurrences c (shortSha shown.sha) +
      if c = '"' then (shownMessage (commit shown)).count c else 0
  | .furtherCommits _ => 0

end Line

section

variable (hc : IsMark c) {view : View} (h : IsPlain view.repository) {text : String}
include hc h

theorem occurrences_pushed {login ref : String} {createdAt : Time.Instant}
    (htext : (Line.pushed login ref createdAt).render view = .ok text) :
    occurrences c text = (Line.pushed login ref createdAt).template c +
      (Line.pushed login ref createdAt).brought c := by
  have hpushed : occurrences c "pushed to " = 0 := occurrences_of_unmarked hc (by decide)
  have hlabel : occurrences c (refLabel view.repository ref) =
      if (Line.pushed login ref createdAt).linksBranch then 2 + 2 * occurrences c ref
      else occurrences c ref :=
    occurrences_refLabel hc h ref
  simp only [occurrences_summary hc htext, occurrences_append, hpushed, hlabel, Line.template,
    Line.brought]
  split_ifs <;> omega

theorem occurrences_created {login : String} {creation : Creation} {createdAt : Time.Instant}
    (htext : (Line.created login creation createdAt).render view = .ok text) :
    occurrences c text = (Line.created login creation createdAt).template c +
      (Line.created login creation createdAt).brought c := by
  have hcreated : occurrences c "created " = 0 := occurrences_of_unmarked hc (by decide)
  have hblank : occurrences c " " = 0 := occurrences_of_unmarked hc (by decide)
  have hlabel : occurrences c (creationLabel view.repository creation) =
      if (Line.created login creation createdAt).linksBranch then
        2 + 2 * occurrences c (creation.ref.getD "")
      else occurrences c (creation.ref.getD "") := by
    show occurrences c (if creation.isBranch then _ else _) = if creation.isBranch then _ else _
    split
    · exact occurrences_branchLink hc h _
    · rfl
  simp only [occurrences_summary hc htext, occurrences_append, hcreated, hblank, hlabel,
    Line.template, Line.brought]
  split_ifs <;> omega

theorem occurrences_commit {shown : Commit}
    (htext : (Line.commit shown).render view = .ok text) :
    occurrences c text = 4 + (Line.commit shown).brought c := by
  obtain rfl := Except.ok.inj htext
  have hpath : occurrences c "/commit/" = 0 := occurrences_of_unmarked hc (by decide)
  have hframe : occurrences c "<li class=\"commit\">" + occurrences c " " +
      occurrences c "</li>" = 2 := by
    obtain rfl | rfl := hc <;> decide
  have hmessage : occurrences c (commitMessage shown.message) =
      if c = '"' then ((Line.commit shown).shownMessage).count c else 0 := by
    obtain ⟨hless, hquote⟩ := occurrences_commitMessage shown.message
    obtain rfl | rfl := hc
    · exact hless
    · exact hquote
  simp only [occurrences_append, occurrences_anchor hc, commitUrl,
    occurrences_repositoryUrl hc h, hpath, hmessage, Line.brought]
  omega

/-- A line has the marks of its templates and those of its data. -/
theorem occurrences_render {line : Line} (htext : line.render view = .ok text) :
    occurrences c text = line.template c + line.brought c := by
  cases line with
  | pushed login ref createdAt => exact occurrences_pushed hc h htext
  | created login creation createdAt => exact occurrences_created hc h htext
  | commit shown => exact occurrences_commit hc h htext
  | furtherCommits count =>
    obtain rfl := Except.ok.inj htext
    have hframe : occurrences c "and " = 0 ∧ occurrences c " more commits" = 0 :=
      ⟨occurrences_of_unmarked hc (by decide), occurrences_of_unmarked hc (by decide)⟩
    show occurrences c ("and " ++ toString count ++ " more commits") = 0
    simp only [occurrences_append, occurrences_toString hc, hframe]

end

theorem occurrences_shortSha_le (sha : String) :
    occurrences c (shortSha sha) ≤ occurrences c sha := by
  rw [shortSha, occurrences_ofList]
  exact (List.take_sublist _ _).count_le c

/-- Where names are free of a mark, a ref that is no branch brings its own, and a message
brings quotes. -/
theorem brought_of_names {line : Line} (hnames : ∀ name ∈ line.names, c ∉ name.toList) :
    line.brought c =
      occurrences c line.unlinkedRef + if c = '"' then line.shownMessage.count c else 0 := by
  replace hnames := fun name hname => occurrences_eq_zero.mpr (hnames name hname)
  have hempty : occurrences c "" = 0 := rfl
  cases line with
  | pushed login ref createdAt =>
    have hlogin : occurrences c login = 0 := by
      apply hnames
      simp only [Line.names]
      split <;> exact List.mem_cons_self
    simp only [Line.brought, Line.unlinkedRef, Line.shownMessage, hlogin, List.count_nil, ite_self]
    split_ifs with hlinked
    · rw [hnames ref (by simp [Line.names, hlinked]), hempty]
    · omega
  | created login creation createdAt =>
    simp only [Line.names, List.forall_mem_cons] at hnames
    obtain ⟨hlogin, htype, href, -⟩ := hnames
    simp only [Line.brought, Line.unlinkedRef, Line.shownMessage, hlogin, htype, href, hempty,
      List.count_nil, ite_self, Nat.mul_zero, Nat.add_zero]
  | commit shown =>
    have hsha : occurrences c shown.sha = 0 := hnames _ (List.mem_singleton_self _)
    have hshort := occurrences_shortSha_le (c := c) shown.sha
    simp only [Line.brought, Line.unlinkedRef, hempty]
    omega
  | furtherCommits count =>
    simp only [Line.brought, Line.unlinkedRef, Line.shownMessage, hempty, List.count_nil,
      ite_self]

/-- In a feed for a plain repository a line has the marks of its templates, unless its
names have any.  A message adds no `<`; it adds the quotes among the characters that it
is cut to.  A ref that is no branch adds its own. -/
theorem count_project {view : View} (h : IsPlain view.repository) (events : List Event) :
    project view events = (fill lineLimit events).mapM (·.render view) ∧
      ∀ line ∈ fill lineLimit events, (∃ event ∈ events, line ∈ eventLines event) ∧
        ∀ text, line.render view = .ok text →
          ((∀ name ∈ line.names, '<' ∉ name.toList) →
            text.toList.count '<' = line.template '<' + line.unlinkedRef.toList.count '<') ∧
          ((∀ name ∈ line.names, '"' ∉ name.toList) →
            text.toList.count '"' = line.template '"' + (line.unlinkedRef.toList.count '"' +
              line.shownMessage.count '"')) := by
  refine ⟨rfl, fun line hline => ⟨?_, fun text htext => ⟨?_, ?_⟩⟩⟩
  · rw [fill_eq_take] at hline
    exact List.mem_flatMap.mp (List.mem_of_mem_take hline)
  · intro hnames
    have hrender := occurrences_render (.inl rfl) h htext
    rw [brought_of_names hnames] at hrender
    exact hrender
  · intro hnames
    have hrender := occurrences_render (.inr rfl) h htext
    rw [brought_of_names hnames] at hrender
    exact hrender

/-- A commit whose message would like to be a script. -/
def scriptCommit : Commit :=
  ⟨"0123456789", "<script>alert(\"&\")</script>"⟩

def scriptPush : Event :=
  ⟨⟨"jakobt"⟩, ⟨0, 0⟩, .push ⟨"refs/tags/<v1>", [scriptCommit]⟩⟩

theorem count_project_script :
    IsPlain plainView.repository ∧
      (∀ line ∈ eventLines scriptPush, ∀ name ∈ line.names,
        '<' ∉ name.toList ∧ '"' ∉ name.toList) ∧
      ∃ text, (Line.commit scriptCommit).render plainView = .ok text ∧
        text.toList.count '<' = 4 ∧ text.toList.count '"' = 6 := by
  have hplain : IsPlain plainView.repository := by simp [IsPlain, plainView]
  have hnames : ∀ line ∈ eventLines scriptPush, ∀ name ∈ line.names,
      '<' ∉ name.toList ∧ '"' ∉ name.toList := by decide
  have hline : Line.commit scriptCommit ∈ fill lineLimit [scriptPush] := by decide
  have hcount := ((count_project hplain [scriptPush]).2 _ hline).2
  obtain ⟨hless, hquote⟩ := hcount _ rfl
  have hunmarked := hnames (.commit scriptCommit) (by decide)
  exact ⟨hplain, hnames, _, rfl, hless fun name hname => (hunmarked name hname).1,
    (hquote fun name hname => (hunmarked name hname).2).trans (by decide)⟩

/-- Events with a mark in each place that shows one: login, ref, hash and message of the
first, type and name of the second, branch of the third. -/
def markedEvents : List Event := [
  ⟨⟨"<b>"⟩, ⟨0, 0⟩, .push ⟨"refs/tags/<v1>", [⟨"<0", "say \"hi\""⟩]⟩⟩,
  ⟨⟨"jakobt"⟩, ⟨0, 0⟩, .create ⟨some "<v2", "<tag"⟩⟩,
  ⟨⟨"jakobt"⟩, ⟨0, 0⟩, .push ⟨"refs/heads/<m", []⟩⟩]

theorem not_count_project_marked :
    IsPlain plainView.repository ∧
      ∃ lines, project plainView markedEvents = .ok lines ∧
        lines.map (·.toList.count '<') = [9, 6, 8, 10] ∧
        lines.map (·.toList.count '"') = [4, 6, 4, 6] ∧
        ¬ ∀ line ∈ fill lineLimit markedEvents, ∀ text, line.render plainView = .ok text →
          text.toList.count '<' = line.template '<' ∧
            text.toList.count '"' = line.template '"' := by
  have hplain : IsPlain plainView.repository := by simp [IsPlain, plainView]
  obtain ⟨lines, hlines⟩ : ∃ lines, project plainView markedEvents = .ok lines := ⟨_, rfl⟩
  have hcount : ∀ c, IsMark c → lines.map (·.toList.count c) =
      (fill lineLimit markedEvents).map fun line => line.template c + line.brought c :=
    fun c hc => map_of_mapM_eq_ok (fun _ _ htext => occurrences_render hc hplain htext) hlines
  have hless := (hcount '<' (.inl rfl)).trans (show _ = [9, 6, 8, 10] by decide)
  have hquote := (hcount '"' (.inr rfl)).trans (show _ = [4, 6, 4, 6] by decide)
  refine ⟨hplain, lines, hlines, hless, hquote, fun hall => ?_⟩
  obtain ⟨text, htext⟩ : ∃ text, (Line.commit ⟨"<0", "say \"hi\""⟩).render plainView = .ok text :=
    ⟨_, rfl⟩
  have hmarks := (hall _ (by decide) text htext).1
  rw [show text.toList.count '<' = _ from occurrences_render (.inl rfl) hplain htext] at hmarks
  exact absurd hmarks (by decide)

end Markup
end RepoFeed
