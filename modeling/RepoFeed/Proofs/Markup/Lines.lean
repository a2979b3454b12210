import RepoFeed.Markup.Lines
import RepoFeed.Proofs.Activity.Event
import RepoFeed.Proofs.Markup.EventDate

/-
What a page takes from events.

A feed is filled event by event, and an event that brings too many lines is cut.
This comes to the same as all lines of all events, of which the first five are written.
A line that cannot be written is a panic; it stands here in its place among the others,
so that what counts is whether it is one of the five.  Payloads take no part in a page
unless they are pushes or creations.
-/

namespace RepoFeed
namespace Markup

/-! ## The first lines of all -/

theorem commitLines_eq (room : Nat) (commits : List Commit) :
    commitLines room commits = (commits.take room).map .commit ++
      if room < commits.length then [.furtherCommits (commits.length - room)] else [] := by
  induction commits generalizing room with
  | nil => simp [commitLines]
  | cons c commits ih =>
    cases room with
    | zero => simp [commitLines]
    | succ room =>
      rw [commitLines, ih, List.take_succ_cons, List.map_cons, List.cons_append,
        List.length_cons, Nat.add_sub_add_right]
      simp only [Nat.add_lt_add_iff_right]

/-- The induction is on the events.  What one event leaves of the room is what the
lines of the others may still take. -/
theorem fill_eq_take (room : Nat) (events : List Event) :
    fill room events = (events.flatMap eventLines).take room := by
  induction events generalizing room with
  | nil => cases room <;> simp [fill]
  | cons event events ih =>
    cases room with
    | zero => simp [fill]
    | succ room =>
      rw [fill, ih, List.flatMap_cons, List.take_append, List.length_take]
      congr 2
      omega

/-- What a push says of its commits: three of them, and how many there are beyond. -/
def listedCommits (view : View) (commits : List Commit) : List (Except Panic String) :=
  (commits.take 3).map (fun c => (Line.commit c).render view) ++
    if 3 < commits.length then
      [.ok ("and " ++ toString (commits.length - 3) ++ " more commits")]
    else []

/-- All lines of an event as text, whatever a feed has room for. -/
def fullLines (view : View) (event : Event) : List (Except Panic String) :=
  match event.kind with
  | .push push =>
    (Line.pushed event.actor.login push.ref event.createdAt).render view ::
      listedCommits view push.commits
  | .create creation => [(Line.created event.actor.login creation event.createdAt).render view]
  | .other .. => []

theorem map_render_commitLines (view : View) (commits : List Commit) :
    (commitLines commitLimit commits).map (·.render view) = listedCommits view commits := by
  rw [commitLines_eq, listedCommits, List.map_append, List.map_map]
  congr 1
  show List.map _ (if 3 < commits.length then _ else _) = _
  split <;> rfl

theorem map_render_eventLines (view : View) (event : Event) :
    (eventLines event).map (·.render view) = fullLines view event := by
  obtain ⟨actor, createdAt, kind⟩ := event
  cases kind with
  | push push => exact congrArg (_ :: ·) (map_render_commitLines view push.commits)
  | create creation => rfl
  | other type payload => rfl

/-- A feed is the first five lines of all lines of its events, in order.  So what
comes behind the event with the fifth line has no part in it. -/
theorem project_eq_take (view : View) :
    (∀ events, project view events = ((events.flatMap (fullLines view)).take 5).mapM id) ∧
      ∀ earlier later later', 5 ≤ (earlier.flatMap (fullLines view)).length →
        project view (earlier ++ later) = project view (earlier ++ later') := by
  have hproject : ∀ events,
      project view events = ((events.flatMap (fullLines view)).take 5).mapM id := by
    intro events
    have hlines : (fill lineLimit events).map (·.render view) =
        (events.flatMap (fullLines view)).take 5 := by
      rw [fill_eq_take, List.map_take, List.map_flatMap]
      simp only [map_render_eventLines]
      rfl
    rw [← hlines, List.mapM_map]
    rfl
  refine ⟨hproject, ?_⟩
  intro earlier later later' hfull
  rw [hproject, hproject, List.flatMap_append, List.flatMap_append,
    List.take_append_of_le_length hfull, List.take_append_of_le_length hfull]

/-- A push of five commits, which takes all lines of a feed. -/
def fivefoldPush : Event :=
  ⟨⟨"jakobt"⟩, ⟨0, 0⟩, .push ⟨"refs/heads/master", List.replicate 5 ⟨"0123456789", "Fix sort"⟩⟩⟩

def laterTag : Event :=
  ⟨⟨"thomasmoelhave"⟩, ⟨0, 0⟩, .create ⟨some "v1.1", "tag"⟩⟩

def plainView : View :=
  ⟨⟨"thomasmoelhave", "tpie"⟩, ⟨0, 0⟩, fun _ => 0⟩

theorem project_eq_take_fivefold :
    5 ≤ ([fivefoldPush].flatMap (fullLines plainView)).length ∧
      project plainView ([fivefoldPush] ++ [laterTag]) =
        project plainView ([fivefoldPush] ++ []) := by
  have hfull : 5 ≤ ([fivefoldPush].flatMap (fullLines plainView)).length := Nat.le_refl 5
  exact ⟨hfull, (project_eq_take plainView).2 _ _ _ hfull⟩

/-! ## Lines that can be written -/

/-- Whether an instant has a date where a feed is seen. -/
def View.Dates (view : View) (t : Time.Instant) : Prop :=
  HasDate (t.seconds + view.now.zone t.seconds)

instance (view : View) (t : Time.Instant) : Decidable (view.Dates t) :=
  inferInstanceAs (Decidable (HasDate _))

section

variable {view : View} (hnow : view.Dates view.now.instant)

include hnow in
theorem exists_summary (login description : String) {createdAt : Time.Instant}
    (h : view.Dates createdAt) :
    ∃ text, summary view login description createdAt = .ok text := by
  rw [summary, eventDate_of_hasDate ⟨h, hnow⟩]
  exact ⟨_, rfl⟩

include hnow in
theorem exists_render {event : Event} (h : view.Dates event.createdAt) :
    ∀ line ∈ eventLines event, ∃ text, line.render view = .ok text := by
  obtain ⟨actor, createdAt, kind⟩ := event
  intro line hline
  cases kind with
  | push push =>
    obtain rfl | hline := List.mem_cons.mp hline
    · exact exists_summary hnow _ _ h
    · rw [commitLines_eq] at hline
      obtain hcommit | hfurther := List.mem_append.mp hline
      · obtain ⟨commit, -, rfl⟩ := List.mem_map.mp hcommit
        exact ⟨_, rfl⟩
      · split at hfurther
        · obtain rfl := List.mem_singleton.mp hfurther
          exact ⟨_, rfl⟩
        · cases hfurther
  | create creation =>
    obtain rfl := List.mem_singleton.mp hline
    exact exists_summary hnow _ _ h
  | other type payload => cases hline

include hnow in
/-- A page can be written if all its events have dates where it is seen. -/
theorem exists_page {events : List Event} (h : ∀ e ∈ events, view.Dates e.createdAt) :
    ∃ text, page view events = .ok text := by
  have hlines : ∀ line ∈ fill lineLimit events, ∃ text, line.render view = .ok text := by
    intro line hline
    rw [fill_eq_take] at hline
    obtain ⟨event, hevent, hline⟩ := List.mem_flatMap.mp (List.mem_of_mem_take hline)
    exact exists_render hnow (h event hevent) line hline
  obtain ⟨texts, htexts⟩ := exists_mapM_eq_ok hlines
  rw [page, project, htexts]
  exact ⟨_, rfl⟩

end

/-! ## Payloads that are not shown -/

theorem eventLines_bare (event : Event) : eventLines event.bare = eventLines event := by
  obtain ⟨actor, createdAt, kind⟩ := event
  cases kind with
  | push push => rfl
  | create creation => rfl
  | other type payload => rfl

theorem fill_map_bare (room : Nat) (events : List Event) :
    fill room (events.map Event.bare) = fill room events := by
  rw [fill_eq_take, fill_eq_take, List.flatMap_map]
  simp only [eventLines_bare]

/-- Payloads that say nothing about pushes and creations are not shown. -/
theorem page_eq_of_bare {read events : List Event}
    (h : read.map Event.bare = events.map Event.bare) (view : View) :
    page view read = page view events := by
  rw [page, page, project, project, ← fill_map_bare lineLimit read, h, fill_map_bare]

end Markup
end RepoFeed
