import RepoFeed.Proofs.Storage.FileSystem

/-
The way of a path.

Whoever follows a path passes the places that its beginnings lead to.  The
directories that are made for a path are made on its way, so a place off the way
stays as it is.
-/

namespace RepoFeed
namespace Storage
namespace FileSystem

variable {fs after : FileSystem}

/-! ## Places on a way -/

/-- Where the beginnings of names lead to from a place. -/
def OnWay (start : Place) (names : List String) (place : Place) : Prop :=
  ∃ front, front <+: names ∧ front.foldl follow start = place

/-- The places that a path passes, the first and the last one included. -/
def Passes (fs : FileSystem) (path : Path) (place : Place) : Prop :=
  OnWay (fs.start path.isAbsolute) path.names place

theorem length_foldl_follow_le (pieces : List String) (start : Place) :
    (pieces.foldl follow start).length ≤ start.length + pieces.length := by
  induction pieces generalizing start with
  | nil => exact Nat.le_refl _
  | cons piece pieces ih =>
    have hfollow : (follow start piece).length ≤ start.length + 1 := by
      unfold follow
      split
      · exact Nat.le_succ _
      · split
        · rw [List.length_dropLast]
          omega
        · exact Nat.le_of_eq List.length_append
    rw [List.foldl_cons, List.length_cons]
    have hrest := ih (follow start piece)
    omega

theorem foldl_follow_of_names {names : List String} (hdot : "." ∉ names) (hdots : ".." ∉ names)
    (start : Place) : names.foldl follow start = start ++ names := by
  induction names generalizing start with
  | nil => exact (List.append_nil start).symm
  | cons name names ih =>
    rw [List.mem_cons, not_or] at hdot hdots
    have hfollow : follow start name = start ++ [name] := by
      rw [follow, if_neg (Ne.symm hdot.1), if_neg (Ne.symm hdots.1)]
    rw [List.foldl_cons, hfollow, ih hdot.2 hdots.2, List.append_assoc, List.singleton_append]

namespace OnWay

variable {start place : Place} {names : List String} {name : String}

theorem first (start : Place) (names : List String) : OnWay start names start :=
  ⟨[], List.nil_prefix, rfl⟩

theorem last (start : Place) (names : List String) : OnWay start names (names.foldl follow start) :=
  ⟨names, List.prefix_refl names, rfl⟩

theorem cons (h : OnWay (follow start name) names place) : OnWay start (name :: names) place := by
  obtain ⟨front, hfront, hplace⟩ := h
  exact ⟨name :: front, List.cons_prefix_cons.mpr ⟨rfl, hfront⟩, hplace⟩

theorem of_prefix {front : List String} (hfront : front <+: names) (h : OnWay start front place) :
    OnWay start names place := by
  obtain ⟨shorter, hshorter, hplace⟩ := h
  exact ⟨shorter, hshorter.trans hfront, hplace⟩

/-- Single dots between names do not lead past other places. -/
theorem filter {pieces : List String} (h : OnWay start pieces place) :
    OnWay start (pieces.filter (· != ".")) place := by
  obtain ⟨front, hfront, hplace⟩ := h
  exact ⟨front.filter (· != "."), hfront.filter _, (foldl_follow_filter _ _).trans hplace⟩

theorem length_le (h : OnWay start names place) : place.length ≤ start.length + names.length := by
  obtain ⟨front, hfront, rfl⟩ := h
  exact Nat.le_trans (length_foldl_follow_le front start)
    (Nat.add_le_add_left hfront.length_le start.length)

end OnWay

theorem destination_of_names {path : Path} (hdots : ".." ∉ path.names) :
    fs.destination path = fs.start path.isAbsolute ++ path.names :=
  foldl_follow_of_names path.dot_not_mem_names hdots _

/-- A path that does not turn back passes its end last. -/
theorem not_onWay_dropLast {path : Path} (hnames : path.names ≠ []) (hdots : ".." ∉ path.names) :
    ¬ OnWay (fs.start path.isAbsolute) path.names.dropLast (fs.destination path) := by
  intro h
  have hlength := h.length_le
  rw [destination_of_names hdots, List.length_append, List.length_dropLast] at hlength
  have hpos := List.length_pos_iff.mpr hnames
  omega

/-! ## Directories that are made on the way -/

theorem at?_makeDirectory {isAbsolute : Bool} {names : List String} {place : Place}
    (h : fs.makeDirectory (Route.ofNames isAbsolute names) = .ok after)
    (hway : ¬ OnWay (fs.start isAbsolute) names place) : after.at? place = fs.at? place := by
  obtain ⟨made, hlocate, hmade⟩ := bind_eq_ok.mp h
  have hne : place ≠ made := by
    intro heq
    rw [heq, walk_eq_ok (of_locate hlocate).2] at hway
    exact hway (.last _ _)
  split at hmade
  · contradiction
  · split at hmade
    · contradiction
    · cases hmade
      exact at?_put_of_ne hne _

/-- Making directories changes nothing off their way. -/
theorem at?_makeDirectories {isAbsolute : Bool} {lastFirst : List String} {place : Place}
    (hway : ¬ OnWay (fs.start isAbsolute) lastFirst.reverse place) :
    (fs.makeDirectories isAbsolute lastFirst).1.at? place = fs.at? place := by
  induction lastFirst with
  | nil => rfl
  | cons name before ih =>
    have hbegins : before.reverse <+: (name :: before).reverse := by
      rw [List.reverse_cons]
      exact List.prefix_append _ _
    have hbefore := ih fun h => hway (h.of_prefix hbegins)
    have hcurrent : (fs.makeDirectories isAbsolute before).1.current = fs.current :=
      current_makeDirectories isAbsolute before
    rw [makeDirectories]
    split
    · exact at?_makeDirectory ‹_› hway
    · split
      · rename_i hmake
        rwa [hmake] at hbefore
      · rename_i hmake
        rw [hmake] at hbefore hcurrent
        split
        · refine (at?_makeDirectory ‹_› ?_).trans hbefore
          rwa [start, hcurrent]
        · exact hbefore
    · rfl

end FileSystem
end Storage
end RepoFeed
