import RepoFeed.Proofs.Storage.Replacement

/-
What a write does not look at.

An operation on files looks at the places that its paths pass and at no others.  Two
systems that have the same there take a write in the same way: each step fails in both
or in neither, and they have the same there afterwards.
-/

namespace RepoFeed
namespace Storage
namespace FileSystem

/-- Two systems that have the same at some places. -/
structure AgreeOn (places : Place → Prop) (fs fs' : FileSystem) : Prop where
  current : fs'.current = fs.current
  at? : ∀ place, places place → fs'.at? place = fs.at? place

/-- A route passes only some places. -/
def Route.Within (route : Route) (fs : FileSystem) (places : Place → Prop) : Prop :=
  ∀ place, OnWay (fs.start route.isAbsolute) route.pieces place → places place

variable {places : Place → Prop} {fs fs' : FileSystem} {route : Route}

namespace AgreeOn

theorem refl (places : Place → Prop) (fs : FileSystem) : AgreeOn places fs fs :=
  ⟨rfl, fun _ _ => rfl⟩

theorem of_put {place : Place} (h : ¬ places place) (entry : Entry) :
    AgreeOn places fs (fs.put place entry) := by
  refine ⟨rfl, fun other hother => at?_put_of_ne ?_ entry⟩
  intro heq
  rw [heq] at hother
  exact h hother

theorem start (h : AgreeOn places fs fs') (isAbsolute : Bool) :
    fs'.start isAbsolute = fs.start isAbsolute := by
  rw [FileSystem.start, FileSystem.start, h.current]

theorem put (h : AgreeOn places fs fs') (place : Place) (entry : Entry) :
    AgreeOn places (fs.put place entry) (fs'.put place entry) := by
  refine ⟨h.current, fun other hother => ?_⟩
  by_cases heq : other = place
  · subst heq
    by_cases hroot : other = []
    · subst hroot
      rfl
    · rw [at?_put_self hroot, at?_put_self hroot]
  · rw [at?_put_of_ne heq, at?_put_of_ne heq]
    exact h.at? other hother

theorem remove (h : AgreeOn places fs fs') (place : Place) :
    AgreeOn places (fs.remove place) (fs'.remove place) := by
  refine ⟨h.current, fun other hother => ?_⟩
  by_cases heq : other = place
  · subst heq
    by_cases hroot : other = []
    · subst hroot
      rfl
    · rw [at?_remove_self hroot, at?_remove_self hroot]
  · rw [at?_remove_of_ne heq, at?_remove_of_ne heq]
    exact h.at? other hother

/-! ## Following routes -/

theorem walk (h : AgreeOn places fs fs') {pieces : List String} {start : Place}
    (hway : ∀ place, OnWay start pieces place → places place) :
    fs'.walk start pieces = fs.walk start pieces := by
  induction pieces generalizing start with
  | nil => rfl
  | cons piece pieces ih =>
    have hchild : fs'.child start piece = fs.child start piece := by
      rw [child, child, h.at? start (hway start (.first _ _))]
    rw [FileSystem.walk, FileSystem.walk, hchild]
    cases hnext : fs.child start piece with
    | error fault => rfl
    | ok next =>
      obtain rfl := (child_eq_ok hnext).symm
      exact ih fun place hplace => hway place hplace.cons

theorem locate (h : AgreeOn places fs fs') (hway : route.Within fs places) :
    fs'.locate route = fs.locate route := by
  rw [FileSystem.locate, FileSystem.locate, h.start, h.walk hway]

/-- What a route leads to is the same in both. -/
theorem at?_of_locate (h : AgreeOn places fs fs') (hway : route.Within fs places) {place : Place}
    (hlocate : fs.locate route = .ok place) : fs'.at? place = fs.at? place := by
  apply h.at?
  apply hway
  rw [walk_eq_ok (of_locate hlocate).2]
  exact .last _ _

theorem isDirectory (h : AgreeOn places fs fs') (hway : route.Within fs places) :
    fs'.isDirectory route = fs.isDirectory route := by
  have hlookup : fs'.lookup route = fs.lookup route := by
    rw [lookup, lookup, h.locate hway]
    cases hlocate : fs.locate route with
    | error fault => rfl
    | ok place => rw [ok_bind, ok_bind, h.at?_of_locate hway hlocate]
  rw [FileSystem.isDirectory, FileSystem.isDirectory, hlookup]

/-! ## Changes -/

theorem makeDirectory (h : AgreeOn places fs fs') (hway : route.Within fs places) :
    Alike (AgreeOn places) (fs.makeDirectory route) (fs'.makeDirectory route) := by
  rw [FileSystem.makeDirectory, FileSystem.makeDirectory, h.locate hway]
  cases hlocate : fs.locate route with
  | error fault => exact .error fault
  | ok place =>
    rw [ok_bind, ok_bind, h.at?_of_locate hway hlocate]
    split
    · exact .error _
    · split
      · exact .error _
      · exact .ok (h.put place _)

theorem create (h : AgreeOn places fs fs') (hway : route.Within fs places) :
    Alike (AgreeOn places) (fs.create route) (fs'.create route) := by
  rw [FileSystem.create, FileSystem.create, h.locate hway]
  cases hlocate : fs.locate route with
  | error fault => exact .error fault
  | ok place =>
    rw [ok_bind, ok_bind, h.at?_of_locate hway hlocate]
    split
    · exact .error _
    · split
      · exact .error _
      · exact .ok (h.put place _)

theorem fillFile (h : AgreeOn places fs fs') (hway : route.Within fs places)
    (content : Utf8.Octets) :
    Alike (AgreeOn places) (fs.fillFile route content) (fs'.fillFile route content) := by
  rw [FileSystem.fillFile, FileSystem.fillFile, h.locate hway]
  cases hlocate : fs.locate route with
  | error fault => exact .error fault
  | ok place =>
    rw [ok_bind, ok_bind, h.at?_of_locate hway hlocate]
    split
    · exact .error _
    · exact .error _
    · exact .ok (h.put place _)

theorem rename (h : AgreeOn places fs fs') {source target : Route}
    (hsource : source.Within fs places) (htarget : target.Within fs places) :
    Alike (AgreeOn places) (fs.rename source target) (fs'.rename source target) := by
  rw [FileSystem.rename, FileSystem.rename, h.locate hsource, h.locate htarget]
  cases hfrom : fs.locate source with
  | error fault => exact .error fault
  | ok origin =>
    cases hto : fs.locate target with
    | error fault => exact .error fault
    | ok goal =>
      simp only [ok_bind, h.at?_of_locate hsource hfrom, h.at?_of_locate htarget hto]
      split
      · exact .error _
      · split
        · exact .error _
        · exact .error _
        · split
          · exact .error _
          · split
            · exact .ok h
            · split
              · exact .error _
              · exact .ok ((h.remove origin).put goal _)

end AgreeOn

/-- Two operations that end alike, with the same at some places. -/
def EndAlike (places : Place → Prop) (x y : FileSystem × Except Fault Unit) : Prop :=
  AgreeOn places x.1 y.1 ∧ y.2 = x.2

theorem AgreeOn.makeDirectories (h : AgreeOn places fs fs') {isAbsolute : Bool}
    {lastFirst : List String}
    (hway : ∀ place, OnWay (fs.start isAbsolute) lastFirst.reverse place → places place) :
    EndAlike places (fs.makeDirectories isAbsolute lastFirst)
      (fs'.makeDirectories isAbsolute lastFirst) := by
  induction lastFirst with
  | nil => exact ⟨h, rfl⟩
  | cons name before ih =>
    have hbefore := ih fun place hplace => hway place (hplace.of_prefix (by simp))
    have hcurrent : (fs.makeDirectories isAbsolute before).1.current = fs.current :=
      current_makeDirectories isAbsolute before
    have hroute : (Route.ofNames isAbsolute (name :: before).reverse).Within fs places := hway
    have hmade := h.makeDirectory hroute
    have hstands := h.isDirectory hroute
    rw [FileSystem.makeDirectories, FileSystem.makeDirectories]
    generalize fs.makeDirectory (Route.ofNames isAbsolute (name :: before).reverse) = made
      at hmade ⊢
    generalize fs'.makeDirectory (Route.ofNames isAbsolute (name :: before).reverse) = made'
      at hmade ⊢
    cases hmade with
    | ok hagree => exact ⟨hagree, rfl⟩
    | error fault =>
      by_cases hmissing : fault = .missing
      · -- The directory above is made first, and then this one is tried once more.
        subst hmissing
        rcases hfirst : fs.makeDirectories isAbsolute before with ⟨files, outcome⟩
        rcases hsecond : fs'.makeDirectories isAbsolute before with ⟨files', outcome'⟩
        rw [hfirst] at hbefore hcurrent
        rw [hsecond] at hbefore
        obtain ⟨hagree, rfl⟩ := hbefore
        cases outcome' with
        | error fault => exact ⟨hagree, rfl⟩
        | ok done =>
          have hroute :
              (Route.ofNames isAbsolute (name :: before).reverse).Within files places := by
            intro place hplace
            rw [FileSystem.start, hcurrent] at hplace
            exact hway place hplace
          have hmade := hagree.makeDirectory hroute
          have hstands := hagree.isDirectory hroute
          simp only
          generalize files.makeDirectory (Route.ofNames isAbsolute (name :: before).reverse) = made
            at hmade ⊢
          generalize files'.makeDirectory (Route.ofNames isAbsolute (name :: before).reverse) =
            made' at hmade ⊢
          cases hmade with
          | ok hagree => exact ⟨hagree, rfl⟩
          | error fault =>
            simp only [hstands]
            exact ⟨hagree, rfl⟩
      · split
        · contradiction
        · rename_i heq
          exact absurd (Except.error.inj heq) hmissing
        · simp only [hstands]
          exact ⟨h, rfl⟩

end FileSystem

namespace TextFile

open FileSystem (AgreeOn EndAlike IsInside OnWay Passes)

variable {places : Place → Prop} {fs fs' : FileSystem} {path : Path}

theorem endAlike_attempt (h : AgreeOn places fs fs') {x y : Except Fault FileSystem}
    (hxy : Alike (AgreeOn places) x y) : EndAlike places (attempt fs x) (attempt fs' y) := by
  cases hxy with
  | ok hagree => exact ⟨hagree, rfl⟩
  | error fault => exact ⟨h, rfl⟩

/-- The pieces of a path lead past the places that its names lead past. -/
theorem within_ofPath (hpath : ∀ place, fs.Passes path place → places place) :
    (FileSystem.Route.ofPath path).Within fs places :=
  fun place hplace => hpath place hplace.filter

/-- A step of a write looks at what the path and its stand-in pass. -/
theorem endAlike_perform (h : AgreeOn places fs fs')
    (hpath : ∀ place, fs.Passes path place → places place)
    (hstandIn : ∀ place, fs.Passes (standIn path) place → places place)
    (step : Step) (text : List Char) :
    EndAlike places (step.perform path text fs) (step.perform path text fs') := by
  have hto := within_ofPath hpath
  have hfrom := within_ofPath hstandIn
  cases step with
  | makeParents =>
    simp only [Step.perform]
    split
    · exact ⟨h, rfl⟩
    · apply h.makeDirectories
      rw [List.reverse_reverse]
      exact fun place hplace => hpath place (hplace.of_prefix (List.dropLast_prefix _))
  | createStandIn =>
    rw [Step.perform, Step.perform]
    exact endAlike_attempt h (h.create hfrom)
  | fillStandIn =>
    rw [Step.perform, Step.perform]
    exact endAlike_attempt h (h.fillFile hfrom _)
  | syncStandIn => exact ⟨h, rfl⟩
  | publish =>
    rw [Step.perform, Step.perform]
    exact endAlike_attempt h (h.rename hfrom hto)

theorem endAlike_run (h : AgreeOn places fs fs')
    (hpath : ∀ place, fs.Passes path place → places place)
    (hstandIn : ∀ place, fs.Passes (standIn path) place → places place)
    (steps : List Step) (text : List Char) :
    EndAlike places (run path text fs steps) (run path text fs' steps) := by
  induction steps generalizing fs fs' with
  | nil => exact ⟨h, rfl⟩
  | cons step steps ih =>
    have hcurrent := current_perform step path text fs
    have hstep := endAlike_perform h hpath hstandIn step text
    rw [run, run]
    rcases hfirst : step.perform path text fs with ⟨after, outcome⟩
    rcases hsecond : step.perform path text fs' with ⟨after', outcome'⟩
    rw [hfirst] at hcurrent hstep
    rw [hsecond] at hstep
    obtain ⟨hagree, rfl⟩ := hstep
    cases outcome' with
    | error fault => exact ⟨hagree, rfl⟩
    | ok done =>
      refine ih hagree (fun place hplace => hpath place ?_) fun place hplace => hstandIn place ?_
      · rwa [Passes, FileSystem.start, hcurrent] at hplace
      · rwa [Passes, FileSystem.start, hcurrent] at hplace

/-! ## Outside a directory -/

/-- A path that leads nowhere inside a directory. -/
def StaysOutside (directory : Place) (fs : FileSystem) (path : Path) : Prop :=
  ∀ place, fs.Passes path place → ¬ IsInside directory place

variable {directory : Place}

/-- A path that never turns back leads inside at its end or nowhere. -/
theorem staysOutside_of_names (hdots : ".." ∉ path.names)
    (h : ¬ IsInside directory (fs.destination path)) : StaysOutside directory fs path := by
  intro place hplace hinside
  obtain ⟨front, hfront, rfl⟩ := hplace
  have hbefore := FileSystem.foldl_follow_of_names
    (fun hin => path.dot_not_mem_names (hfront.subset hin))
    (fun hin => hdots (hfront.subset hin)) (fs.start path.isAbsolute)
  have hbegins : front.foldl FileSystem.follow (fs.start path.isAbsolute) <+:
      fs.destination path := by
    rw [hbefore, FileSystem.destination_of_names hdots, List.prefix_append_right_inj]
    exact hfront
  refine h ⟨hinside.1.trans hbegins, fun heq => ?_⟩
  rw [heq] at hbegins
  exact hinside.2 (hbegins.eq_of_length_le hinside.1.length_le)

theorem isInside_of_dropLast {place : Place} (h : IsInside directory place.dropLast) :
    IsInside directory place := by
  refine ⟨h.1.trans (List.dropLast_prefix place), fun heq => ?_⟩
  subst heq
  have hlength := h.1.length_le
  rw [List.length_dropLast] at hlength
  have hnil : place = [] := List.length_eq_zero_iff.mp (by omega)
  exact h.2 (by rw [hnil]; rfl)

/-- Neither does the stand-in lead inside. -/
theorem StaysOutside.standIn (h : StaysOutside directory fs path) :
    StaysOutside directory fs (standIn path) := by
  cases hname : path.fileName? with
  | none => rwa [Path.standIn_of_none hname]
  | some name =>
    obtain ⟨hnames, ⟨last, hlast⟩, habsolute⟩ := Path.exists_names_standIn hname
    intro place hplace
    obtain ⟨front, hfront, rfl⟩ := hplace
    rw [hlast, List.prefix_concat_iff] at hfront
    rw [habsolute]
    have hparent := h _ ⟨path.names.dropLast, List.dropLast_prefix _, rfl⟩
    obtain rfl | hfront := hfront
    · have hpath := h _ (.last _ _)
      have hdots := (Path.getLast?_of_fileName? hname).2
      have hdot : name ≠ "." := by
        intro heq
        refine path.dot_not_mem_names ?_
        rw [hnames, heq]
        exact List.mem_concat_self
      rw [hnames, List.foldl_append, List.foldl_cons, List.foldl_nil, FileSystem.follow,
        if_neg hdot, if_neg hdots, FileSystem.isInside_concat] at hpath
      rw [List.foldl_append, List.foldl_cons, List.foldl_nil, FileSystem.follow]
      -- The stand-in of `..x` ends in two dots, and leads back.
      split
      · exact hparent
      · split
        · exact fun hinside => hparent (isInside_of_dropLast hinside)
        · exact fun hinside => hpath (FileSystem.isInside_concat.mp hinside)
    · exact h _ ⟨front, hfront.trans (List.dropLast_prefix _), rfl⟩

/-- What is inside does not matter to a write outside. -/
theorem StaysOutside.endAlike_write (h : StaysOutside directory fs path)
    (hagree : AgreeOn (¬ IsInside directory ·) fs fs') (text : String) :
    EndAlike (¬ IsInside directory ·) (write fs path text) (write fs' path text) :=
  endAlike_run hagree h h.standIn steps text.toList

/-- A write outside makes nothing inside, not even a directory. -/
theorem StaysOutside.at?_write (h : StaysOutside directory fs path) (text : String)
    {place : Place} (hinside : IsInside directory place) :
    (write fs path text).1.at? place = fs.at? place := by
  have hmade : (parentsMade path fs).at? place = fs.at? place :=
    at?_parentsMade fun hway => h place (hway.of_prefix (List.dropLast_prefix _)) hinside
  have hcurrent := current_parentsMade path fs
  rw [← stopped_of_length_le (Nat.le_refl 5)]
  obtain ⟨-, -, hstopped⟩ | ⟨-, hstopped⟩ := stopped_succ path text fs 4
  · rw [hstopped, hmade]
  · rw [hstopped, ← hmade]
    apply at?_run (by decide)
    · intro _ heq
      rw [FileSystem.destination_congr hcurrent] at heq
      exact h place (heq ▸ .last _ _) hinside
    · intro heq
      rw [FileSystem.destination_congr hcurrent] at heq
      exact h.standIn place (heq ▸ .last _ _) hinside

end TextFile
end Storage
end RepoFeed
