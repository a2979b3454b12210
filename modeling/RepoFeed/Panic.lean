/-
What makes a run break off.

A problem is handed to whoever asked for a result, and can be reported.  A panic is
handed to nobody: it ends the run where it stands, with an exit code of its own.
-/

namespace RepoFeed

inductive Panic where
  /-- A local date outside the supported years. -/
  | localDate
  /-- A clock before 1970 or behind the supported years. -/
  | clock
  /-- A log filter that is cut inside a character. -/
  | logFilter
deriving DecidableEq, Repr

end RepoFeed
