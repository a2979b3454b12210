import RepoFeed.CommandLine.Directive
import RepoFeed.Text.Split

/-
The log of a run.

A filter is a list of directives.  Of those that apply to a notice the most
specific one decides whether the notice is logged.
-/

namespace RepoFeed
namespace CommandLine

structure Filter where
  directives : List Directive
deriving DecidableEq, Repr

namespace Filter

/-- What is logged if nothing is asked for. -/
def standard : Filter := ⟨[.ofName "activity_feed" (some .info)]⟩

/-- An empty filter still logs errors. -/
def errorsOnly : Filter := ⟨[.ofLevel (some .error)]⟩

/-- Reads directives between commas, as far as the first that cannot be read.  A filter
with one that is malformed is as good as none. -/
def parse (text : Option String) : Except Panic Filter :=
  match text with
  | none => .ok standard
  | some text =>
    let parts := (Text.split (· == ',') text.toList).filter (! ·.isEmpty)
    if parts.isEmpty then .ok errorsOnly
    else
      match parts.mapM Directive.parse with
      | .ok directives => .ok ⟨directives⟩
      | .error .malformed => .ok standard
      | .error (.panic panic) => .error panic

/-- The most specific directive that applies to a notice; of equal ones the
last. -/
def find? (filter : Filter) (notice : Notice) : Option Directive :=
  (filter.directives.filter (·.appliesTo notice)).foldl
    (fun best directive =>
      match best with
      | some old => if old.yieldsTo directive then some directive else best
      | none => some directive)
    none

def passes (filter : Filter) (notice : Notice) : Bool :=
  match (filter.find? notice).bind (·.level) with
  | some level => notice.level.rank ≤ level.rank
  | none => false

end Filter

/-- Controls that a terminal would obey are logged by their codes. -/
def escapeControl (c : Char) : List Char :=
  let n := c.toNat
  if n = 0x1B ∨ n = 0x07 ∨ n = 0x08 ∨ n = 0x0C ∨ n = 0x7F then
    ['\\', 'x', (n / 16).digitChar, (n % 16).digitChar]
  else if 0x80 ≤ n ∧ n ≤ 0x9F then ['\\', 'u', '\x7b'] ++ Nat.toDigits 16 n ++ ['\x7d']
  else [c]

/-- A notice as a line of the log, without the time. -/
def logLine (notice : Notice) : String :=
  notice.level.label ++ " " ++ notice.origin ++ ": " ++
    String.ofList (notice.message.toList.flatMap escapeControl) ++
    String.join (notice.values.map fun (name, value) => " " ++ name ++ "=" ++ value)

/-- The lines that a filter lets through. -/
def logLines (filter : Filter) (notices : List Notice) : List String :=
  (notices.filter filter.passes).map logLine

end CommandLine
end RepoFeed
