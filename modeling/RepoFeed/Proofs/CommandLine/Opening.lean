import RepoFeed.CommandLine.Program
import RepoFeed.Proofs.Refresh.Course

/-
What stands before the refresh of a run.

A run comes to its refresh only if its log filter, its words and its clock can be read
and there is a client that can send its token.  Whatever keeps it from this comes before
any snapshot is looked at and before anything is asked for.
-/

namespace RepoFeed
namespace CommandLine

open Storage (FileSystem)

variable {invocation : Invocation} {options : Options} {filter : Filter} {files : FileSystem}

theorem prepare_eq_ready_iff {given : Options} {read : Filter} :
    invocation.prepare given read = .ready options filter ↔
      given = options ∧ read = filter ∧ isReadableClock invocation.clock = true ∧
        invocation.environment.usedToken.isValid = true ∧ invocation.clientFault = none := by
  unfold Invocation.prepare
  cases isReadableClock invocation.clock with
  | false => simp
  | true =>
    cases invocation.environment.usedToken.isValid with
    | false => simp
    | true => cases invocation.clientFault <;> simp

/-- What a run needs to come to its refresh. -/
theorem opening_eq_ready_iff :
    invocation.opening = .ready options filter ↔
      parse invocation.words = .ok options ∧
        Filter.parse invocation.environment.logFilter = .ok filter ∧
        isReadableClock invocation.clock = true ∧
        invocation.environment.usedToken.isValid = true ∧ invocation.clientFault = none := by
  unfold Invocation.opening
  cases hfilter : Filter.parse invocation.environment.logFilter with
  | error panic => simp
  | ok read =>
    cases hparse : parse invocation.words with
    | error fault => cases fault <;> simp [Opening.told]
    | ok given =>
      simp only [prepare_eq_ready_iff, Except.ok.injEq]

theorem parse_of_opening (h : invocation.opening = .ready options filter) :
    parse invocation.words = .ok options :=
  (opening_eq_ready_iff.mp h).1

/-- A run that comes to its refresh is that refresh. -/
theorem run_of_ready (h : invocation.opening = .ready options filter) (files : FileSystem) :
    run invocation files = execute options filter invocation files := by
  simp only [run, h]

theorem files_of_ready (h : invocation.opening = .ready options filter) (files : FileSystem) :
    (run invocation files).files = (options.refreshed invocation files).state.files := by
  rw [run_of_ready h, execute]

/-- Any other run asks for nothing and changes no file. -/
theorem run_of_ended {code : Nat} {output : Utf8.Octets} {log : List String}
    (h : invocation.opening = .ended code output log) (files : FileSystem) :
    run invocation files = ⟨code, output, log, files, []⟩ := by
  simp only [run, h]

/-- Whatever comes before it, a refresh takes one of the courses. -/
theorem course_refreshed (options : Options) (invocation : Invocation) (files : FileSystem) :
    Refresher.Course (options.refresher invocation) invocation.clock invocation.reply .unknown
      ⟨files, []⟩ (options.refreshed invocation files).result
      (options.refreshed invocation files).state (options.refreshed invocation files).shown
      (options.refreshed invocation files).requests :=
  Refresher.course ..

end CommandLine
end RepoFeed
