import GameRegistration.Job

/-! Compilations: jobs performed in order over one journal, and the verdict at the end. The records
are committed as a section if no error was recorded, and discarded otherwise. -/
namespace GameRegistration

structure Commit where
  content : Section
  warnings : List Diagnostic
deriving DecidableEq, Repr

/-- A failed compilation keeps its records for inspection only. -/
structure Failure where
  diagnostics : List Diagnostic
  discarded : Section
deriving DecidableEq, Repr

namespace Failure

def errors (f : Failure) : List Diagnostic := f.diagnostics.filter (·.isError)

def message (f : Failure) : String :=
  s!"compilation of section '{f.discarded.id}' failed with {f.diagnostics.length} diagnostic(s)"

end Failure

namespace Compilation

/-- Performs the jobs one after another. `failed` tells whether an error was recorded before. -/
def run (setup : Setup) (failed : Bool) (jobs : List Job) : Journal :=
  Plan.perform setup failed (jobs.flatMap Job.plan)

def finish (sectionId : String) (journal : Journal) : Except Failure Commit :=
  let result : Section := { id := sectionId, records := journal.records }
  if journal.failed then .error { diagnostics := journal.diagnostics, discarded := result }
  else .ok { content := result, warnings := journal.diagnostics }

def verdict (sectionId : String) (journal : Journal) : Event :=
  match finish sectionId journal with
  | .ok commit => .committed sectionId commit.content.size commit.warnings.length
  | .error failure => .discarded sectionId failure.discarded.size failure.diagnostics.length

theorem run_append (setup : Setup) (failed : Bool) (a b : List Job) :
    run setup failed (a ++ b) =
      run setup failed a ++ run setup (failed || (run setup failed a).failed) b := by
  simp [run, Plan.perform_append]

end Compilation

end GameRegistration
