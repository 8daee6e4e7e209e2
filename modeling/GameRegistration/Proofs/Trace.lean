import GameRegistration.Proofs.Hooks
import GameRegistration.Proofs.PlanContents

/-! The trace tells what was done: with any hooks around, its events of each title are the images of
what the journal holds. -/
namespace GameRegistration

def Record.event (r : Record) : Event := .emitted r.source r.table r.key

def Diagnostic.event (d : Diagnostic) : Event :=
  .diagnosed d.source d.level d.problem.kind d.problem.message

def Event.titled (title : String) (trace : List Event) : List Event :=
  trace.filter (·.title == title)

theorem Event.titled_append (title : String) (a b : List Event) :
    titled title (a ++ b) = titled title a ++ titled title b := List.filter_append _ _

def Call.warned? : Call → Option (SourcePosition × Problem)
  | .warning source problem => some (source, problem)
  | _ => none

namespace Journal

def ownRecords (j : Journal) : List Record := (j.additions.filter (·.1 == .own)).map (·.2)

@[simp] theorem ownRecords_append (a b : Journal) :
    (a ++ b).ownRecords = a.ownRecords ++ b.ownRecords := by
  simp [ownRecords, additions]

end Journal

/-- Each warning has an event of its own while warnings are suppressed, and none otherwise. -/
def WarningPolicy.suppressions (p : WarningPolicy) (warned : List (SourcePosition × Problem)) :
    List Event :=
  if p.suppressWarnings ∧ ¬p.warningsAsErrors then
    warned.map fun (source, problem) => .suppressedWarning source problem.message
  else []

theorem WarningPolicy.suppressions_nil (p : WarningPolicy) : p.suppressions [] = [] := by
  unfold suppressions
  split <;> rfl

theorem WarningPolicy.suppressions_append (p : WarningPolicy)
    (a b : List (SourcePosition × Problem)) :
    p.suppressions (a ++ b) = p.suppressions a ++ p.suppressions b := by
  unfold suppressions
  split <;> simp

/-- The events of a journal tell its records, its diagnostics and its warnings. -/
structure Journal.IsTraced (policy : WarningPolicy) (j : Journal) : Prop where
  emitted : Event.titled "emitted tuple" j.events = j.ownRecords.map Record.event
  diagnosed : Event.titled "diagnostic" j.events = j.diagnostics.map Diagnostic.event
  suppressed : Event.titled "suppressed warning" j.events = policy.suppressions j.raised

namespace Journal.IsTraced
variable {policy : WarningPolicy} {a b : Journal}

theorem empty : IsTraced policy {} := ⟨rfl, rfl, policy.suppressions_nil.symm⟩

theorem append (ha : a.IsTraced policy) (hb : b.IsTraced policy) : (a ++ b).IsTraced policy where
  emitted := by
    rw [events_append, Event.titled_append, ha.emitted, hb.emitted, ownRecords_append, List.map_append]
  diagnosed := by
    rw [events_append, Event.titled_append, ha.diagnosed, hb.diagnosed, diagnostics_append,
      List.map_append]
  suppressed := by
    rw [events_append, Event.titled_append, ha.suppressed, hb.suppressed, raised_append,
      policy.suppressions_append]

end Journal.IsTraced

def Call.isOrdinary : Call → Bool
  | .note event => (Action.note event).isOrdinary
  | _ => true

namespace Journal
variable (policy : WarningPolicy)

theorem isTraced_write (source : SourcePosition) (level : Level) (problem : Problem) :
    (write source level problem).IsTraced policy := by
  refine ⟨rfl, rfl, ?_⟩
  exact policy.suppressions_nil.symm

theorem isTraced_warning (source : SourcePosition) (problem : Problem) :
    (warning policy source problem).IsTraced policy := by
  obtain ⟨elevates, suppresses⟩ := policy
  cases elevates <;> cases suppresses <;> exact ⟨rfl, rfl, rfl⟩

theorem raised_warning (source : SourcePosition) (problem : Problem) :
    (warning policy source problem).raised = [(source, problem)] := by
  unfold warning settle
  cases policy.treatment <;> rfl

end Journal

theorem Call.isTraced_perform {policy : WarningPolicy} {call : Call} (h : call.isOrdinary = true) :
    (call.perform policy).IsTraced policy := by
  have hsilent : policy.suppressions [] = [] := policy.suppressions_nil
  cases call with
  | error source problem => exact Journal.isTraced_write policy source .error problem
  | warning source problem => exact Journal.isTraced_warning policy source problem
  | note event => cases event <;> first | exact ⟨rfl, rfl, hsilent.symm⟩ | cases h
  | add hook r => cases hook <;> exact ⟨rfl, rfl, hsilent.symm⟩
  | _ => exact ⟨rfl, rfl, hsilent.symm⟩

theorem Action.isOrdinary_calls {action : Action} (h : action.isOrdinary = true) (hooks : Hooks)
    (before : List Call) : ∀ call ∈ action.calls hooks before, call.isOrdinary = true := by
  cases action with
  | note event => simpa [calls, Call.isOrdinary] using h
  | hand node =>
    refine List.forall_mem_cons.2 ⟨rfl, List.forall_mem_map.2 fun call _ => ?_⟩
    cases call <;> rfl
  | requestLink link =>
    intro call hcall
    obtain ⟨_, rfl⟩ | ⟨_, rfl⟩ | ⟨_, rfl⟩ := hooks.cases_of_mem_link hcall <;> rfl
  | _ => exact List.forall_mem_singleton.2 rfl

theorem Compilation.isTraced_calls (policy : WarningPolicy) (hooks : Hooks) (jobs : List Job) :
    (performCalls policy (calls policy hooks jobs)).IsTraced policy := by
  have hcalls : ∀ call ∈ calls policy hooks jobs, call.isOrdinary = true :=
    Plan.calls_of_actions (fun a ha => Action.isOrdinary_calls (Job.areOrdinary_plans jobs a ha) hooks) []
  exact performCalls_of_each .empty .append fun call hcall => Call.isTraced_perform (hcalls call hcall)

theorem Call.raised_perform (policy : WarningPolicy) (call : Call) :
    (call.perform policy).raised = call.warned?.toList := by
  cases call with
  | warning source problem => exact Journal.raised_warning policy source problem
  | _ => rfl

theorem raised_performCalls (policy : WarningPolicy) (calls : List Call) :
    (performCalls policy calls).raised = calls.filterMap Call.warned? :=
  filterMap_performCalls (Call.raised_perform policy) calls

theorem Compilation.title_verdict (sectionId : String) (j : Journal) :
    (verdict sectionId j).title = "committed section" ∨
      (verdict sectionId j).title = "discarding section" := by
  unfold verdict
  split
  · exact .inl rfl
  · exact .inr rfl

theorem Compilation.titled_trace {title : String} (hcommitted : "committed section" ≠ title)
    (hdiscarding : "discarding section" ≠ title) (sectionId : String) (j : Journal) :
    Event.titled title (j.events ++ [verdict sectionId j]) = Event.titled title j.events := by
  have hverdict : (verdict sectionId j).title ≠ title := by
    obtain h | h := title_verdict sectionId j <;> rw [h]
    · exact hcommitted
    · exact hdiscarding
  have hnone : Event.titled title [verdict sectionId j] = [] :=
    List.filter_eq_nil_iff.2 (by simpa using hverdict)
  rw [Event.titled_append, hnone, List.append_nil]

/-- Before the verdict the trace tells, in order, the records that no hook added, the diagnostics and the
warnings suppressed; the verdict counts the records and diagnostics that the outcome holds. -/
theorem Compilation.trace_tells_all (policy : WarningPolicy) (hooks : Hooks) (jobs : List Job)
    (sectionId : String) :
    let calls := calls policy hooks jobs
    let j := performCalls policy calls
    let trace := j.events ++ [verdict sectionId j]
    j.additions = calls.filterMap Call.addition? ∧
      Event.titled "emitted tuple" trace =
        (j.additions.filter (·.1 == .own)).map (fun addition => addition.2.event) ∧
      Event.titled "diagnostic" trace = j.diagnostics.map Diagnostic.event ∧
      Event.titled "suppressed warning" trace =
        policy.suppressions (calls.filterMap Call.warned?) ∧
      match finish sectionId j with
      | .ok commit =>
        commit.content.records = j.additions.map (·.2) ∧ commit.warnings = j.diagnostics ∧
          trace.getLast? =
            some (.committed sectionId commit.content.size commit.warnings.length) ∧
          trace.getLast?.map Event.level = some .info
      | .error failure =>
        failure.discarded.records = j.additions.map (·.2) ∧ failure.diagnostics = j.diagnostics ∧
          trace.getLast? =
            some (.discarded sectionId failure.discarded.size failure.diagnostics.length) ∧
          trace.getLast?.map Event.level = some .warn := by
  intro calls j trace
  have htraced : j.IsTraced policy := isTraced_calls policy hooks jobs
  have hlast : trace.getLast? = some (verdict sectionId j) := List.getLast?_concat
  refine ⟨additions_performCalls policy calls, ?_, ?_, ?_, ?_⟩
  · rw [titled_trace (by decide) (by decide), htraced.emitted, Journal.ownRecords, List.map_map]
    rfl
  · rw [titled_trace (by decide) (by decide), htraced.diagnosed]
  · rw [titled_trace (by decide) (by decide), htraced.suppressed, raised_performCalls]
  · rw [hlast, verdict, finish, j.map_additions]
    cases j.failed with
    | true => exact ⟨rfl, rfl, rfl, rfl⟩
    | false => exact ⟨rfl, rfl, rfl, rfl⟩

end GameRegistration
