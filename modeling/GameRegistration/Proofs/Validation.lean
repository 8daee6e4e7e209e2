import Mathlib.Data.List.Basic
import GameRegistration.Proofs.GatedRecords

/-! Every problem of a document is reported, whatever else is wrong: no gate hides one, and what
stands behind an open gate adds none but links that could not be made. -/
namespace GameRegistration

def Problem.isOfLink : Problem → Bool
  | .noLinkEmitter .. | .linkFailed .. => true
  | _ => false

namespace Journal

/-- The diagnostics of the document itself, in order. -/
def validation (j : Journal) : List Diagnostic := j.diagnostics.filter (!·.problem.isOfLink)

theorem validation_append (a b : Journal) : (a ++ b).validation = a.validation ++ b.validation := by
  rw [validation, diagnostics_append, List.filter_append]
  rfl

end Journal

variable {setup : Setup}

theorem validation_performAll (actions : List Action) :
    (performAll setup actions).validation =
      actions.flatMap fun a => (a.perform setup).validation := by
  rw [Journal.validation, diagnostics_performAll, List.filter_flatMap]
  rfl

theorem Action.validation_of_isSilent {a : Action} (h : a.isSilent = true) :
    (a.perform setup).validation = [] := by
  cases a <;> first | rfl | cases h

theorem Action.validation_requestLink (link : SupportLink) :
    ((Action.requestLink link).perform setup).validation = [] := by
  change (setup.link link).validation = []
  obtain ⟨-, h⟩ | ⟨_, -, -, h⟩ | ⟨_, -, -, h⟩ := setup.link_cases link <;> rw [h] <;> rfl

theorem validation_of_areOrderly {actions : List Action} (h : Action.areOrderly actions = true) :
    (performAll setup actions).validation = [] := by
  fun_induction Action.areOrderly actions with
  | case1 => rfl
  | case2 link =>
    rw [performAll_singleton]
    exact Action.validation_requestLink link
  | case3 action rest _ ih =>
    rw [Bool.and_eq_true] at h
    rw [performAll, Journal.validation_append, action.validation_of_isSilent h.1, ih h.2]
    rfl

theorem Step.Orderly.validation {failed : Bool} {step : Step} (h : step.Orderly failed) :
    (step.perform setup failed).validation =
      step.ungated.flatMap fun a => (a.perform setup).validation := by
  cases step with
  | act action => simp [perform, ungated]
  | gate closed opened =>
    cases failed with
    | false => exact validation_of_areOrderly (h.2 rfl)
    | true =>
      change (performAll setup closed).validation = []
      rw [validation_performAll, List.flatMap_eq_nil_iff]
      intro a ha
      have hclosed := List.all_eq_true.1 h.1 a ha
      rw [Bool.and_eq_true] at hclosed
      exact a.validation_of_isSilent hclosed.2

/-- Every check reports the same as by itself, whatever was on record before. -/
theorem Plan.Orderly.validation {failed : Bool} {p : Plan} (h : Plan.Orderly setup failed p) :
    (Plan.perform setup failed p).validation =
      p.ungated.flatMap fun a => (a.perform setup).validation := by
  induction p generalizing failed with
  | nil => rfl
  | cons step rest ih =>
    rw [perform, Journal.validation_append, h.1.validation, ih h.2]
    simp [ungated]

/-- What the checks of a job report, each by itself; the job alone and the setup decide it. -/
def Job.findings (setup : Setup) (job : Job) : List Diagnostic :=
  job.plan.ungated.flatMap fun a => (a.perform setup).validation

namespace Compilation

theorem validation_alone {failed : Bool} {job : Job} (h : job.WithinLimits) :
    (run setup failed [job]).validation = job.findings setup := by
  rw [run, List.flatMap_singleton]
  exact (Job.orderly_plan h).validation

theorem validation_run {failed : Bool} {jobs : List Job} (h : ∀ job ∈ jobs, job.WithinLimits) :
    (run setup failed jobs).validation = jobs.flatMap (Job.findings setup) := by
  induction jobs generalizing failed with
  | nil => rfl
  | cons job rest ih =>
    have hrest : ∀ j ∈ rest, j.WithinLimits := fun j hj => h j (List.mem_cons_of_mem job hj)
    rw [← List.singleton_append, run_append, Journal.validation_append,
      validation_alone (h job List.mem_cons_self), ih hrest, List.singleton_append,
      List.flatMap_cons]

/-- An error in an earlier job or task changes nothing that a later one reports: the second equation
names what each job reports, and only the document has a say in it. -/
theorem validation_eq_flatMap_alone (setup : Setup) (failed : Bool) (jobs : List Job)
    (h : ∀ job ∈ jobs, job.WithinLimits) :
    (run setup failed jobs).validation =
      jobs.flatMap (fun job => (run setup false [job]).validation) ∧
    (run setup failed jobs).validation = jobs.flatMap (Job.findings setup) := by
  have hrun : (run setup failed jobs).validation = jobs.flatMap (Job.findings setup) :=
    validation_run h
  refine ⟨?_, hrun⟩
  rw [hrun]
  exact List.flatMap_congr fun job hjob => (validation_alone (h job hjob)).symm

/-- The link of the second game finds no emitter, which only a run of that game alone reports. -/
theorem validation_of_two_games :
    (∀ job ∈ [Sample.failingJob, Sample.flawlessJob], job.WithinLimits) ∧
    (run {} false [Sample.failingJob, Sample.flawlessJob]).validation =
      [Sample.failingJob, Sample.flawlessJob].flatMap fun job => (run {} false [job]).validation :=
  ⟨Sample.withinLimits,
    (validation_eq_flatMap_alone {} false [Sample.failingJob, Sample.flawlessJob]
      Sample.withinLimits).1⟩

end Compilation

end GameRegistration
