import GameRegistration.Proofs.Elevation
import GameRegistration.Proofs.PlanContents
import GameRegistration.Proofs.Validation

/-! Suppressed warnings. The journal of a run with its warnings suppressed is read off that of the
run which keeps them, entry by entry. -/
namespace GameRegistration

/-- What stands for an entry where warnings are suppressed. -/
def Entry.suppressed : Entry → List Entry
  | .event (.diagnosed source .warning _ message) => [.event (.suppressedWarning source message)]
  | .diagnostic ⟨_, .warning, _⟩ => []
  | e => [e]

namespace Journal

def suppressed (j : Journal) : Journal :=
  { entries := j.entries.flatMap Entry.suppressed, failed := j.failed }

theorem suppressed_append (a b : Journal) :
    (a ++ b).suppressed = a.suppressed ++ b.suppressed := by
  change (⟨_, _⟩ : Journal) = ⟨_, _⟩
  rw [entries_append, List.flatMap_append]
  rfl

theorem filterMap_suppressed {β : Type} {f : Entry → Option β}
    (hdiagnostic : ∀ d, f (.diagnostic d) = none) (hevent : ∀ e, f (.event e) = none) (j : Journal) :
    j.suppressed.entries.filterMap f = j.entries.filterMap f := by
  have hentry (e : Entry) : e.suppressed.filterMap f = (f e).toList := by
    unfold Entry.suppressed
    split
    · simp [hevent]
    · simp [hdiagnostic]
    · cases h : f e <;> simp [h]
  rw [suppressed, List.filterMap_flatMap, List.filterMap_eq_flatMap_toList]
  exact List.flatMap_congr fun e _ => hentry e

theorem records_suppressed (j : Journal) : j.suppressed.records = j.records :=
  j.filterMap_suppressed (fun _ => rfl) fun _ => rfl

theorem diagnostics_suppressed (j : Journal) :
    j.suppressed.diagnostics = j.diagnostics.filter (·.isError) := by
  have hentry (e : Entry) : e.suppressed.filterMap Entry.diagnostic? =
      (e.diagnostic?.filter (·.isError)).toList := by
    unfold Entry.suppressed
    split
    · rfl
    · rfl
    · rename_i hkept
      cases e with
      | diagnostic d =>
        obtain ⟨source, level, problem⟩ := d
        cases level with
        | warning => exact absurd rfl (hkept source problem)
        | error => rfl
      | _ => rfl
  rw [diagnostics, suppressed, List.filterMap_flatMap, diagnostics, List.filter_filterMap,
    List.filterMap_eq_flatMap_toList]
  exact List.flatMap_congr fun e _ => hentry e

end Journal

def Setup.suppressing (setup : Setup) : Setup :=
  { setup with warnings := { suppressWarnings := true } }

variable {setup : Setup}

theorem Action.perform_suppressing {a : Action} (h : a.isOrdinary = true) :
    a.perform setup.suppressing = (a.perform setup.keeping).suppressed := by
  cases a with
  | error source problem => rfl
  | warning source problem => rfl
  | emit r => rfl
  | note event => cases event <;> first | rfl | cases h
  | hand node =>
    unfold perform Setup.hand ForeignPolicy.handle Setup.suppressing Setup.keeping
    cases setup.foreign <;> rfl
  | requestLink link =>
    change setup.link link = (setup.link link).suppressed
    obtain ⟨-, hlink⟩ | ⟨_, -, -, hlink⟩ | ⟨_, -, -, hlink⟩ := setup.link_cases link <;> rw [hlink]
    all_goals rfl

theorem performAll_suppressing {actions : List Action} (h : Action.AreOrdinary actions) :
    performAll setup.suppressing actions = (performAll setup.keeping actions).suppressed := by
  induction actions with
  | nil => rfl
  | cons action rest ih =>
    obtain ⟨haction, hrest⟩ := List.forall_mem_cons.1 h
    rw [performAll, performAll, Journal.suppressed_append, action.perform_suppressing haction,
      ih hrest]

theorem Step.perform_suppressing {step : Step} (h : Action.AreOrdinary step.actions)
    (failed : Bool) :
    step.perform setup.suppressing failed = (step.perform setup.keeping failed).suppressed := by
  cases step with
  | act action => exact action.perform_suppressing (h action List.mem_cons_self)
  | gate closed opened =>
    cases failed with
    | true => exact performAll_suppressing fun a ha => h a (List.mem_append_left _ ha)
    | false => exact performAll_suppressing fun a ha => h a (List.mem_append_right _ ha)

/-- No gate tells the runs apart: suppression leaves the errors as they are. -/
theorem Plan.perform_suppressing {p : Plan} (h : Action.AreOrdinary p.actions) (failed : Bool) :
    perform setup.suppressing failed p = (perform setup.keeping failed p).suppressed := by
  induction p generalizing failed with
  | nil => rfl
  | cons step rest ih =>
    have hstep : Action.AreOrdinary step.actions := fun a ha => h a (List.mem_append_left _ ha)
    have hrest : Action.AreOrdinary (actions rest) := fun a ha => h a (List.mem_append_right _ ha)
    rw [perform, perform, Journal.suppressed_append, step.perform_suppressing hstep, ih hrest]
    rfl

namespace Journal

/-- Links that could not be made are errors. -/
def HasNoLinkWarning (j : Journal) : Prop :=
  ∀ d ∈ j.diagnostics, d.problem.isOfLink = true → d.level = .error

namespace HasNoLinkWarning

theorem append {a b : Journal} (ha : a.HasNoLinkWarning) (hb : b.HasNoLinkWarning) :
    (a ++ b).HasNoLinkWarning := by
  intro d hd
  rw [diagnostics_append, List.mem_append] at hd
  exact hd.elim (ha d) (hb d)

theorem of_isQuiet {j : Journal} (h : j.IsQuiet) : j.HasNoLinkWarning := by
  intro d hd
  rw [h.2] at hd
  cases hd

theorem error (source : SourcePosition) (problem : Problem) :
    (Journal.error source problem).HasNoLinkWarning := by
  simp [HasNoLinkWarning, Journal.error, write, diagnostics, Entry.diagnostic?]

theorem warning (policy : WarningPolicy) (source : SourcePosition) {problem : Problem}
    (h : problem.isOfLink = false) : (Journal.warning policy source problem).HasNoLinkWarning := by
  intro d hd hlink
  have hproblem : d.problem = problem := by
    cases htreatment : policy.treatment with
    | suppress =>
      rw [Journal.warning, settle, htreatment] at hd
      cases hd
    | _ =>
      rw [Journal.warning, settle, htreatment] at hd
      rw [List.mem_singleton.1 hd]
  rw [hproblem, h] at hlink
  cases hlink

end HasNoLinkWarning

end Journal

theorem Action.hasNoLinkWarning {a : Action} (h : a.isOrdinary = true) :
    (a.perform setup).HasNoLinkWarning := by
  cases a with
  | error source problem => exact .error source problem
  | warning source problem =>
    refine .warning setup.warnings source ?_
    cases problem <;> first | rfl | cases h
  | emit r => exact .of_isQuiet ⟨rfl, rfl⟩
  | note event => exact .of_isQuiet ⟨rfl, rfl⟩
  | hand node =>
    have handed : Journal.HasNoLinkWarning { entries := [.handed node] } := .of_isQuiet ⟨rfl, rfl⟩
    unfold perform Setup.hand ForeignPolicy.handle
    cases setup.foreign with
    | reject => exact handed.append (.error _ _)
    | accept => exact handed.append (.of_isQuiet ⟨rfl, rfl⟩)
    | warn => exact handed.append (.warning _ _ (by cases node <;> rfl))
  | requestLink link =>
    change (setup.link link).HasNoLinkWarning
    obtain ⟨-, hlink⟩ | ⟨_, -, -, hlink⟩ | ⟨_, -, -, hlink⟩ := setup.link_cases link <;> rw [hlink]
    · exact .error _ _
    · exact .of_isQuiet ⟨rfl, rfl⟩
    · exact .append (.of_isQuiet ⟨rfl, rfl⟩) (.error _ _)

namespace Request

theorem run_suppressing (r : Request) (setup : Setup) :
    r.run setup.suppressing = (r.run setup.keeping).suppressed :=
  Plan.perform_suppressing (Job.areOrdinary_tracedPlans r.jobs) false

theorem hasNoLinkWarning_run (r : Request) (setup : Setup) : (r.run setup).HasNoLinkWarning :=
  Plan.perform_of_actions (.of_isQuiet ⟨rfl, rfl⟩) .append
    (fun a ha => a.hasNoLinkWarning (Job.areOrdinary_tracedPlans r.jobs a ha)) false

/-- Suppression changes nothing but the warnings, after every job and in the end, and it reaches no
error. -/
theorem outcome_suppressing (r : Request) (setup : Setup) :
    (∀ done rest, r.jobs = done ++ rest →
      (({ r with jobs := done } : Request).run setup.suppressing).records =
        (({ r with jobs := done } : Request).run setup.keeping).records ∧
      (({ r with jobs := done } : Request).run setup.suppressing).failed =
        (({ r with jobs := done } : Request).run setup.keeping).failed ∧
      (({ r with jobs := done } : Request).run setup.suppressing).diagnostics =
        (({ r with jobs := done } : Request).run setup.keeping).diagnostics.filter (·.isError)) ∧
    (r.outcome setup.suppressing =
      match r.outcome setup.keeping with
      | .ok commit => .ok { commit with warnings := [] }
      | .error failure => .error { failure with diagnostics := failure.errors }) ∧
    r.run setup.suppressing = (r.run setup.keeping).suppressed ∧
    ∀ d ∈ (r.run setup.keeping).diagnostics, d.level = .error ∨ d.problem.isOfLink = true →
      d ∈ (r.run setup.suppressing).diagnostics := by
  refine ⟨fun done rest _ => ?_, ?_, r.run_suppressing setup, fun d hd herror => ?_⟩
  · rw [run_suppressing]
    exact ⟨Journal.records_suppressed _, rfl, Journal.diagnostics_suppressed _⟩
  · have hhonest : (r.run setup.keeping).Honest := Plan.honest_perform setup.keeping false _
    rw [outcome, outcome, run_suppressing, Compilation.finish, Compilation.finish,
      Journal.records_suppressed, Journal.diagnostics_suppressed]
    change (if (r.run setup.keeping).failed then _ else _) = _
    cases hfailed : (r.run setup.keeping).failed with
    | true => rfl
    | false =>
      have hnone : (r.run setup.keeping).diagnostics.filter (·.isError) = [] := by
        rw [List.filter_eq_nil_iff]
        intro d hd herror
        have := hhonest.failed_iff.2 ⟨d, hd, beq_iff_eq.1 herror⟩
        rw [hfailed] at this
        cases this
      simp [hnone]
  · rw [run_suppressing, Journal.diagnostics_suppressed, List.mem_filter]
    have hlevel : d.level = .error := herror.elim id (r.hasNoLinkWarning_run setup.keeping d hd)
    exact ⟨hd, beq_iff_eq.2 hlevel⟩

end Request

end GameRegistration
