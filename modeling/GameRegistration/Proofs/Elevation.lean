import GameRegistration.Proofs.Independence

/-! Elevated warnings. A run that makes errors of its warnings goes along with the one that keeps
them up to the first warning, so that it commits exactly what commits without one. -/
namespace GameRegistration

namespace Setup

def keeping (setup : Setup) : Setup := { setup with warnings := {} }

def elevating (setup : Setup) : Setup := { setup with warnings := { warningsAsErrors := true } }

end Setup

namespace Journal

/-- How what is done with warnings elevated goes with what is done with warnings kept. -/
structure Elevates (kept elevated : Journal) : Prop where
  clean_iff : elevated.failed = false ↔ kept.diagnostics = []
  eq_of_clean : elevated.failed = false → elevated = kept

namespace Elevates

theorem append {kept kept' elevated elevated' : Journal} (h : Elevates kept elevated)
    (h' : elevated.failed = false → Elevates kept' elevated') :
    Elevates (kept ++ kept') (elevated ++ elevated') where
  clean_iff := by
    rw [failed_append, Bool.or_eq_false_iff, diagnostics_append, List.append_eq_nil_iff,
      ← h.clean_iff]
    exact and_congr_right fun hclean => (h' hclean).clean_iff
  eq_of_clean := by
    rw [failed_append, Bool.or_eq_false_iff]
    rintro ⟨hclean, hclean'⟩
    rw [h.eq_of_clean hclean, (h' hclean).eq_of_clean hclean']

theorem of_isQuiet {j : Journal} (h : j.IsQuiet) : Elevates j j where
  clean_iff := iff_of_true h.1 h.2
  eq_of_clean := fun _ => rfl

theorem of_failed {kept elevated : Journal} (hfailed : elevated.failed = true)
    (hkept : kept.diagnostics ≠ []) : Elevates kept elevated where
  clean_iff := by simp [hfailed, hkept]
  eq_of_clean := by simp [hfailed]

end Elevates

theorem elevates_error (source : SourcePosition) (problem : Problem) :
    Elevates (error source problem) (error source problem) :=
  .of_failed rfl (List.cons_ne_nil _ _)

theorem elevates_warning (source : SourcePosition) (problem : Problem) :
    Elevates (warning {} source problem) (warning { warningsAsErrors := true } source problem) :=
  .of_failed rfl (List.cons_ne_nil _ _)

end Journal

variable (setup : Setup)

theorem Action.elevates_perform (action : Action) :
    Journal.Elevates (action.perform setup.keeping) (action.perform setup.elevating) := by
  cases action with
  | error source problem => exact Journal.elevates_error source problem
  | warning source problem => exact Journal.elevates_warning source problem
  | emit record => exact .of_isQuiet ⟨rfl, rfl⟩
  | note event => exact .of_isQuiet ⟨rfl, rfl⟩
  | hand node =>
    have handed : Journal.Elevates { entries := [.handed node] } { entries := [.handed node] } :=
      .of_isQuiet ⟨rfl, rfl⟩
    unfold perform Setup.hand ForeignPolicy.handle Setup.keeping Setup.elevating
    cases setup.foreign with
    | reject => exact handed.append fun _ => Journal.elevates_error _ _
    | accept => exact handed.append fun _ => .of_isQuiet ⟨rfl, rfl⟩
    | warn => exact handed.append fun _ => Journal.elevates_warning _ _
  | requestLink link =>
    change Journal.Elevates (setup.link link) (setup.link link)
    obtain ⟨-, h⟩ | ⟨_, -, -, h⟩ | ⟨_, -, -, h⟩ := setup.link_cases link <;> rw [h]
    · exact Journal.elevates_error _ _
    · exact .of_isQuiet ⟨rfl, rfl⟩
    · exact .of_failed rfl (List.cons_ne_nil _ _)

theorem elevates_performAll (actions : List Action) :
    Journal.Elevates (performAll setup.keeping actions) (performAll setup.elevating actions) := by
  induction actions with
  | nil => exact .of_isQuiet ⟨rfl, rfl⟩
  | cons action rest ih => exact (action.elevates_perform setup).append fun _ => ih

/-- While no error is on record, both stand at the same side of every gate. -/
theorem Step.elevates_perform (step : Step) :
    Journal.Elevates (step.perform setup.keeping false) (step.perform setup.elevating false) := by
  cases step with
  | act action => exact action.elevates_perform setup
  | gate closed opened => exact elevates_performAll setup opened

theorem Plan.elevates_perform (p : Plan) :
    Journal.Elevates (perform setup.keeping false p) (perform setup.elevating false p) := by
  induction p with
  | nil => exact .of_isQuiet ⟨rfl, rfl⟩
  | cons step rest ih =>
    have hnow := step.elevates_perform setup
    rw [perform, perform]
    refine hnow.append fun hclean => ?_
    -- no warning so far: the runs have not parted
    rw [← hnow.eq_of_clean hclean, hclean]
    exact ih

def Journal.IsWarningFree (j : Journal) : Prop := ∀ d ∈ j.diagnostics, d.level = .error

namespace Journal.IsWarningFree

theorem append {a b : Journal} (ha : a.IsWarningFree) (hb : b.IsWarningFree) :
    (a ++ b).IsWarningFree := by
  intro d hd
  rw [diagnostics_append, List.mem_append] at hd
  exact hd.elim (ha d) (hb d)

theorem of_isQuiet {j : Journal} (h : j.IsQuiet) : j.IsWarningFree := by
  intro d hd
  rw [h.2] at hd
  cases hd

theorem error (source : SourcePosition) (problem : Problem) :
    (Journal.error source problem).IsWarningFree := by
  simp [IsWarningFree, Journal.error, write, diagnostics, Entry.diagnostic?]

theorem warning {policy : WarningPolicy} (h : policy.treatment = .elevate)
    (source : SourcePosition) (problem : Problem) :
    (Journal.warning policy source problem).IsWarningFree := by
  have hwarned : ({ entries := [.warned source problem] } : Journal).IsQuiet := ⟨rfl, rfl⟩
  refine (of_isQuiet hwarned).append ?_
  rw [settle, h]
  exact error source problem

end Journal.IsWarningFree

theorem invariant_isWarningFree (h : setup.warnings.treatment = .elevate) :
    Invariant setup Journal.IsWarningFree :=
  .of_parts .append (fun _ => .of_isQuiet) .error (.warning h)

theorem Action.perform_congr {policy : WarningPolicy}
    (h : policy.treatment = setup.warnings.treatment) (action : Action) :
    action.perform { setup with warnings := policy } = action.perform setup := by
  have hwarning (source : SourcePosition) (problem : Problem) :
      Journal.warning policy source problem = Journal.warning setup.warnings source problem := by
    rw [Journal.warning, Journal.warning, Journal.settle, Journal.settle, h]
  cases action with
  | warning source problem => exact hwarning source problem
  | hand node =>
    change setup.foreign.handle policy node = setup.foreign.handle setup.warnings node
    unfold ForeignPolicy.handle
    cases setup.foreign with
    | warn =>
      dsimp only
      rw [hwarning]
    | _ => rfl
  | _ => rfl

theorem performAll_congr {setup setup' : Setup}
    (h : ∀ action : Action, action.perform setup = action.perform setup') (actions : List Action) :
    performAll setup actions = performAll setup' actions := by
  induction actions with
  | nil => rfl
  | cons action rest ih => rw [performAll, performAll, h, ih]

theorem Plan.perform_congr {setup setup' : Setup}
    (h : ∀ action : Action, action.perform setup = action.perform setup') (failed : Bool) (p : Plan) :
    perform setup failed p = perform setup' failed p := by
  induction p generalizing failed with
  | nil => rfl
  | cons step rest ih =>
    have hstep : step.perform setup failed = step.perform setup' failed := by
      cases step with
      | act action => exact h action
      | gate closed opened => exact performAll_congr h _
    rw [perform, perform, hstep, ih]

namespace Request

theorem run_elevating_suppressing (r : Request) (setup : Setup) :
    r.run { setup with warnings := { warningsAsErrors := true, suppressWarnings := true } } =
      r.run setup.elevating := by
  have htreatment : ({ warningsAsErrors := true, suppressWarnings := true } : WarningPolicy).treatment =
      setup.elevating.warnings.treatment := rfl
  exact Plan.perform_congr (Action.perform_congr setup.elevating htreatment) false _

/-- A request is committed with its warnings elevated exactly if it is committed without any. -/
theorem outcome_elevating_eq_ok_iff (r : Request) (setup : Setup) :
    (∀ commit, r.outcome setup.elevating = .ok commit ↔
      r.outcome setup.keeping = .ok commit ∧ commit.warnings = []) ∧
    (∀ d ∈ (r.run setup.elevating).diagnostics, d.level = .error) ∧
    r.run { setup with warnings := { warningsAsErrors := true, suppressWarnings := true } } =
      r.run setup.elevating ∧
    r.outcome { setup with warnings := { warningsAsErrors := true, suppressWarnings := true } } =
      r.outcome setup.elevating := by
  have helevates : Journal.Elevates (r.run setup.keeping) (r.run setup.elevating) :=
    Plan.elevates_perform setup _
  refine ⟨fun commit => ?_, (invariant_isWarningFree setup.elevating rfl).plan false _,
    r.run_elevating_suppressing setup, by rw [outcome, run_elevating_suppressing]; rfl⟩
  rw [outcome, outcome, Compilation.finish_eq_ok_iff, Compilation.finish_eq_ok_iff]
  constructor
  · rintro ⟨hclean, rfl⟩
    have hquiet := helevates.clean_iff.1 hclean
    have heq := helevates.eq_of_clean hclean
    rw [heq] at hclean ⊢
    exact ⟨⟨hclean, rfl⟩, hquiet⟩
  · rintro ⟨⟨-, rfl⟩, hquiet⟩
    have hclean := helevates.clean_iff.2 hquiet
    refine ⟨hclean, ?_⟩
    rw [helevates.eq_of_clean hclean]

end Request

end GameRegistration
