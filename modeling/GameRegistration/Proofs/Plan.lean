import GameRegistration.Proofs.Journal

/-! What plans come to. The views of a list of actions are put together from those of its members,
and a plan that ends without an error did everything that stands behind its gates. -/
namespace GameRegistration

variable (setup : Setup)

theorem performAll_singleton (a : Action) : performAll setup [a] = a.perform setup :=
  Journal.append_empty _

theorem Plan.perform_singleton (failed : Bool) (step : Step) :
    Plan.perform setup failed [step] = step.perform setup failed :=
  Journal.append_empty _

theorem failed_performAll (actions : List Action) :
    (performAll setup actions).failed = actions.any fun a => (a.perform setup).failed := by
  induction actions with
  | nil => rfl
  | cons action rest ih => rw [performAll, Journal.failed_append, ih, List.any_cons]

theorem performAll_clean_iff (actions : List Action) :
    (performAll setup actions).failed = false ↔
      ∀ a ∈ actions, (a.perform setup).failed = false := by
  rw [failed_performAll, List.any_eq_false]
  simp

theorem entries_performAll (actions : List Action) :
    (performAll setup actions).entries = actions.flatMap fun a => (a.perform setup).entries := by
  induction actions with
  | nil => rfl
  | cons action rest ih => rw [performAll, Journal.entries_append, ih, List.flatMap_cons]

theorem records_performAll (actions : List Action) :
    (performAll setup actions).records = actions.flatMap fun a => (a.perform setup).records := by
  rw [Journal.records, entries_performAll, List.filterMap_flatMap]
  rfl

theorem diagnostics_performAll (actions : List Action) :
    (performAll setup actions).diagnostics =
      actions.flatMap fun a => (a.perform setup).diagnostics := by
  rw [Journal.diagnostics, entries_performAll, List.filterMap_flatMap]
  rfl

theorem Journal.own_notMem_warning (policy : WarningPolicy) (source : SourcePosition)
    (problem : Problem) (r : Record) : .record .own r ∉ (warning policy source problem).entries := by
  unfold warning settle
  cases policy.treatment <;> simp [append, write, note]

theorem Action.mem_own_iff {action : Action} {r : Record} :
    .record .own r ∈ (action.perform setup).entries ↔ action = .emit r := by
  cases action with
  | emit r' => simp [perform, Journal.emit, eq_comm]
  | error source problem => simp [perform, Journal.error, Journal.write]
  | note event => simp [perform, Journal.note]
  | warning source problem =>
    simpa [perform] using Journal.own_notMem_warning setup.warnings source problem r
  | hand node =>
    unfold perform Setup.hand ForeignPolicy.handle
    cases setup.foreign with
    | reject => simp [Journal.error, Journal.write]
    | accept => simp [Journal.add]
    | warn => simpa using Journal.own_notMem_warning setup.warnings node.source node.unexpected r
  | requestLink link =>
    change .record .own r ∈ (setup.link link).entries ↔ _
    obtain ⟨-, h⟩ | ⟨_, -, -, h⟩ | ⟨_, -, -, h⟩ := setup.link_cases link <;> rw [h]
    all_goals simp [Journal.error, Journal.write, Journal.add]

theorem mem_own_performAll_iff {actions : List Action} {r : Record} :
    .record .own r ∈ (performAll setup actions).entries ↔ .emit r ∈ actions := by
  rw [entries_performAll, List.mem_flatMap]
  simp [Action.mem_own_iff]

def Step.opened : Step → List Action
  | .act action => [action]
  | .gate _ opened => opened

theorem Step.perform_opened (step : Step) :
    step.perform setup false = performAll setup step.opened := by
  cases step with
  | act action => exact (performAll_singleton setup action).symm
  | gate closed opened => rfl

/-- What a step does whether an error is on record or not. -/
def Step.ungated : Step → List Action
  | .act action => [action]
  | .gate .. => []

namespace Plan

def opened (p : Plan) : List Action := p.flatMap Step.opened

def ungated (p : Plan) : List Action := p.flatMap Step.ungated

@[simp] theorem opened_append (p q : Plan) : opened (p ++ q) = opened p ++ opened q := by
  simp [opened]

@[simp] theorem opened_ofActions (actions : List Action) : opened (ofActions actions) = actions := by
  induction actions with
  | nil => rfl
  | cons action rest ih => exact congrArg (action :: ·) ih

@[simp] theorem opened_gate (closed actions : List Action) (p : Plan) :
    opened (.gate closed actions :: p) = actions ++ opened p := rfl

@[simp] theorem opened_act (action : Action) (p : Plan) :
    opened (.act action :: p) = action :: opened p := rfl

@[simp] theorem opened_nil : opened [] = [] := rfl

@[simp] theorem ungated_append (p q : Plan) : ungated (p ++ q) = ungated p ++ ungated q := by
  simp [ungated]

@[simp] theorem ungated_ofActions (actions : List Action) :
    ungated (ofActions actions) = actions := by
  induction actions with
  | nil => rfl
  | cons action rest ih => exact congrArg (action :: ·) ih

@[simp] theorem ungated_gate (closed actions : List Action) (p : Plan) :
    ungated (.gate closed actions :: p) = ungated p := rfl

@[simp] theorem ungated_act (action : Action) (p : Plan) :
    ungated (.act action :: p) = action :: ungated p := rfl

@[simp] theorem ungated_nil : ungated [] = [] := rfl

/-- Without an error there was none at any gate, so every gate stood open. -/
theorem perform_of_clean {p : Plan} (h : (perform setup false p).failed = false) :
    perform setup false p = performAll setup p.opened := by
  induction p with
  | nil => rfl
  | cons step rest ih =>
    have hstep : step.perform setup false = performAll setup step.opened := step.perform_opened setup
    rw [perform, Journal.failed_append, Bool.or_eq_false_iff] at h
    obtain ⟨hnow, hlater⟩ := h
    rw [hnow, Bool.or_false] at hlater
    calc
      perform setup false (step :: rest)
          = step.perform setup false ++ perform setup false rest := by
            rw [perform, hnow, Bool.or_false]
      _ = performAll setup step.opened ++ performAll setup (opened rest) := by rw [hstep, ih hlater]
      _ = performAll setup (opened (step :: rest)) := (performAll_append setup _ _).symm

/-- An error comes up exactly if one does with every gate open: up to the first one every gate is. -/
theorem clean_iff {p : Plan} :
    (perform setup false p).failed = false ↔ (performAll setup p.opened).failed = false := by
  constructor
  · intro h
    rw [← perform_of_clean setup h]
    exact h
  · induction p with
    | nil => exact id
    | cons step rest ih =>
      have hstep : step.perform setup false = performAll setup step.opened := step.perform_opened setup
      intro h
      change (performAll setup (step.opened ++ opened rest)).failed = false at h
      rw [performAll_append, Journal.failed_append, Bool.or_eq_false_iff] at h
      rw [perform, hstep, h.1, Bool.false_or, Journal.failed_append, h.1, Bool.false_or]
      exact ih h.2

/-- One plan after another ends without an error exactly if each does by itself: the first that
fails fails by itself too, for none before it has. -/
theorem clean_flatMap_iff {α : Type} (f : α → Plan) (xs : List α) :
    (perform setup false (xs.flatMap f)).failed = false ↔
      ∀ x ∈ xs, (perform setup false (f x)).failed = false := by
  induction xs with
  | nil => simp [perform]
  | cons x rest ih =>
    rw [List.flatMap_cons, perform_append, Journal.failed_append, Bool.or_eq_false_iff,
      List.forall_mem_cons]
    constructor
    · rintro ⟨hx, hrest⟩
      rw [hx, Bool.or_false] at hrest
      exact ⟨hx, ih.1 hrest⟩
    · rintro ⟨hx, hrest⟩
      rw [hx, Bool.or_false]
      exact ⟨rfl, ih.2 hrest⟩

theorem entries_flatMap_of_clean {α : Type} {f : α → Plan} {xs : List α}
    (h : ∀ x ∈ xs, (perform setup false (f x)).failed = false) :
    (perform setup false (xs.flatMap f)).entries =
      xs.flatMap fun x => (perform setup false (f x)).entries := by
  induction xs with
  | nil => rfl
  | cons x rest ih =>
    have hrest : ∀ y ∈ rest, (perform setup false (f y)).failed = false := fun y hy =>
      h y (List.mem_cons_of_mem x hy)
    rw [List.flatMap_cons, perform_append, h x List.mem_cons_self, Bool.or_false,
      Journal.entries_append, ih hrest, List.flatMap_cons]

end Plan

def Job.perform (failed : Bool) (job : Job) : Journal := Plan.perform setup failed job.plan

end GameRegistration
