import GameRegistration.Compilation

/-! Journals tell the truth: the flag of a journal is set exactly if an error is among its entries,
however the journal came about. -/
namespace GameRegistration

def Entry.isError : Entry → Bool
  | .diagnostic d => d.isError
  | _ => false

theorem Entry.isError_iff {e : Entry} :
    e.isError = true ↔ ∃ d, e = .diagnostic d ∧ d.level = .error := by
  cases e with
  | diagnostic d => simp [Entry.isError, Diagnostic.isError]
  | _ => simp [Entry.isError]

namespace Journal

def Honest (j : Journal) : Prop := j.failed = j.entries.any Entry.isError

theorem Honest.append {a b : Journal} (ha : a.Honest) (hb : b.Honest) : (a ++ b).Honest := by
  unfold Honest at *
  rw [failed_append, entries_append, List.any_append, ha, hb]

def IsQuiet (j : Journal) : Prop := j.failed = false ∧ j.diagnostics = []

theorem IsQuiet.honest {j : Journal} (h : j.IsQuiet) : j.Honest := by
  rw [Honest, h.1, eq_comm, List.any_eq_false]
  intro e he herror
  obtain ⟨d, rfl, -⟩ := Entry.isError_iff.1 herror
  have hd : d ∈ j.diagnostics := List.mem_filterMap.2 ⟨_, he, rfl⟩
  rw [h.2] at hd
  cases hd

theorem honest_write (source : SourcePosition) (level : Level) (problem : Problem) :
    (write source level problem).Honest := by
  cases level <;> rfl

theorem honest_warning (policy : WarningPolicy) (source : SourcePosition) (problem : Problem) :
    (warning policy source problem).Honest := by
  have hwarned : ({ entries := [.warned source problem] } : Journal).IsQuiet := ⟨rfl, rfl⟩
  refine hwarned.honest.append ?_
  unfold settle
  cases policy.treatment with
  | keep => exact honest_write source .warning problem
  | elevate => exact honest_write source .error problem
  | suppress => rfl

/-- The errors among the diagnostics are those among the entries. -/
theorem Honest.failed_iff {j : Journal} (hj : j.Honest) :
    j.failed = true ↔ ∃ d ∈ j.diagnostics, d.level = .error := by
  rw [hj, List.any_eq_true]
  constructor
  · rintro ⟨e, he, herr⟩
    obtain ⟨d, rfl, hd⟩ := Entry.isError_iff.1 herr
    exact ⟨d, List.mem_filterMap.2 ⟨_, he, rfl⟩, hd⟩
  · rintro ⟨d, hd, hlevel⟩
    obtain ⟨e, he, hed⟩ := List.mem_filterMap.1 hd
    cases e with
    | diagnostic d' =>
      cases hed
      exact ⟨_, he, Entry.isError_iff.2 ⟨d, rfl, hlevel⟩⟩
    | _ => cases hed

end Journal

theorem Setup.link_cases (setup : Setup) (link : SupportLink) :
    (setup.links = none ∧
      setup.link link = Journal.error link.source (.noLinkEmitter link.name link.directory)) ∨
    (∃ emitter, setup.links = some emitter ∧ emitter.accepts link = true ∧
      setup.link link = { entries := [.linked link true] } ++ .add .link (.shortcut link.record)) ∨
    (∃ emitter, setup.links = some emitter ∧ emitter.accepts link = false ∧
      setup.link link = { entries := [.linked link false] } ++
        .error link.source (.linkFailed link.directory link.refusal.message)) := by
  unfold Setup.link
  cases setup.links with
  | none => exact .inl ⟨rfl, rfl⟩
  | some emitter =>
    right
    unfold LinkEmitter.emit
    cases h : emitter.accepts link with
    | true => exact .inl ⟨emitter, rfl, h, by simp [h]⟩
    | false => exact .inr ⟨emitter, rfl, h, by simp [h]⟩

/-- What a step may do, at either side of its gate. -/
def Step.actions : Step → List Action
  | .act action => [action]
  | .gate closed opened => closed ++ opened

namespace Plan

def actions (p : Plan) : List Action := p.flatMap Step.actions

@[simp] theorem actions_append (p q : Plan) : (p ++ q : Plan).actions = p.actions ++ q.actions :=
  List.flatMap_append

@[simp] theorem actions_ofActions (actions : List Action) :
    (ofActions actions).actions = actions := by
  induction actions with
  | nil => rfl
  | cons action rest ih => exact congrArg (action :: ·) ih

end Plan

section Actions
variable {setup : Setup} {P : Journal → Prop} (empty : P {})
  (append : ∀ {a b : Journal}, P a → P b → P (a ++ b))
include empty append

theorem performAll_of_actions {actions : List Action} (h : ∀ a ∈ actions, P (a.perform setup)) :
    P (performAll setup actions) := by
  induction actions with
  | nil => exact empty
  | cons action rest ih =>
    rw [List.forall_mem_cons] at h
    exact append h.1 (ih h.2)

theorem Step.perform_of_actions {step : Step} (h : ∀ a ∈ step.actions, P (a.perform setup))
    (failed : Bool) : P (step.perform setup failed) := by
  cases step with
  | act action => exact h action List.mem_cons_self
  | gate closed opened =>
    cases failed with
    | true => exact performAll_of_actions empty append fun a ha => h a (List.mem_append_left _ ha)
    | false => exact performAll_of_actions empty append fun a ha => h a (List.mem_append_right _ ha)

/-- What holds of all that the actions of a plan do holds of what the plan does. -/
theorem Plan.perform_of_actions {p : Plan} (h : ∀ a ∈ p.actions, P (a.perform setup))
    (failed : Bool) : P (p.perform setup failed) := by
  induction p generalizing failed with
  | nil => exact empty
  | cons step rest ih =>
    have hstep : ∀ a ∈ step.actions, P (a.perform setup) :=
      fun a ha => h a (List.mem_append_left _ ha)
    exact append (step.perform_of_actions empty append hstep failed)
      (ih (fun a ha => h a (List.mem_append_right _ ha)) _)

end Actions

/-- What holds of all that actions do, and of journals put together from those it holds of. -/
structure Invariant (setup : Setup) (P : Journal → Prop) : Prop where
  empty : P {}
  append {a b : Journal} : P a → P b → P (a ++ b)
  action (action : Action) : P (action.perform setup)

namespace Invariant
variable {setup : Setup} {P : Journal → Prop} (h : Invariant setup P)
include h

theorem step (failed : Bool) (step : Step) : P (step.perform setup failed) :=
  step.perform_of_actions h.empty h.append (fun a _ => h.action a) failed

theorem plan (failed : Bool) (plan : Plan) : P (plan.perform setup failed) :=
  plan.perform_of_actions h.empty h.append (fun a _ => h.action a) failed

end Invariant

theorem Invariant.of_parts {setup : Setup} {P : Journal → Prop}
    (append : ∀ {a b : Journal}, P a → P b → P (a ++ b)) (quiet : ∀ j : Journal, j.IsQuiet → P j)
    (error : ∀ source problem, P (Journal.error source problem))
    (warning : ∀ source problem, P (Journal.warning setup.warnings source problem)) :
    Invariant setup P where
  empty := quiet _ ⟨rfl, rfl⟩
  append := append
  action action := by
    cases action with
    | error source problem => exact error source problem
    | warning source problem => exact warning source problem
    | emit record => exact quiet _ ⟨rfl, rfl⟩
    | note event => exact quiet _ ⟨rfl, rfl⟩
    | hand node =>
      have handed : P { entries := [.handed node] } := quiet _ ⟨rfl, rfl⟩
      unfold Action.perform Setup.hand ForeignPolicy.handle
      cases setup.foreign with
      | reject => exact append handed (error _ _)
      | accept => exact append handed (quiet _ ⟨rfl, rfl⟩)
      | warn => exact append handed (warning _ _)
    | requestLink link =>
      change P (setup.link link)
      obtain ⟨-, h⟩ | ⟨_, -, -, h⟩ | ⟨_, -, -, h⟩ := setup.link_cases link <;> rw [h]
      · exact error _ _
      · exact quiet _ ⟨rfl, rfl⟩
      · exact append (quiet _ ⟨rfl, rfl⟩) (error _ _)

theorem invariant_honest (setup : Setup) : Invariant setup Journal.Honest :=
  .of_parts .append (fun _ h => h.honest) (fun source => Journal.honest_write source .error)
    (Journal.honest_warning setup.warnings)

theorem Step.honest_perform (setup : Setup) (failed : Bool) (step : Step) :
    (step.perform setup failed).Honest := (invariant_honest setup).step failed step

theorem Plan.honest_perform (setup : Setup) (failed : Bool) (plan : Plan) :
    (Plan.perform setup failed plan).Honest := (invariant_honest setup).plan failed plan

end GameRegistration
