import GameRegistration.Game
import GameRegistration.Proofs.Plan

/-! Gates. Records that register a game, link to it or hold a link are made only while no error is
on record; an orderly plan keeps to that by its shape. -/
namespace GameRegistration

/-- Roots and references to files may follow an error, and so may all records of other namespaces. -/
def Record.isGated : Record → Bool
  | .game _ | .shortcut _ | .registry _ => true
  | .directory r => r.parentRef != Task.targetDirectory
  | .reference r => r.table == "CustomAction" && r.primaryKeys == Game.scheduleAction
  | .customAction _ | .schedule _ => false

namespace Entry

def isGated : Entry → Bool
  | .record _ r => r.isGated
  | _ => false

/-- No gated record comes after an error. -/
def MayPrecede (earlier later : Entry) : Prop := earlier.isError = true → later.isGated = false

end Entry

namespace Action

/-- Such actions need no gate: they make no gated record. -/
def isFree : Action → Bool
  | .emit r => !r.isGated
  | .requestLink _ => false
  | _ => true

/-- Silent actions raise nothing. -/
def isSilent : Action → Bool
  | .emit _ | .note _ => true
  | _ => false

/-- Only a link, whose refusal is an error, may end a silent list. -/
def areOrderly : List Action → Bool
  | [] => true
  | [.requestLink _] => true
  | action :: rest => action.isSilent && areOrderly rest

end Action

def Step.Orderly (failed : Bool) : Step → Prop
  | .act action => action.isFree = true
  | .gate closed opened =>
    (closed.all fun a => a.isFree && a.isSilent) = true ∧
      (failed = false → Action.areOrderly opened = true)

def Plan.Orderly (setup : Setup) (failed : Bool) : Plan → Prop
  | [] => True
  | step :: rest =>
    step.Orderly failed ∧ Orderly setup (failed || (step.perform setup failed).failed) rest

variable (setup : Setup)

theorem Journal.entries_warning_quiet (policy : WarningPolicy) (source : SourcePosition)
    (problem : Problem) : ∀ e ∈ (warning policy source problem).entries, e.isGated = false := by
  unfold warning settle
  cases policy.treatment <;> simp [append, write, note, Entry.isGated]

theorem ForeignNode.not_isGated_reference (node : ForeignNode) :
    (Record.reference node.reference).isGated = false := by
  cases node <;> rfl

namespace Action

theorem not_isGated_of_isFree {a : Action} (h : a.isFree = true) :
    ∀ e ∈ (a.perform setup).entries, e.isGated = false := by
  cases a with
  | error source problem => simp [perform, Journal.error, Journal.write, Entry.isGated]
  | warning source problem => exact Journal.entries_warning_quiet setup.warnings source problem
  | emit r =>
    have hr : r.isGated = false := by simpa [isFree] using h
    simp [perform, Journal.emit, Entry.isGated, hr]
  | note event => simp [perform, Journal.note, Entry.isGated]
  | hand node =>
    unfold perform Setup.hand ForeignPolicy.handle
    cases setup.foreign with
    | reject => simp [Journal.error, Journal.write, Entry.isGated]
    | accept => simp [Journal.add, Entry.isGated, node.not_isGated_reference]
    | warn =>
      have hw := Journal.entries_warning_quiet setup.warnings node.source node.unexpected
      simpa [Entry.isGated] using hw
  | requestLink link => cases h

theorem not_isError_of_isSilent {a : Action} (h : a.isSilent = true) :
    ∀ e ∈ (a.perform setup).entries, e.isError = false := by
  cases a with
  | emit r => simp [perform, Journal.emit, Entry.isError]
  | note event => simp [perform, Journal.note, Entry.isError]
  | _ => cases h

theorem pairwise_requestLink (link : SupportLink) :
    ((Action.requestLink link).perform setup).entries.Pairwise Entry.MayPrecede := by
  change (setup.link link).entries.Pairwise _
  obtain ⟨-, h⟩ | ⟨_, -, -, h⟩ | ⟨_, -, -, h⟩ := setup.link_cases link <;> rw [h]
  all_goals
    simp [Journal.error, Journal.write, Journal.add, Entry.MayPrecede, Entry.isError, Entry.isGated]

end Action

theorem performAll_not_gated {actions : List Action} (h : ∀ a ∈ actions, a.isFree = true) :
    ∀ e ∈ (performAll setup actions).entries, e.isGated = false := by
  rw [entries_performAll]
  intro e he
  obtain ⟨a, ha, hea⟩ := List.mem_flatMap.1 he
  exact a.not_isGated_of_isFree setup (h a ha) e hea

theorem pairwise_of_not_gated {entries : List Entry} (h : ∀ e ∈ entries, e.isGated = false) :
    entries.Pairwise Entry.MayPrecede :=
  List.pairwise_of_forall_mem_list fun _ _ later hlater _ => h later hlater

theorem pairwise_of_areOrderly {actions : List Action} (h : Action.areOrderly actions = true) :
    (performAll setup actions).entries.Pairwise Entry.MayPrecede := by
  fun_induction Action.areOrderly actions with
  | case1 => exact .nil
  | case2 link =>
    rw [performAll_singleton]
    exact Action.pairwise_requestLink setup link
  | case3 action rest _ ih =>
    rw [Bool.and_eq_true] at h
    have quiet : ∀ earlier ∈ (action.perform setup).entries, ∀ later,
        earlier.MayPrecede later := by
      intro earlier hearlier later herror
      rw [action.not_isError_of_isSilent setup h.1 earlier hearlier] at herror
      cases herror
    rw [performAll, Journal.entries_append, List.pairwise_append]
    exact ⟨List.pairwise_of_forall_mem_list fun e he later _ => quiet e he later, ih h.2,
      fun e he later _ => quiet e he later⟩

namespace Step.Orderly
variable {setup}

theorem not_gated_of_failed {step : Step} (h : step.Orderly true) :
    ∀ e ∈ (step.perform setup true).entries, e.isGated = false := by
  cases step with
  | act action => exact action.not_isGated_of_isFree setup h
  | gate closed opened =>
    apply performAll_not_gated
    intro a ha
    have hclosed := List.all_eq_true.1 h.1 a ha
    rw [Bool.and_eq_true] at hclosed
    exact hclosed.1

theorem pairwise {failed : Bool} {step : Step} (h : step.Orderly failed) :
    (step.perform setup failed).entries.Pairwise Entry.MayPrecede := by
  cases failed with
  | true => exact pairwise_of_not_gated h.not_gated_of_failed
  | false =>
    cases step with
    | act action => exact pairwise_of_not_gated (action.not_isGated_of_isFree setup h)
    | gate closed opened => exact pairwise_of_areOrderly setup (h.2 rfl)

end Step.Orderly

namespace Plan
variable {setup}

theorem orderly_append_iff {failed : Bool} {p q : Plan} :
    Orderly setup failed (p ++ q) ↔
      Orderly setup failed p ∧ Orderly setup (failed || (perform setup failed p).failed) q := by
  induction p generalizing failed with
  | nil => simp [Orderly, perform]
  | cons step rest ih =>
    rw [List.cons_append, Orderly, Orderly, perform, ih, Journal.failed_append, Bool.or_assoc,
      and_assoc]

theorem orderly_ofActions {failed : Bool} {actions : List Action}
    (h : ∀ a ∈ actions, a.isFree = true) : Orderly setup failed (ofActions actions) := by
  induction actions generalizing failed with
  | nil => trivial
  | cons action rest ih => exact ⟨h action (by simp), ih fun a ha => h a (by simp [ha])⟩

namespace Orderly

theorem not_gated_of_failed {p : Plan} (h : Orderly setup true p) :
    ∀ e ∈ (perform setup true p).entries, e.isGated = false := by
  induction p with
  | nil => intro e he; cases he
  | cons step rest ih =>
    intro e he
    rw [perform, Journal.entries_append, List.mem_append] at he
    obtain hnow | hlater := he
    · exact h.1.not_gated_of_failed e hnow
    · exact ih h.2 e hlater

/-- The run keeps what each step keeps: no gated record after an error. -/
theorem pairwise {failed : Bool} {p : Plan} (h : Orderly setup failed p) :
    (perform setup failed p).entries.Pairwise Entry.MayPrecede := by
  induction p generalizing failed with
  | nil => exact .nil
  | cons step rest ih =>
    rw [perform, Journal.entries_append, List.pairwise_append]
    refine ⟨h.1.pairwise, ih h.2, ?_⟩
    intro earlier hearlier later hlater herror
    -- the error set the flag, so every later gate is closed
    have hnow : (step.perform setup failed).failed = true := by
      rw [step.honest_perform setup failed]
      exact List.any_eq_true.2 ⟨earlier, hearlier, herror⟩
    have hrest := h.2
    rw [hnow, Bool.or_true] at hrest hlater
    exact hrest.not_gated_of_failed later hlater

end Orderly

end Plan

end GameRegistration
