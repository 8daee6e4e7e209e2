import GameRegistration.Proofs.Checks

/-! What the plans of jobs consist of. Of its own the compilation warns of long identifiers only;
everything else that is wrong with a document is an error. -/
namespace GameRegistration

namespace Action

def isOrdinary : Action → Bool
  | .warning _ problem =>
    match problem with
    | .identifierTooLong .. => true
    | _ => false
  | .note event =>
    match event with
    | .elementJob .. | .attributeJob .. | .registrationSuppressed _ => true
    | _ => false
  | .error .. | .emit _ | .hand _ | .requestLink _ => true

def AreOrdinary (actions : List Action) : Prop := ∀ a ∈ actions, a.isOrdinary = true

namespace AreOrdinary

theorem nil : AreOrdinary [] := fun _ h => nomatch h

theorem cons {a : Action} {rest : List Action} (ha : a.isOrdinary = true) (h : AreOrdinary rest) :
    AreOrdinary (a :: rest) :=
  List.forall_mem_cons.2 ⟨ha, h⟩

theorem append {a b : List Action} (ha : AreOrdinary a) (hb : AreOrdinary b) :
    AreOrdinary (a ++ b) := by
  intro x hx
  exact (List.mem_append.1 hx).elim (ha x) (hb x)

theorem flatMap {α : Type} {f : α → List Action} {xs : List α} (h : ∀ x ∈ xs, AreOrdinary (f x)) :
    AreOrdinary (xs.flatMap f) := by
  intro a ha
  obtain ⟨x, hx, ha⟩ := List.mem_flatMap.1 ha
  exact h x hx a ha

end AreOrdinary

end Action

open GameRegistration.Action

theorem FileContext.areOrdinary_resolve (c : Context) (element : String) (source : SourcePosition) :
    AreOrdinary (resolve c element source).actions := by
  intro a ha
  obtain ⟨key, rfl⟩ := exists_of_mem_resolve ha
  rfl

namespace Task
variable (source : SourcePosition) (component : String)

theorem areOrdinary_directory (kind : TaskKind) (ordinal : UInt32) :
    AreOrdinary (directory source component kind ordinal).actions := by
  intro a ha
  obtain ⟨id, violation, rfl⟩ | rfl := cases_of_mem_directory ha <;> rfl

theorem areOrdinary_ensure (r : TaskRoots) (game : String) :
    AreOrdinary (r.ensure source game component).actions := by
  intro a ha
  obtain ⟨id, violation, rfl⟩ | ⟨record, -, rfl⟩ := cases_of_mem_ensure ha <;> rfl

end Task

namespace TaskElement

theorem areOrdinary_checks (kind : TaskKind) (task : Element) : AreOrdinary (checks kind task) := by
  intro a ha
  obtain ⟨node, rfl⟩ | ⟨source, problem, rfl, -⟩ := cases_of_mem_checks ha <;> rfl

theorem areOrdinary_emission (kind : TaskKind) (task : Element) (file : FileContext)
    (executable : String) (ordinal : UInt32) :
    AreOrdinary (emission kind task file executable ordinal) := by
  intro a ha
  obtain hdirectory | ⟨_, _, rfl⟩ | ⟨_, _, _, rfl⟩ := cases_of_mem_emission ha
  · exact Task.areOrdinary_directory _ _ _ _ a hdirectory
  · rfl
  · rfl

theorem areOrdinary_plan (kind : TaskKind) (task : Element) (file : FileContext)
    (executable : String) (ordinal : UInt32) :
    AreOrdinary (plan kind task file executable ordinal).actions := by
  rw [plan, Plan.actions_append, Plan.actions_ofActions]
  refine (areOrdinary_checks kind task).append ?_
  simpa [Plan.actions, Step.actions] using areOrdinary_emission kind task file executable ordinal

end TaskElement

namespace Game

theorem areOrdinary_attributes (game : Element) :
    AreOrdinary (game.attributes.flatMap (attributeActions game)) := by
  intro a ha
  obtain ⟨node, rfl⟩ | ⟨problem, rfl, -⟩ | ⟨attr, rfl⟩ := cases_of_mem_attributes ha <;> rfl

theorem areOrdinary_childrenPlan (game : Element) (file : FileContext) (roots : TaskRoots)
    (ordinals : Ordinals) (children : List Element) :
    AreOrdinary (childrenPlan game file roots ordinals children).actions := by
  induction children generalizing roots ordinals with
  | nil => exact .nil
  | cons child rest ih =>
    rw [childrenPlan]
    cases childRole child with
    | foreign => exact .cons rfl (ih roots ordinals)
    | unexpected => exact .cons rfl (ih roots ordinals)
    | task kind =>
      dsimp only
      rw [Plan.actions_append, Plan.actions_append, Plan.actions_ofActions]
      exact ((Task.areOrdinary_ensure _ _ roots _).append
        (TaskElement.areOrdinary_plan kind child file _ _)).append (ih _ _)

theorem areOrdinary_registration (game : Element) (file : FileContext) :
    AreOrdinary (registration game file) := by
  intro a ha
  obtain ⟨id, rfl⟩ | rfl := cases_of_mem_registration ha <;> rfl

theorem areOrdinary_plan (game : Element) (file : FileContext) :
    AreOrdinary (plan game file).actions := by
  have hmissing : AreOrdinary (missingId game) := by
    intro a ha
    rw [eq_of_mem_missingId ha]
    rfl
  have hreferences : AreOrdinary (fileReferences game file) := by
    intro a ha
    obtain ⟨key, rfl⟩ := exists_of_mem_fileReferences ha
    rfl
  simp only [plan, Plan.actions_append, Plan.actions_ofActions]
  refine (((areOrdinary_attributes game).append (areOrdinary_childrenPlan game file _ _ _)).append
    (hmissing.append hreferences)).append ?_
  simpa [Plan.actions, Step.actions] using
    AreOrdinary.cons (a := .note (.registrationSuppressed game.source)) rfl
      (areOrdinary_registration game file)

end Game

namespace Job

theorem areOrdinary_elementPlan (context : Context) (parent element : Element) :
    AreOrdinary (elementPlan context parent element).actions := by
  unfold elementPlan
  split
  · dsimp only
    rw [Plan.actions_append, Plan.actions_ofActions]
    refine (FileContext.areOrdinary_resolve context _ _).append ?_
    split
    · exact Game.areOrdinary_plan element _
    · exact .nil
  · exact .cons rfl .nil

theorem areOrdinary_attributePlan (context : Context) (parent : Element) (attr : Attribute) :
    AreOrdinary (attributePlan context parent attr).actions := by
  intro a ha
  obtain ⟨problem, rfl⟩ | ⟨value, rfl⟩ := cases_of_mem_attributePlan ha <;> rfl

theorem areOrdinary_plan (job : Job) : AreOrdinary job.plan.actions := by
  cases job with
  | onElement context parent element => exact areOrdinary_elementPlan context parent element
  | onAttribute context parent attr => exact areOrdinary_attributePlan context parent attr

theorem areOrdinary_tracedPlan (job : Job) : AreOrdinary job.tracedPlan.actions := by
  have hevent : (Action.note job.event).isOrdinary = true := by cases job <;> rfl
  exact .cons hevent job.areOrdinary_plan

theorem areOrdinary_flatMap {p : Job → Plan} (h : ∀ job, AreOrdinary (p job).actions)
    (jobs : List Job) : AreOrdinary (Plan.actions (jobs.flatMap p)) := by
  rw [Plan.actions, List.flatMap_assoc]
  exact .flatMap fun job _ => h job

theorem areOrdinary_plans (jobs : List Job) : AreOrdinary (Plan.actions (jobs.flatMap plan)) :=
  areOrdinary_flatMap areOrdinary_plan jobs

theorem areOrdinary_tracedPlans (jobs : List Job) :
    AreOrdinary (Plan.actions (jobs.flatMap tracedPlan)) :=
  areOrdinary_flatMap areOrdinary_tracedPlan jobs

end Job

end GameRegistration
