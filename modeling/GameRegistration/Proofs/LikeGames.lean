import Mathlib.Data.List.Forall2
import GameRegistration.Proofs.Checks

/-! Games that are compiled alike. Of what was done before a gate sees the flag alone, so a likeness
of journals that keeps the flag goes along with performing. -/
namespace GameRegistration

/-- A likeness of journals that keeps the flag and is put together part by part. -/
structure Likeness (R : Journal → Journal → Prop) : Prop where
  refl (j : Journal) : R j j
  append {a b a' b' : Journal} : R a b → R a' b' → R (a ++ a') (b ++ b')
  failed_eq {a b : Journal} : R a b → a.failed = b.failed

variable {R : Journal → Journal → Prop} {setup : Setup}

def Plan.Alike (R : Journal → Journal → Prop) (setup : Setup) (p q : Plan) : Prop :=
  ∀ failed, R (p.perform setup failed) (q.perform setup failed)

namespace Likeness
variable (hR : Likeness R)
include hR

theorem plan_append {p q p' q' : Plan} (h : p.Alike R setup q) (h' : p'.Alike R setup q') :
    Plan.Alike R setup (p ++ p') (q ++ q') := by
  intro failed
  rw [Plan.perform_append, Plan.perform_append, hR.failed_eq (h failed)]
  exact hR.append (h failed) (h' _)

theorem plan_act {a b : Action} {p q : Plan} (h : R (a.perform setup) (b.perform setup))
    (h' : p.Alike R setup q) : Plan.Alike R setup (.act a :: p) (.act b :: q) := by
  have hfirst : Plan.Alike R setup [.act a] [.act b] := by
    intro failed
    rw [Plan.perform_singleton, Plan.perform_singleton]
    exact h
  exact hR.plan_append hfirst h'

theorem performAll_append {a b a' b' : List Action} (h : R (performAll setup a) (performAll setup b))
    (h' : R (performAll setup a') (performAll setup b')) :
    R (performAll setup (a ++ a')) (performAll setup (b ++ b')) := by
  rw [GameRegistration.performAll_append, GameRegistration.performAll_append]
  exact hR.append h h'

theorem performAll_flatMap {α : Type} {f g : α → List Action} {xs : List α}
    (h : ∀ x ∈ xs, R (performAll setup (f x)) (performAll setup (g x))) :
    R (performAll setup (xs.flatMap f)) (performAll setup (xs.flatMap g)) := by
  induction xs with
  | nil => exact hR.refl _
  | cons x rest ih =>
    rw [List.forall_mem_cons] at h
    exact hR.performAll_append h.1 (ih h.2)

theorem performAll_map {α : Type} {f g : α → Action} {xs : List α}
    (h : ∀ x ∈ xs, R ((f x).perform setup) ((g x).perform setup)) :
    R (performAll setup (xs.map f)) (performAll setup (xs.map g)) := by
  rw [List.map_eq_flatMap, List.map_eq_flatMap]
  refine hR.performAll_flatMap fun x hx => ?_
  rw [performAll_singleton, performAll_singleton]
  exact h x hx

end Likeness

theorem Plan.Alike.ofActions {a b : List Action}
    (h : R (performAll setup a) (performAll setup b)) :
    Plan.Alike R setup (Plan.ofActions a) (Plan.ofActions b) := by
  intro failed
  rw [perform_ofActions, perform_ofActions]
  exact h

namespace TaskElement

/-- Tasks that are checked alike and become the same. -/
structure Alike (R : Journal → Journal → Prop) (setup : Setup) (kind : TaskKind)
    (task task' : Element) : Prop where
  checks : R (performAll setup (checks kind task)) (performAll setup (checks kind task'))
  emission_eq (file : FileContext) (executable : String) (ordinal : UInt32) :
    emission kind task file executable ordinal = emission kind task' file executable ordinal

variable {kind : TaskKind} {task task' : Element}

theorem emission_congr (hsource : task.source = task'.source)
    (hname : nameOf kind task = nameOf kind task') (hdetail : detailOf kind task = detailOf kind task')
    (file : FileContext) (executable : String) (ordinal : UInt32) :
    emission kind task file executable ordinal = emission kind task' file executable ordinal := by
  unfold emission
  rw [hsource, hname, hdetail]
  cases kind with
  | play =>
    cases nameOf .play task' with
    | none => rfl
    | some name => simp only [playShortcut, hsource, hdetail]
  | support =>
    cases nameOf .support task' with
    | none => rfl
    | some name =>
      cases detailOf .support task' with
      | none => rfl
      | some address => simp only [supportLink, hsource]

theorem missing_congr (hsource : task.source = task'.source) (hlocal : task.localName = task'.localName)
    (hname : nameOf kind task = nameOf kind task')
    (hdetail : detailOf kind task = detailOf kind task') : missing kind task = missing kind task' := by
  unfold missing Action.missingAttribute
  rw [hsource, hlocal, hname, hdetail]

theorem Alike.plan (hR : Likeness R) (h : Alike R setup kind task task') (file : FileContext)
    (executable : String) (ordinal : UInt32) :
    Plan.Alike R setup (plan kind task file executable ordinal)
      (plan kind task' file executable ordinal) := by
  rw [TaskElement.plan, TaskElement.plan, h.emission_eq]
  exact hR.plan_append (.ofActions h.checks) fun _ => hR.refl _

end TaskElement

namespace Game

structure ChildAlike (R : Journal → Journal → Prop) (setup : Setup) (game game' c c' : Element) :
    Prop where
  role_eq : childRole c = childRole c'
  foreign : childRole c = .foreign →
    R ((Action.hand (.childOf game c)).perform setup) ((Action.hand (.childOf game' c')).perform setup)
  unexpected : childRole c = .unexpected →
    R ((Action.unexpectedElement game c).perform setup)
      ((Action.unexpectedElement game' c').perform setup)
  task (kind : TaskKind) : childRole c = .task kind → TaskElement.Alike R setup kind c c'

/-- Games that are read alike and come to the same values, with children that are alike. -/
structure Alike (R : Journal → Journal → Prop) (setup : Setup) (game game' : Element) : Prop where
  source_eq : game.source = game'.source
  localName_eq : game.localName = game'.localName
  instanceId_eq : instanceId game = instanceId game'
  definitionFile_eq (file : FileContext) : definitionFile game file = definitionFile game' file
  executableFile_eq (file : FileContext) : executableFile game file = executableFile game' file
  attributes : R (performAll setup (game.attributes.flatMap (attributeActions game)))
    (performAll setup (game'.attributes.flatMap (attributeActions game')))
  children : List.Forall₂ (ChildAlike R setup game game') game.children game'.children

namespace Alike
variable {game game' : Element} (hR : Likeness R) (h : Alike R setup game game')
include hR h

theorem childrenPlan (file : FileContext) (roots : TaskRoots) (ordinals : Ordinals)
    {children children' : List Element}
    (hchildren : List.Forall₂ (ChildAlike R setup game game') children children') :
    Plan.Alike R setup (childrenPlan game file roots ordinals children)
      (Game.childrenPlan game' file roots ordinals children') := by
  induction hchildren generalizing roots ordinals with
  | nil => exact fun _ => hR.refl _
  | cons hchild _ ih =>
    rw [Game.childrenPlan, Game.childrenPlan, ← hchild.role_eq]
    cases hrole : childRole _ with
    | foreign => exact hR.plan_act (hchild.foreign hrole) (ih roots ordinals)
    | unexpected => exact hR.plan_act (hchild.unexpected hrole) (ih roots ordinals)
    | task kind =>
      dsimp only
      rw [← h.source_eq, ← h.instanceId_eq, ← h.executableFile_eq]
      exact hR.plan_append
        (hR.plan_append (fun _ => hR.refl _) ((hchild.task kind hrole).plan hR file _ _)) (ih _ _)

theorem plan (file : FileContext) : Plan.Alike R setup (plan game file) (Game.plan game' file) := by
  have hends : missingId game ++ fileReferences game file =
      missingId game' ++ fileReferences game' file := by
    simp only [missingId, Action.missingAttribute, fileReferences, h.source_eq, h.localName_eq,
      h.instanceId_eq, h.definitionFile_eq, h.executableFile_eq]
  have hregistration : registration game file = registration game' file := by
    simp only [registration, h.source_eq, h.instanceId_eq, h.definitionFile_eq]
  rw [Game.plan, Game.plan, hends, hregistration, h.source_eq]
  exact hR.plan_append (hR.plan_append (hR.plan_append (.ofActions h.attributes)
    (h.childrenPlan hR file _ _ h.children)) fun _ => hR.refl _) fun _ => hR.refl _

theorem onElement (context : Context) (parent : Element) :
    Plan.Alike R setup (Job.onElement context parent game).plan
      (Job.onElement context parent game').plan := by
  rw [Job.plan, Job.plan, Job.elementPlan, Job.elementPlan, Action.unexpectedElement,
    Action.unexpectedElement, h.source_eq, h.localName_eq]
  split
  · dsimp only
    refine hR.plan_append (fun _ => hR.refl _) ?_
    split
    · exact h.plan hR _
    · exact fun _ => hR.refl _
  · exact fun _ => hR.refl _

end Alike

end Game

def Element.head (e : Element) : Element := { name := e.name, source := e.source }

def ForeignNode.outline : ForeignNode → ForeignNode
  | .attributeOf owner attr => .attributeOf owner.head attr
  | .childOf parent child => .childOf parent.head child.head

/-- The entry without what is below and beside a node that is handed on. -/
def Entry.outline : Entry → Entry
  | .handed node => .handed node.outline
  | e => e

namespace Journal

/-- The journals differ at most in what is below and beside the nodes that are handed on. -/
structure SameOutline (a b : Journal) : Prop where
  entries_eq : a.entries.map Entry.outline = b.entries.map Entry.outline
  failed_eq : a.failed = b.failed

theorem likeness_sameOutline : Likeness SameOutline where
  refl _ := ⟨rfl, rfl⟩
  append h h' := by
    constructor
    · rw [entries_append, entries_append, List.map_append, List.map_append, h.entries_eq,
        h'.entries_eq]
    · rw [failed_append, failed_append, h.failed_eq, h'.failed_eq]
  failed_eq h := h.failed_eq

namespace SameOutline
variable {a b : Journal} (h : SameOutline a b)
include h

theorem filterMap_eq {β : Type} {f : Entry → Option β} (hf : ∀ e, f e.outline = f e) :
    a.entries.filterMap f = b.entries.filterMap f := by
  have hview (entries : List Entry) :
      entries.filterMap f = (entries.map Entry.outline).filterMap f := by
    rw [List.filterMap_map]
    exact List.filterMap_congr fun e _ => (hf e).symm
  rw [hview, hview b.entries, h.entries_eq]

theorem records_eq : a.records = b.records := h.filterMap_eq fun e => by cases e <;> rfl

theorem diagnostics_eq : a.diagnostics = b.diagnostics := h.filterMap_eq fun e => by cases e <;> rfl

end SameOutline

end Journal

open Journal

section SameHead
variable {e e' : Element} (hhead : e.head = e'.head)
include hhead

theorem Element.name_of_head : e.name = e'.name := by
  change e.head.name = e'.head.name
  rw [hhead]

theorem Element.source_of_head : e.source = e'.source := by
  change e.head.source = e'.head.source
  rw [hhead]

theorem Element.localName_of_head : e.localName = e'.localName := by
  rw [localName, localName, name_of_head hhead]

theorem Setup.sameOutline_attributeOf (a : Attribute) :
    SameOutline (setup.hand (.attributeOf e a)) (setup.hand (.attributeOf e' a)) := by
  unfold hand ForeignPolicy.handle
  simp only [ForeignNode.source, ForeignNode.unhandled, ForeignNode.unexpected, ForeignNode.reference,
    Element.name_of_head hhead, Element.source_of_head hhead, Element.localName_of_head hhead]
  refine likeness_sameOutline.append ⟨?_, rfl⟩ (likeness_sameOutline.refl _)
  simp only [List.map_singleton, Entry.outline, ForeignNode.outline, hhead]

theorem Game.sameOutline_attributeActions (a : Attribute) :
    SameOutline (performAll setup (attributeActions e a))
      (performAll setup (attributeActions e' a)) := by
  unfold attributeActions
  cases role a with
  | foreign =>
    rw [performAll_singleton, performAll_singleton]
    exact setup.sameOutline_attributeOf hhead a
  | _ =>
    simp only [Action.unexpectedAttribute, Element.localName_of_head hhead,
      Element.source_of_head hhead]
    exact likeness_sameOutline.refl _

theorem TaskElement.sameOutline_attributeActions (kind : TaskKind) (a : Attribute) :
    SameOutline (performAll setup (attributeActions kind e a))
      (performAll setup (attributeActions kind e' a)) := by
  unfold attributeActions
  cases role kind a with
  | foreign =>
    rw [performAll_singleton, performAll_singleton]
    exact setup.sameOutline_attributeOf hhead a
  | _ =>
    simp only [Action.unexpectedAttribute, Element.localName_of_head hhead,
      Element.source_of_head hhead]
    exact likeness_sameOutline.refl _

variable {c c' : Element} (hchild : c.head = c'.head)
include hchild

theorem Setup.sameOutline_childOf :
    SameOutline (setup.hand (.childOf e c)) (setup.hand (.childOf e' c')) := by
  unfold hand ForeignPolicy.handle
  simp only [ForeignNode.source, ForeignNode.unhandled, ForeignNode.unexpected, ForeignNode.reference,
    Element.name_of_head hhead, Element.localName_of_head hhead, Element.name_of_head hchild,
    Element.source_of_head hchild, Element.localName_of_head hchild]
  refine likeness_sameOutline.append ⟨?_, rfl⟩ (likeness_sameOutline.refl _)
  simp only [List.map_singleton, Entry.outline, ForeignNode.outline, hhead, hchild]

theorem sameOutline_unexpectedElement :
    SameOutline ((Action.unexpectedElement e c).perform setup)
      ((Action.unexpectedElement e' c').perform setup) := by
  rw [Action.unexpectedElement, Action.unexpectedElement, Element.localName_of_head hhead,
    Element.localName_of_head hchild, Element.source_of_head hchild]
  exact likeness_sameOutline.refl _

theorem TaskElement.sameOutline_childAction :
    SameOutline ((childAction e c).perform setup) ((childAction e' c').perform setup) := by
  unfold childAction
  rw [Element.name_of_head hchild]
  split
  · exact sameOutline_unexpectedElement hhead hchild
  · exact setup.sameOutline_childOf hhead hchild

theorem Game.ChildAlike.ofHead (hR : ∀ {a b}, SameOutline a b → R a b)
    (htask : ∀ kind, childRole c = .task kind → TaskElement.Alike R setup kind c c') :
    ChildAlike R setup e e' c c' where
  role_eq := by
    rw [childRole, childRole, Element.name_of_head hchild, Element.localName_of_head hchild]
  foreign _ := hR (setup.sameOutline_childOf hhead hchild)
  unexpected _ := hR (sameOutline_unexpectedElement hhead hchild)
  task := htask

end SameHead

end GameRegistration
