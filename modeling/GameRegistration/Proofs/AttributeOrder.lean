import Mathlib.Data.List.Nodup
import GameRegistration.Proofs.GameRecords
import GameRegistration.Proofs.LikeGames

/-! Games whose attributes are written in another order. As long as no own attribute is repeated and
foreign nodes are rejected, only the diagnostics come in another order. -/
namespace GameRegistration

namespace Element

def HasDistinctNames (e : Element) : Prop :=
  ((e.attributes.filter Attribute.isOwn).map Attribute.localName).Nodup

instance (e : Element) : Decidable e.HasDistinctNames := inferInstanceAs (Decidable (List.Nodup _))

/-- The other element has the same attributes in any order. -/
structure Rearranged (e e' : Element) : Prop where
  head_eq : e.head = e'.head
  attributes_perm : e.attributes.Perm e'.attributes
  distinct : e.HasDistinctNames

theorem HasDistinctNames.length_filter_le_one {e : Element} (h : e.HasDistinctNames)
    (localName : String) :
    (e.attributes.filter fun a => a.isOwn && a.localName == localName).length ≤ 1 := by
  have hcount := List.nodup_iff_count_le_one.1 h localName
  rw [List.count, List.countP_map, List.countP_filter] at hcount
  rw [← List.countP_eq_length_filter]
  simpa [Bool.and_comm] using hcount

theorem Rearranged.ownValue?_eq {e e' : Element} (h : e.Rearranged e') (localName : String) :
    e.ownValue? localName = e'.ownValue? localName := by
  rw [ownValue?, ownValue?,
    filter_eq_of_perm h.attributes_perm (h.distinct.length_filter_le_one localName)]

end Element

/-- A child may be rearranged too, but not what stands in it. -/
def Game.ChildRearranged (c c' : Element) : Prop :=
  c = c' ∨ c.Rearranged c' ∧ c.children = c'.children

structure Game.Rearranged (game game' : Element) : Prop extends game.Rearranged game' where
  children : List.Forall₂ ChildRearranged game.children game'.children

namespace Journal

/-- The journals have the same records in the same order, and the same diagnostics in any. -/
structure SameUpToOrder (a b : Journal) : Prop where
  records_eq : a.records = b.records
  failed_eq : a.failed = b.failed
  diagnostics_perm : a.diagnostics.Perm b.diagnostics

namespace SameUpToOrder

theorem trans {a b c : Journal} (h : a.SameUpToOrder b) (h' : b.SameUpToOrder c) :
    a.SameUpToOrder c :=
  ⟨h.records_eq.trans h'.records_eq, h.failed_eq.trans h'.failed_eq,
    h.diagnostics_perm.trans h'.diagnostics_perm⟩

theorem of_sameOutline {a b : Journal} (h : a.SameOutline b) : a.SameUpToOrder b :=
  ⟨h.records_eq, h.failed_eq, .of_eq h.diagnostics_eq⟩

end SameUpToOrder

theorem likeness_sameUpToOrder : Likeness SameUpToOrder where
  refl _ := ⟨rfl, rfl, .refl _⟩
  append h h' := by
    constructor
    · rw [records_append, records_append, h.records_eq, h'.records_eq]
    · rw [failed_append, failed_append, h.failed_eq, h'.failed_eq]
    · rw [diagnostics_append, diagnostics_append]
      exact h.diagnostics_perm.append h'.diagnostics_perm
  failed_eq h := h.failed_eq

end Journal

open Journal (SameUpToOrder likeness_sameUpToOrder likeness_sameOutline)

variable {setup : Setup}

/-- Actions that bring no records may be done in any order. -/
theorem sameUpToOrder_performAll {actions actions' : List Action} (hperm : actions.Perm actions')
    (h : ∀ a ∈ actions, (a.perform setup).records = []) :
    (performAll setup actions).SameUpToOrder (performAll setup actions') where
  records_eq := by
    have h' : ∀ a ∈ actions', (a.perform setup).records = [] := fun a ha => h a (hperm.mem_iff.2 ha)
    rw [records_performAll, records_performAll, List.flatMap_eq_nil_iff.2 h,
      List.flatMap_eq_nil_iff.2 h']
  failed_eq := by rw [failed_performAll, failed_performAll, hperm.any_eq]
  diagnostics_perm := by
    rw [diagnostics_performAll, diagnostics_performAll]
    exact hperm.flatMap_right _

theorem Action.records_of_isCheck (hreject : setup.foreign = .reject) {a : Action}
    (h : a.isCheck = true) : (a.perform setup).records = [] := by
  cases a with
  | hand node =>
    rw [records_hand, hreject]
    rfl
  | error source problem => exact records_of_isReport setup rfl
  | warning source problem => exact records_of_isReport setup rfl
  | _ => cases h

section Rearranged
variable (hreject : setup.foreign = .reject)
include hreject

theorem sameUpToOrder_readAttributes {attributes attributes' : List Attribute}
    (hperm : attributes.Perm attributes') {f g : Attribute → List Action}
    (hsame : ∀ a, (performAll setup (f a)).SameOutline (performAll setup (g a)))
    (hcheck : ∀ attr, ∀ a ∈ g attr, a.isCheck = true) :
    (performAll setup (attributes.flatMap f)).SameUpToOrder
      (performAll setup (attributes'.flatMap g)) := by
  have howner : (performAll setup (attributes.flatMap f)).SameOutline
      (performAll setup (attributes.flatMap g)) :=
    likeness_sameOutline.performAll_flatMap fun a _ => hsame a
  refine (SameUpToOrder.of_sameOutline howner).trans (sameUpToOrder_performAll ?_ fun a ha => ?_)
  · exact hperm.flatMap_right g
  · obtain ⟨attr, -, ha⟩ := List.mem_flatMap.1 ha
    exact Action.records_of_isCheck hreject (hcheck attr a ha)

theorem TaskElement.alike_rearranged {task task' : Element} (h : task.Rearranged task')
    (hchildren : task.children = task'.children) (kind : TaskKind) :
    Alike SameUpToOrder setup kind task task' := by
  have hname : nameOf kind task = nameOf kind task' := by rw [nameOf_eq, nameOf_eq, h.ownValue?_eq]
  have hdetail : detailOf kind task = detailOf kind task' := by
    rw [detailOf_eq, detailOf_eq, h.ownValue?_eq]
  have hsource := Element.source_of_head h.head_eq
  constructor
  · have hR := likeness_sameUpToOrder
    rw [checks, checks, ← hchildren,
      missing_congr hsource (Element.localName_of_head h.head_eq) hname hdetail]
    refine hR.performAll_append (hR.performAll_append ?_ ?_) (hR.refl _)
    · exact sameUpToOrder_readAttributes hreject h.attributes_perm
        (sameOutline_attributeActions h.head_eq kind) (isCheck_attributeActions kind task')
    · exact hR.performAll_map fun c _ => .of_sameOutline (sameOutline_childAction h.head_eq rfl)
  · exact emission_congr hsource hname hdetail

namespace Game

theorem childAlike_rearranged {game game' c c' : Element} (hhead : game.head = game'.head)
    (h : ChildRearranged c c') : ChildAlike SameUpToOrder setup game game' c c' := by
  obtain rfl | ⟨h, hchildren⟩ := h
  · exact .ofHead hhead rfl .of_sameOutline fun _ _ =>
      ⟨likeness_sameUpToOrder.refl _, fun _ _ _ => rfl⟩
  · exact .ofHead hhead h.head_eq .of_sameOutline fun kind _ =>
      TaskElement.alike_rearranged hreject h hchildren kind

theorem alike_rearranged {game game' : Element} (h : Rearranged game game') :
    Alike SameUpToOrder setup game game' where
  source_eq := Element.source_of_head h.head_eq
  localName_eq := Element.localName_of_head h.head_eq
  instanceId_eq := by rw [instanceId_eq, instanceId_eq, h.ownValue?_eq]
  definitionFile_eq file := by
    rw [definitionFile_eq, definitionFile_eq, Translation.definition, h.ownValue?_eq]
    rfl
  executableFile_eq file := by
    rw [executableFile_eq, executableFile_eq, Translation.executable, h.ownValue?_eq]
    rfl
  attributes := sameUpToOrder_readAttributes hreject h.attributes_perm
    (sameOutline_attributeActions h.head_eq) (isCheck_attributeActions game')
  children := h.children.imp fun _ _ => childAlike_rearranged hreject h.head_eq

end Game

end Rearranged

/-- The order of attributes does not matter to a game in any run, whatever errors there were before, as
long as there is no other extension. -/
theorem Job.sameUpToOrder_onElement (setup : Setup) (failed : Bool) (context : Context)
    (parent game game' : Element) (hreject : setup.foreign = .reject)
    (h : Game.Rearranged game game') :
    ((onElement context parent game).perform setup failed).records =
        ((onElement context parent game').perform setup failed).records ∧
      ((onElement context parent game).perform setup failed).failed =
        ((onElement context parent game').perform setup failed).failed ∧
      ((onElement context parent game).perform setup failed).diagnostics.Perm
        ((onElement context parent game').perform setup failed).diagnostics := by
  have hsame := (Game.alike_rearranged hreject h).onElement likeness_sameUpToOrder context parent failed
  exact ⟨hsame.records_eq, hsame.failed_eq, hsame.diagnostics_perm⟩

namespace Sample

def tidyTask : Element :=
  element "PlayTask" [("Name", "Play"), ("Level", "1"), ("Arguments", "")] [supportTask]

def tidyGame : Element := game [("Version", "1"), ("ExecutableFile", "")] [foreignChild, tidyTask]

def untidyGame : Element :=
  { tidyGame with
    attributes := tidyGame.attributes.reverse
    children := [foreignChild, { tidyTask with attributes := tidyTask.attributes.reverse }] }

theorem rearranged_tidyGame : Game.Rearranged tidyGame untidyGame where
  head_eq := rfl
  attributes_perm := (List.reverse_perm _).symm
  distinct := by decide
  children :=
    have htask : tidyTask.Rearranged { tidyTask with attributes := tidyTask.attributes.reverse } :=
      ⟨rfl, (List.reverse_perm _).symm, by decide⟩
    .cons (.inl rfl) (.cons (.inr ⟨htask, rfl⟩) .nil)

end Sample

theorem Job.sameUpToOrder_tidyGame :
    ((Sample.job Sample.tidyGame).perform {} false).records =
        ((Sample.job Sample.untidyGame).perform {} false).records ∧
      ((Sample.job Sample.tidyGame).perform {} false).diagnostics.Perm
        ((Sample.job Sample.untidyGame).perform {} false).diagnostics ∧
      ((Sample.job Sample.tidyGame).perform {} false).diagnostics ≠
        ((Sample.job Sample.untidyGame).perform {} false).diagnostics := by
  obtain ⟨hrecords, -, hdiagnostics⟩ := sameUpToOrder_onElement {} false Sample.context Sample.file
    Sample.tidyGame Sample.untidyGame rfl Sample.rearranged_tidyGame
  exact ⟨hrecords, hdiagnostics, by decide⟩

end GameRegistration
