import GameRegistration.Proofs.Actions
import GameRegistration.Proofs.Gate

/-! Checks: what is looked at in a document outside of gates. A check reports, which adds no record,
or hands a node on. So it needs no gate. -/
namespace GameRegistration

namespace Action

def isReport : Action → Bool
  | .error .. | .warning .. => true
  | _ => false

def isCheck : Action → Bool
  | .error .. | .warning .. | .hand _ => true
  | _ => false

theorem isCheck_of_isReport {a : Action} (h : a.isReport = true) : a.isCheck = true := by
  cases a <;> first | rfl | cases h

theorem isFree_of_isCheck {a : Action} (h : a.isCheck = true) : a.isFree = true := by
  cases a <;> first | rfl | cases h

theorem isFree_of_isReport {a : Action} (h : a.isReport = true) : a.isFree = true :=
  isFree_of_isCheck (isCheck_of_isReport h)

theorem records_of_isReport (setup : Setup) {a : Action} (h : a.isReport = true) :
    (a.perform setup).records = [] := by
  cases a with
  | error source problem => rfl
  | warning source problem =>
    unfold perform Journal.warning Journal.settle
    cases setup.warnings.treatment <;> rfl
  | _ => cases h

end Action

theorem records_performAll_of_isReport {setup : Setup} {actions : List Action}
    (h : ∀ a ∈ actions, a.isReport = true) : (performAll setup actions).records = [] := by
  rw [records_performAll, List.flatMap_eq_nil_iff]
  exact fun a ha => Action.records_of_isReport setup (h a ha)

namespace AttributeValue
variable (source : SourcePosition) (element : String) (attr : Attribute)

theorem isReport_text : ∀ a ∈ (text source element attr).actions, a.isReport = true := by
  intro a ha
  rw [eq_of_mem_text ha]
  rfl

theorem isReport_guid : ∀ a ∈ (guid source element attr).actions, a.isReport = true := by
  intro a ha
  obtain rfl | rfl := cases_of_mem_guid ha <;> rfl

theorem isReport_identifier : ∀ a ∈ (identifier source element attr).actions, a.isReport = true := by
  intro a ha
  obtain rfl | rfl | rfl := cases_of_mem_identifier ha <;> rfl

theorem isReport_yesNo : ∀ a ∈ (yesNo source element attr).actions, a.isReport = true := by
  intro a ha
  obtain rfl | rfl := cases_of_mem_yesNo ha <;> rfl

end AttributeValue

theorem FileContext.isReport_resolve (c : Context) (element : String) (source : SourcePosition) :
    ∀ a ∈ (resolve c element source).actions, a.isReport = true := by
  intro a ha
  obtain ⟨key, rfl⟩ := exists_of_mem_resolve ha
  rfl

theorem Task.isReport_directoryId (source : SourcePosition) (stem component : String) :
    ∀ a ∈ (directoryId source stem component).actions, a.isReport = true := by
  intro a ha
  obtain ⟨id, violation, rfl⟩ := isRejection_of_mem_directoryId ha
  rfl

namespace TaskElement

theorem nameOf_of_missing_eq_nil {kind : TaskKind} {task : Element} (h : missing kind task = []) :
    ∃ name, nameOf kind task = some name := by
  apply Option.ne_none_iff_exists'.1
  intro hnone
  have hmem := mem_missing_iff.2 (.inl ⟨rfl, hnone⟩)
  rw [h] at hmem
  cases hmem

theorem addressOf_of_missing_eq_nil {task : Element} (h : missing .support task = []) :
    ∃ address, detailOf .support task = some address := by
  apply Option.ne_none_iff_exists'.1
  intro hnone
  have hmem := mem_missing_iff.2 (.inr ⟨rfl, rfl, hnone⟩)
  rw [h] at hmem
  cases hmem

theorem isReport_missing (kind : TaskKind) (task : Element) :
    ∀ a ∈ missing kind task, a.isReport = true := by
  intro a ha
  obtain ⟨rfl, -⟩ | ⟨rfl, -⟩ := mem_missing_iff.1 ha
  · rfl
  · rfl

theorem role_eq_foreign_iff {kind : TaskKind} {attr : Attribute} :
    role kind attr = .foreign ↔ attr.isOwn = false := by
  unfold role
  cases attr.isOwn with
  | false => simp
  | true =>
    simp only [Bool.not_true, Bool.false_eq_true, if_false, Bool.true_eq_false, iff_false]
    split
    · exact Role.noConfusion
    · split <;> exact Role.noConfusion

theorem isReport_attributeActions {kind : TaskKind} (task : Element) {attr : Attribute}
    (h : attr.isOwn = true) : ∀ a ∈ attributeActions kind task attr, a.isReport = true := by
  intro a ha
  unfold attributeActions at ha
  split at ha
  next hrole =>
    rw [role_eq_foreign_iff.1 hrole] at h
    cases h
  · exact AttributeValue.isReport_text _ _ _ a ha
  · exact AttributeValue.isReport_text _ _ _ a ha
  · rw [List.mem_singleton.1 ha]
    rfl

theorem attributeActions_of_foreign {kind : TaskKind} (task : Element) {attr : Attribute}
    (h : attr.isOwn = false) :
    attributeActions kind task attr = [.hand (.attributeOf task attr)] := by
  rw [attributeActions, role_eq_foreign_iff.2 h]

theorem isCheck_attributeActions (kind : TaskKind) (task : Element) (attr : Attribute) :
    ∀ a ∈ attributeActions kind task attr, a.isCheck = true := by
  intro a ha
  cases hown : attr.isOwn with
  | true => exact Action.isCheck_of_isReport (isReport_attributeActions task hown a ha)
  | false =>
    rw [attributeActions_of_foreign task hown] at ha
    rw [List.mem_singleton.1 ha]
    rfl

theorem isCheck_checks (kind : TaskKind) (task : Element) :
    ∀ a ∈ checks kind task, a.isCheck = true := by
  intro a ha
  obtain ⟨node, rfl⟩ | ⟨source, problem, rfl, -⟩ := cases_of_mem_checks ha <;> rfl

theorem isFree_checks (kind : TaskKind) (task : Element) :
    ∀ a ∈ checks kind task, a.isFree = true :=
  fun a ha => Action.isFree_of_isCheck (isCheck_checks kind task a ha)

end TaskElement

namespace Game

theorem role_eq_foreign_iff {attr : Attribute} : role attr = .foreign ↔ attr.isOwn = false := by
  unfold role
  cases attr.isOwn with
  | false => simp
  | true =>
    simp only [Bool.not_true, Bool.false_eq_true, if_false, Bool.true_eq_false, iff_false]
    split
    · exact Role.noConfusion
    · split
      · exact Role.noConfusion
      · split <;> exact Role.noConfusion

theorem isReport_attributeActions (game : Element) {attr : Attribute} (h : attr.isOwn = true) :
    ∀ a ∈ attributeActions game attr, a.isReport = true := by
  intro a ha
  unfold attributeActions at ha
  split at ha
  next hrole =>
    rw [role_eq_foreign_iff.1 hrole] at h
    cases h
  · exact AttributeValue.isReport_guid _ _ _ a ha
  · exact AttributeValue.isReport_identifier _ _ _ a ha
  · exact AttributeValue.isReport_identifier _ _ _ a ha
  · rw [List.mem_singleton.1 ha]
    rfl

theorem attributeActions_of_foreign (game : Element) {attr : Attribute} (h : attr.isOwn = false) :
    attributeActions game attr = [.hand (.attributeOf game attr)] := by
  rw [attributeActions, role_eq_foreign_iff.2 h]

theorem isCheck_attributeActions (game : Element) (attr : Attribute) :
    ∀ a ∈ attributeActions game attr, a.isCheck = true := by
  intro a ha
  cases hown : attr.isOwn with
  | true => exact Action.isCheck_of_isReport (isReport_attributeActions game hown a ha)
  | false =>
    rw [attributeActions_of_foreign game hown] at ha
    rw [List.mem_singleton.1 ha]
    rfl

theorem isFree_attributeActions (game : Element) (attr : Attribute) :
    ∀ a ∈ attributeActions game attr, a.isFree = true :=
  fun a ha => Action.isFree_of_isCheck (isCheck_attributeActions game attr a ha)

theorem isReport_missingId (game : Element) : ∀ a ∈ missingId game, a.isReport = true := by
  intro a ha
  rw [eq_of_mem_missingId ha]
  rfl

end Game

end GameRegistration
