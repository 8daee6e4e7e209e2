import GameRegistration.Proofs.Checks

/-! Records of actions that go well: nothing for a report, the record of an emission, and for a
foreign node what the policy adds. -/
namespace GameRegistration

namespace Element

def foreignAttributes (e : Element) : List ForeignNode :=
  (e.attributes.filter (!·.isOwn)).map (.attributeOf e)

/-- The children of a task that are left to others. -/
def foreignChildren (e : Element) : List ForeignNode :=
  (e.children.filter fun c => !(c.name.space.isNone || c.name.isIn gamingSpace)).map (.childOf e)

end Element

/-- What the surrounding compiler adds to the section for the nodes. -/
def ForeignPolicy.records (policy : ForeignPolicy) (nodes : List ForeignNode) : List Record :=
  match policy with
  | .accept => nodes.map fun node => .reference node.reference
  | .reject | .warn => []

theorem ForeignPolicy.records_append (policy : ForeignPolicy) (a b : List ForeignNode) :
    policy.records (a ++ b) = policy.records a ++ policy.records b := by
  cases policy with
  | accept => exact List.map_append
  | _ => rfl

theorem ForeignPolicy.records_cons (policy : ForeignPolicy) (node : ForeignNode)
    (rest : List ForeignNode) :
    policy.records (node :: rest) = policy.records [node] ++ policy.records rest :=
  policy.records_append [node] rest

theorem ForeignPolicy.records_nil (policy : ForeignPolicy) : policy.records [] = [] := by
  cases policy <;> rfl

/-! Records that are added whether an error is found or not -/

section Unconditional
variable {setup : Setup}

theorem Action.records_hand (node : ForeignNode) :
    ((Action.hand node).perform setup).records = setup.foreign.records [node] := by
  change (setup.foreign.handle setup.warnings node).records = _
  cases setup.foreign with
  | reject => rfl
  | accept => rfl
  | warn => exact Action.records_of_isReport setup (a := .warning node.source node.unexpected) rfl

theorem Action.cases_of_mem_records {a : Action} {r : Record} (h : r ∈ (a.perform setup).records) :
    a = .emit r ∨ (∃ node, a = .hand node ∧ r = .reference node.reference) ∨
      ∃ link, a = .requestLink link ∧ r = .shortcut link.record := by
  cases a with
  | emit r' =>
    rw [List.mem_singleton.1 h]
    exact .inl rfl
  | hand node =>
    rw [records_hand] at h
    cases hpolicy : setup.foreign with
    | accept =>
      rw [hpolicy] at h
      exact .inr (.inl ⟨node, rfl, List.mem_singleton.1 h⟩)
    | _ =>
      rw [hpolicy] at h
      cases h
  | requestLink link =>
    change r ∈ (setup.link link).records at h
    obtain ⟨-, heq⟩ | ⟨_, -, -, heq⟩ | ⟨_, -, -, heq⟩ := setup.link_cases link <;> rw [heq] at h
    · cases h
    · exact .inr (.inr ⟨link, rfl, List.mem_singleton.1 h⟩)
    · cases h
  | error source problem | warning source problem =>
    rw [records_of_isReport setup rfl] at h
    cases h
  | note event => cases h

theorem records_emit (records : List Record) :
    (performAll setup (records.map .emit)).records = records := by
  rw [records_performAll, List.flatMap_map]
  exact List.flatMap_singleton' records

/-- Reading the attributes of an element hands on the foreign ones and reports at most on its own. -/
theorem records_readAttributes {e : Element} {f : Attribute → List Action}
    (hforeign : ∀ a, a.isOwn = false → f a = [.hand (.attributeOf e a)])
    (hown : ∀ a, a.isOwn = true → ∀ x ∈ f a, x.isReport = true) :
    (performAll setup (e.attributes.flatMap f)).records =
      setup.foreign.records e.foreignAttributes := by
  unfold Element.foreignAttributes
  induction e.attributes with
  | nil => exact setup.foreign.records_nil.symm
  | cons a rest ih =>
    rw [List.flatMap_cons, performAll_append, Journal.records_append, ih]
    cases hisOwn : a.isOwn with
    | true =>
      rw [records_performAll_of_isReport (hown a hisOwn),
        List.filter_cons_of_neg (by simp [hisOwn]), List.nil_append]
    | false =>
      rw [hforeign a hisOwn, records_performAll, List.flatMap_singleton, Action.records_hand,
        List.filter_cons_of_pos (by simp [hisOwn]), List.map_cons, ← setup.foreign.records_cons]

theorem Game.records_attributes (game : Element) :
    (performAll setup (game.attributes.flatMap (attributeActions game))).records =
      setup.foreign.records game.foreignAttributes :=
  records_readAttributes (fun _ => attributeActions_of_foreign game)
    fun _ => isReport_attributeActions game

end Unconditional

/-- The actions add exactly these records if none of them records an error. -/
def Yields (setup : Setup) (actions : List Action) (records : List Record) : Prop :=
  (performAll setup actions).failed = false → (performAll setup actions).records = records

namespace Yields
variable {setup : Setup}

theorem nil : Yields setup [] [] := fun _ => rfl

theorem append {a b : List Action} {r s : List Record} (ha : Yields setup a r)
    (hb : Yields setup b s) : Yields setup (a ++ b) (r ++ s) := by
  intro hclean
  rw [performAll_append, Journal.failed_append, Bool.or_eq_false_iff] at hclean
  rw [performAll_append, Journal.records_append, ha hclean.1, hb hclean.2]

theorem of_isReport {actions : List Action} (h : ∀ a ∈ actions, a.isReport = true) :
    Yields setup actions [] :=
  fun _ => records_performAll_of_isReport h

theorem emit (records : List Record) : Yields setup (records.map .emit) records :=
  fun _ => records_emit records

theorem hand (node : ForeignNode) : Yields setup [.hand node] (setup.foreign.records [node]) := by
  intro _
  rw [records_performAll, List.flatMap_singleton, Action.records_hand]

theorem requestLink (link : SupportLink) :
    Yields setup [.requestLink link] [.shortcut link.record] := by
  intro hclean
  rw [performAll_clean_iff, List.forall_mem_singleton] at hclean
  rw [records_performAll, List.flatMap_singleton]
  change (setup.link link).failed = false at hclean
  change (setup.link link).records = _
  obtain ⟨-, h⟩ | ⟨_, -, -, h⟩ | ⟨_, -, -, h⟩ := setup.link_cases link
  · rw [h] at hclean
    cases hclean
  · rw [h]
    rfl
  · rw [h] at hclean
    cases hclean

end Yields

namespace TaskElement
variable {setup : Setup}

theorem yields_attributes (kind : TaskKind) (task : Element) :
    Yields setup (task.attributes.flatMap (attributeActions kind task))
      (setup.foreign.records task.foreignAttributes) :=
  fun _ => records_readAttributes (fun _ => attributeActions_of_foreign task)
    fun _ => isReport_attributeActions task

theorem yields_children (task : Element) :
    Yields setup (task.children.map (childAction task))
      (setup.foreign.records task.foreignChildren) := by
  unfold Element.foreignChildren
  induction task.children with
  | nil =>
    change Yields setup [] (setup.foreign.records [])
    rw [setup.foreign.records_nil]
    exact Yields.nil
  | cons c rest ih =>
    rw [List.map_cons, ← List.singleton_append]
    by_cases hown : (c.name.space.isNone || c.name.isIn gamingSpace) = true
    · rw [childAction, if_pos hown, List.filter_cons_of_neg (by simp [hown])]
      exact (Yields.of_isReport (by simp [Action.unexpectedElement, Action.isReport])).append ih
    · rw [childAction, if_neg hown, List.filter_cons_of_pos (by simp [hown]), List.map_cons,
        setup.foreign.records_cons]
      exact (Yields.hand _).append ih

theorem yields_checks (kind : TaskKind) (task : Element) :
    Yields setup (checks kind task)
      (setup.foreign.records (task.foreignAttributes ++ task.foreignChildren)) := by
  have hparts : Yields setup _ _ :=
    ((yields_attributes kind task).append (yields_children task)).append
      (Yields.of_isReport (isReport_missing kind task))
  rw [List.append_nil, ← setup.foreign.records_append] at hparts
  exact hparts

end TaskElement

theorem Game.yields_attributes {setup : Setup} (game : Element) :
    Yields setup (game.attributes.flatMap (attributeActions game))
      (setup.foreign.records game.foreignAttributes) :=
  fun _ => records_attributes game

end GameRegistration
