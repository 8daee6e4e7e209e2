import GameRegistration.Proofs.GamePlan
import GameRegistration.Request

/-! Links of support tasks. A link is asked for only while the last record is the directory that
holds it, and without an error every link that was asked for was made. -/
namespace GameRegistration

def Action.link? : Action → Option SupportLink
  | .requestLink link => some link
  | _ => none

namespace Action

theorem link?_of_isFree {a : Action} (h : a.isFree = true) : a.link? = none := by
  cases a <;> first | rfl | cases h

theorem link?_eq_none_of_isFree {actions : List Action} (h : ∀ a ∈ actions, a.isFree = true) :
    actions.filterMap link? = [] :=
  List.filterMap_eq_nil_iff.2 fun a ha => link?_of_isFree (h a ha)

variable {setup : Setup}

theorem not_linked_of_link?_eq_none {a : Action} (h : a.link? = none) :
    ∀ e ∈ (a.perform setup).entries, e.linked? = none := by
  have hwarning (policy : WarningPolicy) (source : SourcePosition) (problem : Problem) :
      ∀ e ∈ (Journal.warning policy source problem).entries, e.linked? = none := by
    unfold Journal.warning Journal.settle
    cases policy.treatment <;> simp [Journal.append, Journal.write, Journal.note, Entry.linked?]
  cases a with
  | error source problem => simp [perform, Journal.error, Journal.write, Entry.linked?]
  | warning source problem => exact hwarning _ _ _
  | emit r => simp [perform, Journal.emit, Entry.linked?]
  | note event => simp [perform, Journal.note, Entry.linked?]
  | hand node =>
    unfold perform Setup.hand ForeignPolicy.handle
    cases setup.foreign with
    | reject => simp [Journal.error, Journal.write, Entry.linked?]
    | accept => simp [Journal.add, Entry.linked?]
    | warn => simpa [Entry.linked?] using hwarning setup.warnings node.source node.unexpected
  | requestLink link => cases h

theorem links_of_link?_eq_none {a : Action} (h : a.link? = none) : (a.perform setup).links = [] :=
  List.filterMap_eq_nil_iff.2 (not_linked_of_link?_eq_none h)

theorem links_of_clean {a : Action} (h : (a.perform setup).failed = false) :
    (a.perform setup).links = (a.link?.map (·, true)).toList := by
  cases hlink : a.link? with
  | none => exact links_of_link?_eq_none hlink
  | some link =>
    cases a with
    | requestLink link' =>
      cases hlink
      change (setup.link link).failed = false at h
      change (setup.link link).links = [(link, true)]
      obtain ⟨-, hmade⟩ | ⟨_, -, -, hmade⟩ | ⟨_, -, -, hmade⟩ := setup.link_cases link <;>
        rw [hmade] at h ⊢
      · cases h
      · rfl
      · cases h
    | _ => cases hlink

end Action

theorem links_performAll_of_clean {setup : Setup} {actions : List Action}
    (h : (performAll setup actions).failed = false) :
    (performAll setup actions).links = (actions.filterMap Action.link?).map (·, true) := by
  induction actions with
  | nil => rfl
  | cons action rest ih =>
    rw [performAll, Journal.failed_append, Bool.or_eq_false_iff] at h
    rw [performAll, Journal.links_append, Action.links_of_clean h.1, ih h.2, List.filterMap_cons]
    cases action.link? <;> rfl

def Journal.IsAnswered (setup : Setup) (j : Journal) : Prop :=
  ∀ call ∈ j.links, ∃ emitter, setup.links = some emitter ∧ emitter.accepts call.1 = call.2

theorem invariant_isAnswered (setup : Setup) : Invariant setup (Journal.IsAnswered setup) where
  empty := fun _ h => nomatch h
  append ha hb := by
    intro call hcall
    rw [Journal.links_append, List.mem_append] at hcall
    exact hcall.elim (ha call) (hb call)
  action action := by
    intro call hcall
    cases hlink : action.link? with
    | none =>
      rw [Action.links_of_link?_eq_none hlink] at hcall
      cases hcall
    | some link =>
      cases action with
      | requestLink link' =>
        change call ∈ (setup.link link').links at hcall
        obtain ⟨-, hmade⟩ | ⟨emitter, hemitter, haccepts, hmade⟩ |
            ⟨emitter, hemitter, haccepts, hmade⟩ := setup.link_cases link' <;> rw [hmade] at hcall
        · cases hcall
        · cases List.mem_singleton.1 hcall
          exact ⟨emitter, hemitter, haccepts⟩
        · cases List.mem_singleton.1 hcall
          exact ⟨emitter, hemitter, haccepts⟩
      | _ => cases hlink

/-- The link goes into the directory of a support task, and is named like it. -/
def SupportLink.IsIn (link : SupportLink) (d : DirectoryRecord) : Prop :=
  link.directory = d.id ∧ link.shortcut = d.id ∧ link.source = d.source ∧
    d.parentRef = TaskKind.support.rootStem ++ "_" ++ link.component

/-- Each link is asked for while the last record is its directory; `last` is the one before the
entries. -/
def LinksFollow (last : Option Record) : List Entry → Prop
  | [] => True
  | .record _ r :: rest => LinksFollow (some r) rest
  | .linked link _ :: rest => (∃ d, last = some (.directory d) ∧ link.IsIn d) ∧ LinksFollow last rest
  | _ :: rest => LinksFollow last rest

namespace LinksFollow
variable {last : Option Record}

theorem append {a b : List Entry} (ha : LinksFollow last a) (hb : ∀ last, LinksFollow last b) :
    LinksFollow last (a ++ b) := by
  induction a generalizing last with
  | nil => exact hb last
  | cons e rest ih =>
    cases e with
    | linked link accepted => exact ⟨ha.1, ih ha.2⟩
    | _ => exact @ih _ ha

theorem of_unlinked {entries : List Entry} (h : ∀ e ∈ entries, e.linked? = none) :
    LinksFollow last entries := by
  induction entries generalizing last with
  | nil => trivial
  | cons e rest ih =>
    obtain ⟨he, hrest⟩ := List.forall_mem_cons.1 h
    cases e with
    | linked link accepted => cases he
    | _ => exact @ih _ hrest

theorem directory_of_split {before after : List Entry} {link : SupportLink} {accepted : Bool}
    (h : LinksFollow last (before ++ .linked link accepted :: after)) :
    ∃ d, (before.filterMap Entry.record?).getLast?.or last = some (.directory d) ∧ link.IsIn d := by
  induction before generalizing last with
  | nil => exact h.1
  | cons e rest ih =>
    cases e with
    | record origin r =>
      obtain ⟨d, hlast, hd⟩ := @ih (some r) h
      refine ⟨d, ?_, hd⟩
      rw [List.filterMap_cons, Entry.record?, List.getLast?_cons]
      cases hrest : (rest.filterMap Entry.record?).getLast? <;> simpa [hrest] using hlast
    | linked link' accepted' => exact ih h.2
    | _ => exact @ih _ h

end LinksFollow

/-- Whatever came before, the links of the journal follow their directories. -/
structure Journal.IsPlaced (j : Journal) : Prop where
  follows : ∀ last, LinksFollow last j.entries

theorem Journal.IsPlaced.append {a b : Journal} (ha : a.IsPlaced) (hb : b.IsPlaced) :
    (a ++ b).IsPlaced :=
  ⟨fun last => (ha.follows last).append hb.follows⟩

theorem Journal.isPlaced_empty : ({} : Journal).IsPlaced := ⟨fun _ => trivial⟩

theorem Journal.isPlaced_performAll {setup : Setup} {actions : List Action}
    (h : ∀ a ∈ actions, a.link? = none) : (performAll setup actions).IsPlaced :=
  performAll_of_actions isPlaced_empty .append
    fun a ha => ⟨fun _ => .of_unlinked (Action.not_linked_of_link?_eq_none (h a ha))⟩

namespace Plan
variable {setup : Setup} {p q : Plan}

/-- The plan asks for links right behind their directories, whether an error is on record or not. -/
def IsPlaced (setup : Setup) (p : Plan) : Prop := ∀ failed, (p.perform setup failed).IsPlaced

theorem IsPlaced.append (hp : p.IsPlaced setup) (hq : q.IsPlaced setup) :
    IsPlaced setup (p ++ q) := by
  intro failed
  rw [perform_append]
  exact (hp failed).append (hq _)

theorem isPlaced_nil : IsPlaced setup [] := fun _ => Journal.isPlaced_empty

theorem IsPlaced.of_link?_eq_none (h : ∀ a ∈ p.actions, a.link? = none) : p.IsPlaced setup :=
  perform_of_actions Journal.isPlaced_empty .append
    fun a ha => ⟨fun _ => .of_unlinked (Action.not_linked_of_link?_eq_none (h a ha))⟩

theorem links_eq_nil (h : ∀ a ∈ p.actions, a.link? = none) (failed : Bool) :
    (p.perform setup failed).links = [] := by
  refine perform_of_actions (P := fun j => j.links = []) rfl (fun ha hb => ?_) (fun a ha => ?_) failed
  · rw [Journal.links_append, ha, hb, List.nil_append]
  · exact Action.links_of_link?_eq_none (h a ha)

theorem IsPlaced.act {action : Action} (h : action.link? = none) (hp : p.IsPlaced setup) :
    IsPlaced setup (.act action :: p) := by
  have haction : IsPlaced setup [.act action] :=
    .of_link?_eq_none fun a ha => by rwa [List.mem_singleton.1 ha]
  exact haction.append hp

theorem IsPlaced.ofActions {actions : List Action} (h : ∀ a ∈ actions, a.isFree = true) :
    IsPlaced setup (ofActions actions) := by
  refine .of_link?_eq_none fun a ha => ?_
  rw [actions_ofActions] at ha
  exact Action.link?_of_isFree (h a ha)

theorem IsPlaced.flatMap {α : Type} {f : α → Plan} (h : ∀ x, (f x).IsPlaced setup) (xs : List α) :
    IsPlaced setup (xs.flatMap f) := by
  induction xs with
  | nil => exact isPlaced_nil
  | cons x rest ih => exact (h x).append ih

end Plan

theorem Setup.linksFollow_link (setup : Setup) {link : SupportLink} {d : DirectoryRecord}
    (h : link.IsIn d) : LinksFollow (some (.directory d)) (setup.link link).entries := by
  obtain ⟨-, hmade⟩ | ⟨_, -, -, hmade⟩ | ⟨_, -, -, hmade⟩ := setup.link_cases link <;> rw [hmade]
  · trivial
  · exact ⟨⟨d, rfl, h⟩, trivial⟩
  · exact ⟨⟨d, rfl, h⟩, trivial⟩

namespace TaskElement
variable {setup : Setup}

theorem link?_of_mem_directory {source : SourcePosition} {component : String} {kind : TaskKind}
    {ordinal : UInt32} : ∀ a ∈ (Task.directory source component kind ordinal).actions,
      a.link? = none := by
  intro a ha
  obtain ⟨id, violation, rfl⟩ | rfl := Task.cases_of_mem_directory ha <;> rfl

theorem isPlaced_emission (kind : TaskKind) (task : Element) (file : FileContext)
    (executable : String) (ordinal : UInt32) :
    (performAll setup (emission kind task file executable ordinal)).IsPlaced := by
  by_cases hmissing : missing kind task = []
  · obtain ⟨name, hname⟩ := nameOf_of_missing_eq_nil hmissing
    cases kind with
    | play =>
      rw [emission_play file executable ordinal hname]
      refine Journal.isPlaced_performAll fun a ha => ?_
      obtain ha | ha := List.mem_append.1 ha
      · exact link?_of_mem_directory a ha
      · rw [List.mem_singleton.1 ha]
        rfl
    | support =>
      obtain ⟨address, haddress⟩ := addressOf_of_missing_eq_nil hmissing
      rw [emission_support file executable ordinal hname haddress, Task.directory, List.append_assoc,
        performAll_append]
      -- The directory is the last record before the link, whatever `last` was before it.
      refine Journal.IsPlaced.append ?_ ⟨fun last => ?_⟩
      · refine Journal.isPlaced_performAll fun a ha => ?_
        have hdirectory :
            a ∈ (Task.directory task.source file.componentId .support ordinal).actions :=
          List.mem_append_left _ ha
        exact link?_of_mem_directory a hdirectory
      · have hin : SupportLink.IsIn
            (supportLink task file
              (Identifier.compose (Task.stem .support ordinal) file.componentId) name address)
            { source := task.source
              id := Identifier.compose (Task.stem .support ordinal) file.componentId
              parentRef := Identifier.compose TaskKind.support.rootStem file.componentId
              name := toString ordinal } := ⟨rfl, rfl, rfl, rfl⟩
        have hlink := setup.linksFollow_link hin
        rw [performAll_append, performAll_singleton, performAll_singleton]
        exact hlink
  · rw [emission_of_missing file executable ordinal hmissing]
    exact Journal.isPlaced_empty

theorem isPlaced_plan (kind : TaskKind) (task : Element) (file : FileContext) (executable : String)
    (ordinal : UInt32) : (plan kind task file executable ordinal).IsPlaced setup := by
  refine (Plan.IsPlaced.ofActions (isFree_checks kind task)).append fun failed => ?_
  cases failed with
  | true => exact Journal.isPlaced_empty
  | false =>
    rw [Plan.perform_singleton]
    exact isPlaced_emission kind task file executable ordinal

end TaskElement

namespace Game
variable {setup : Setup}

theorem isPlaced_childrenPlan (game : Element) (file : FileContext) (roots : TaskRoots)
    (ordinals : Ordinals) (children : List Element) :
    (childrenPlan game file roots ordinals children).IsPlaced setup := by
  induction children generalizing roots ordinals with
  | nil => exact Plan.isPlaced_nil
  | cons child rest ih =>
    rw [childrenPlan]
    cases childRole child with
    | foreign => exact (ih roots ordinals).act rfl
    | unexpected => exact (ih roots ordinals).act rfl
    | task kind =>
      have hroots : Plan.IsPlaced setup _ :=
        .ofActions (roots.isFree_ensure game.source ((instanceId game).getD "") file.componentId)
      exact (hroots.append (TaskElement.isPlaced_plan kind child file _ _)).append (ih _ _)

theorem isPlaced_plan (game : Element) (file : FileContext) :
    (plan game file).IsPlaced setup := by
  rw [plan]
  refine (((Plan.IsPlaced.ofActions (isFree_attributes game)).append
    (isPlaced_childrenPlan game file _ _ _)).append (.ofActions (isFree_ends game file))).append ?_
  refine .of_link?_eq_none fun a ha => ?_
  unfold registration at ha
  split at ha <;> simp [Plan.actions, Step.actions, reference] at ha
  · rw [ha]
    rfl
  · obtain rfl | rfl | rfl := ha <;> rfl

end Game

namespace Job
variable {setup : Setup}

theorem link?_of_mem_attributePlan {context : Context} {parent : Element} {attr : Attribute} :
    ∀ a ∈ (attributePlan context parent attr).actions, a.link? = none := by
  intro a ha
  obtain ⟨problem, rfl⟩ | ⟨value, rfl⟩ := cases_of_mem_attributePlan ha <;> rfl

theorem isPlaced_tracedPlan (job : Job) : job.tracedPlan.IsPlaced setup := by
  refine Plan.IsPlaced.act rfl ?_
  cases job with
  | onAttribute context parent attr => exact .of_link?_eq_none link?_of_mem_attributePlan
  | onElement context parent element =>
    rw [plan, elementPlan]
    split
    · refine (Plan.IsPlaced.ofActions fun a ha => ?_).append ?_
      · exact Action.isFree_of_isReport (FileContext.isReport_resolve context _ _ a ha)
      · split
        · exact Game.isPlaced_plan element _
        · exact Plan.isPlaced_nil
    · exact .act rfl Plan.isPlaced_nil

end Job

theorem Request.linksFollow_run (r : Request) (setup : Setup) :
    LinksFollow none (r.run setup).entries :=
  (Plan.IsPlaced.flatMap (fun job => job.isPlaced_tracedPlan) r.jobs false).follows none

end GameRegistration
