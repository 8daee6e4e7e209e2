import GameRegistration.Proofs.GameRecords
import GameRegistration.Proofs.LikeGames

/-! Nodes of a game that are not translated. Each is handed on or reported out of place, once and in
document order, whatever errors there are; and what lies below them is not looked at. -/
namespace GameRegistration

/-- A node that is not translated: it belongs to others, or it is out of place. -/
inductive StrayNode where
  | foreign (node : ForeignNode)
  | unexpectedAttribute (owner : Element) (attr : Attribute)
  | unexpectedChild (parent child : Element)

namespace StrayNode

def foreign? : StrayNode → Option ForeignNode
  | .foreign node => some node
  | .unexpectedAttribute .. | .unexpectedChild .. => none

/-- What is reported of the node. Of a foreign one the surrounding compiler has the say. -/
def findings (setup : Setup) : StrayNode → List Diagnostic
  | .foreign node => (setup.hand node).diagnostics
  | .unexpectedAttribute owner a =>
    [⟨owner.source, .error, .unexpectedAttribute owner.localName a.localName⟩]
  | .unexpectedChild parent child =>
    [⟨child.source, .error, .unexpectedElement parent.localName child.localName⟩]

end StrayNode

namespace Element

/-- An attribute of an element for which these names have a meaning. -/
def strayAttribute (known : List String) (e : Element) (a : Attribute) : List StrayNode :=
  if !a.isOwn then [.foreign (.attributeOf e a)]
  else if a.localName ∈ known then [] else [.unexpectedAttribute e a]

def strayChild (task c : Element) : StrayNode :=
  if c.name.space.isNone || c.name.isIn gamingSpace then .unexpectedChild task c
  else .foreign (.childOf task c)

end Element

namespace Game

def straysOfChild (game c : Element) : List StrayNode :=
  match childRole c with
  | .foreign => [.foreign (.childOf game c)]
  | .unexpected => [.unexpectedChild game c]
  | .task kind =>
    c.attributes.flatMap (c.strayAttribute ["Name", kind.detailName]) ++
      c.children.map c.strayChild

/-- All nodes of a game that are not translated, in document order. -/
def strays (game : Element) : List StrayNode :=
  game.attributes.flatMap (game.strayAttribute ["Id", "GdfResourceFile", "ExecutableFile"]) ++
    game.children.flatMap (straysOfChild game)

end Game

/-- Reports of nodes, as against those of values. -/
def Diagnostic.isOfNode (d : Diagnostic) : Bool := d.problem.kind == .unexpectedAttributeOrElement

/-- The journal hands on and reports these nodes, and no others. -/
structure Journal.AccountsFor (setup : Setup) (nodes : List StrayNode) (j : Journal) : Prop where
  handed_eq : j.handed = nodes.filterMap StrayNode.foreign?
  findings_eq : j.diagnostics.filter Diagnostic.isOfNode = nodes.flatMap (StrayNode.findings setup)

def Plan.AccountsFor (setup : Setup) (nodes : List StrayNode) (p : Plan) : Prop :=
  ∀ failed, (p.perform setup failed).AccountsFor setup nodes

/-- Such actions are about values and records. -/
def Action.isAside : Action → Bool
  | .hand _ => false
  | .error _ problem | .warning _ problem => problem.kind != .unexpectedAttributeOrElement
  | .emit _ | .note _ | .requestLink _ => true

variable {setup : Setup}

namespace Journal.AccountsFor

theorem empty : AccountsFor setup [] {} := ⟨rfl, rfl⟩

theorem append {a b : Journal} {m n : List StrayNode} (ha : a.AccountsFor setup m)
    (hb : b.AccountsFor setup n) : AccountsFor setup (m ++ n) (a ++ b) := by
  constructor
  · rw [handed_append, ha.handed_eq, hb.handed_eq, List.filterMap_append]
  · rw [diagnostics_append, List.filter_append, ha.findings_eq, hb.findings_eq, List.flatMap_append]

theorem flatMap {α : Type} {f : α → List Action} {g : α → List StrayNode}
    (h : ∀ x, (performAll setup (f x)).AccountsFor setup (g x)) (xs : List α) :
    (performAll setup (xs.flatMap f)).AccountsFor setup (xs.flatMap g) := by
  induction xs with
  | nil => exact empty
  | cons x rest ih =>
    rw [List.flatMap_cons, List.flatMap_cons, performAll_append]
    exact (h x).append ih

end Journal.AccountsFor

open Journal (AccountsFor)

namespace Action

theorem accountsFor_warning {problem : Problem} (source : SourcePosition)
    (h : problem.kind ≠ .unexpectedAttributeOrElement) :
    (Journal.warning setup.warnings source problem).AccountsFor setup [] := by
  unfold Journal.warning Journal.settle
  cases setup.warnings.treatment <;>
    exact ⟨rfl, by simp [Journal.append, Journal.write, Journal.note, Journal.diagnostics,
      Entry.diagnostic?, Diagnostic.isOfNode, h]⟩

theorem accountsFor_error {problem : Problem} (source : SourcePosition)
    (h : problem.kind ≠ .unexpectedAttributeOrElement) :
    (Journal.error source problem).AccountsFor setup [] :=
  ⟨rfl, by simp [Journal.error, Journal.write, Journal.diagnostics, Entry.diagnostic?,
    Diagnostic.isOfNode, h]⟩

theorem accountsFor_of_isAside {a : Action} (h : a.isAside = true) :
    (a.perform setup).AccountsFor setup [] := by
  cases a with
  | error source problem => exact accountsFor_error source (bne_iff_ne.1 h)
  | warning source problem => exact accountsFor_warning source (bne_iff_ne.1 h)
  | emit record => exact ⟨rfl, rfl⟩
  | note event => exact ⟨rfl, rfl⟩
  | hand node => cases h
  | requestLink link =>
    change (setup.link link).AccountsFor setup []
    obtain ⟨-, hlink⟩ | ⟨_, -, -, hlink⟩ | ⟨_, -, -, hlink⟩ := setup.link_cases link <;> rw [hlink] <;>
      exact ⟨rfl, rfl⟩

theorem accountsFor_hand (node : ForeignNode) :
    ((Action.hand node).perform setup).AccountsFor setup [.foreign node] := by
  constructor
  · change (setup.foreign.handle setup.warnings node).handed = [node]
    unfold ForeignPolicy.handle
    cases setup.foreign with
    | reject => rfl
    | accept => rfl
    | warn =>
      unfold Journal.warning Journal.settle
      cases setup.warnings.treatment <;> rfl
  · rw [List.flatMap_singleton, StrayNode.findings]
    change (setup.foreign.handle setup.warnings node).diagnostics.filter _ =
      (setup.foreign.handle setup.warnings node).diagnostics
    unfold ForeignPolicy.handle
    cases setup.foreign with
    | reject => cases node <;> rfl
    | accept => rfl
    | warn =>
      unfold Journal.warning Journal.settle
      cases setup.warnings.treatment <;> cases node <;> rfl

theorem accountsFor_unexpectedAttribute (owner : Element) (a : Attribute) :
    ((unexpectedAttribute owner a).perform setup).AccountsFor setup [.unexpectedAttribute owner a] :=
  ⟨rfl, rfl⟩

theorem accountsFor_unexpectedElement (parent child : Element) :
    ((unexpectedElement parent child).perform setup).AccountsFor setup
      [.unexpectedChild parent child] :=
  ⟨rfl, rfl⟩

end Action

namespace Journal.AccountsFor

theorem singleton {a : Action} {nodes : List StrayNode}
    (h : (a.perform setup).AccountsFor setup nodes) :
    (performAll setup [a]).AccountsFor setup nodes := by
  rw [performAll_singleton]
  exact h

theorem of_isAside {actions : List Action} (h : ∀ a ∈ actions, a.isAside = true) :
    (performAll setup actions).AccountsFor setup [] :=
  performAll_of_actions empty append fun a ha => Action.accountsFor_of_isAside (h a ha)

end Journal.AccountsFor

namespace Plan.AccountsFor

theorem append {p q : Plan} {m n : List StrayNode} (hp : p.AccountsFor setup m)
    (hq : q.AccountsFor setup n) : Plan.AccountsFor setup (m ++ n) (p ++ q) := by
  intro failed
  rw [perform_append]
  exact (hp failed).append (hq _)

theorem ofActions {actions : List Action} {nodes : List StrayNode}
    (h : (performAll setup actions).AccountsFor setup nodes) :
    Plan.AccountsFor setup nodes (Plan.ofActions actions) := by
  intro failed
  rw [perform_ofActions]
  exact h

theorem ofStep {step : Step} (h : ∀ a ∈ step.actions, a.isAside = true) :
    Plan.AccountsFor setup [] [step] := by
  intro failed
  rw [perform_singleton]
  exact step.perform_of_actions .empty .append (fun a ha => Action.accountsFor_of_isAside (h a ha))
    failed

end Plan.AccountsFor

namespace AttributeValue
variable (source : SourcePosition) (element : String) (attr : Attribute)

theorem isAside_text : ∀ a ∈ (text source element attr).actions, a.isAside = true := by
  intro a ha
  rw [eq_of_mem_text ha]
  rfl

theorem isAside_guid : ∀ a ∈ (guid source element attr).actions, a.isAside = true := by
  intro a ha
  obtain rfl | rfl := cases_of_mem_guid ha <;> rfl

theorem isAside_identifier : ∀ a ∈ (identifier source element attr).actions, a.isAside = true := by
  intro a ha
  obtain rfl | rfl | rfl := cases_of_mem_identifier ha <;> rfl

end AttributeValue

namespace TaskElement
variable (kind : TaskKind) (task : Element)

theorem isAside_missing : ∀ a ∈ missing kind task, a.isAside = true := by
  intro a ha
  obtain ⟨rfl, -⟩ | ⟨rfl, -⟩ := mem_missing_iff.1 ha <;> rfl

theorem isAside_emission (file : FileContext) (executable : String) (ordinal : UInt32) :
    ∀ a ∈ emission kind task file executable ordinal, a.isAside = true := by
  intro a ha
  obtain hdirectory | ⟨_, _, rfl⟩ | ⟨_, _, _, rfl⟩ := cases_of_mem_emission ha
  · obtain ⟨id, violation, rfl⟩ | rfl := Task.cases_of_mem_directory hdirectory <;> rfl
  · rfl
  · rfl

theorem accountsFor_attributeActions (a : Attribute) :
    (performAll setup (attributeActions kind task a)).AccountsFor setup
      (task.strayAttribute ["Name", kind.detailName] a) := by
  unfold attributeActions role Element.strayAttribute
  by_cases hown : a.isOwn = true
  · by_cases hname : a.localName = "Name"
    · simpa [hown, hname] using AccountsFor.of_isAside (AttributeValue.isAside_text _ _ _)
    · by_cases hdetail : a.localName = kind.detailName
      · simpa [hown, hname, hdetail, detailName_ne_name] using
          AccountsFor.of_isAside (AttributeValue.isAside_text _ _ _)
      · simpa [hown, hname, hdetail] using
          AccountsFor.singleton (Action.accountsFor_unexpectedAttribute task a)
  · simpa [hown] using AccountsFor.singleton (Action.accountsFor_hand (.attributeOf task a))

theorem accountsFor_childAction (c : Element) :
    ((childAction task c).perform setup).AccountsFor setup [task.strayChild c] := by
  unfold childAction Element.strayChild
  split
  · exact Action.accountsFor_unexpectedElement task c
  · exact Action.accountsFor_hand (.childOf task c)

theorem accountsFor_plan (file : FileContext) (executable : String) (ordinal : UInt32) :
    Plan.AccountsFor setup
      (task.attributes.flatMap (task.strayAttribute ["Name", kind.detailName]) ++
        task.children.map task.strayChild)
      (plan kind task file executable ordinal) := by
  have hattributes :
      (performAll setup (task.attributes.flatMap (attributeActions kind task))).AccountsFor setup
        (task.attributes.flatMap (task.strayAttribute ["Name", kind.detailName])) :=
    .flatMap (accountsFor_attributeActions kind task) task.attributes
  have hchildren :
      (performAll setup (task.children.map (childAction task))).AccountsFor setup
        (task.children.map task.strayChild) := by
    rw [List.map_eq_flatMap, List.map_eq_flatMap]
    exact .flatMap (fun c => .singleton (accountsFor_childAction task c)) task.children
  have hchecks := (hattributes.append hchildren).append (.of_isAside (isAside_missing kind task))
  rw [← performAll_append, ← performAll_append] at hchecks
  have hgate : Plan.AccountsFor setup [] [.gate [] (emission kind task file executable ordinal)] :=
    .ofStep (isAside_emission kind task file executable ordinal)
  have hplan := (Plan.AccountsFor.ofActions hchecks).append hgate
  rw [List.append_nil, List.append_nil] at hplan
  exact hplan

end TaskElement

namespace Game
variable (game : Element) (file : FileContext)

theorem accountsFor_attributeActions (a : Attribute) :
    (performAll setup (attributeActions game a)).AccountsFor setup
      (game.strayAttribute ["Id", "GdfResourceFile", "ExecutableFile"] a) := by
  unfold attributeActions role Element.strayAttribute
  by_cases hown : a.isOwn = true
  · by_cases hid : a.localName = "Id"
    · simpa [hown, hid] using AccountsFor.of_isAside (AttributeValue.isAside_guid _ _ _)
    · by_cases hdefinition : a.localName = "GdfResourceFile"
      · simpa [hown, hdefinition] using
          AccountsFor.of_isAside (AttributeValue.isAside_identifier _ _ _)
      · by_cases hexecutable : a.localName = "ExecutableFile"
        · simpa [hown, hexecutable] using
            AccountsFor.of_isAside (AttributeValue.isAside_identifier _ _ _)
        · simpa [hown, hid, hdefinition, hexecutable] using
            AccountsFor.singleton (Action.accountsFor_unexpectedAttribute game a)
  · simpa [hown] using AccountsFor.singleton (Action.accountsFor_hand (.attributeOf game a))

theorem accountsFor_childrenPlan (roots : TaskRoots) (ordinals : Ordinals) (children : List Element) :
    Plan.AccountsFor setup (children.flatMap (straysOfChild game))
      (childrenPlan game file roots ordinals children) := by
  induction children generalizing roots ordinals with
  | nil => exact fun _ => .empty
  | cons c rest ih =>
    rw [childrenPlan, List.flatMap_cons, straysOfChild]
    cases childRole c with
    | foreign =>
      exact .append (.ofActions (.singleton (Action.accountsFor_hand (.childOf game c)))) (ih _ _)
    | unexpected =>
      exact .append (.ofActions (.singleton (Action.accountsFor_unexpectedElement game c))) (ih _ _)
    | task kind =>
      have hroots : ∀ a ∈ (roots.ensure game.source ((instanceId game).getD "")
          file.componentId).actions, a.isAside = true := by
        intro a ha
        obtain ⟨id, violation, rfl⟩ | ⟨record, -, rfl⟩ := Task.cases_of_mem_ensure ha <;> rfl
      exact ((Plan.AccountsFor.ofActions (.of_isAside hroots)).append
        (TaskElement.accountsFor_plan kind c file _ _)).append (ih _ _)

theorem accountsFor_plan : Plan.AccountsFor setup (strays game) (plan game file) := by
  have hends : ∀ a ∈ missingId game ++ fileReferences game file, a.isAside = true := by
    intro a ha
    obtain hmissing | hreference := List.mem_append.1 ha
    · rw [eq_of_mem_missingId hmissing]
      rfl
    · obtain ⟨key, rfl⟩ := exists_of_mem_fileReferences hreference
      rfl
  have hgate : Plan.AccountsFor setup []
      [.gate [.note (.registrationSuppressed game.source)] (registration game file)] := by
    refine .ofStep (List.forall_mem_cons.2 ⟨rfl, fun a ha => ?_⟩)
    obtain ⟨id, rfl⟩ | rfl := cases_of_mem_registration ha <;> rfl
  have hattributes :
      (performAll setup (game.attributes.flatMap (attributeActions game))).AccountsFor setup
        (game.attributes.flatMap
          (game.strayAttribute ["Id", "GdfResourceFile", "ExecutableFile"])) :=
    .flatMap (accountsFor_attributeActions game) game.attributes
  have hplan := (((Plan.AccountsFor.ofActions hattributes).append
    (accountsFor_childrenPlan game file .noTasksSeen {} game.children)).append
      (.ofActions (.of_isAside hends))).append hgate
  rw [List.append_nil, List.append_nil] at hplan
  exact hplan

end Game

def Element.emptied (e : Element) : Element := { e with children := [] }

theorem TaskElement.alike_emptied (kind : TaskKind) (task : Element) :
    Alike Journal.SameOutline setup kind task
      { task with children := task.children.map Element.emptied } where
  checks := by
    have hR := Journal.likeness_sameOutline
    have hhead : task.head = { task with children := task.children.map Element.emptied }.head := rfl
    rw [checks, checks, List.map_map]
    refine hR.performAll_append (hR.performAll_append ?_ ?_) (hR.refl _)
    · exact hR.performAll_flatMap fun a _ => sameOutline_attributeActions hhead kind a
    · refine hR.performAll_map fun c _ => ?_
      have hchild : c.head = c.emptied.head := rfl
      exact sameOutline_childAction hhead hchild
  emission_eq := emission_congr rfl rfl rfl

namespace Game

def prunedChild (c : Element) : Element :=
  match childRole c with
  | .task _ => { c with children := c.children.map Element.emptied }
  | .foreign | .unexpected => c.emptied

/-- The game without what is deeper than the children of its tasks, and without what stands in its other
children. -/
def pruned (game : Element) : Element := { game with children := game.children.map prunedChild }

theorem head_pruned (game : Element) : game.head = (pruned game).head := rfl

theorem childAlike_prunedChild (game c : Element) :
    ChildAlike Journal.SameOutline setup game (pruned game) c (prunedChild c) := by
  have hhead : c.head = (prunedChild c).head := by
    unfold prunedChild
    split <;> rfl
  refine .ofHead (head_pruned game) hhead id fun kind hrole => ?_
  rw [prunedChild, hrole]
  exact TaskElement.alike_emptied kind c

theorem alike_pruned (game : Element) : Alike Journal.SameOutline setup game (pruned game) where
  source_eq := rfl
  localName_eq := rfl
  instanceId_eq := rfl
  definitionFile_eq _ := rfl
  executableFile_eq _ := rfl
  attributes := Journal.likeness_sameOutline.performAll_flatMap fun a _ =>
    sameOutline_attributeActions (head_pruned game) a
  children := by
    rw [pruned, List.forall₂_map_right_iff, List.forall₂_same]
    exact fun c _ => childAlike_prunedChild game c

end Game

/-- What becomes of the nodes of a game that are not translated, after any earlier errors and under any
setup. The foreign ones are handed on and the others reported out of place, each once and in document
order. What stands deeper changes nothing. -/
theorem Job.strays_onElement (setup : Setup) (failed : Bool) (context : Context) (parent game : Element)
    (file : FileContext) (hparent : parent.localName = "File") (hgame : game.localName = "Game")
    (hfile : context.get? Context.fileId = some file.fileId)
    (hcomponent : context.get? Context.componentId = some file.componentId)
    (hdirectory : context.get? Context.directoryId = some file.directoryId) :
    ((onElement context parent game).perform setup failed).handed =
        (Game.strays game).filterMap StrayNode.foreign? ∧
      ((onElement context parent game).perform setup failed).diagnostics.filter Diagnostic.isOfNode =
        (Game.strays game).flatMap (StrayNode.findings setup) ∧
      ((onElement context parent game).perform setup failed).SameOutline
        ((onElement context parent (Game.pruned game)).perform setup failed) := by
  have hplan : (onElement context parent game).perform setup failed =
      Plan.perform setup failed (Game.plan game file) :=
    congrArg _ (elementPlan_of_context hparent hgame hfile hcomponent hdirectory)
  have haccount : (Plan.perform setup failed (Game.plan game file)).AccountsFor setup
      (Game.strays game) :=
    Game.accountsFor_plan game file failed
  rw [← hplan] at haccount
  exact ⟨haccount.handed_eq, haccount.findings_eq,
    (Game.alike_pruned game).onElement Journal.likeness_sameOutline context parent failed⟩

namespace Sample

def nestedTask : Element :=
  element "PlayTask" [("Name", "Play")] [{ foreignChild with children := [playTask] }, supportTask]

def strayGame : Element := game [("Version", "1")] [element "Shortcut" [], nestedTask, foreignChild]

end Sample

theorem Job.strays_strayGame :
    ((Sample.job Sample.strayGame).perform { foreign := .warn } true).handed =
        [.childOf Sample.nestedTask { Sample.foreignChild with children := [Sample.playTask] },
          .childOf Sample.strayGame Sample.foreignChild] ∧
      (((Sample.job Sample.strayGame).perform { foreign := .warn } true).diagnostics.filter
        Diagnostic.isOfNode).map (fun d => (d.level, d.problem)) =
          [(.error, .unexpectedAttribute "Game" "Version"),
            (.error, .unexpectedElement "Game" "Shortcut"),
            (.warning, .unexpectedElement
              "\x7bhttp://wixtoolset.org/schemas/v4/wxs/gaming\x7dPlayTask" "\x7burn:other\x7dIcon"),
            (.error, .unexpectedElement "PlayTask" "SupportTask"),
            (.warning, .unexpectedElement
              "\x7bhttp://wixtoolset.org/schemas/v4/wxs/gaming\x7dGame" "\x7burn:other\x7dIcon")] := by
  obtain ⟨hhanded, hfindings, -⟩ := strays_onElement { foreign := .warn } true Sample.context
    Sample.file Sample.strayGame Sample.fileContext rfl rfl rfl rfl rfl
  exact ⟨hhanded, congrArg _ hfindings⟩

end GameRegistration
