import GameRegistration.Proofs.GamePlan
import GameRegistration.Proofs.Yields

/-! Translations of games, as lists read off the document: a record is given by its element and the
elements before it. Tasks that go well become what their translation says. -/
namespace GameRegistration

namespace Element

/-- Of repeated attributes the last one counts. -/
def ownValue? (e : Element) (localName : String) : Option String :=
  ((e.attributes.filter fun a => a.isOwn && a.localName == localName).getLast?).map (·.value)

end Element

namespace Translation

def roots (source : SourcePosition) (guid component : String) : List Record :=
  let play := "WixPlayTasksRoot_" ++ component
  let support := "WixSupportTasksRoot_" ++ component
  let folder := "[CommonAppDataFolder]Microsoft\\Windows\\GameExplorer\\" ++ guid ++ "\\"
  [.directory { source, id := play, parentRef := "TARGETDIR", name := "." },
   .directory { source, id := support, parentRef := "TARGETDIR", name := "." },
   .customAction
    { source, id := play, type := .setProperty, execution := .immediate, property := play
      target := folder ++ "PlayTasks\\" },
   .schedule
    { source, sequence := .installExecuteSequence, action := play
      condition := none, before := none, after := some "CostFinalize" },
   .customAction
    { source, id := support, type := .setProperty, execution := .immediate, property := support
      target := folder ++ "SupportTasks\\" },
   .schedule
    { source, sequence := .installExecuteSequence, action := support
      condition := none, before := none, after := some "CostFinalize" }]

def shortcut (file : FileContext) (executable directory : String) (task : Element) (name : String) :
    TaskKind → ShortcutRecord
  | .play =>
    { source := task.source, id := directory, directoryRef := directory, name
      shortName :=
        if ShortName.isLegal name false then none
        else some (ShortName.generate name true false [directory, name])
      componentRef := file.componentId, target := "[#" ++ executable ++ "]"
      arguments := task.ownValue? "Arguments", workingDirectory := file.directoryId }
  | .support =>
    { source := task.source, id := directory, directoryRef := directory, name, shortName := none
      componentRef := file.componentId, target := (task.ownValue? "Address").getD ""
      arguments := none, workingDirectory := directory }

/-- A directory, named by the number of tasks of the kind before this one, and a shortcut in it. -/
def task (file : FileContext) (executable : String) (task : Element) (kind : TaskKind)
    (ordinal : UInt32) : List Record :=
  let directory := kind.taskStem ++ toString ordinal ++ "_" ++ file.componentId
  [.directory
    { source := task.source, id := directory, parentRef := kind.rootStem ++ "_" ++ file.componentId
      name := toString ordinal },
   .shortcut (shortcut file executable directory task ((task.ownValue? "Name").getD "") kind)]

def executable (file : FileContext) (game : Element) : String :=
  (game.ownValue? "ExecutableFile").getD file.fileId

def definition (file : FileContext) (game : Element) : String :=
  (game.ownValue? "GdfResourceFile").getD file.fileId

/-- A child of a game behind those before it. The first task of either kind brings the roots. -/
def child (policy : ForeignPolicy) (file : FileContext) (guid : String) (game : Element)
    (before : List Element) (c : Element) : List Record :=
  match Game.childRole c with
  | .foreign => policy.records [.childOf game c]
  | .unexpected => []
  | .task kind =>
    (if Game.taskCount .play before = 0 ∧ Game.taskCount .support before = 0 then
      roots game.source guid file.componentId else []) ++
      policy.records (c.foreignAttributes ++ c.foreignChildren) ++
      task file (executable file game) c kind (.ofNat (Game.taskCount kind before))

def reference (game : Element) (table primaryKeys : String) : Record :=
  .reference { source := game.source, table, primaryKeys }

def game (policy : ForeignPolicy) (file : FileContext) (guid : String) (game : Element) :
    List Record :=
  policy.records game.foreignAttributes ++
    (game.children.mapIdx fun i c => child policy file guid game (game.children.take i) c).flatten ++
    ([definition file game, executable file game].filter (· != file.fileId)).map
      (reference game "File") ++
    [.game { source := game.source, instanceId := guid, fileRef := definition file game },
     reference game "CustomAction" "WixSchedGameExplorer"]

end Translation

namespace Element

theorem ownValue?_eq {p : Attribute → Bool} {localName : String}
    (h : ∀ a, p a = true ↔ a.isOwn = true ∧ a.localName = localName) (e : Element) :
    e.ownValue? localName = (e.attributes.reverse.find? p).map (·.value) := by
  have hp : p = fun a => a.isOwn && a.localName == localName := by
    funext a
    rw [Bool.eq_iff_iff, h a]
    simp
  rw [ownValue?, List.getLast?_filter, hp]

theorem filter_eq_of_perm {p : Attribute → Bool} {attributes attributes' : List Attribute}
    (hperm : attributes.Perm attributes') (hone : (attributes.filter p).length ≤ 1) :
    attributes.filter p = attributes'.filter p := by
  have hfilter := hperm.filter p
  cases hmeant : attributes.filter p with
  | nil =>
    rw [hmeant] at hfilter
    exact hfilter.nil_eq
  | cons a rest =>
    have hrest : rest = [] := by simpa [hmeant] using hone
    rw [hmeant, hrest] at hfilter
    rw [hrest, List.singleton_perm.1 hfilter]

end Element

namespace Task
variable {setup : Setup}

theorem yields_directoryIds (source : SourcePosition) (stem stem' component : String) :
    Yields setup ((directoryId source stem component).actions ++
      (directoryId source stem' component).actions) [] := by
  apply Yields.of_isReport
  intro a ha
  obtain ha | ha := List.mem_append.1 ha
  · exact isReport_directoryId source stem component a ha
  · exact isReport_directoryId source stem' component a ha

theorem yields_directory (source : SourcePosition) (component : String) (kind : TaskKind)
    (ordinal : UInt32) :
    Yields setup (directory source component kind ordinal).actions
      [.directory
        { source, id := kind.taskStem ++ toString ordinal ++ "_" ++ component
          parentRef := kind.rootStem ++ "_" ++ component, name := toString ordinal }] :=
  (yields_directoryIds source kind.rootStem (stem kind ordinal) component).append
    (Yields.emit [_])

end Task

namespace TaskElement
variable {setup : Setup}

theorem role_eq_name_iff {kind : TaskKind} {a : Attribute} :
    role kind a = .name ↔ a.isOwn = true ∧ a.localName = "Name" := by
  unfold role
  cases a.isOwn with
  | false => simp
  | true =>
    by_cases hname : a.localName = "Name"
    · simp [hname]
    · simp only [hname, Bool.not_true, Bool.false_eq_true, if_false, and_false, iff_false]
      split <;> exact Role.noConfusion

theorem detailName_ne_name (kind : TaskKind) : kind.detailName ≠ "Name" := by
  cases kind <;> decide

theorem role_eq_detail_iff {kind : TaskKind} {a : Attribute} :
    role kind a = .detail ↔ a.isOwn = true ∧ a.localName = kind.detailName := by
  unfold role
  cases a.isOwn with
  | false => simp
  | true =>
    by_cases hname : a.localName = "Name"
    · simp [hname, (detailName_ne_name kind).symm]
    · by_cases hdetail : a.localName = kind.detailName
      · simp [hdetail, detailName_ne_name kind]
      · simp [hname, hdetail]

theorem nameOf_eq (kind : TaskKind) (task : Element) : nameOf kind task = task.ownValue? "Name" := by
  refine (Element.ownValue?_eq (fun a => ?_) task).symm
  rw [beq_iff_eq, role_eq_name_iff]

theorem detailOf_eq (kind : TaskKind) (task : Element) :
    detailOf kind task = task.ownValue? kind.detailName := by
  refine (Element.ownValue?_eq (fun a => ?_) task).symm
  rw [beq_iff_eq, role_eq_detail_iff]

theorem missing_eq_nil_of_clean (setup : Setup) {kind : TaskKind} {task : Element}
    (h : ∀ a ∈ missing kind task, (a.perform setup).failed = false) : missing kind task = [] := by
  rw [List.eq_nil_iff_forall_not_mem]
  intro a ha
  have hclean := h a ha
  obtain ⟨rfl, -⟩ | ⟨rfl, -⟩ := mem_missing_iff.1 ha
  · cases hclean
  · cases hclean

theorem playShortcut_eq (task : Element) (file : FileContext) (executable directory name : String) :
    playShortcut task file executable directory name =
      Translation.shortcut file executable directory task name .play := by
  rw [playShortcut, detailOf_eq]
  rfl

theorem supportLink_record {task : Element} {address : String} (file : FileContext)
    (executable directory name : String) (h : detailOf .support task = some address) :
    (supportLink task file directory name address).record =
      Translation.shortcut file executable directory task name .support := by
  rw [detailOf_eq] at h
  change task.ownValue? "Address" = some address at h
  rw [Translation.shortcut, h]
  rfl

theorem yields_emission {kind : TaskKind} {task : Element} (file : FileContext) (executable : String)
    (ordinal : UInt32) (h : missing kind task = []) :
    Yields setup (emission kind task file executable ordinal)
      (Translation.task file executable task kind ordinal) := by
  obtain ⟨name, hname⟩ := nameOf_of_missing_eq_nil h
  have hvalue : (task.ownValue? "Name").getD "" = name := by
    rw [← nameOf_eq kind, hname, Option.getD_some]
  have hdirectory : Yields setup _ _ :=
    Task.yields_directory task.source file.componentId kind ordinal
  rw [Translation.task, hvalue]
  cases kind with
  | play =>
    rw [emission_play file executable ordinal hname, playShortcut_eq]
    exact hdirectory.append (Yields.emit [_])
  | support =>
    obtain ⟨address, haddress⟩ := addressOf_of_missing_eq_nil h
    have hlink : Yields setup _ _ := Yields.requestLink (supportLink task file
      (Identifier.compose (Task.stem .support ordinal) file.componentId) name address)
    rw [supportLink_record file executable _ name haddress] at hlink
    rw [emission_support file executable ordinal hname haddress]
    exact hdirectory.append hlink

theorem opened_plan (kind : TaskKind) (task : Element) (file : FileContext) (executable : String)
    (ordinal : UInt32) :
    (plan kind task file executable ordinal).opened =
      checks kind task ++ emission kind task file executable ordinal := by
  rw [plan, Plan.opened_append, Plan.opened_ofActions, Plan.opened_gate, Plan.opened_nil,
    List.append_nil]

theorem yields_plan (kind : TaskKind) (task : Element) (file : FileContext) (executable : String)
    (ordinal : UInt32) :
    Yields setup (plan kind task file executable ordinal).opened
      (setup.foreign.records (task.foreignAttributes ++ task.foreignChildren) ++
        Translation.task file executable task kind ordinal) := by
  rw [opened_plan]
  intro hclean
  have hmissing : missing kind task = [] := by
    refine missing_eq_nil_of_clean setup fun a ha => ?_
    refine (performAll_clean_iff setup _).1 hclean a ?_
    rw [checks, List.mem_append, List.mem_append]
    exact .inl (.inr ha)
  exact (yields_checks kind task).append (yields_emission file executable ordinal hmissing) hclean

end TaskElement

end GameRegistration
