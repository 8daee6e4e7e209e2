import GameRegistration.AttributeValue

/-! Task directories: one directory for each task with one shortcut in it, below a root for each
kind. Custom actions point the roots at the game's folder at install time. -/
namespace GameRegistration

inductive TaskKind where
  | play
  | support
deriving DecidableEq, Repr

namespace TaskKind

def rootStem : TaskKind → String
  | .play => "WixPlayTasksRoot"
  | .support => "WixSupportTasksRoot"

def taskStem : TaskKind → String
  | .play => "WixPlayTask"
  | .support => "WixSupportTask"

/-- The folder of the kind's tasks below the game's own. -/
def folder : TaskKind → String
  | .play => "PlayTasks\\"
  | .support => "SupportTasks\\"

end TaskKind

structure Ordinals where
  play : UInt32 := 0
  support : UInt32 := 0
deriving DecidableEq, Repr

namespace Ordinals

def get (o : Ordinals) : TaskKind → UInt32
  | .play => o.play
  | .support => o.support

/-- The counts after one more task of the kind; its ordinal is the count before. -/
def advance (o : Ordinals) : TaskKind → Ordinals
  | .play => { o with play := o.play + 1 }
  | .support => { o with support := o.support + 1 }

@[simp] theorem get_advance_self (o : Ordinals) (k : TaskKind) :
    (o.advance k).get k = o.get k + 1 := by
  cases k <;> rfl

theorem get_advance_of_ne (o : Ordinals) {j k : TaskKind} (h : j ≠ k) :
    (o.advance k).get j = o.get j := by
  cases j <;> cases k <;> first | rfl | exact absurd rfl h

end Ordinals

namespace Task

/-- The directory that placeholders lie in. -/
def targetDirectory : String := "TARGETDIR"

/-- The action after which the roots are set. -/
def costFinalize : String := "CostFinalize"

/-- A rejected identifier is reported and returned whole. -/
def directoryId (source : SourcePosition) (stem component : String) : Resolved String :=
  let id := Identifier.compose stem component
  { value := id
    actions := match Identifier.violation? id with
      | some violation => [.error source (.illegalTaskDirectory id violation)]
      | none => [] }

def rootId (source : SourcePosition) (kind : TaskKind) (component : String) : Resolved String :=
  directoryId source kind.rootStem component

def stem (kind : TaskKind) (ordinal : UInt32) : String := kind.taskStem ++ toString ordinal

def directory (source : SourcePosition) (component : String) (kind : TaskKind) (ordinal : UInt32) :
    Resolved String :=
  let parent := rootId source kind component
  let id := directoryId source (stem kind ordinal) component
  { value := id.value
    actions := parent.actions ++ id.actions ++
      [.emit (.directory
        { source, id := id.value, parentRef := parent.value, name := toString ordinal })] }

def gameFolder (game : String) : String :=
  "[CommonAppDataFolder]Microsoft\\Windows\\GameExplorer\\" ++ game ++ "\\"

def rootDirectory (source : SourcePosition) (id : String) : DirectoryRecord where
  source := source
  id := id
  parentRef := targetDirectory
  name := "."

def rootActions (source : SourcePosition) (game id : String) (kind : TaskKind) : List Record :=
  [.customAction
    { source, id, type := .setProperty, execution := .immediate, property := id
      target := gameFolder game ++ kind.folder },
   .schedule
    { source, sequence := .installExecuteSequence, action := id
      condition := none, before := none, after := some costFinalize }]

def rootRecords (source : SourcePosition) (game play support : String) : List Record :=
  [.directory (rootDirectory source play), .directory (rootDirectory source support)] ++
    rootActions source game play .play ++ rootActions source game support .support

/-- Both roots and the custom actions that set them, whether their identifiers are legal or not. -/
def roots (source : SourcePosition) (game component : String) : List Action :=
  let play := rootId source .play component
  let support := rootId source .support component
  play.actions ++ support.actions ++
    (rootRecords source game play.value support.value).map Action.emit

end Task

inductive TaskRoots where
  | noTasksSeen
  | rootsEmitted
deriving DecidableEq, Repr

namespace TaskRoots

def text : TaskRoots → String
  | .noTasksSeen => "NoTasksSeen"
  | .rootsEmitted => "RootsEmitted"

/-- The roots are made once for each game, when its first task is met. -/
def ensure (r : TaskRoots) (source : SourcePosition) (game component : String) :
    Resolved TaskRoots :=
  match r with
  | .noTasksSeen => { value := .rootsEmitted, actions := Task.roots source game component }
  | .rootsEmitted => { value := .rootsEmitted }

end TaskRoots

end GameRegistration
