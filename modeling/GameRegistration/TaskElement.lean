import GameRegistration.Task
import GameRegistration.Context
import GameRegistration.ShortName

/-! What becomes of task elements. A play task becomes a directory with a shortcut to the
executable, a support task a directory with a link; both only while no error is on record. -/
namespace GameRegistration

def TaskKind.detailName : TaskKind → String
  | .play => "Arguments"
  | .support => "Address"

namespace TaskElement

inductive Role where
  | foreign
  | name
  | detail
  | unexpected
deriving DecidableEq, Repr

def role (kind : TaskKind) (a : Attribute) : Role :=
  if !a.isOwn then .foreign
  else if a.localName = "Name" then .name
  else if a.localName = kind.detailName then .detail
  else .unexpected

def attributeActions (kind : TaskKind) (task : Element) (a : Attribute) : List Action :=
  match role kind a with
  | .foreign => [.hand (.attributeOf task a)]
  | .name | .detail => (AttributeValue.text task.source task.localName a).actions
  | .unexpected => [.unexpectedAttribute task a]

/-- No own element stands in a task, with the namespace or without one. -/
def childAction (task child : Element) : Action :=
  if child.name.space.isNone || child.name.isIn gamingSpace then .unexpectedElement task child
  else .hand (.childOf task child)

/-- The value in effect: of repeated attributes the last one counts. -/
def valueOf (kind : TaskKind) (wanted : Role) (task : Element) : Option String :=
  (task.attributes.reverse.find? (role kind · == wanted)).map (·.value)

def nameOf (kind : TaskKind) (task : Element) : Option String := valueOf kind .name task

def detailOf (kind : TaskKind) (task : Element) : Option String := valueOf kind .detail task

/-- A support task needs its address; a play task may go without arguments. -/
def missing (kind : TaskKind) (task : Element) : List Action :=
  (if (nameOf kind task).isNone then [.missingAttribute task "Name"] else []) ++
    match kind with
    | .play => []
    | .support =>
      if (detailOf kind task).isNone then [.missingAttribute task kind.detailName] else []

def checks (kind : TaskKind) (task : Element) : List Action :=
  task.attributes.flatMap (attributeActions kind task) ++
    task.children.map (childAction task) ++ missing kind task

def shortNameFor (directory name : String) : Option String :=
  if ShortName.isLegal name false then none
  else some (ShortName.generate name true false [directory, name])

def playShortcut (task : Element) (file : FileContext) (executable directory name : String) :
    ShortcutRecord where
  source := task.source
  id := directory
  directoryRef := directory
  name := name
  shortName := shortNameFor directory name
  componentRef := file.componentId
  target := "[#" ++ executable ++ "]"
  arguments := detailOf .play task
  workingDirectory := file.directoryId

def supportLink (task : Element) (file : FileContext) (directory name address : String) :
    SupportLink where
  source := task.source
  component := file.componentId
  directory := directory
  shortcut := directory
  name := name
  address := address

def emission (kind : TaskKind) (task : Element) (file : FileContext) (executable : String)
    (ordinal : UInt32) : List Action :=
  let directory := Task.directory task.source file.componentId kind ordinal
  match kind, nameOf kind task, detailOf kind task with
  | .play, some name, _ =>
    directory.actions ++ [.emit (.shortcut (playShortcut task file executable directory.value name))]
  | .support, some name, some address =>
    directory.actions ++ [.requestLink (supportLink task file directory.value name address)]
  | _, _, _ => []

def plan (kind : TaskKind) (task : Element) (file : FileContext) (executable : String)
    (ordinal : UInt32) : Plan :=
  Plan.ofActions (checks kind task) ++ [.gate [] (emission kind task file executable ordinal)]

end TaskElement

end GameRegistration
