import GameRegistration.TaskElement

/-! What becomes of a game element. Its attributes are read first, then its children in document
order, and last, while no error is on record, the game itself is registered. -/
namespace GameRegistration

namespace Game

/-- The custom action that registers games at install time. -/
def scheduleAction : String := "WixSchedGameExplorer"

inductive Role where
  | foreign
  | id
  | definition
  | executable
  | unexpected
deriving DecidableEq, Repr

def role (a : Attribute) : Role :=
  if !a.isOwn then .foreign
  else if a.localName = "Id" then .id
  else if a.localName = "GdfResourceFile" then .definition
  else if a.localName = "ExecutableFile" then .executable
  else .unexpected

def attributeActions (game : Element) (a : Attribute) : List Action :=
  match role a with
  | .foreign => [.hand (.attributeOf game a)]
  | .id => (AttributeValue.guid game.source game.localName a).actions
  | .definition | .executable => (AttributeValue.identifier game.source game.localName a).actions
  | .unexpected => [.unexpectedAttribute game a]

/-- Of repeated attributes the last one counts. -/
def attributeOf (game : Element) (wanted : Role) : Option Attribute :=
  game.attributes.reverse.find? (role · == wanted)

def instanceId (game : Element) : Option String :=
  (attributeOf game .id).map fun a => (AttributeValue.guid game.source game.localName a).value

/-- The file with the game definition; the authored file unless another is named. -/
def definitionFile (game : Element) (file : FileContext) : String :=
  ((attributeOf game .definition).map (·.value)).getD file.fileId

def executableFile (game : Element) (file : FileContext) : String :=
  ((attributeOf game .executable).map (·.value)).getD file.fileId

inductive ChildRole where
  | foreign
  | task (kind : TaskKind)
  | unexpected
deriving DecidableEq, Repr

/-- Only elements in the namespace itself are own children. -/
def childRole (child : Element) : ChildRole :=
  if !child.name.isIn gamingSpace then .foreign
  else if child.localName = "PlayTask" then .task .play
  else if child.localName = "SupportTask" then .task .support
  else .unexpected

/-- The children in order. The first task is preceded by the roots, and every task uses up an
ordinal of its kind, whatever becomes of it. -/
def childrenPlan (game : Element) (file : FileContext) (roots : TaskRoots) (ordinals : Ordinals) :
    List Element → Plan
  | [] => []
  | child :: rest =>
    match childRole child with
    | .foreign => .act (.hand (.childOf game child)) :: childrenPlan game file roots ordinals rest
    | .unexpected =>
      .act (.unexpectedElement game child) :: childrenPlan game file roots ordinals rest
    | .task kind =>
      let ensured := roots.ensure game.source ((instanceId game).getD "") file.componentId
      Plan.ofActions ensured.actions ++
        TaskElement.plan kind child file (executableFile game file) (ordinals.get kind) ++
        childrenPlan game file ensured.value (ordinals.advance kind) rest

def reference (source : SourcePosition) (table primaryKeys : String) : Action :=
  .emit (.reference { source, table, primaryKeys })

def fileReferences (game : Element) (file : FileContext) : List Action :=
  ([definitionFile game file, executableFile game file].filter (· != file.fileId)).map
    (reference game.source "File")

def registration (game : Element) (file : FileContext) : List Action :=
  match instanceId game with
  | none => []
  | some id =>
    [.emit (.game { source := game.source, instanceId := id, fileRef := definitionFile game file }),
     reference game.source "CustomAction" scheduleAction]

def missingId (game : Element) : List Action :=
  if (instanceId game).isNone then [.missingAttribute game "Id"] else []

def plan (game : Element) (file : FileContext) : Plan :=
  Plan.ofActions (game.attributes.flatMap (attributeActions game)) ++
    childrenPlan game file .noTasksSeen {} game.children ++
    Plan.ofActions (missingId game ++ fileReferences game file) ++
    [.gate [.note (.registrationSuppressed game.source)] (registration game file)]

end Game

end GameRegistration
