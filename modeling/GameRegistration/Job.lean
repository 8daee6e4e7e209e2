import GameRegistration.Game
import GameRegistration.SavedGame

/-! Jobs: the places in a document that the surrounding compiler hands over, each with its parent
and the values in effect there. -/
namespace GameRegistration

inductive Job where
  | onElement (context : Context) (parent element : Element)
  | onAttribute (context : Context) (parent : Element) (attr : Attribute)

namespace Job

/-- A game stands below a file only. -/
def elementPlan (context : Context) (parent element : Element) : Plan :=
  if parent.localName = "File" ∧ element.localName = "Game" then
    let file := FileContext.resolve context element.localName element.source
    Plan.ofActions file.actions ++
      match file.value with
      | some file => Game.plan element file
      | none => []
  else [.act (.unexpectedElement parent element)]

def savedGame? (context : Context) : Option SavedGame := do
  let progId ← context.get? Context.progId
  let componentId ← context.get? Context.componentId
  let extensionId ← context.get? Context.extensionId
  return { progId, componentId, extensionId }

def parentNeeds (parent : Element) (parentAttr : String) : Action :=
  .error parent.source (.parentNeedsAttribute "Extension" "IsRichSavedGame" parentAttr)

def registerPlan (context : Context) (parent : Element) : Plan :=
  match savedGame? context with
  | none => [.act (parentNeeds parent "ProgId")]
  | some game => [.gate [] (game.register parent.source)]

/-- The plan for an attribute of an extension that has an `Id`; the context holds that already. -/
def extensionPlan (context : Context) (parent : Element) (a : Attribute) : Plan :=
  if a.localName = "IsRichSavedGame" then
    let flag := AttributeValue.yesNo parent.source parent.localName a
    Plan.ofActions flag.actions ++
      if flag.value = .yes then registerPlan context parent else []
  else [.act (.unexpectedAttribute parent a)]

def attributeContext (context : Context) (parent : Element) : Context :=
  if parent.localName = "Extension" then
    match parent.attribute? "Id" with
    | some id => context.insert Context.extensionId id.value
    | none => context
  else context

def attributePlan (context : Context) (parent : Element) (a : Attribute) : Plan :=
  if parent.localName = "Extension" then
    if (parent.attribute? "Id").isNone then [.act (parentNeeds parent "Id")]
    else extensionPlan (attributeContext context parent) parent a
  else [.act (.unexpectedElement parent parent)]

def plan : Job → Plan
  | .onElement context parent element => elementPlan context parent element
  | .onAttribute context parent a => attributePlan context parent a

def contextAfter : Job → Context
  | .onElement context _ _ => context
  | .onAttribute context parent _ => attributeContext context parent

def event : Job → Event
  | .onElement _ parent element => .elementJob parent.name element.name
  | .onAttribute _ parent a => .attributeJob parent.name a.name

/-- The plan with the job's own event in front. -/
def tracedPlan (j : Job) : Plan := .act (.note j.event) :: j.plan

end Job

end GameRegistration
