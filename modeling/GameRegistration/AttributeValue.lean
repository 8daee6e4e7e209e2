import GameRegistration.Plan
import GameRegistration.Guid

/-! Values of attributes. An illegal value is reported and still returned, so that compilation goes
on and finds what else is wrong. -/
namespace GameRegistration

/-- A value to go on with, and what is to be done on the way to it. -/
structure Resolved (α : Type) where
  value : α
  actions : List Action := []

inductive YesNo where
  | yes
  | no
  | illegal
deriving DecidableEq, Repr

namespace AttributeValue

def text (source : SourcePosition) (element : String) (a : Attribute) : Resolved String where
  value := a.value
  actions :=
    if a.value = "" then [.error source (.emptyAttribute element a.localName)] else []

/-- A legal GUID is returned in its one written form. -/
def guid (source : SourcePosition) (element : String) (a : Attribute) : Resolved String :=
  if a.value = "" then text source element a
  else match Guid.parse? a.value with
    | some g => { value := g.text }
    | none =>
      { value := a.value
        actions := [.error source (.illegalGuid element a.localName a.value)] }

/-- Bad grammar is an error; a legal identifier that is too long is only warned of. -/
def identifier (source : SourcePosition) (element : String) (a : Attribute) : Resolved String :=
  if a.value = "" then text source element a
  else
    { value := a.value
      actions :=
        if !Identifier.isLegal a.value then
          [.error source (.illegalIdentifier element a.localName a.value)]
        else if Identifier.maxLength < a.value.length then
          [.warning source (.identifierTooLong element a.localName a.value)]
        else [] }

def yesNo (source : SourcePosition) (element : String) (a : Attribute) : Resolved YesNo :=
  if a.value = "yes" then { value := .yes }
  else if a.value = "no" then { value := .no }
  else if a.value = "" then { value := .illegal, actions := (text source element a).actions }
  else
    { value := .illegal
      actions := [.error source (.illegalYesNo element a.localName a.value)] }

end AttributeValue

end GameRegistration
