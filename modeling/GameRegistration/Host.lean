import GameRegistration.Journal

/-! The compiler around this library: what it does with nodes of other namespaces and with the links
of support tasks, and how it wants warnings treated. -/
namespace GameRegistration

namespace ForeignNode

/-- Where a node is reported: an attribute at its element. -/
def source : ForeignNode → SourcePosition
  | .attributeOf owner _ => owner.source
  | .childOf _ child => child.source

def unhandled : ForeignNode → Problem
  | .attributeOf owner attr =>
    .unhandledAttribute owner.localName attr.localName (attr.name.space.getD "")
  | .childOf parent child =>
    .unhandledElement parent.localName child.localName (child.name.space.getD "")

def unexpected : ForeignNode → Problem
  | .attributeOf owner attr => .unexpectedAttribute owner.name.text attr.name.text
  | .childOf parent child => .unexpectedElement parent.name.text child.name.text

def reference (node : ForeignNode) : ReferenceRecord :=
  match node with
  | .attributeOf _ attr =>
    { source := node.source, table := "ForeignAttribute", primaryKeys := attr.name.text }
  | .childOf parent child =>
    { source := node.source, table := "ForeignElement"
      primaryKeys := parent.name.text ++ "/" ++ child.name.text }

end ForeignNode

/-- What is done with foreign nodes: `reject` reports them as errors, for no other extension is
there; `accept` adds a reference for each; `warn` warns of each. -/
inductive ForeignPolicy where
  | reject
  | accept
  | warn
deriving DecidableEq, Repr

def ForeignPolicy.handle (policy : ForeignPolicy) (warnings : WarningPolicy) (node : ForeignNode) :
    Journal :=
  { entries := [.handed node] } ++
    match policy with
    | .reject => Journal.error node.source node.unhandled
    | .accept => Journal.add .host (.reference node.reference)
    | .warn => Journal.warning warnings node.source node.unexpected

/-- What makes a record of a support link: `shortcut` always does, `refuse` never, and `selective`
only for an address that is not marked as bad. -/
inductive LinkEmitter where
  | shortcut
  | refuse
  | selective
deriving DecidableEq, Repr

namespace SupportLink

def record (link : SupportLink) : ShortcutRecord where
  source := link.source
  id := link.shortcut
  directoryRef := link.directory
  name := link.name
  shortName := none
  componentRef := link.component
  target := link.address
  arguments := none
  workingDirectory := link.directory

def refusal (link : SupportLink) : Problem :=
  .emptyAttribute "SupportTask" ("Address of " ++ link.name)

def isMarkedBad (link : SupportLink) : Bool := "bad:".toList.isPrefixOf link.address.toList

end SupportLink

def LinkEmitter.accepts : LinkEmitter → SupportLink → Bool
  | .shortcut, _ => true
  | .refuse, _ => false
  | .selective, link => !link.isMarkedBad

def LinkEmitter.emit (emitter : LinkEmitter) (link : SupportLink) : Except Problem ShortcutRecord :=
  if emitter.accepts link then .ok link.record else .error link.refusal

structure Setup where
  warnings : WarningPolicy := {}
  foreign : ForeignPolicy := .reject
  links : Option LinkEmitter := none
deriving DecidableEq, Repr

namespace Setup

def hand (setup : Setup) (node : ForeignNode) : Journal := setup.foreign.handle setup.warnings node

/-- A link that becomes no record is an error, so no support task is dropped silently. -/
def link (setup : Setup) (link : SupportLink) : Journal :=
  match setup.links with
  | none => Journal.error link.source (.noLinkEmitter link.name link.directory)
  | some emitter =>
    match emitter.emit link with
    | .ok shortcut =>
      { entries := [.linked link true] } ++ Journal.add .link (.shortcut shortcut)
    | .error refusal =>
      { entries := [.linked link false] } ++
        Journal.error link.source (.linkFailed link.directory refusal.message)

end Setup

end GameRegistration
