import GameRegistration.Host

/-! Plans: what a document wants done, as data. A plan depends on the document alone. Performing it
writes a journal, and only its gates ask whether an error has been recorded so far. -/
namespace GameRegistration

inductive Action where
  | error (source : SourcePosition) (problem : Problem)
  | warning (source : SourcePosition) (problem : Problem)
  | emit (record : Record)
  | note (event : Event)
  | hand (node : ForeignNode)
  | requestLink (link : SupportLink)

/-- A gate is tested once: with an error on record `closed` is done, otherwise `opened`, to its end
even if that records an error. -/
inductive Step where
  | act (action : Action)
  | gate (closed opened : List Action)

abbrev Plan := List Step

namespace Action

def unexpectedAttribute (owner : Element) (a : Attribute) : Action :=
  .error owner.source (.unexpectedAttribute owner.localName a.localName)

/-- A misplaced element is reported where it stands, not at its parent. -/
def unexpectedElement (parent child : Element) : Action :=
  .error child.source (.unexpectedElement parent.localName child.localName)

def missingAttribute (owner : Element) (name : String) : Action :=
  .error owner.source (.expectedAttribute owner.localName name)

end Action

def Action.perform (setup : Setup) : Action → Journal
  | .error source problem => Journal.error source problem
  | .warning source problem => Journal.warning setup.warnings source problem
  | .emit record => Journal.emit record
  | .note event => Journal.note event
  | .hand node => setup.hand node
  | .requestLink link => setup.link link

namespace Plan

def ofActions (actions : List Action) : Plan := actions.map Step.act

end Plan

def performAll (setup : Setup) : List Action → Journal
  | [] => {}
  | action :: rest => action.perform setup ++ performAll setup rest

def Step.perform (setup : Setup) (failed : Bool) : Step → Journal
  | .act action => action.perform setup
  | .gate closed opened => performAll setup (if failed then closed else opened)

/-- `failed` tells whether an error was recorded before. -/
def Plan.perform (setup : Setup) (failed : Bool) : Plan → Journal
  | [] => {}
  | step :: rest =>
    let now := step.perform setup failed
    now ++ Plan.perform setup (failed || now.failed) rest

theorem performAll_append (setup : Setup) (a b : List Action) :
    performAll setup (a ++ b) = performAll setup a ++ performAll setup b := by
  induction a with
  | nil => exact (Journal.empty_append _).symm
  | cons action rest ih => simp [performAll, ih, Journal.append_assoc]

theorem Plan.perform_append (setup : Setup) (failed : Bool) (p q : Plan) :
    Plan.perform setup failed (p ++ q) =
      Plan.perform setup failed p ++
        Plan.perform setup (failed || (Plan.perform setup failed p).failed) q := by
  induction p generalizing failed with
  | nil => simp [Plan.perform, Journal.empty_append]
  | cons step rest ih => simp [Plan.perform, ih, Journal.append_assoc, Bool.or_assoc]

theorem Plan.perform_ofActions (setup : Setup) (failed : Bool) (actions : List Action) :
    Plan.perform setup failed (Plan.ofActions actions) = performAll setup actions := by
  induction actions generalizing failed with
  | nil => rfl
  | cons action rest ih =>
    change _ ++ Plan.perform setup _ (Plan.ofActions rest) = _
    rw [ih]
    rfl

end GameRegistration
