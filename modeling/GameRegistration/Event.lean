import GameRegistration.Diagnostic

/-! The trace of a compilation: one event for each thing worth telling, with a level and named fields.
-/
namespace GameRegistration

inductive EventLevel where
  | debug
  | info
  | warn
deriving DecidableEq, Repr

def EventLevel.text : EventLevel → String
  | .debug => "DEBUG"
  | .info => "INFO"
  | .warn => "WARN"

inductive Event where
  | diagnosed (source : SourcePosition) (level : Level) (kind : ProblemKind) (message : String)
  | suppressedWarning (source : SourcePosition) (message : String)
  | emitted (source : SourcePosition) (table key : String)
  | registrationSuppressed (source : SourcePosition)
  | elementJob (parent element : QualifiedName)
  | attributeJob (parent attr : QualifiedName)
  | committed (sectionId : String) (records warnings : Nat)
  | discarded (sectionId : String) (records diagnostics : Nat)
deriving DecidableEq, Repr

namespace Event

def level : Event → EventLevel
  | .committed .. => .info
  | .discarded .. => .warn
  | _ => .debug

def title : Event → String
  | .diagnosed .. => "diagnostic"
  | .suppressedWarning .. => "suppressed warning"
  | .emitted .. => "emitted tuple"
  | .registrationSuppressed _ => "game registration suppressed by earlier errors"
  | .elementJob .. => "element job"
  | .attributeJob .. => "attribute job"
  | .committed .. => "committed section"
  | .discarded .. => "discarding section"

def details : Event → List (String × String)
  | .diagnosed source level kind message =>
    [("source", source.text), ("level", level.text), ("kind", kind.name), ("message", message)]
  | .suppressedWarning source message => [("source", source.text), ("message", message)]
  | .emitted source table key => [("source", source.text), ("table", table), ("id", key)]
  | .registrationSuppressed source => [("source", source.text)]
  | .elementJob parent element => [("parent", parent.text), ("element", element.text)]
  | .attributeJob parent attr => [("parent", parent.text), ("attribute", attr.text)]
  | .committed sectionId records warnings =>
    [("section", sectionId), ("tuples", toString records), ("warnings", toString warnings)]
  | .discarded sectionId records diagnostics =>
    [("section", sectionId), ("tuples", toString records), ("diagnostics", toString diagnostics)]

def fields (e : Event) : List (String × String) := ("message", e.title) :: e.details

def text (e : Event) : String :=
  String.join ((e.level.text ++ " " ++ e.title) ::
    e.details.map fun (name, value) => " " ++ name ++ "=" ++ value)

end Event

end GameRegistration
