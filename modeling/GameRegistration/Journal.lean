import GameRegistration.Record
import GameRegistration.Event

/-! The journal of a compilation: everything it did, in order, and whether an error was among it.
The section's records, the diagnostics and the trace are views of the entries. -/
namespace GameRegistration

/-- A node of another namespace, which the surrounding compiler takes care of. -/
inductive ForeignNode where
  | attributeOf (owner : Element) (attr : Attribute)
  | childOf (parent child : Element)

structure SupportLink where
  source : SourcePosition
  component : String
  directory : String
  /-- Equal to the directory, which holds no other shortcut. -/
  shortcut : String
  name : String
  address : String
deriving DecidableEq, Repr

inductive Origin where
  | own
  | host
  | link
deriving DecidableEq, Repr

inductive Entry where
  | record (origin : Origin) (record : Record)
  | diagnostic (diagnostic : Diagnostic)
  | event (event : Event)
  /-- A warning was raised; what became of it follows. -/
  | warned (source : SourcePosition) (problem : Problem)
  | handed (node : ForeignNode)
  | linked (link : SupportLink) (accepted : Bool)

namespace Entry

def record? : Entry → Option Record
  | .record _ r => some r
  | _ => none

def diagnostic? : Entry → Option Diagnostic
  | .diagnostic d => some d
  | _ => none

def event? : Entry → Option Event
  | .event e => some e
  | _ => none

def warned? : Entry → Option (SourcePosition × Problem)
  | .warned source problem => some (source, problem)
  | _ => none

def handed? : Entry → Option ForeignNode
  | .handed node => some node
  | _ => none

def linked? : Entry → Option (SupportLink × Bool)
  | .linked link accepted => some (link, accepted)
  | _ => none

end Entry

structure Journal where
  entries : List Entry := []
  /-- Set when an error is written, and never cleared. -/
  failed : Bool := false

namespace Journal

def append (a b : Journal) : Journal := ⟨a.entries ++ b.entries, a.failed || b.failed⟩

instance : Append Journal := ⟨append⟩

def records (j : Journal) : List Record := j.entries.filterMap Entry.record?
def diagnostics (j : Journal) : List Diagnostic := j.entries.filterMap Entry.diagnostic?
def events (j : Journal) : List Event := j.entries.filterMap Entry.event?
def raised (j : Journal) : List (SourcePosition × Problem) := j.entries.filterMap Entry.warned?
def handed (j : Journal) : List ForeignNode := j.entries.filterMap Entry.handed?
def links (j : Journal) : List (SupportLink × Bool) := j.entries.filterMap Entry.linked?

def errorCount (j : Journal) : Nat := j.diagnostics.countP (·.isError)

def note (e : Event) : Journal := { entries := [.event e] }

def write (source : SourcePosition) (level : Level) (problem : Problem) : Journal where
  entries := [.event (.diagnosed source level problem.kind problem.message),
    .diagnostic ⟨source, level, problem⟩]
  failed := level == .error

def error (source : SourcePosition) (problem : Problem) : Journal := write source .error problem

def settle (policy : WarningPolicy) (source : SourcePosition) (problem : Problem) : Journal :=
  match policy.treatment with
  | .keep => write source .warning problem
  | .elevate => write source .error problem
  | .suppress => note (.suppressedWarning source problem.message)

def warning (policy : WarningPolicy) (source : SourcePosition) (problem : Problem) : Journal :=
  append { entries := [.warned source problem] } (settle policy source problem)

/-- Adds a record without tracing it. -/
def add (origin : Origin) (r : Record) : Journal := { entries := [.record origin r] }

def emit (r : Record) : Journal where
  entries := [.record .own r, .event (.emitted r.source r.table r.key)]

@[simp] theorem entries_append (a b : Journal) : (a ++ b).entries = a.entries ++ b.entries := rfl
@[simp] theorem failed_append (a b : Journal) : (a ++ b).failed = (a.failed || b.failed) := rfl

@[simp] theorem records_append (a b : Journal) : (a ++ b).records = a.records ++ b.records := by
  simp [records]

@[simp] theorem diagnostics_append (a b : Journal) :
    (a ++ b).diagnostics = a.diagnostics ++ b.diagnostics := by
  simp [diagnostics]

@[simp] theorem events_append (a b : Journal) : (a ++ b).events = a.events ++ b.events := by
  simp [events]

@[simp] theorem raised_append (a b : Journal) : (a ++ b).raised = a.raised ++ b.raised := by
  simp [raised]

@[simp] theorem handed_append (a b : Journal) : (a ++ b).handed = a.handed ++ b.handed := by
  simp [handed]

@[simp] theorem links_append (a b : Journal) : (a ++ b).links = a.links ++ b.links := by
  simp [links]

theorem append_assoc (a b c : Journal) : a ++ b ++ c = a ++ (b ++ c) := by
  change append (append a b) c = append a (append b c)
  simp [append, List.append_assoc, Bool.or_assoc]

theorem empty_append (j : Journal) : ({} : Journal) ++ j = j := by
  change append {} j = j
  simp [append]

theorem append_empty (j : Journal) : j ++ ({} : Journal) = j := by
  change append j {} = j
  simp [append]

end Journal

end GameRegistration
