import GameRegistration.Document

/-! Installer records. Each names the table it is bound for and the key by which others refer to it. -/
namespace GameRegistration

/-- Registers one game with Game Explorer; `fileRef` carries the game definition. -/
structure GameRecord where
  source : SourcePosition
  instanceId : String
  fileRef : String
deriving DecidableEq, Repr

structure DirectoryRecord where
  source : SourcePosition
  id : String
  parentRef : String
  name : String
deriving DecidableEq, Repr

inductive ActionType where
  | setProperty
deriving DecidableEq, Repr

/-- The installer's number for the type: property assignment from text. -/
def ActionType.number : ActionType → Nat
  | .setProperty => 51

inductive ActionExecution where
  | immediate
deriving DecidableEq, Repr

/-- Assigns the formatted text `target` to the property or directory `property`. -/
structure CustomActionRecord where
  source : SourcePosition
  id : String
  type : ActionType
  execution : ActionExecution
  property : String
  target : String
deriving DecidableEq, Repr

inductive SequenceTable where
  | installExecuteSequence
deriving DecidableEq, Repr

structure ScheduleRecord where
  source : SourcePosition
  sequence : SequenceTable
  action : String
  condition : Option String
  before : Option String
  after : Option String
deriving DecidableEq, Repr

structure ShortcutRecord where
  source : SourcePosition
  id : String
  directoryRef : String
  name : String
  /-- Present where `name` is no legal short name itself. -/
  shortName : Option String
  componentRef : String
  target : String
  arguments : Option String
  workingDirectory : String
deriving DecidableEq, Repr

/-- The text of the name column: `short|long`, or the name alone. -/
def ShortcutRecord.filename (r : ShortcutRecord) : String :=
  match r.shortName with
  | some short => short ++ "|" ++ r.name
  | none => r.name

inductive RegistryRoot where
  | classesRoot
  | localMachine
deriving DecidableEq, Repr

def RegistryRoot.number : RegistryRoot → Nat
  | .classesRoot => 0
  | .localMachine => 2

structure RegistryRecord where
  source : SourcePosition
  id : String
  root : RegistryRoot
  key : String
  name : Option String
  value : Option String
  componentRef : String
deriving DecidableEq, Repr

/-- Asserts that `table` has a row with the key `primaryKeys`. -/
structure ReferenceRecord where
  source : SourcePosition
  table : String
  primaryKeys : String
deriving DecidableEq, Repr

inductive Record where
  | game (r : GameRecord)
  | directory (r : DirectoryRecord)
  | customAction (r : CustomActionRecord)
  | schedule (r : ScheduleRecord)
  | shortcut (r : ShortcutRecord)
  | registry (r : RegistryRecord)
  | reference (r : ReferenceRecord)
deriving DecidableEq, Repr

namespace Record

def table : Record → String
  | .game _ => "WixGameExplorer"
  | .directory _ => "Directory"
  | .customAction _ => "CustomAction"
  | .schedule _ => "WixAction"
  | .shortcut _ => "Shortcut"
  | .registry _ => "Registry"
  | .reference _ => "WixSimpleReference"

def key : Record → String
  | .game r => r.instanceId
  | .directory r => r.id
  | .customAction r => r.id
  | .schedule r => r.action
  | .shortcut r => r.id
  | .registry r => r.id
  | .reference r => r.primaryKeys

def source : Record → SourcePosition
  | .game r => r.source
  | .directory r => r.source
  | .customAction r => r.source
  | .schedule r => r.source
  | .shortcut r => r.source
  | .registry r => r.source
  | .reference r => r.source

def game? : Record → Option GameRecord
  | .game r => some r
  | _ => none

def directory? : Record → Option DirectoryRecord
  | .directory r => some r
  | _ => none

def customAction? : Record → Option CustomActionRecord
  | .customAction r => some r
  | _ => none

def schedule? : Record → Option ScheduleRecord
  | .schedule r => some r
  | _ => none

def shortcut? : Record → Option ShortcutRecord
  | .shortcut r => some r
  | _ => none

def registry? : Record → Option RegistryRecord
  | .registry r => some r
  | _ => none

def reference? : Record → Option ReferenceRecord
  | .reference r => some r
  | _ => none

end Record

structure Section where
  id : String
  records : List Record := []
deriving DecidableEq, Repr

namespace Section

def add (s : Section) (r : Record) : Section := { s with records := s.records ++ [r] }

def size (s : Section) : Nat := s.records.length

def countOf (s : Section) (table : String) : Nat := s.records.countP (·.table == table)

def games (s : Section) : List GameRecord := s.records.filterMap Record.game?
def directories (s : Section) : List DirectoryRecord := s.records.filterMap Record.directory?
def customActions (s : Section) : List CustomActionRecord := s.records.filterMap Record.customAction?
def schedules (s : Section) : List ScheduleRecord := s.records.filterMap Record.schedule?
def shortcuts (s : Section) : List ShortcutRecord := s.records.filterMap Record.shortcut?
def registryValues (s : Section) : List RegistryRecord := s.records.filterMap Record.registry?
def references (s : Section) : List ReferenceRecord := s.records.filterMap Record.reference?

end Section

end GameRegistration
