import GameRegistration.Record
import GameRegistration.Document.Json

/-! Records and sections as JSON. A record names its kind under the tag `type`; absent values are
written as null. -/
namespace GameRegistration

open Json

def ActionType.name : ActionType → String
  | .setProperty => "SetProperty"

def ActionType.decode (r : Reading) : Result ActionType := do
  let _ ← r.asChoice ["SetProperty"]
  return .setProperty

def ActionExecution.name : ActionExecution → String
  | .immediate => "Immediate"

def ActionExecution.decode (r : Reading) : Result ActionExecution := do
  let _ ← r.asChoice ["Immediate"]
  return .immediate

def SequenceTable.name : SequenceTable → String
  | .installExecuteSequence => "InstallExecuteSequence"

def SequenceTable.decode (r : Reading) : Result SequenceTable := do
  let _ ← r.asChoice ["InstallExecuteSequence"]
  return .installExecuteSequence

def RegistryRoot.name : RegistryRoot → String
  | .classesRoot => "ClassesRoot"
  | .localMachine => "LocalMachine"

def RegistryRoot.decode (r : Reading) : Result RegistryRoot := do
  let name ← r.asChoice ["ClassesRoot", "LocalMachine"]
  return if name = "ClassesRoot" then .classesRoot else .localMachine

namespace GameRecord

def members (r : GameRecord) : List (String × Json) :=
  [("source_line", r.source.toJson), ("instance_id", .text r.instanceId),
   ("file_ref", .text r.fileRef)]

def decode (mode : Mode) : Reading → Result GameRecord :=
  Reading.asStructure mode
    (fun mode => .required "source_line" (SourcePosition.decode mode) <|
      .required "instance_id" Reading.asText <| .required "file_ref" Reading.asText .nil)
    fun (source, instanceId, fileRef, ()) => do
      return { source := ← demand "source_line" source
               instanceId := ← demand "instance_id" instanceId
               fileRef := ← demand "file_ref" fileRef }

end GameRecord

namespace DirectoryRecord

def members (r : DirectoryRecord) : List (String × Json) :=
  [("source_line", r.source.toJson), ("id", .text r.id), ("parent_ref", .text r.parentRef),
   ("name", .text r.name)]

def decode (mode : Mode) : Reading → Result DirectoryRecord :=
  Reading.asStructure mode
    (fun mode => .required "source_line" (SourcePosition.decode mode) <|
      .required "id" Reading.asText <| .required "parent_ref" Reading.asText <|
      .required "name" Reading.asText .nil)
    fun (source, id, parentRef, name, ()) => do
      return { source := ← demand "source_line" source
               id := ← demand "id" id
               parentRef := ← demand "parent_ref" parentRef
               name := ← demand "name" name }

end DirectoryRecord

namespace CustomActionRecord

def members (r : CustomActionRecord) : List (String × Json) :=
  [("source_line", r.source.toJson), ("id", .text r.id), ("action_type", .text r.type.name),
   ("execution", .text r.execution.name), ("source", .text r.property),
   ("target", .text r.target)]

def decode (mode : Mode) : Reading → Result CustomActionRecord :=
  Reading.asStructure mode
    (fun mode => .required "source_line" (SourcePosition.decode mode) <|
      .required "id" Reading.asText <| .required "action_type" ActionType.decode <|
      .required "execution" ActionExecution.decode <| .required "source" Reading.asText <|
      .required "target" Reading.asText .nil)
    fun (source, id, type, execution, property, target, ()) => do
      return { source := ← demand "source_line" source
               id := ← demand "id" id
               type := ← demand "action_type" type
               execution := ← demand "execution" execution
               property := ← demand "source" property
               target := ← demand "target" target }

end CustomActionRecord

namespace ScheduleRecord

def members (r : ScheduleRecord) : List (String × Json) :=
  [("source_line", r.source.toJson), ("sequence_table", .text r.sequence.name),
   ("action", .text r.action), ("condition", ofTextOption r.condition),
   ("before", ofTextOption r.before), ("after", ofTextOption r.after)]

def decode (mode : Mode) : Reading → Result ScheduleRecord :=
  Reading.asStructure mode
    (fun mode => .required "source_line" (SourcePosition.decode mode) <|
      .required "sequence_table" SequenceTable.decode <| .required "action" Reading.asText <|
      .required "condition" Reading.asTextOption <| .required "before" Reading.asTextOption <|
      .required "after" Reading.asTextOption .nil)
    fun (source, sequence, action, condition, before, after, ()) => do
      return { source := ← demand "source_line" source
               sequence := ← demand "sequence_table" sequence
               action := ← demand "action" action
               condition := condition.join
               before := before.join
               after := after.join }

end ScheduleRecord

namespace ShortcutRecord

def members (r : ShortcutRecord) : List (String × Json) :=
  [("source_line", r.source.toJson), ("id", .text r.id), ("directory_ref", .text r.directoryRef),
   ("name", .text r.name), ("short_name", ofTextOption r.shortName),
   ("component_ref", .text r.componentRef), ("target", .text r.target),
   ("arguments", ofTextOption r.arguments), ("working_directory", .text r.workingDirectory)]

def decode (mode : Mode) : Reading → Result ShortcutRecord :=
  Reading.asStructure mode
    (fun mode => .required "source_line" (SourcePosition.decode mode) <|
      .required "id" Reading.asText <| .required "directory_ref" Reading.asText <|
      .required "name" Reading.asText <| .required "short_name" Reading.asTextOption <|
      .required "component_ref" Reading.asText <| .required "target" Reading.asText <|
      .required "arguments" Reading.asTextOption <|
      .required "working_directory" Reading.asText .nil)
    fun (source, id, directoryRef, name, shortName, componentRef, target, arguments,
        workingDirectory, ()) => do
      return { source := ← demand "source_line" source
               id := ← demand "id" id
               directoryRef := ← demand "directory_ref" directoryRef
               name := ← demand "name" name
               shortName := shortName.join
               componentRef := ← demand "component_ref" componentRef
               target := ← demand "target" target
               arguments := arguments.join
               workingDirectory := ← demand "working_directory" workingDirectory }

end ShortcutRecord

namespace RegistryRecord

def members (r : RegistryRecord) : List (String × Json) :=
  [("source_line", r.source.toJson), ("id", .text r.id), ("root", .text r.root.name),
   ("key", .text r.key), ("name", ofTextOption r.name), ("value", ofTextOption r.value),
   ("component_ref", .text r.componentRef)]

def decode (mode : Mode) : Reading → Result RegistryRecord :=
  Reading.asStructure mode
    (fun mode => .required "source_line" (SourcePosition.decode mode) <|
      .required "id" Reading.asText <| .required "root" RegistryRoot.decode <|
      .required "key" Reading.asText <| .required "name" Reading.asTextOption <|
      .required "value" Reading.asTextOption <| .required "component_ref" Reading.asText .nil)
    fun (source, id, root, key, name, value, componentRef, ()) => do
      return { source := ← demand "source_line" source
               id := ← demand "id" id
               root := ← demand "root" root
               key := ← demand "key" key
               name := name.join
               value := value.join
               componentRef := ← demand "component_ref" componentRef }

end RegistryRecord

namespace ReferenceRecord

def members (r : ReferenceRecord) : List (String × Json) :=
  [("source_line", r.source.toJson), ("table", .text r.table),
   ("primary_keys", .text r.primaryKeys)]

def decode (mode : Mode) : Reading → Result ReferenceRecord :=
  Reading.asStructure mode
    (fun mode => .required "source_line" (SourcePosition.decode mode) <|
      .required "table" Reading.asText <| .required "primary_keys" Reading.asText .nil)
    fun (source, table, primaryKeys, ()) => do
      return { source := ← demand "source_line" source
               table := ← demand "table" table
               primaryKeys := ← demand "primary_keys" primaryKeys }

end ReferenceRecord

namespace Record

def members : Record → List (String × Json)
  | .game r => r.members
  | .directory r => r.members
  | .customAction r => r.members
  | .schedule r => r.members
  | .shortcut r => r.members
  | .registry r => r.members
  | .reference r => r.members

def toJson (r : Record) : Json := .object (("type", .text r.table) :: r.members)

def tableNames : List String :=
  ["WixGameExplorer", "Directory", "CustomAction", "WixAction", "Shortcut", "Registry",
   "WixSimpleReference"]

def decodeContent (table : String) (content : Reading) : Result Record :=
  if table = "WixGameExplorer" then .game <$> GameRecord.decode .buffered content
  else if table = "Directory" then .directory <$> DirectoryRecord.decode .buffered content
  else if table = "CustomAction" then .customAction <$> CustomActionRecord.decode .buffered content
  else if table = "WixAction" then .schedule <$> ScheduleRecord.decode .buffered content
  else if table = "Shortcut" then .shortcut <$> ShortcutRecord.decode .buffered content
  else if table = "Registry" then .registry <$> RegistryRecord.decode .buffered content
  else .reference <$> ReferenceRecord.decode .buffered content

def decode (mode : Mode) (r : Reading) : Result Record := do
  let (table, content) ← r.asTagged mode "type" tableNames
  decodeContent table content

theorem table_mem_tableNames (r : Record) : r.table ∈ tableNames := by
  cases r <;> simp [table, tableNames]

end Record

namespace Section

def toJson (s : Section) : Json :=
  .object [("id", .text s.id), ("tuples", .array (s.records.map Record.toJson))]

def decode (mode : Mode) : Reading → Result Section :=
  Reading.asStructure mode
    (fun mode => .required "id" Reading.asText <|
      .required "tuples" (Reading.asList mode Record.decode) .nil)
    fun (id, records, ()) => do
      return { id := ← demand "id" id, records := ← demand "tuples" records }

def ofText (text : String) : Result Section := decodeText decode text

end Section

end GameRegistration
