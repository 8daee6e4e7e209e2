import GameRegistration.Record
import GameRegistration.Json.Value

/-! The layout of the table that game records are bound for, and the check of one row against it. -/
namespace GameRegistration

inductive ColumnType where
  | text
deriving DecidableEq, Repr

inductive ColumnCategory where
  | guid
  | identifier
deriving DecidableEq, Repr

/-- Whether a merge module makes the column's values its own. -/
inductive Modularization where
  | none
  | column
deriving DecidableEq, Repr

structure Column where
  name : String
  type : ColumnType
  width : Nat
  isPrimaryKey : Bool
  isNullable : Bool
  category : ColumnCategory
  keyTable : Option String
  keyColumn : Option Nat
  modularization : Modularization
  description : String
deriving DecidableEq, Repr

structure Table where
  name : String
  columns : List Column
  recordTable : String
  recordKeyIsPrimary : Bool
deriving DecidableEq, Repr

inductive SchemaViolation where
  | columnCount (table : String) (expected actual : Nat)
  | nullValue (table column : String)
  | valueTooLong (table column : String) (width length : Nat)
deriving DecidableEq, Repr

def SchemaViolation.message : SchemaViolation → String
  | .columnCount table expected actual =>
    s!"Table {table} expects {expected} columns, row has {actual}"
  | .nullValue table column => s!"Column {table}.{column} is not nullable"
  | .valueTooLong table column width length =>
    s!"Column {table}.{column} holds {length} characters, width is {width}"

def Column.violation? (c : Column) (table : String) : Option String → Option SchemaViolation
  | none => if c.isNullable then none else some (.nullValue table c.name)
  | some value =>
    if c.width < value.length then some (.valueTooLong table c.name c.width value.length) else none

namespace Table

def column? (t : Table) (name : String) : Option Column := t.columns.find? (·.name == name)

def primaryKeys (t : Table) : List Column := t.columns.filter (·.isPrimaryKey)

/-- The first violation from left to right; the number of values is looked at first. -/
def violation? (t : Table) (row : List (Option String)) : Option SchemaViolation :=
  if row.length ≠ t.columns.length then
    some (.columnCount t.name t.columns.length row.length)
  else (t.columns.zip row).findSome? fun (c, value) => c.violation? t.name value

end Table

def gameTable : Table where
  name := "WixGameExplorer"
  columns := [
    { name := "InstanceId", type := .text, width := 38, isPrimaryKey := true, isNullable := false
      category := .guid, keyTable := none, keyColumn := none, modularization := .none
      description := "The instance ID of the game executable to be registered in Game Explorer." },
    { name := "File_", type := .text, width := 72, isPrimaryKey := false, isNullable := false
      category := .identifier, keyTable := some "File", keyColumn := some 1
      modularization := .column
      description := "The file representing the game executable." }]
  recordTable := "WixGameExplorer"
  recordKeyIsPrimary := false

def tables : List Table := [gameTable]

def table? (recordTable : String) : Option Table := tables.find? (·.recordTable == recordTable)

/-- Kinds of record that only this library knows. -/
inductive OwnRecordKind where
  | game
deriving DecidableEq, Repr

namespace OwnRecordKind

def name : OwnRecordKind → String
  | .game => "WixGameExplorer"

def ofName? (name : String) : Option OwnRecordKind :=
  if name = "WixGameExplorer" then some .game else none

def fieldNames : OwnRecordKind → List String
  | .game => ["InstanceId", "FileRef"]

end OwnRecordKind

def GameRecord.row (r : GameRecord) : List (Option String) := [some r.instanceId, some r.fileRef]

namespace Section

/-- The first game record, in section order, that its table does not take. -/
def violation? (s : Section) : Option SchemaViolation :=
  s.games.findSome? fun r => gameTable.violation? r.row

end Section

/-! The layout as JSON -/

def ColumnType.name : ColumnType → String
  | .text => "String"

def ColumnCategory.name : ColumnCategory → String
  | .guid => "Guid"
  | .identifier => "Identifier"

def Modularization.name : Modularization → String
  | .none => "None"
  | .column => "Column"

def Column.toJson (c : Column) : Json :=
  .object [("name", .text c.name), ("column_type", .text c.type.name), ("length", .number c.width),
    ("primary_key", .bool c.isPrimaryKey), ("nullable", .bool c.isNullable),
    ("category", .text c.category.name), ("key_table", Json.ofTextOption c.keyTable),
    ("key_column", Json.ofOption .number c.keyColumn),
    ("modularize", .text c.modularization.name), ("description", .text c.description)]

def Table.toJson (t : Table) : Json :=
  .object [("name", .text t.name), ("columns", .array (t.columns.map Column.toJson)),
    ("tuple_definition_name", .text t.recordTable),
    ("tuple_id_is_primary_key", .bool t.recordKeyIsPrimary)]

end GameRegistration
