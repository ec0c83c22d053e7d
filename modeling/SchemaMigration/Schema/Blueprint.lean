import SchemaMigration.Schema.Column
import SchemaMigration.Schema.Error

namespace SchemaMigration

/-!
# Blueprints

A blueprint collects what is declared for one table and what is dropped from
it. It is a value: nothing happens until it is applied to a store.
-/

/-- What starts the names of the tables that hold rows during a rebuild. -/
def temporaryMark : String :=
  "__tmp__"

/-- What is wrong with a text as the name of a table, if anything is. -/
def tableNameFlaw? (name : String) : Option TableNameFlaw :=
  if Text.isBlankText name then some .empty
  else if name.toList.any Text.isControl then some .controlCharacter
  else if Text.begins temporaryMark.toList name.toList then some .reserved
  else none

/-- Whether a blueprint makes a new table or changes one that is there. -/
inductive Blueprint.Purpose
  | create
  | alter
  deriving DecidableEq

/-- What a blueprint takes away from a table. -/
structure Dropped where
  columns : List String
  keys : List Key
  deriving DecidableEq

namespace Dropped

/-- Nothing dropped. -/
def none : Dropped :=
  ⟨[], []⟩

/-- Whether nothing is dropped. -/
def isEmpty (dropped : Dropped) : Bool :=
  dropped.columns.isEmpty && dropped.keys.isEmpty

/-- The names of the dropped keys of one kind. -/
def keyNames (dropped : Dropped) (kind : KeyKind) : List String :=
  (dropped.keys.filter (fun key => key.kind = kind)).map Key.name

end Dropped

/-- The declarations for one table. -/
structure Blueprint where
  table : String
  purpose : Blueprint.Purpose
  columns : List Column
  keys : List Key
  foreignKeys : List ForeignKeyDraft
  dropped : Dropped
  deriving DecidableEq

namespace Blueprint

/-- An empty blueprint for a table, unless the table cannot have that name. -/
def start (purpose : Purpose) (table : String) : Except SchemaError Blueprint :=
  match tableNameFlaw? table with
  | some flaw => .error (.invalidTableName table flaw)
  | none => .ok ⟨table, purpose, [], [], [], Dropped.none⟩

/-- Whether nothing is declared and nothing dropped. -/
def isEmpty (blueprint : Blueprint) : Bool :=
  blueprint.columns.isEmpty && blueprint.keys.isEmpty && blueprint.foreignKeys.isEmpty &&
    blueprint.dropped.isEmpty

/-- Declare a column. -/
def addColumn (blueprint : Blueprint) (column : Column) : Blueprint :=
  { blueprint with columns := blueprint.columns ++ [column] }

/-- Declare a key over columns. -/
def addKey
    (blueprint : Blueprint)
    (kind : KeyKind)
    (columns : List String)
    (name? : Option String) :
    Blueprint :=
  let key := Key.declared blueprint.table columns kind name?
  { blueprint with keys := blueprint.keys ++ [key] }

/-- Declare a foreign key. -/
def addForeignKey (blueprint : Blueprint) (draft : ForeignKeyDraft) : Blueprint :=
  { blueprint with foreignKeys := blueprint.foreignKeys ++ [draft] }

/-- Drop columns. -/
def dropColumns (blueprint : Blueprint) (names : List String) : Blueprint :=
  { blueprint with
    dropped := { blueprint.dropped with columns := blueprint.dropped.columns ++ names } }

/-- Drop a key over columns. -/
def dropKey
    (blueprint : Blueprint)
    (kind : KeyKind)
    (columns : List String)
    (name? : Option String) :
    Blueprint :=
  let key := Key.declared blueprint.table columns kind name?
  { blueprint with
    dropped := { blueprint.dropped with keys := blueprint.dropped.keys ++ [key] } }

/-- Whether a column of a name is declared. -/
def declares (blueprint : Blueprint) (name : String) : Bool :=
  blueprint.columns.any (fun column => column.name = name)

end Blueprint

end SchemaMigration
