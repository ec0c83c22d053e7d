import SchemaMigration.Effects.Traced
import SchemaMigration.Schema.Blueprint
import SchemaMigration.Schema.NativeType

namespace SchemaMigration

/-!
# Resolved definitions

A blueprint resolved for a dialect: columns with native types and with their
keys attached, and each key once. Columns keep the order of declaration. A key
stands at the first column it covers, and keys that cover no declared column
follow at the end.
-/

/-- A column with a type of a dialect and with the keys it takes part in. -/
structure ColumnDefinition where
  name : String
  type : NativeType
  nullable : Bool
  default : Option DefaultValue
  /-- Whether the column belongs to the primary key. -/
  isPrimary : Bool
  autoincrement : Bool
  foreignKeys : List ForeignKey
  deriving DecidableEq

namespace ColumnDefinition

/-- A column without keys that takes nulls. -/
def plain (name type : String) : ColumnDefinition :=
  ⟨name, ⟨type, []⟩, true, none, false, false, []⟩

end ColumnDefinition

/-- What a blueprint declares, for a dialect. -/
structure Resolved where
  columns : List ColumnDefinition
  /-- Primary keys and indexes, one of each name. -/
  keys : List Key
  /-- Foreign keys on columns that the blueprint does not declare. -/
  foreignKeys : List ForeignKey
  deriving DecidableEq

/-- The first key of every name. -/
def Key.firstOfEachName : List Key → List Key
  | [] => []
  | key :: rest =>
      key :: (firstOfEachName rest).filter (fun later => later.name != key.name)

namespace Blueprint

/-- A declared foreign key, unless something is missing. -/
def completeForeignKey (blueprint : Blueprint) (draft : ForeignKeyDraft) :
    Except SchemaError ForeignKey :=
  draft.complete.mapError (.incompleteForeignKey blueprint.table draft.column draft.name)

/-- The foreign keys declared on a column. -/
def foreignKeysOn (blueprint : Blueprint) (column : String) : List ForeignKeyDraft :=
  blueprint.foreignKeys.filter (fun draft => draft.column = column)

/-- The declared keys that cover a column. -/
def keysOn (blueprint : Blueprint) (column : String) : List Key :=
  blueprint.keys.filter (fun key => key.covers column)

/-- The dimensions of a column, when there are more than are supported. -/
def excessDimensions? (column : Column) : Option Nat :=
  column.parameters.dimensions.filter (fun depth => NativeType.deepestArray < depth)

/-- One column of a blueprint, for a dialect. -/
def resolveColumn (blueprint : Blueprint) (dialect : Dialect) (column : Column) :
    Traced SchemaError ColumnDefinition := do
  match excessDimensions? column with
  | some depth =>
      Traced.fail (.tooManyDimensions blueprint.table column.name depth NativeType.deepestArray)
  | none => Traced.tell (NativeType.notices dialect column.type column.parameters)
  let foreignKeys ←
    Traced.each (fun draft => Traced.ofExcept (blueprint.completeForeignKey draft))
      (blueprint.foreignKeysOn column.name)
  return {
    name := column.name
    type := NativeType.resolve dialect column.type column.parameters column.isUnsigned
    nullable := column.nullable
    default := column.default
    isPrimary := (blueprint.keysOn column.name).any Key.isPrimary
    autoincrement := column.parameters.autoincrement
    foreignKeys := foreignKeys
  }

/-- The declared keys, column by column, and then those on no declared column. -/
def orderedKeys (blueprint : Blueprint) : List Key :=
  Key.firstOfEachName
    (blueprint.columns.flatMap (fun column => blueprint.keysOn column.name) ++ blueprint.keys)

/-- The foreign keys on columns that are not declared. -/
def looseForeignKeys (blueprint : Blueprint) : List ForeignKeyDraft :=
  blueprint.foreignKeys.filter (fun draft => !blueprint.declares draft.column)

/-- A blueprint resolved for a dialect. -/
def resolve (blueprint : Blueprint) (dialect : Dialect) : Traced SchemaError Resolved := do
  let columns ← Traced.each (blueprint.resolveColumn dialect) blueprint.columns
  let foreignKeys ←
    Traced.each (fun draft => Traced.ofExcept (blueprint.completeForeignKey draft))
      blueprint.looseForeignKeys
  return ⟨columns, blueprint.orderedKeys, foreignKeys⟩

end Blueprint

end SchemaMigration
