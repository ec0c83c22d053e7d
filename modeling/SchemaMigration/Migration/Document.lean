import SchemaMigration.Migration.Operation
import SchemaMigration.Revision
import SchemaMigration.Yaml.Record

namespace SchemaMigration.Migration

/-!
# Migration documents

The YAML form of a migration: the entity it is about, perhaps its revision, and
the operations of both directions.
-/

open Yaml

/-- A revision as a document gives it; a number has lost its leading zeros. -/
inductive DeclaredRevision
  | number (value : Nat)
  | text (value : String)
  deriving DecidableEq

namespace DeclaredRevision

/-- How a declared revision is shown. -/
def shown : DeclaredRevision → String
  | .number value => toString value
  | .text value => value

/-- Whether a declared revision is the given one; numbers are compared by value. -/
def isFor (revision : Revision) : DeclaredRevision → Bool
  | .number value => Decimal.natural? 10 revision.text.toList = some value
  | .text value => value = revision.text

/-- The declared revision in a typed value. -/
def ofValue : Value → Except Yaml.Error DeclaredRevision
  | .text value => .ok (.text value)
  | value => (value.asNatural).map .number

end DeclaredRevision

/-- What a migration file holds. -/
structure Document where
  entity : String
  revision : Option DeclaredRevision
  up : List Operation
  down : List Operation

/-! ## Entries -/

/-- One text, or a list of them. -/
def textsOf (value : Value) : Except Yaml.Error (List String) :=
  match value with
  | .text text => .ok [text]
  | value => value.each Value.asText

namespace KeyEntry

/-- A key: its columns alone, or its columns and its name. -/
def ofValue (value : Value) : Except Yaml.Error KeyEntry :=
  match value with
  | .map _ => do
      let record ← value.namedRecord ["columns", "name"]
      let columns ← record.required "columns" textsOf
      let name ← record.required "name" Value.asText
      return ⟨columns, some name⟩
  | value => (textsOf value).map (fun columns => ⟨columns, none⟩)

end KeyEntry

namespace ForeignKeyEntry

/-- The fields of a foreign key, in order. -/
def fields : List String :=
  ["column", "references", "on", "on_delete", "on_update", "name"]

/-- A foreign key. -/
def ofValue (value : Value) : Except Yaml.Error ForeignKeyEntry := do
  let record ← value.record fields .refuse
  let text? (name : String) : Except Yaml.Error (Option String) :=
    record.optionally name none (Value.optional Value.asText)
  return {
    column := ← record.required "column" Value.asText
    refColumn := ← record.required "references" Value.asText
    refTable := ← record.required "on" Value.asText
    onDelete := ← text? "on_delete"
    onUpdate := ← text? "on_update"
    name := ← text? "name" }

end ForeignKeyEntry

/-- A default value; numbers above 63 bits are floating-point numbers. -/
def defaultOf (value : Value) : Except Yaml.Error DefaultValue :=
  match value with
  | .boolean value => .ok (.boolean value)
  | .unsigned value =>
      if value < Decimal.valuesOf 63 then .ok (.integer value)
      else .ok (.float (Decimal.Binary64.ofInt value))
  | .signed value => .ok (.integer value)
  | .float value => .ok (.float value)
  | .text value => .ok (.text value)
  | value => do
      let record ← value.namedRecord ["expression"]
      return .expression (← record.required "expression" Value.asText)

/-- The type that a word stands for, and whether the database numbers the rows. -/
def columnTypeOf (word : String) : ColumnType × Bool :=
  match ColumnType.comparisonForm word with
  | "increments" => (.integer, true)
  | "bigincrements" => (.bigInteger, true)
  | _ => (ColumnType.parse word, false)

/-- The fields of a column, in order. -/
def columnFields : List String :=
  ["name", "type", "length", "precision", "scale", "values", "element", "dimensions",
    "nullable", "unsigned", "default"]

/-- A column. -/
def columnOf (value : Value) : Except Yaml.Error Column := do
  let record ← value.record columnFields .refuse
  let count? (name : String) : Except Yaml.Error (Option Nat) :=
    record.optionally name none (Value.optional Value.asCount)
  let (type, autoincrement) := columnTypeOf (← record.required "type" Value.asText)
  let element ← record.optionally "element" none (Value.optional Value.asText)
  let parameters : TypeParameters := {
    length := ← count? "length"
    precision := ← count? "precision"
    scale := ← count? "scale"
    values := ← record.optionally "values" [] (Value.each Value.asText)
    element := element.map ColumnType.parse
    dimensions := ← count? "dimensions"
    autoincrement := autoincrement }
  return {
    name := ← record.required "name" Value.asText
    type := type
    parameters := parameters
    nullable := ← record.optionally "nullable" false Value.asBoolean
    default := ← record.optionally "default" none (Value.optional defaultOf)
    isUnsigned := ← record.optionally "unsigned" false Value.asBoolean }

namespace TableEntry

/-- The fields of a table entry, in order. -/
def fields : List String :=
  ["table", "columns", "primary", "unique", "index", "foreign", "drop_columns",
    "drop_primary", "drop_unique", "drop_index", "drop_foreign"]

/-- A table entry. -/
def ofValue (value : Value) : Except Yaml.Error TableEntry := do
  let record ← value.record fields .refuse
  let key? (name : String) : Except Yaml.Error (Option KeyEntry) :=
    record.optionally name none (Value.optional KeyEntry.ofValue)
  let keys (name : String) : Except Yaml.Error (List KeyEntry) :=
    record.optionally name [] (Value.each KeyEntry.ofValue)
  let texts (name : String) : Except Yaml.Error (List String) :=
    record.optionally name [] (Value.each Value.asText)
  return {
    table := ← record.required "table" Value.asText
    columns := ← record.optionally "columns" [] (Value.each columnOf)
    primary := ← key? "primary"
    unique := ← keys "unique"
    index := ← keys "index"
    foreign := ← record.optionally "foreign" [] (Value.each ForeignKeyEntry.ofValue)
    dropColumns := ← texts "drop_columns"
    dropPrimary := ← key? "drop_primary"
    dropUnique := ← keys "drop_unique"
    dropIndex := ← keys "drop_index"
    dropForeign := ← texts "drop_foreign" }

end TableEntry

/-! ## Operations -/

namespace Operation

/-- The operation of a kind, from its fields. -/
def ofKind (kind : String) (value : Value) : Except Yaml.Error Operation :=
  match kind with
  | "create" => (TableEntry.ofValue value).map .create
  | "table" => (TableEntry.ofValue value).map .alter
  | "rename" => do
      let record ← value.record ["from", "to"] .ignore
      return .rename (← record.required "from" Value.asText)
        (← record.required "to" Value.asText)
  | "drop" => do
      let record ← value.record ["table"] .ignore
      return .drop (← record.required "table" Value.asText)
  | "drop_if_exists" => do
      let record ← value.record ["table"] .ignore
      return .dropIfExists (← record.required "table" Value.asText)
  | _ => .error (.shapeExpected "a known operation")

/-- The field that holds the kind of an operation. -/
def kindField : String :=
  "op"

/-- The kinds that entries give and the typed entries besides. -/
def splitKind :
    List (Tree × Tree) → Except Yaml.Error (List String × List (Value × Value))
  | [] => .ok ([], [])
  | (key, value) :: rest => do
      let (kinds, entries) ← splitKind rest
      match ← Value.ofTree key with
      | .text name =>
          if name = kindField then
            return ((← value.text) :: kinds, entries)
          else
            return (kinds, (.text name, ← Value.ofTree value) :: entries)
      | key => return (kinds, (key, ← Value.ofTree value) :: entries)

/-- An operation; in a list, its kind comes first. -/
def ofTree : Tree → Except Yaml.Error Operation
  | .mapping tag entries =>
      if allowsValue tag then do
        match ← splitKind entries with
        | ([kind], fields) => ofKind kind (.map fields)
        | ([], _) => throw (.missingField kindField)
        | _ => throw (.repeatedField kindField)
      else
        .error (.shapeExpected "an operation without a tag")
  | .sequence tag items =>
      if allowsValue tag then
        match items with
        | [] => .error (.missingField kindField)
        | kind :: rest => do
            let values ← Value.ofItems rest
            ofKind (← kind.text) (.list values)
      else
        .error (.shapeExpected "an operation without a tag")
  | .scalar .. => .error (.shapeExpected "an operation")

end Operation

namespace Document

/-- The fields of a document. -/
def fields : List String :=
  ["migration", "revision", "up", "down"]

/-- The document that a tree holds. -/
def ofTree (tree : Tree) : Except Yaml.Error Document := do
  let record ← tree.record fields
  return {
    entity := ← record.required "migration" Tree.text
    revision := ← record.optionally "revision" none
      (Tree.optional (fun tree => do DeclaredRevision.ofValue (← Value.ofTree tree)))
    up := ← record.optionally "up" [] (Tree.each Operation.ofTree)
    down := ← record.optionally "down" [] (Tree.each Operation.ofTree) }

/-- The document that a text holds. -/
def ofText (text : String) : Except Yaml.Error Document := do
  ofTree (← Tree.ofText text)

end Document

end SchemaMigration.Migration
