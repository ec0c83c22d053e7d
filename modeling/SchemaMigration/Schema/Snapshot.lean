import SchemaMigration.Schema.Definition

namespace SchemaMigration

/-!
# Snapshots

The definition of a live table, put together from what its database reports.
-/

/-- A live table: its columns in order, its primary key and then its indexes. -/
structure Snapshot where
  columns : List ColumnDefinition
  keys : List Key
  deriving DecidableEq

namespace Snapshot

/-- The names of the columns. -/
def columnNames (snapshot : Snapshot) : List String :=
  snapshot.columns.map ColumnDefinition.name

/-- A live column; it belongs to the primary key when the key names it. -/
def columnOf (primary : List String) (column : LiveColumn) : ColumnDefinition where
  name := column.name
  type := ⟨column.type, []⟩
  nullable := column.nullable
  default := column.default.map DefaultValue.expression
  isPrimary := primary.contains column.name
  autoincrement := false
  foreignKeys := []

/-- A live foreign key, when it is from one column to one column. -/
def foreignKeyOf? (table : String) (key : LiveForeignKey) : Option ForeignKey :=
  match key.columns, key.refColumns with
  | [column], [refColumn] => some {
      name := key.name.getD (Key.defaultName table [column] .foreign)
      column := column
      refTable := key.refTable
      refColumn := refColumn
      onDelete := key.onDelete.bind ReferentialAction.parse?
      onUpdate := key.onUpdate.bind ReferentialAction.parse?
    }
  | _, _ => none

/-- Attach a foreign key to the first column of its name, if there is one. -/
def attach (key : ForeignKey) : List ColumnDefinition → List ColumnDefinition
  | [] => []
  | column :: rest =>
      if column.name = key.column then
        { column with foreignKeys := column.foreignKeys ++ [key] } :: rest
      else
        column :: attach key rest

/-- The notice about a foreign key over several columns. -/
def foreignKeyNotices (table : String) (key : LiveForeignKey) : List Notice :=
  match foreignKeyOf? table key with
  | some _ => []
  | none => [.compositeForeignKey table key.columns]

/-- The primary key over columns, if there are any. -/
def primaryOf (table : String) (columns : List String) : List Key :=
  if columns.isEmpty then [] else [Key.declared table columns .primary none]

/-- A live index as a key. -/
def indexOf (index : LiveIndex) : Key :=
  ⟨index.name, index.columns, if index.unique then .unique else .index⟩

/-- The snapshot of a table, put together from its primary key, its columns and their keys. -/
def assemble
    (table : String)
    (primary : List String)
    (foreignKeys : List LiveForeignKey)
    (columns : List LiveColumn)
    (indexes : List LiveIndex) :
    Snapshot where
  columns :=
    (foreignKeys.filterMap (foreignKeyOf? table)).foldl (fun known key => attach key known)
      (columns.map (columnOf primary))
  keys := primaryOf table primary ++ indexes.map indexOf

/-- The snapshot of a table, as its database reports it. -/
def load (view : Introspection) (table : String) : Traced SchemaError Snapshot :=
  Traced.mapError .database do
    let primary ← view.primaryKey table
    let foreignKeys ← view.foreignKeys table
    let columns ← view.columns table
    Traced.tell (foreignKeys.flatMap (foreignKeyNotices table))
    let indexes ← view.indexes table
    return assemble table primary foreignKeys columns indexes

end Snapshot

end SchemaMigration
