import SchemaMigration.Database.Duckdb

namespace SchemaMigration

/-!
# Catalogs in memory

An engine that answers catalog queries from a description. It keeps the
statements it takes and carries none of them out. Any text of the description
may be missing, as it may be in a catalog.
-/

/-- The description of a column in a catalog. -/
structure CatalogColumn where
  name : Option String
  type : Option String
  nullable : Option Bool
  default : Option String

/-- The description of an index in a catalog. -/
structure CatalogIndex where
  name : Option String
  unique : Option Bool
  /-- The statement that made the index. -/
  sql : Option String

/-- The description of a table in a catalog. -/
structure CatalogTable where
  name : Option String
  columns : List CatalogColumn
  primaryKey : List (Option String)
  /-- The texts of the foreign key constraints. -/
  foreignKeys : List (Option String)
  indexes : List CatalogIndex

/-- The state of an engine in memory. -/
structure Catalog where
  tables : List CatalogTable
  refusals : List Refusal
  /-- The numbers that queries give. -/
  counts : List (String × Int)
  /-- The numbers of rows that statements affect. -/
  affected : List (String × Nat)
  /-- The statements taken so far. -/
  statements : List String

namespace Catalog

open Duckdb

/-- A catalog of no tables. -/
def empty : Catalog :=
  ⟨[], [], [], [], []⟩

/-- Whether a name comes before another one; a missing name comes first. -/
def namesInOrder : Option String → Option String → Bool
  | none, _ => true
  | some _, none => false
  | some first, some second => decide (first ≤ second)

/-- A text as a cell. -/
def cellOf : Option String → Cell
  | some value => .text value
  | none => .null

/-- A truth value as a cell. -/
def flagCellOf : Option Bool → Cell
  | some value => .flag value
  | none => .null

/-- The row of a column. -/
def columnRow (column : CatalogColumn) : List Cell :=
  [cellOf column.name, cellOf column.type, flagCellOf column.nullable, cellOf column.default]

/-- The row of an index. -/
def indexRow (index : CatalogIndex) : List Cell :=
  [cellOf index.name, flagCellOf index.unique, cellOf index.sql]

/-- A part of the description of a table; empty when there is no such table. -/
def part (catalog : Catalog) (table : String) (items : CatalogTable → List α) : List α :=
  match catalog.tables.find? (fun known => known.name = some table) with
  | some known => items known
  | none => []

/-- The rows that answer a query about a table. -/
def answer (catalog : Catalog) (query : CatalogQuery) (table : String) : List (List Cell) :=
  match query with
  | .tables =>
      ((catalog.tables.map CatalogTable.name).mergeSort namesInOrder).map
        (fun name => [cellOf name])
  | .columns => (catalog.part table CatalogTable.columns).map columnRow
  | .primaryKey => (catalog.part table CatalogTable.primaryKey).map (fun name => [cellOf name])
  | .foreignKeys =>
      (catalog.part table CatalogTable.foreignKeys).map (fun text => [cellOf text])
  | .indexes =>
      ((catalog.part table CatalogTable.indexes).mergeSort
        (fun first second => namesInOrder first.name second.name)).map indexRow

/-- Do something with a text, unless the text is refused. -/
def unlessRefused (catalog : Catalog) (text : String) (value : α) : Except String α :=
  match Refusal.reason? catalog.refusals text with
  | some reason => .error reason
  | none => .ok value

/-- A catalog in memory as an engine. -/
def engine : Engine Catalog where
  openAt := fun catalog path => catalog.unlessRefused s!"OPEN {path}" ()
  reopen := fun catalog => catalog.unlessRefused "CLONE" ()
  ask := fun catalog query table => catalog.unlessRefused query.sql (catalog.answer query table)
  number := fun catalog query =>
    catalog.unlessRefused query ((catalog.counts.lookup query).getD 0)
  execute := fun catalog statement =>
    catalog.unlessRefused statement
      ((catalog.affected.lookup statement).getD 0,
        { catalog with statements := catalog.statements ++ [statement] })

end Catalog

end SchemaMigration
