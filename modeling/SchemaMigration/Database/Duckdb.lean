import SchemaMigration.Database.KeyText
import SchemaMigration.Decimal.Binary64

namespace SchemaMigration.Duckdb

/-!
# DuckDB

A DuckDB database is known through its catalog: it is asked with queries over
the catalog functions, and the rows are read by position. What runs the queries
and the statements is an engine.
-/

/-- A value in a row. -/
inductive Cell
  | null
  | text (value : String)
  | flag (value : Bool)
  deriving DecidableEq

/-- What the catalog is asked, for one table or for all. -/
inductive CatalogQuery
  | tables
  | columns
  | primaryKey
  | foreignKeys
  | indexes
  deriving DecidableEq

namespace CatalogQuery

/-- What restricts queries to the tables of the database itself. -/
def scope : String :=
  "database_name = current_database() AND schema_name = 'main'"

/-- A query as text; the table is its parameter. -/
def sql : CatalogQuery → String
  | .tables => s!"SELECT table_name FROM duckdb_tables() WHERE {scope} ORDER BY table_name"
  | .columns =>
      "SELECT column_name, data_type, is_nullable, column_default " ++
        s!"FROM duckdb_columns() WHERE {scope} AND table_name = ? ORDER BY column_index"
  | .primaryKey =>
      "SELECT unnest(constraint_column_names) FROM duckdb_constraints() " ++
        s!"WHERE {scope} AND table_name = ? AND constraint_type = 'PRIMARY KEY'"
  | .foreignKeys =>
      "SELECT constraint_text FROM duckdb_constraints() " ++
        s!"WHERE {scope} AND table_name = ? AND constraint_type = 'FOREIGN KEY' " ++
          "ORDER BY constraint_index"
  | .indexes =>
      "SELECT index_name, is_unique, sql FROM duckdb_indexes() " ++
        s!"WHERE {scope} AND table_name = ? ORDER BY index_name"

end CatalogQuery

/-- What runs queries and statements, or fails with a reason. -/
structure Engine (σ : Type) where
  /-- Open the database at a path. -/
  openAt : σ → String → Except String Unit
  /-- Open a second connection to the same database. -/
  reopen : σ → Except String Unit
  /-- The rows that answer a query about a table. -/
  ask : σ → CatalogQuery → String → Except String (List (List Cell))
  /-- The number that a query gives. -/
  number : σ → String → Except String Int
  /-- Execute a statement, which gives the number of affected rows. -/
  execute : σ → String → Except String (Nat × σ)

/-! ## Rows -/

/-- The failure to read a cell. -/
def unreadable (position : Nat) : String :=
  s!"Invalid column type at index: {position}"

/-- The text at a position of a row. -/
def textAt (row : List Cell) (position : Nat) : Except String String :=
  match row[position]? with
  | some (.text value) => .ok value
  | _ => .error (unreadable position)

/-- The text or null at a position of a row. -/
def optionalTextAt (row : List Cell) (position : Nat) : Except String (Option String) :=
  match row[position]? with
  | some (.text value) => .ok (some value)
  | some .null => .ok none
  | _ => .error (unreadable position)

/-- The truth value at a position of a row. -/
def flagAt (row : List Cell) (position : Nat) : Except String Bool :=
  match row[position]? with
  | some (.flag value) => .ok value
  | _ => .error (unreadable position)

/-- A row that describes a column. -/
def columnOf (row : List Cell) : Except String LiveColumn := do
  let name ← textAt row 0
  let type ← textAt row 1
  let nullable ← flagAt row 2
  let default ← optionalTextAt row 3
  return ⟨name, type, nullable, default⟩

/-! ## Answers -/

variable {σ : Type}

/-- The rows that answer a query about a table, each read. -/
def rows
    (engine : Engine σ)
    (state : σ)
    (query : CatalogQuery)
    (table : String)
    (read : List Cell → Traced String α) :
    Traced DatabaseError (List α) :=
  Traced.mapError (.introspection table) do
    let found ← Traced.ofExcept (engine.ask state query table)
    Traced.each read found

/-- The texts in the first column of an answer. -/
def texts (engine : Engine σ) (state : σ) (query : CatalogQuery) (table : String) :
    Traced DatabaseError (List String) :=
  rows engine state query table (fun row => Traced.ofExcept (textAt row 0))

/-- A row that describes an index; an index without readable columns is left out. -/
def indexOf (table : String) (row : List Cell) : Traced String (Option LiveIndex) := do
  let name ← Traced.ofExcept (textAt row 0)
  let unique ← Traced.ofExcept (flagAt row 1)
  let statement? ← Traced.ofExcept (optionalTextAt row 2)
  let columns := (statement?.map KeyText.indexColumns).getD []
  if columns.isEmpty then
    Traced.tell [.indexUnreadable name table]
    return none
  else
    return some ⟨name, columns, unique⟩

/-- What the failing query about all tables names in place of a table. -/
def everyTable : String :=
  "*"

/-- The answers of an engine's catalog. -/
def introspect (engine : Engine σ) (state : σ) : Introspection where
  tableNames := texts engine state .tables everyTable
  columns := fun table =>
    rows engine state .columns table (fun row => Traced.ofExcept (columnOf row))
  primaryKey := fun table => texts engine state .primaryKey table
  foreignKeys := fun table => do
    let written ← texts engine state .foreignKeys table
    return written.filterMap KeyText.foreignKey?
  indexes := fun table => do
    let found ← rows engine state .indexes table (indexOf table)
    return found.filterMap id

/-! ## Statements -/

/-- Whether the reason of a failure is that a table does not exist. -/
def tellsOfMissingTable (reason : String) : Bool :=
  Text.contains reason "Table with name" ||
    (Text.contains reason "Catalog Error" && Text.contains reason "Table" &&
      Text.contains reason "does not exist")

/-- The failure of a statement. -/
def statementError (statement reason : String) : DatabaseError :=
  if tellsOfMissingTable reason then .tableNotFound reason else .execution reason statement

/-- Execute a statement. -/
def execute (engine : Engine σ) (state : σ) (statement : String) :
    Except DatabaseError (Nat × σ) :=
  (engine.execute state statement).mapError (statementError statement)

/-- The query that counts the rows of another one. -/
def countQuery (query : String) : String :=
  s!"SELECT COUNT(*) FROM ({query})"

/-- The number of rows of a query; a negative answer wraps at 64 bits. -/
def countRows (engine : Engine σ) (state : σ) (query : String) : Except DatabaseError Nat :=
  match engine.number state (countQuery query) with
  | .ok count => .ok (Int.toNat (count % Int.ofNat (Decimal.valuesOf 64)))
  | .error reason => .error (statementError query reason)

/-- A database over an engine. -/
def backend (engine : Engine σ) : Backend σ where
  label := "duckdb"
  dialect := .duckdb
  introspect := introspect engine
  execute := execute engine
  countRows := countRows engine

/-- The path that stands for a database in memory. -/
def inMemory : String :=
  ":memory:"

/-- Open the database at a path. -/
def openAt (engine : Engine σ) (state : σ) (path : String) : Except DatabaseError Unit :=
  (engine.openAt state path).mapError (fun reason =>
    .connection (if path = inMemory then reason else s!"{reason}: {path}"))

/-- Open a second connection to the database. -/
def reopen (engine : Engine σ) (state : σ) : Except DatabaseError Unit :=
  (engine.reopen state).mapError .connection

end SchemaMigration.Duckdb
