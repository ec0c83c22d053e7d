import SchemaMigration.Dialect
import SchemaMigration.Effects.Traced
import SchemaMigration.Text.Pieces

namespace SchemaMigration

/-!
# Live tables

What a database reports about its tables, and the ways in which asking it can
fail.
-/

/-- Why a database refuses to do something. -/
inductive DatabaseError
  /-- The database cannot be opened. -/
  | connection (reason : String)
  /-- A statement failed. -/
  | execution (reason statement : String)
  /-- A statement failed because a table does not exist. -/
  | tableNotFound (reason : String)
  /-- Metadata of a table could not be read. -/
  | introspection (table reason : String)
  deriving DecidableEq

namespace DatabaseError

/-- The wording of a refusal. -/
def message : DatabaseError → String
  | .connection reason => s!"[D001] Database connection failed: {reason}"
  | .execution reason statement =>
      s!"[D002] SQL execution failed: {reason}\n  statement: {statement}"
  | .tableNotFound reason => s!"[D003] Table not found: {reason}"
  | .introspection table reason => s!"[D004] Failed to introspect '{table}': {reason}"

end DatabaseError

/-- A column as a database reports it. -/
structure LiveColumn where
  name : String
  type : String
  nullable : Bool
  /-- The default as an expression. -/
  default : Option String
  deriving DecidableEq

/-- A foreign key as a database reports it. -/
structure LiveForeignKey where
  name : Option String
  columns : List String
  refTable : String
  refColumns : List String
  onDelete : Option String
  onUpdate : Option String
  deriving DecidableEq

/-- An index, other than the primary key, as a database reports it. -/
structure LiveIndex where
  name : String
  columns : List String
  unique : Bool
  deriving DecidableEq

/-- The answers of a database about its tables. -/
structure Introspection where
  /-- The names of the tables, sorted. -/
  tableNames : Traced DatabaseError (List String)
  /-- The columns of a table in order; none when there is no such table. -/
  columns : String → Traced DatabaseError (List LiveColumn)
  /-- The columns of the primary key of a table, in key order. -/
  primaryKey : String → Traced DatabaseError (List String)
  /-- The foreign keys declared on a table. -/
  foreignKeys : String → Traced DatabaseError (List LiveForeignKey)
  /-- The indexes on a table besides its primary key. -/
  indexes : String → Traced DatabaseError (List LiveIndex)

namespace Introspection

/-- Whether a table exists. -/
def hasTable (view : Introspection) (table : String) : Traced DatabaseError Bool := do
  let names ← view.tableNames
  return names.contains table

/-- The names of the columns of a table. -/
def columnNames (view : Introspection) (table : String) :
    Traced DatabaseError (List String) := do
  let columns ← view.columns table
  return columns.map LiveColumn.name

/-- Whether a table has a column. -/
def hasColumn (view : Introspection) (table column : String) : Traced DatabaseError Bool := do
  let names ← view.columnNames table
  return names.contains column

end Introspection

/--
A database: its answers in a state, and what a statement does to the state.

A refused statement leaves the state as it was.
-/
structure Backend (σ : Type) where
  /-- What kind of database it is. -/
  label : String
  /-- The dialect of the statements it takes. -/
  dialect : Dialect
  /-- What it reports in a state. -/
  introspect : σ → Introspection
  /-- Execute a statement, which gives the number of affected rows. -/
  execute : σ → String → Except DatabaseError (Nat × σ)
  /-- The number of rows of a query. -/
  countRows : σ → String → Except DatabaseError Nat

/-! ## Refusals -/

/-- Every statement that holds a fragment is refused, for a reason. -/
structure Refusal where
  fragment : String
  reason : String
  deriving DecidableEq

/-- The reason why a statement is refused, if one of the refusals applies. -/
def Refusal.reason? (refusals : List Refusal) (statement : String) : Option String :=
  (refusals.find? (fun refusal => Text.contains statement refusal.fragment)).map Refusal.reason

end SchemaMigration
