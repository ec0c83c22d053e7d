import SchemaMigration.Text.Blank
import SchemaMigration.Text.Letter

namespace SchemaMigration

/-!
# Dialects

The database systems that statements are written for, with what each of them
accepts.
-/

/-- A dialect of SQL. -/
inductive Dialect
  | duckdb
  | postgres
  | mysql
  | mssql
  | sqlite
  deriving DecidableEq

namespace Dialect

/-- Every dialect, in the order they are listed. -/
def all : List Dialect :=
  [.duckdb, .postgres, .mysql, .mssql, .sqlite]

/-- The name of a dialect in configuration files. -/
def name : Dialect → String
  | .duckdb => "duckdb"
  | .postgres => "postgres"
  | .mysql => "mysql"
  | .mssql => "mssql"
  | .sqlite => "sqlite"

/-- The refusal of a text as a dialect. -/
structure Unknown where
  text : String
  deriving DecidableEq

/-- The wording of a refusal. -/
def Unknown.message (problem : Unknown) : String :=
  s!"[E005] Unknown dialect '{problem.text}'. " ++
    "Expected one of: duckdb, postgres, mysql, mssql, sqlite"

/-- The dialect a text names; case and surrounding blanks do not matter. -/
def parse (text : String) : Except Unknown Dialect :=
  match String.ofList ((Text.trim text).toList.map Text.lowerAscii) with
  | "duckdb" => .ok .duckdb
  | "postgres" => .ok .postgres
  | "postgresql" => .ok .postgres
  | "mysql" => .ok .mysql
  | "mariadb" => .ok .mysql
  | "mssql" => .ok .mssql
  | "sqlserver" => .ok .mssql
  | "sqlite" => .ok .sqlite
  | _ => .error ⟨text⟩

/-- What a dialect accepts. -/
structure Capabilities where
  /-- Keys are added and dropped in place; otherwise an alter rebuilds the table. -/
  incrementalAlter : Bool
  /-- Foreign keys may name what happens to the rows that refer. -/
  foreignKeyActions : Bool
  /-- Constraint names are accepted and kept. -/
  namedConstraints : Bool

/-- The capabilities of a dialect. -/
def capabilities : Dialect → Capabilities
  | .duckdb => ⟨false, false, false⟩
  | .sqlite => ⟨false, true, true⟩
  | .postgres | .mysql | .mssql => ⟨true, true, true⟩

/-- The general text type of a dialect, which unknown types fall back to. -/
def fallbackText : Dialect → String
  | .duckdb => "VARCHAR"
  | .mssql => "NVARCHAR(MAX)"
  | .postgres | .mysql | .sqlite => "TEXT"

end Dialect

end SchemaMigration
