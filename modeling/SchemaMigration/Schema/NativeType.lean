import SchemaMigration.Effects.Notice
import SchemaMigration.Schema.Column
import SchemaMigration.Sql.Quoting

namespace SchemaMigration

/-!
# Native types

The type that a dialect has for an abstract one. Every abstract type is mapped
to some type; where a dialect has none that fits, its general text type is
taken, and a notice says so.
-/

/-- A column type of a dialect. -/
structure NativeType where
  /-- The type as it is written in statements. -/
  name : String
  /-- The values that a check restricts the column to; no check when empty. -/
  allowed : List String
  deriving DecidableEq

namespace NativeType

/-- The deepest nesting of an array. -/
def deepestArray : Nat :=
  6

/-- A type with a length, when one is given. -/
def sized (base : String) : Option Nat → String
  | none => base
  | some length => s!"{base}({length})"

/-- A numeric type with its digits, as far as they are given. -/
def numeric (base : String) (parameters : TypeParameters) : String :=
  match parameters.precision, parameters.scale with
  | some precision, some scale => s!"{base}({precision},{scale})"
  | some precision, none => s!"{base}({precision})"
  | none, _ => base

/-- The name of a type of whole numbers. -/
def integerBase : Dialect → ColumnType → String
  | .sqlite, _ => "INTEGER"
  | _, .bigInteger => "BIGINT"
  | _, .smallInteger => "SMALLINT"
  | .mysql, .mediumInteger => "MEDIUMINT"
  | .mysql, _ | .mssql, _ => "INT"
  | .duckdb, _ | .postgres, _ => "INTEGER"

/-- The type of a column that numbers its rows, where that is a type of its own. -/
def serial : ColumnType → String
  | .bigInteger => "BIGSERIAL"
  | .smallInteger => "SMALLSERIAL"
  | _ => "SERIAL"

/-- The type of whole numbers, with a sign or without. -/
def integer
    (dialect : Dialect)
    (type : ColumnType)
    (autoincrement isUnsigned : Bool) :
    String :=
  let base := integerBase dialect type
  match dialect with
  | .postgres => if autoincrement then serial type else base
  | .mysql => if isUnsigned || autoincrement then base ++ " UNSIGNED" else base
  | .duckdb => if isUnsigned then "U" ++ base else base
  | .mssql | .sqlite => base

/-- The type of a column restricted to some texts. -/
def enumeration (dialect : Dialect) (values : List String) : NativeType :=
  let listed := Text.join ", " (values.map Sql.textLiteral)
  match dialect with
  | .duckdb | .mysql =>
      if values.isEmpty then ⟨"VARCHAR(255)", []⟩ else ⟨s!"ENUM({listed})", []⟩
  | .mssql => ⟨"NVARCHAR(255)", values⟩
  | .postgres | .sqlite => ⟨"VARCHAR(255)", values⟩

/-- The default length of a text type that must have one. -/
def defaultLength : Nat :=
  255

/-- The types of DuckDB besides whole numbers, enumerations and arrays. -/
def ofDuckdb (parameters : TypeParameters) : ColumnType → String
  | .decimal => numeric "DECIMAL" parameters
  | .double => "DOUBLE"
  | .float => "FLOAT"
  | .char | .string => sized "VARCHAR" parameters.length
  | .date => "DATE"
  | .dateTime | .timestamp => "TIMESTAMP"
  | .time => "TIME"
  | .binary => "BLOB"
  | .boolean => "BOOLEAN"
  | _ => "VARCHAR"

/-- The types of PostgreSQL besides whole numbers, enumerations and arrays. -/
def ofPostgres (parameters : TypeParameters) : ColumnType → String
  | .decimal => numeric "NUMERIC" parameters
  | .double => "DOUBLE PRECISION"
  | .float => "REAL"
  | .char => sized "CHAR" parameters.length
  | .string => sized "VARCHAR" parameters.length
  | .date => "DATE"
  | .dateTime | .timestamp => "TIMESTAMP"
  | .time => "TIME"
  | .binary => "BYTEA"
  | .boolean => "BOOLEAN"
  | .json => "JSONB"
  | _ => "TEXT"

/-- The types of MySQL besides whole numbers, enumerations and arrays. -/
def ofMysql (parameters : TypeParameters) : ColumnType → String
  | .decimal => numeric "DECIMAL" parameters
  | .double => numeric "DOUBLE" parameters
  | .float => "FLOAT"
  | .char => sized "CHAR" parameters.length
  | .string => sized "VARCHAR" (some (parameters.length.getD defaultLength))
  | .mediumText => "MEDIUMTEXT"
  | .longText => "LONGTEXT"
  | .date => "DATE"
  | .dateTime => "DATETIME"
  | .timestamp => "TIMESTAMP"
  | .time => "TIME"
  | .binary => "BLOB"
  | .boolean => "BOOLEAN"
  | .json => "JSON"
  | _ => "TEXT"

/--
The types of SQL Server besides whole numbers, enumerations and arrays. What it
calls a timestamp is a row version, so points in time are dates with times.
-/
def ofMssql (parameters : TypeParameters) : ColumnType → String
  | .decimal => numeric "DECIMAL" parameters
  | .double => "FLOAT"
  | .float => "REAL"
  | .char => sized "NCHAR" parameters.length
  | .string => sized "NVARCHAR" (some (parameters.length.getD defaultLength))
  | .date => "DATE"
  | .dateTime | .timestamp => "DATETIME2"
  | .time => "TIME"
  | .binary => "VARBINARY(MAX)"
  | .boolean => "BIT"
  | _ => "NVARCHAR(MAX)"

/-- The types of SQLite besides whole numbers, enumerations and arrays. -/
def ofSqlite (parameters : TypeParameters) : ColumnType → String
  | .decimal => numeric "NUMERIC" parameters
  | .double | .float => "REAL"
  | .char => sized "CHAR" parameters.length
  | .string => sized "VARCHAR" parameters.length
  | .date => "DATE"
  | .dateTime => "DATETIME"
  | .timestamp => "TIMESTAMP"
  | .time => "TIME"
  | .binary => "BLOB"
  | .boolean => "BOOLEAN"
  | _ => "TEXT"

/-- The native type of everything but arrays. -/
def scalar
    (dialect : Dialect)
    (type : ColumnType)
    (parameters : TypeParameters)
    (isUnsigned : Bool) :
    NativeType :=
  match type with
  | .enumeration => enumeration dialect parameters.values
  | .unknown _ => ⟨dialect.fallbackText, []⟩
  | .bigInteger | .integer | .mediumInteger | .smallInteger =>
      ⟨integer dialect type parameters.autoincrement isUnsigned, []⟩
  | _ =>
      match dialect with
      | .duckdb => ⟨ofDuckdb parameters type, []⟩
      | .postgres => ⟨ofPostgres parameters type, []⟩
      | .mysql => ⟨ofMysql parameters type, []⟩
      | .mssql => ⟨ofMssql parameters type, []⟩
      | .sqlite => ⟨ofSqlite parameters type, []⟩

/-- What a dialect without arrays stores them as. -/
def storedArray : Dialect → String
  | .mysql => "JSON"
  | dialect => dialect.fallbackText

/-- The native type of the elements of an array. -/
def arrayElement (dialect : Dialect) (parameters : TypeParameters) : String :=
  match parameters.element.getD .text with
  | .array => dialect.fallbackText
  | element => (scalar dialect element TypeParameters.none false).name

/-- How many pairs of brackets an array type has. -/
def arrayDepth (parameters : TypeParameters) : Nat :=
  min deepestArray (max 1 (parameters.dimensions.getD 1))

/-- The native type of an array. -/
def array (dialect : Dialect) (parameters : TypeParameters) : NativeType :=
  match dialect with
  | .duckdb | .postgres =>
      let brackets := String.ofList (List.replicate (arrayDepth parameters) ['[', ']']).flatten
      ⟨arrayElement dialect parameters ++ brackets, []⟩
  | _ => ⟨storedArray dialect, []⟩

/-- The type that a dialect has for an abstract type. -/
def resolve
    (dialect : Dialect)
    (type : ColumnType)
    (parameters : TypeParameters)
    (isUnsigned : Bool) :
    NativeType :=
  match type with
  | .array => array dialect parameters
  | _ => scalar dialect type parameters isUnsigned

/-- The notice about a type that a dialect does not know. -/
def unknownNotices (dialect : Dialect) : ColumnType → List Notice
  | .unknown name => [.unknownType name dialect.name dialect.fallbackText]
  | _ => []

/-- The notices given while a type is resolved. -/
def notices
    (dialect : Dialect)
    (type : ColumnType)
    (parameters : TypeParameters) :
    List Notice :=
  match type, dialect with
  | .array, .duckdb | .array, .postgres =>
      unknownNotices dialect (parameters.element.getD .text)
  | .array, _ => [.arrayStoredAs dialect.name (storedArray dialect)]
  | _, _ => unknownNotices dialect type

end NativeType

end SchemaMigration
