import SchemaMigration.Text.Letter
import SchemaMigration.Text.Pieces

namespace SchemaMigration

/-!
# Column types

Abstract column types, which each dialect maps to a type of its own.
-/

/-- An abstract column type. -/
inductive ColumnType
  | bigInteger
  | integer
  | mediumInteger
  | smallInteger
  | decimal
  | double
  | float
  | char
  | string
  | text
  | mediumText
  | longText
  | date
  | dateTime
  | time
  | timestamp
  | binary
  | boolean
  | enumeration
  | json
  | array
  /-- A name that is no known type. -/
  | unknown (name : String)
  deriving DecidableEq

namespace ColumnType

/-- What names of types are compared by: neither case nor underscores matter. -/
def comparisonForm (name : String) : String :=
  String.ofList ((name.toList.filter (· != '_')).flatMap Text.lower)

/-- The type a name stands for. -/
def parse (name : String) : ColumnType :=
  match comparisonForm name with
  | "biginteger" | "bigint" => .bigInteger
  | "integer" | "int" => .integer
  | "mediuminteger" | "mediumint" => .mediumInteger
  | "smallinteger" | "smallint" => .smallInteger
  | "decimal" | "numeric" => .decimal
  | "double" => .double
  | "float" => .float
  | "char" => .char
  | "string" | "varchar" => .string
  | "text" => .text
  | "mediumtext" => .mediumText
  | "longtext" => .longText
  | "date" => .date
  | "datetime" => .dateTime
  | "time" => .time
  | "timestamp" => .timestamp
  | "binary" | "blob" => .binary
  | "boolean" | "bool" => .boolean
  | "enum" | "enumeration" => .enumeration
  | "json" => .json
  | "array" => .array
  | _ => .unknown name

/-- The canonical name of a type. -/
def name : ColumnType → String
  | .bigInteger => "big_integer"
  | .integer => "integer"
  | .mediumInteger => "medium_integer"
  | .smallInteger => "small_integer"
  | .decimal => "decimal"
  | .double => "double"
  | .float => "float"
  | .char => "char"
  | .string => "string"
  | .text => "text"
  | .mediumText => "medium_text"
  | .longText => "long_text"
  | .date => "date"
  | .dateTime => "datetime"
  | .time => "time"
  | .timestamp => "timestamp"
  | .binary => "binary"
  | .boolean => "boolean"
  | .enumeration => "enum"
  | .json => "json"
  | .array => "array"
  | .unknown name => name

/-- Whether a type holds whole numbers. -/
def isInteger : ColumnType → Bool
  | .bigInteger | .integer | .mediumInteger | .smallInteger => true
  | _ => false

/-- Whether a type is a known one. -/
def isKnown : ColumnType → Bool
  | .unknown _ => false
  | _ => true

end ColumnType

end SchemaMigration
