import SchemaMigration.Decimal.Binary64
import SchemaMigration.Schema.ColumnType

namespace SchemaMigration

/-!
# Declared columns

A column as it is declared: an abstract type with its parameters, and what may
stand in the column.
-/

/-- The parameters of an abstract type. -/
structure TypeParameters where
  /-- How many characters fit. -/
  length : Option Nat
  /-- How many digits there are in all. -/
  precision : Option Nat
  /-- How many digits follow the point. -/
  scale : Option Nat
  /-- The values of an enumeration. -/
  values : List String
  /-- The type of the elements of an array. -/
  element : Option ColumnType
  /-- How deep an array is nested. -/
  dimensions : Option Nat
  /-- Whether the database generates the values. -/
  autoincrement : Bool
  deriving DecidableEq

namespace TypeParameters

/-- No parameters at all. -/
def none : TypeParameters :=
  ⟨.none, .none, .none, [], .none, .none, false⟩

end TypeParameters

/-- The default value of a column. -/
inductive DefaultValue
  | boolean (value : Bool)
  | integer (value : Int)
  | float (value : Decimal.Binary64)
  /-- A text, which is written as a literal. -/
  | text (value : String)
  /-- An expression of the dialect, which is written as it is. -/
  | expression (sql : String)
  deriving DecidableEq

/-- A declared column. -/
structure Column where
  name : String
  type : ColumnType
  parameters : TypeParameters
  nullable : Bool
  default : Option DefaultValue
  isUnsigned : Bool
  deriving DecidableEq

namespace Column

/-- A column that takes no nulls and has no default. -/
def ofType (name : String) (type : ColumnType) (parameters : TypeParameters) : Column :=
  ⟨name, type, parameters, false, none, false⟩

end Column

end SchemaMigration
