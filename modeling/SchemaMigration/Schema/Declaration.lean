import SchemaMigration.Schema.Blueprint

namespace SchemaMigration.Column

/-!
# Declaring columns

Columns of the usual types with the parameters that each type has.
-/

/-- A column of a type without parameters. -/
def simple (name : String) (type : ColumnType) : Column :=
  ofType name type TypeParameters.none

/-- A column that numbers its rows. -/
def increments (name : String) : Column :=
  ofType name .integer { TypeParameters.none with autoincrement := true }

/-- A column that numbers its rows with big integers. -/
def bigIncrements (name : String) : Column :=
  ofType name .bigInteger { TypeParameters.none with autoincrement := true }

/-- A column of decimal numbers. -/
def decimal (name : String) (precision scale : Nat) : Column :=
  ofType name .decimal
    { TypeParameters.none with precision := some precision, scale := some scale }

/-- A column of texts of one length. -/
def char (name : String) (length : Nat) : Column :=
  ofType name .char { TypeParameters.none with length := some length }

/-- A column of texts up to a length, or up to the usual one. -/
def string (name : String) (length? : Option Nat) : Column :=
  ofType name .string { TypeParameters.none with length := length? }

/-- A column restricted to some texts. -/
def enumeration (name : String) (values : List String) : Column :=
  ofType name .enumeration { TypeParameters.none with values := values }

/-- A column of arrays. -/
def array (name : String) (element : ColumnType) (dimensions? : Option Nat) : Column :=
  ofType name .array
    { TypeParameters.none with element := some element, dimensions := dimensions? }

end SchemaMigration.Column
