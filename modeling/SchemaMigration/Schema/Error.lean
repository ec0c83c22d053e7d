import SchemaMigration.Database.Live
import SchemaMigration.Schema.ForeignKey

namespace SchemaMigration

/-!
# Schema errors

Why a table change cannot be planned or carried out.
-/

/-- Why a text cannot name a table. -/
inductive TableNameFlaw
  | empty
  | controlCharacter
  | reserved
  deriving DecidableEq

/-- The wording of a flaw. -/
def TableNameFlaw.message : TableNameFlaw → String
  | .empty => "table name cannot be empty"
  | .controlCharacter => "table name cannot contain control characters"
  | .reserved => "the __tmp__ prefix is reserved for table rebuilds"

/-- Why a table change fails. -/
inductive SchemaError
  | invalidTableName (name : String) (flaw : TableNameFlaw)
  | incompleteForeignKey (table column name : String) (gap : ForeignKeyDraft.Gap)
  | tableNotFound (table : String)
  /-- The table would be left without columns. -/
  | emptyTable (table : String)
  | invalidReferentialAction (text : String)
  /-- A key is on a column that the table does not have. -/
  | keyColumnNotFound (table name : String) (kind : KeyKind) (column : String)
  /-- A key to drop is not there. -/
  | keyNotFound (table name : String) (kind : KeyKind)
  /-- An array is nested deeper than is supported. -/
  | tooManyDimensions (table column : String) (requested supported : Nat)
  | database (problem : DatabaseError)
  deriving DecidableEq

namespace SchemaError

/-- The wording of a schema error. -/
def message : SchemaError → String
  | .invalidTableName name flaw =>
      let reason := flaw.message
      s!"[S001] Invalid table name '{name}': {reason}"
  | .incompleteForeignKey table column name gap =>
      let missing := gap.title
      s!"[S002] Foreign key '{name}' on {table}.{column} is missing its {missing}"
  | .tableNotFound table => s!"[S003] Table '{table}' does not exist"
  | .emptyTable table => s!"[S004] Altering '{table}' would leave the table without columns"
  | .invalidReferentialAction text =>
      s!"[S005] Unknown referential action '{text}'. " ++
        "Expected cascade, restrict, set null, set default or no action"
  | .keyColumnNotFound table name kind column =>
      let title := kind.title
      s!"[S006] {title} '{name}' on {table} refers to missing column '{column}'"
  | .keyNotFound table name kind =>
      let title := kind.title
      s!"[S007] Cannot drop {title} '{name}' on {table}: no such key"
  | .tooManyDimensions table column requested supported =>
      s!"[S008] Invalid column {table}.{column}: {requested} array dimensions requested, " ++
        s!"at most {supported} are supported"
  | .database problem => problem.message

end SchemaError

/-- The action a text names, or the refusal of the text. -/
def ReferentialAction.parse (text : String) : Except SchemaError ReferentialAction :=
  match ReferentialAction.parse? text with
  | some action => .ok action
  | none => .error (.invalidReferentialAction text)

end SchemaMigration
