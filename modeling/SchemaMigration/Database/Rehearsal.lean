import SchemaMigration.Database.Live

namespace SchemaMigration

/-!
# Rehearsals

A database in memory that knows its tables from a description. It keeps the
statements it takes and carries none of them out.
-/

/-- The description of a table. -/
structure LiveTable where
  name : String
  columns : List LiveColumn
  primaryKey : List String
  foreignKeys : List LiveForeignKey
  indexes : List LiveIndex
  deriving DecidableEq

/-- What a database can be asked about its tables. -/
inductive Question
  | tableNames
  | columns
  | primaryKey
  | foreignKeys
  | indexes
  deriving DecidableEq

/-- The state of a database that rehearses. -/
structure Rehearsal where
  tables : List LiveTable
  refusals : List Refusal
  /-- The questions that go unanswered, with the reasons given. -/
  unanswered : List (Question × String)
  /-- The statements taken so far. -/
  statements : List String

namespace Rehearsal

/-- What failing questions about all tables name in place of a table. -/
def everyTable : String :=
  "*"

/-- Answer a question about a table, unless it goes unanswered. -/
def answer (rehearsal : Rehearsal) (question : Question) (table : String) (value : α) :
    Traced DatabaseError α :=
  match rehearsal.unanswered.lookup question with
  | some reason => Traced.fail (.introspection table reason)
  | none => return value

/-- A part of the description of a table; empty when there is no such table. -/
def part (rehearsal : Rehearsal) (table : String) (items : LiveTable → List α) : List α :=
  match rehearsal.tables.find? (fun known => known.name = table) with
  | some known => items known
  | none => []

/-- The names of the tables in order. -/
def sortedNames (rehearsal : Rehearsal) : List String :=
  (rehearsal.tables.map LiveTable.name).mergeSort (fun first second => decide (first ≤ second))

/-- The answers in a state. -/
def introspect (rehearsal : Rehearsal) : Introspection where
  tableNames := rehearsal.answer .tableNames everyTable rehearsal.sortedNames
  columns := fun table =>
    rehearsal.answer .columns table (rehearsal.part table LiveTable.columns)
  primaryKey := fun table =>
    rehearsal.answer .primaryKey table (rehearsal.part table LiveTable.primaryKey)
  foreignKeys := fun table =>
    rehearsal.answer .foreignKeys table (rehearsal.part table LiveTable.foreignKeys)
  indexes := fun table =>
    rehearsal.answer .indexes table (rehearsal.part table LiveTable.indexes)

/-- Take a statement, unless it is refused. -/
def execute (rehearsal : Rehearsal) (statement : String) :
    Except DatabaseError (Nat × Rehearsal) :=
  match Refusal.reason? rehearsal.refusals statement with
  | some reason => .error (.execution reason statement)
  | none =>
      .ok (0, { rehearsal with statements := rehearsal.statements ++ [statement] })

/-- A rehearsal as a database of a dialect. -/
def backend (label : String) (dialect : Dialect) : Backend Rehearsal where
  label := label
  dialect := dialect
  introspect := introspect
  execute := execute
  countRows := fun _ _ => .ok 0

/-- Describe a table, in place of the description there was. -/
def setTable (rehearsal : Rehearsal) (table : LiveTable) : Rehearsal :=
  { rehearsal with
    tables := rehearsal.tables.filter (fun known => known.name != table.name) ++ [table] }

/-- Forget a table. -/
def removeTable (rehearsal : Rehearsal) (table : String) : Rehearsal :=
  { rehearsal with tables := rehearsal.tables.filter (fun known => known.name != table) }

/-! ## Recording only -/

/-- A column of which only name and type are known. -/
def bareColumn (column : LiveColumn) : LiveColumn :=
  ⟨column.name, column.type, true, none⟩

/-- A table of which only the columns are known. -/
def bareTable (table : LiveTable) : LiveTable :=
  ⟨table.name, table.columns.map bareColumn, [], [], []⟩

/-- A rehearsal of bare tables that may refuse the statements with one fragment. -/
def recording (tables : List LiveTable) (fragment? : Option String) : Rehearsal where
  tables := tables.map bareTable
  refusals :=
    fragment?.toList.map
      (fun fragment => ⟨fragment, s!"refusing statement containing '{fragment}'"⟩)
  unanswered := []
  statements := []

end Rehearsal

end SchemaMigration
