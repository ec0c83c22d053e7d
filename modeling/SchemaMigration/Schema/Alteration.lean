import SchemaMigration.Schema.Rebuild

namespace SchemaMigration.Alteration

/-!
# Altering a table in place

Where a dialect changes keys in place, an alter adds columns and keys first and
then takes away what the blueprint drops.
-/

/-- A statement, with the notices about it. -/
def announced (dialect : Dialect) (statement : Statement) : Traced SchemaError Statement := do
  Traced.tell (statement.notices dialect)
  return statement

/-- Whether a live column has a name. -/
def isLive (live : List LiveColumn) (name : String) : Bool :=
  live.any (fun column => column.name = name)

/-- The statements for a declared column and its foreign keys. -/
def columnStatements
    (dialect : Dialect)
    (table : String)
    (live : List LiveColumn)
    (column : ColumnDefinition) :
    Traced SchemaError (List Statement) := do
  if isLive live column.name then
    Traced.tell [.columnSkipped table column.name]
  let added :=
    if isLive live column.name then [] else Statement.addColumnAll dialect table column
  let keys ←
    Traced.each (fun key => announced dialect (.addForeignKey table key)) column.foreignKeys
  return added ++ keys

/-- The statements for a declared key. -/
def keyStatements (table : String) (key : Key) : List Statement :=
  match key.kind with
  | .primary => [Statement.addPrimary table key]
  | _ => (Statement.createIndex? table key).toList

/-- The statements that drop a key, given the live columns. -/
def dropKeyStatements
    (dialect : Dialect)
    (table : String)
    (live : List LiveColumn)
    (key : Key) :
    Traced SchemaError (List Statement) :=
  let column? := live.find? (fun column => some column.name = key.columns.head?)
  Traced.ofExcept (Statement.dropKeyAll dialect table column? key)

/-- The statement that drops a column, if the column is there. -/
def dropColumnStatements (table : String) (live : List LiveColumn) (name : String) :
    Traced SchemaError (List Statement) :=
  if isLive live name then
    return [.dropColumn table name]
  else do
    Traced.tell [.columnMissing table name]
    return []

/-- The statements that alter a table in place. -/
def plan
    (dialect : Dialect)
    (table : String)
    (live : List LiveColumn)
    (resolved : Resolved)
    (dropped : Dropped) :
    Traced SchemaError (List Statement) := do
  let columns ← Traced.each (columnStatements dialect table live) resolved.columns
  let foreignKeys ←
    Traced.each (fun key => announced dialect (.addForeignKey table key)) resolved.foreignKeys
  let droppedKeys ← Traced.each (dropKeyStatements dialect table live) dropped.keys
  let droppedColumns ← Traced.each (dropColumnStatements table live) dropped.columns
  return columns.flatten ++ resolved.keys.flatMap (keyStatements table) ++ foreignKeys ++
    droppedKeys.flatten ++ droppedColumns.flatten

end SchemaMigration.Alteration
