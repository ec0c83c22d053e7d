import SchemaMigration.Schema.Alteration

namespace SchemaMigration.Blueprint

/-!
# Plans

The statements that carry a blueprint out. A plan depends on the dialect, on
the blueprint and on what the database reports; it needs no statement to have
been executed.
-/

/-- Ask the database something. -/
def asked (answer : Traced DatabaseError α) : Traced SchemaError α :=
  Traced.mapError .database answer

/-- The statements for a primary key on none of the declared columns. -/
def strayPrimaryKeys (resolved : Resolved) : List Key :=
  resolved.keys.filter (fun key =>
    key.isPrimary && !resolved.columns.any (fun column => key.covers column.name))

/-- The statement for a foreign key on a column that is not declared. -/
def looseForeignKeyStatement (dialect : Dialect) (table : String) (key : ForeignKey) :
    Traced SchemaError Statement := do
  Traced.tell [.undeclaredColumn key.name key.column table]
  Alteration.announced dialect (.addForeignKey table key)

/-- The statements that make a table that has columns. -/
def createStatements (dialect : Dialect) (table : String) (resolved : Resolved) :
    Traced SchemaError (List Statement) := do
  if resolved.columns.isEmpty then
    Traced.fail (.emptyTable table)
  let created := Statement.createAll dialect table resolved.columns resolved.keys
  Traced.tell (created.flatMap (Statement.notices dialect))
  let primaryKeys := (strayPrimaryKeys resolved).map (Statement.addPrimary table)
  let foreignKeys ←
    Traced.each (looseForeignKeyStatement dialect table) resolved.foreignKeys
  Traced.tell [.creating table]
  return created ++ primaryKeys ++ foreignKeys

/-- The plan to create a table; there is nothing to do when it is there. -/
def planCreate (blueprint : Blueprint) (dialect : Dialect) (view : Introspection) :
    Traced SchemaError (List Statement) := do
  let table := blueprint.table
  if ← asked (view.hasTable table) then
    Traced.tell [.tableExists table]
    return []
  let resolved ← blueprint.resolve dialect
  createStatements dialect table resolved

/-- The plan to alter a table, which has to be there. -/
def planAlter (blueprint : Blueprint) (dialect : Dialect) (view : Introspection) :
    Traced SchemaError (List Statement) := do
  let table := blueprint.table
  if !(← asked (view.hasTable table)) then
    Traced.fail (.tableNotFound table)
  if blueprint.isEmpty then
    return []
  let resolved ← blueprint.resolve dialect
  let planned ←
    if dialect.capabilities.incrementalAlter then do
      let live ← asked (view.columns table)
      Alteration.plan dialect table live resolved blueprint.dropped
    else do
      let snapshot ← Snapshot.load view table
      Rebuild.plan dialect table snapshot resolved blueprint.dropped
  Traced.tell [.altering table]
  return planned

/-- The plan that carries out a blueprint for its purpose. -/
def plan (blueprint : Blueprint) (dialect : Dialect) (view : Introspection) :
    Traced SchemaError (List Statement) :=
  match blueprint.purpose with
  | .create => blueprint.planCreate dialect view
  | .alter => blueprint.planAlter dialect view

end SchemaMigration.Blueprint
