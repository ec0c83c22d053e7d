import SchemaMigration.Effects.Action
import SchemaMigration.Schema.Plan

namespace SchemaMigration

/-!
# Stores

A store pairs a database with the dialect its statements are written in, and
carries changes out. The first refused statement ends a change; what was
executed before stays.
-/

/-- A database with the dialect to write for. -/
structure Store (σ : Type) where
  backend : Backend σ
  dialect : Dialect

namespace Store

variable {σ α : Type}

/-- A store that writes the dialect of its database. -/
def ofBackend (backend : Backend σ) : Store σ :=
  ⟨backend, backend.dialect⟩

/-- Execute one statement given as text. -/
def execute (store : Store σ) (sql : String) : Action σ SchemaError Unit :=
  fun state =>
    match store.backend.execute state sql with
    | .ok (_, next) => ⟨next, [], .ok ()⟩
    | .error problem => ⟨state, [], .error (.database problem)⟩

/-- Execute statements in order, up to the first that is refused. -/
def executeAll (store : Store σ) : List Statement → Action σ SchemaError Unit
  | [] => pure ()
  | statement :: rest => do
      store.execute (statement.render store.dialect)
      store.executeAll rest

/-- Ask the database something. -/
def ask (store : Store σ) (question : Introspection → Traced DatabaseError α) :
    Action σ SchemaError α :=
  Action.inspect (fun state =>
    Traced.mapError .database (question (store.backend.introspect state)))

/-- Whether a table exists. -/
def hasTable (store : Store σ) (table : String) : Action σ SchemaError Bool :=
  store.ask (fun view => view.hasTable table)

/-- Whether a table has a column. -/
def hasColumn (store : Store σ) (table column : String) : Action σ SchemaError Bool :=
  store.ask (fun view => view.hasColumn table column)

/-- The snapshot of a table. -/
def snapshot (store : Store σ) (table : String) : Action σ SchemaError Snapshot := do
  let primary ← store.ask (fun view => view.primaryKey table)
  let foreignKeys ← store.ask (fun view => view.foreignKeys table)
  let columns ← store.ask (fun view => view.columns table)
  Action.tell (foreignKeys.flatMap (Snapshot.foreignKeyNotices table))
  let indexes ← store.ask (fun view => view.indexes table)
  return Snapshot.assemble table primary foreignKeys columns indexes

/-- Create the table of a blueprint; a table that is there is left as it is. -/
def create (store : Store σ) (blueprint : Blueprint) : Action σ SchemaError Unit := do
  let table := blueprint.table
  if ← store.hasTable table then
    Action.tell [.tableExists table]
    return ()
  let resolved ← Action.ofTraced (blueprint.resolve store.dialect)
  let statements ← Action.ofTraced (Blueprint.createStatements store.dialect table resolved)
  store.executeAll statements

/-- The statements that alter a table, in place or by a rebuild. -/
def alterStatements (store : Store σ) (blueprint : Blueprint) (resolved : Resolved) :
    Action σ SchemaError (List Statement) := do
  let table := blueprint.table
  if store.dialect.capabilities.incrementalAlter then
    let live ← store.ask (fun view => view.columns table)
    Action.ofTraced (Alteration.plan store.dialect table live resolved blueprint.dropped)
  else
    let snapshot ← store.snapshot table
    Action.ofTraced (Rebuild.plan store.dialect table snapshot resolved blueprint.dropped)

/-- Alter the table of a blueprint, which has to be there. -/
def alter (store : Store σ) (blueprint : Blueprint) : Action σ SchemaError Unit := do
  let table := blueprint.table
  if !(← store.hasTable table) then
    Action.fail (.tableNotFound table)
  if blueprint.isEmpty then
    return ()
  let resolved ← Action.ofTraced (blueprint.resolve store.dialect)
  let statements ← store.alterStatements blueprint resolved
  Action.tell [.altering table]
  store.executeAll statements

/-- Create or alter the table of a blueprint, as is its purpose. -/
def apply (store : Store σ) (blueprint : Blueprint) : Action σ SchemaError Unit :=
  match blueprint.purpose with
  | .create => store.create blueprint
  | .alter => store.alter blueprint

/-- Announce a statement and execute it. -/
def perform (store : Store σ) (notice : Notice) (statement : Statement) :
    Action σ SchemaError Unit := do
  Action.tell [notice]
  store.execute (statement.render store.dialect)

/-- Rename a table. -/
def rename (store : Store σ) (source target : String) : Action σ SchemaError Unit :=
  store.perform (.renaming source target) (.renameTable source target)

/-- Drop a table. -/
def drop (store : Store σ) (table : String) : Action σ SchemaError Unit :=
  store.perform (.dropping table) (.dropTable table false)

/-- Drop a table if it exists. -/
def dropIfExists (store : Store σ) (table : String) : Action σ SchemaError Unit :=
  store.perform (.droppingIfExists table) (.dropTable table true)

end Store

end SchemaMigration
