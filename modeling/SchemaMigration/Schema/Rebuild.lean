import SchemaMigration.Schema.Snapshot
import SchemaMigration.Schema.Statement

namespace SchemaMigration.Rebuild

/-!
# Rebuilding a table

Where a dialect does not change keys in place, a table is altered by making it
anew. The rows of the columns that stay are copied to a temporary table, the
table is dropped and made again with the merged definition, and the rows are
copied back. New columns take their defaults.
-/

/-- The name of the table that holds the rows during a rebuild. -/
def temporaryName (table : String) : String :=
  temporaryMark ++ table

/-! ## What stays -/

/--
Whether dropping a key drops a foreign key: by its name, or by its column,
since some databases do not report names.
-/
def dropsForeignKey (drop : Key) (key : ForeignKey) : Bool :=
  key.name = drop.name || drop.columns = [key.column]

/-- Whether a key to drop is there. -/
def hasKey (snapshot : Snapshot) (drop : Key) : Bool :=
  match drop.kind with
  | .foreign =>
      snapshot.columns.any (fun column => column.foreignKeys.any (dropsForeignKey drop))
  | .primary =>
      snapshot.columns.any ColumnDefinition.isPrimary || snapshot.keys.any Key.isPrimary
  | .unique | .index =>
      snapshot.keys.any (fun key =>
        key.name = drop.name || (key.kind = drop.kind && key.columns = drop.columns))

/-- The first key to drop that is not there. -/
def missingKey? (snapshot : Snapshot) (dropped : Dropped) : Option Key :=
  dropped.keys.find? (fun drop => !hasKey snapshot drop)

/-- The columns of the primary keys that are dropped. -/
def releasedColumns (dropped : Dropped) : List String :=
  (dropped.keys.filter Key.isPrimary).flatMap Key.columns

/-- A column without the keys that are dropped. -/
def releaseColumn (dropped : Dropped) (column : ColumnDefinition) : ColumnDefinition :=
  let drops := dropped.keys.filter (fun drop => drop.kind = .foreign)
  { column with
    foreignKeys :=
      column.foreignKeys.filter (fun key => !drops.any (fun drop => dropsForeignKey drop key))
    isPrimary := column.isPrimary && !(releasedColumns dropped).contains column.name }

/-- The live columns that stay. -/
def keptColumns (snapshot : Snapshot) (dropped : Dropped) : List ColumnDefinition :=
  (snapshot.columns.filter (fun column => !dropped.columns.contains column.name)).map
    (releaseColumn dropped)

/-- Whether a live key stays: it is not dropped, and neither are columns of it. -/
def staysKey (dropped : Dropped) (key : Key) : Bool :=
  !(dropped.keys.any (fun drop => drop.name = key.name)) &&
    !(key.isPrimary && key.columns.any (releasedColumns dropped).contains) &&
      !key.columns.any dropped.columns.contains

/-- The live keys that stay. -/
def keptKeys (snapshot : Snapshot) (dropped : Dropped) : List Key :=
  snapshot.keys.filter (staysKey dropped)

/-! ## What is added -/

/-- Whether a column of a name is among columns. -/
def hasColumn (columns : List ColumnDefinition) (name : String) : Bool :=
  columns.any (fun column => column.name = name)

/-- Add a declared column, unless there is one of its name. -/
def mergeColumn (table : String) (columns : List ColumnDefinition) (column : ColumnDefinition) :
    Traced SchemaError (List ColumnDefinition) :=
  if hasColumn columns column.name then do
    Traced.tell [.columnKept table column.name]
    return columns
  else
    return columns ++ [column]

/-- The columns and keys of the table to make. -/
structure Draft where
  columns : List ColumnDefinition
  keys : List Key
  deriving DecidableEq

/-- Make a key the primary key, in place of any other. -/
def setPrimary (draft : Draft) (key : Key) : Draft where
  columns :=
    draft.columns.map (fun column => { column with isPrimary := key.covers column.name })
  keys := draft.keys.filter (fun known => !known.isPrimary)

/-- Add a key, unless there is one of its name. -/
def addKey (draft : Draft) (key : Key) : Draft :=
  if draft.keys.any (fun known => known.name = key.name) then
    draft
  else
    { draft with keys := draft.keys ++ [key] }

/-- Add a declared key. Its columns have to be there. -/
def mergeKey (table : String) (draft : Draft) (key : Key) : Traced SchemaError Draft :=
  match key.columns.find? (fun name => !hasColumn draft.columns name) with
  | some column => Traced.fail (.keyColumnNotFound table key.name key.kind column)
  | none =>
      if key.isPrimary then do
        if draft.columns.any ColumnDefinition.isPrimary then
          Traced.tell [.primaryKeyReplaced table key.name]
        return addKey (setPrimary draft key) key
      else
        return addKey draft key

/-- Put a foreign key on the first column of its name, in place of its namesakes there. -/
def putForeignKey (key : ForeignKey) : List ColumnDefinition → List ColumnDefinition
  | [] => []
  | column :: rest =>
      if column.name = key.column then
        let others := column.foreignKeys.filter (fun known => known.name != key.name)
        { column with foreignKeys := others ++ [key] } :: rest
      else
        column :: putForeignKey key rest

/-- Add a foreign key on a column that is not declared. It has to be there. -/
def mergeForeignKey (table : String) (columns : List ColumnDefinition) (key : ForeignKey) :
    Traced SchemaError (List ColumnDefinition) :=
  if hasColumn columns key.column then
    return putForeignKey key columns
  else
    Traced.fail (.keyColumnNotFound table key.name .foreign key.column)

/-- The table to make: what stays, together with what is declared. -/
def merge (table : String) (snapshot : Snapshot) (resolved : Resolved) (dropped : Dropped) :
    Traced SchemaError Draft := do
  match missingKey? snapshot dropped with
  | some drop => Traced.fail (.keyNotFound table drop.name drop.kind)
  | none => pure ()
  let columns ← Traced.sweep (mergeColumn table) (keptColumns snapshot dropped) resolved.columns
  let draft ← Traced.sweep (mergeKey table) ⟨columns, keptKeys snapshot dropped⟩ resolved.keys
  let columns ← Traced.sweep (mergeForeignKey table) draft.columns resolved.foreignKeys
  if columns.isEmpty then
    Traced.fail (.emptyTable table)
  return { draft with columns := columns }

/-! ## The statements -/

/-- The columns of the temporary table: those copied, with nothing but their types. -/
def copiedColumns (snapshot : Snapshot) (copied : List String) : List ColumnDefinition :=
  (snapshot.columns.filter (fun column => copied.contains column.name)).map
    (fun column => ColumnDefinition.plain column.name column.type.name)

/-- The statements that put a table in place of the live one. -/
def statements
    (dialect : Dialect)
    (table : String)
    (snapshot : Snapshot)
    (copied : List String)
    (draft : Draft) :
    List Statement :=
  let temporary := temporaryName table
  let renewed :=
    .dropTable table false :: Statement.createAll dialect table draft.columns draft.keys
  if copied.isEmpty then
    renewed
  else
    Statement.createAll dialect temporary (copiedColumns snapshot copied) [] ++
      .copyRows copied table temporary :: renewed ++
        [.copyRows copied temporary table, .dropTable temporary false]

/-- The statements that rebuild a live table, with what a blueprint adds and drops. -/
def plan
    (dialect : Dialect)
    (table : String)
    (snapshot : Snapshot)
    (resolved : Resolved)
    (dropped : Dropped) :
    Traced SchemaError (List Statement) := do
  let draft ← merge table snapshot resolved dropped
  let copied := (keptColumns snapshot dropped).map ColumnDefinition.name
  let planned := statements dialect table snapshot copied draft
  Traced.tell (planned.flatMap (Statement.notices dialect))
  return planned

end SchemaMigration.Rebuild
