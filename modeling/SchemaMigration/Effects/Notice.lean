import SchemaMigration.Text.Pieces

namespace SchemaMigration

/-!
# Notices

What planning and running report besides their results, each with its level
and its wording.
-/

/-- How much attention a notice asks for. -/
inductive Notice.Level
  | warning
  | info
  deriving DecidableEq

/-- Something reported on the way to a result. -/
inductive Notice
  /-- A column type was not recognised. -/
  | unknownType (name dialect fallback : String)
  /-- The dialect has no array type. -/
  | arrayStoredAs (dialect stored : String)
  /-- The dialect has no referential actions. -/
  | actionsIgnored (dialect foreignKey : String)
  /-- A foreign key over several columns is left out of a rebuild. -/
  | compositeForeignKey (table : String) (columns : List String)
  /-- A rebuild keeps a live column that was declared again. -/
  | columnKept (table column : String)
  /-- An alter skips a live column that was declared again. -/
  | columnSkipped (table column : String)
  /-- A rebuild puts another primary key in place of the live one. -/
  | primaryKeyReplaced (table key : String)
  /-- The table to create is there already. -/
  | tableExists (table : String)
  /-- A foreign key is on a column that the table does not declare. -/
  | undeclaredColumn (foreignKey column table : String)
  /-- A column to drop is not there. -/
  | columnMissing (table column : String)
  | creating (table : String)
  | altering (table : String)
  | renaming (source target : String)
  | dropping (table : String)
  | droppingIfExists (table : String)
  /-- The columns of an index could not be read from the catalog. -/
  | indexUnreadable (index table : String)
  /-- A migration file names another entity than its file name does. -/
  | entityMismatch (stem declared expected : String)
  /-- A migration file lists nothing to do in one direction. -/
  | noOperations (id direction : String)
  /-- A migration leaves out one direction. -/
  | notImplemented (id direction : String)
  /-- The ledger lists revisions that no migration carries. -/
  | orphaned (revisions : List String)
  /-- Two migrations carry one revision. -/
  | sharedRevision (earlier later revision : String)
  /-- A new migration takes a revision that is in use. -/
  | revisionInUse (revision : String)
  | alreadyApplied (id : String)
  | notApplied (id : String)
  | migrated (id : String)
  | reverted (id : String)
  | refreshMigrated (id : String)
  | refreshReverted (id : String)
  deriving DecidableEq

namespace Notice

/-- The level a notice is given at. -/
def level : Notice → Level
  | .unknownType .. | .arrayStoredAs .. | .actionsIgnored .. | .compositeForeignKey ..
  | .primaryKeyReplaced .. | .undeclaredColumn .. | .columnMissing .. | .indexUnreadable ..
  | .entityMismatch .. | .notImplemented .. | .orphaned .. | .sharedRevision ..
  | .revisionInUse .. => .warning
  | .columnKept .. | .columnSkipped .. | .tableExists .. | .creating .. | .altering ..
  | .renaming .. | .dropping .. | .droppingIfExists .. | .noOperations ..
  | .alreadyApplied .. | .notApplied .. | .migrated .. | .reverted .. | .refreshMigrated ..
  | .refreshReverted .. => .info

/-- The wording of a notice. -/
def text : Notice → String
  | .unknownType name dialect fallback =>
      s!"Unknown column type '{name}' for {dialect}; falling back to {fallback}"
  | .arrayStoredAs dialect stored =>
      s!"{dialect} has no array type; storing array column as {stored}"
  | .actionsIgnored dialect foreignKey =>
      s!"{dialect} does not support referential actions; " ++
        s!"ignoring them on foreign key {foreignKey}"
  | .compositeForeignKey table columns =>
      let listed := Text.join ", " columns
      s!"Composite foreign key on {table}({listed}) " ++
        "cannot be carried through a table rebuild; skipping it"
  | .columnKept table column => s!"Column {table}.{column} already exists; keeping it"
  | .columnSkipped table column => s!"Column {table}.{column} already exists; skipping"
  | .primaryKeyReplaced table key => s!"Replacing the primary key of {table} with {key}"
  | .tableExists table => s!"Table {table} already exists; skipping create"
  | .undeclaredColumn foreignKey column table =>
      s!"Foreign key {foreignKey} is on column {column} which {table} does not declare; " ++
        "adding it after the table"
  | .columnMissing table column => s!"Column {table}.{column} does not exist; not dropping it"
  | .creating table => s!"Creating table {table}"
  | .altering table => s!"Altering table {table}"
  | .renaming source target => s!"Renaming table {source} to {target}"
  | .dropping table => s!"Dropping table {table}"
  | .droppingIfExists table => s!"Dropping table {table} if it exists"
  | .indexUnreadable index table => s!"Could not determine columns of index {index} on {table}"
  | .entityMismatch stem declared expected =>
      s!"Migration {stem} declares entity '{declared}', expected '{expected}'"
  | .noOperations id direction => s!"Migration {id} has no {direction} operations"
  | .notImplemented id direction => s!"Migration {id} does not implement {direction}"
  | .orphaned revisions =>
      let listed := Text.join ", " revisions
      s!"Ledger lists revisions with no migration: {listed}"
  | .sharedRevision earlier later revision =>
      s!"Migrations {earlier} and {later} share revision {revision}; " ++
        "the ledger cannot tell them apart"
  | .revisionInUse revision =>
      s!"Revision {revision} is already used by another migration; " ++
        "ordering between them falls back to the name"
  | .alreadyApplied id => s!"Migration {id} is already applied"
  | .notApplied id => s!"Migration {id} is not applied"
  | .migrated id => s!"Migrated {id}"
  | .reverted id => s!"Reverted {id}"
  | .refreshMigrated id => s!"Refresh: migrated {id}"
  | .refreshReverted id => s!"Refresh: reverted {id}"

end Notice

end SchemaMigration
