import SchemaMigration.Migration.File
import SchemaMigration.Migration.Ledger
import SchemaMigration.Migration.Template

namespace SchemaMigration

/-!
# Migrators

A migrator holds the migrations of a directory in ascending order of what
identifies them, and the ledger of those that are applied. Whether a migration
is applied is asked of the ledger each time.
-/

/-- Migrations in ascending order, with the ledger they are checked against. -/
structure Migrator (σ : Type) where
  directory : Place
  ledger : Ledger
  migrations : List (Migration σ)

/-- Whether a migration is applied. -/
inductive MigrationState
  | applied
  | pending
  deriving DecidableEq

namespace MigrationState

/-- What a state is called in data. -/
def name : MigrationState → String
  | .applied => "applied"
  | .pending => "pending"

/-- What a state is called in tables. -/
def title : MigrationState → String
  | .applied => "Applied"
  | .pending => "Pending"

end MigrationState

/-- The state of one migration. -/
structure MigrationStatus where
  id : String
  revision : Revision
  name : String
  state : MigrationState
  /-- The point in time that the revision writes, if it writes one. -/
  created : Option Timestamp
  deriving DecidableEq

namespace Migrator

variable {σ : Type}

/-! ## The registry -/

/-- What identifies the migrations, in order. -/
def ids (migrator : Migrator σ) : List String :=
  migrator.migrations.map Migration.id

/-- Put a migration before the first that does not come before it. -/
def insertById (migration : Migration σ) : List (Migration σ) → List (Migration σ)
  | [] => [migration]
  | first :: rest =>
      if first.id < migration.id then first :: insertById migration rest
      else migration :: first :: rest

/-- What is said when another migration has the revision of a new one. -/
def sharedRevisionNotices (migrator : Migrator σ) (migration : Migration σ) : List Notice :=
  match migrator.migrations.find? (fun known => known.revision = migration.revision) with
  | some known => [.sharedRevision known.id migration.id migration.revision.text]
  | none => []

/-- Add a migration. -/
def register (migrator : Migrator σ) (migration : Migration σ) :
    Traced MigrationError (Migrator σ) :=
  if migrator.ids.contains migration.id then
    Traced.fail (.duplicate migration.id)
  else do
    Traced.tell (migrator.sharedRevisionNotices migration)
    return { migrator with migrations := insertById migration migrator.migrations }

/-- The revisions in the ledger that no migration has. -/
def orphaned (migrator : Migrator σ) : List Revision :=
  migrator.ledger.applied.filter (fun revision =>
    !migrator.migrations.any (fun migration => migration.revision = revision))

/-- What is said about revisions that no migration has. -/
def orphanNotices (migrator : Migrator σ) : List Notice :=
  if migrator.orphaned.isEmpty then [] else [.orphaned (migrator.orphaned.map Revision.text)]

/-- Open a directory: its ledger and all its migration files. -/
def openIn (directory : Place) : Action FileTree MigrationError (Migrator σ) := do
  let files ← Action.current
  if !files.isDirectory directory then
    Action.fail (.directoryNotFound directory.label)
  let ledger ← Ledger.openIn directory
  Action.inspect (fun files => do
    let found ← MigrationFile.discover files directory
    let migrator ← Traced.sweep register ⟨directory, ledger, []⟩
      (found.map MigrationFile.migration)
    Traced.tell migrator.orphanNotices
    return migrator)

/-! ## The state of migrations -/

/-- Whether a migration is applied. -/
def isApplied (migrator : Migrator σ) (migration : Migration σ) : Bool :=
  migrator.ledger.contains migration.revision

/-- The state of a migration. -/
def stateOf (migrator : Migrator σ) (migration : Migration σ) : MigrationState :=
  if migrator.isApplied migration then .applied else .pending

/-- The state of every migration, in order. -/
def statuses (migrator : Migrator σ) : List MigrationStatus :=
  migrator.migrations.map (fun migration =>
    ⟨migration.id, migration.revision, migration.name, migrator.stateOf migration,
      migration.revision.timestamp?⟩)

/-! ## Choosing a migration -/

/-- The migration that a selector names, by what identifies it or else by its revision. -/
def select (migrator : Migrator σ) (selector : String) : Except MigrationError (Migration σ) :=
  let byId := migrator.migrations.find? (fun migration => migration.id = selector)
  let byRevision :=
    migrator.migrations.find? (fun migration => migration.revision.text = selector)
  match byId.or byRevision with
  | some migration => .ok migration
  | none => .error (.unknownMigration selector)

/-- Whether a migration can run in a direction: up when pending, down when applied. -/
def canRun (migrator : Migrator σ) (direction : Direction) (migration : Migration σ) : Bool :=
  match direction with
  | .up => !migrator.isApplied migration
  | .down => migrator.isApplied migration

/-- The next migration of a direction: the first pending or the last applied one. -/
def next? (migrator : Migrator σ) (direction : Direction) : Option (Migration σ) :=
  match direction with
  | .up => migrator.migrations.find? (migrator.canRun .up)
  | .down => migrator.migrations.reverse.find? (migrator.canRun .down)

/-- What there is to do in a direction. -/
inductive Choice (σ : Type)
  | run (migration : Migration σ)
  /-- The selected migration is where it should be. -/
  | settled (migration : Migration σ)
  | nothing

/-- Choose the selected migration, or the next one. -/
def choose (migrator : Migrator σ) (direction : Direction) (selector? : Option String) :
    Except MigrationError (Choice σ) :=
  match selector? with
  | some selector =>
      (migrator.select selector).map (fun migration =>
        if migrator.canRun direction migration then .run migration else .settled migration)
  | none => .ok ((migrator.next? direction).elim .nothing .run)

end Migrator

end SchemaMigration
