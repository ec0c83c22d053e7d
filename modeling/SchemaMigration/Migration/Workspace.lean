import SchemaMigration.Migration.Migrator

namespace SchemaMigration

/-!
# Workspaces

A migrator at work beside the files and the database that its steps change. A
step runs one migration and records it in the ledger; a migration that fails is
not recorded, and what it had done to the database stays.
-/

/-- A migrator, the files around it, and the state of the database. -/
structure Workspace (σ : Type) where
  migrator : Migrator σ
  files : FileTree
  database : σ

namespace Workspace

variable {σ α : Type}

/-- The ledger of a workspace beside its files. -/
def ledgerSession (workspace : Workspace σ) : Ledger.Session :=
  ⟨workspace.migrator.ledger, workspace.files⟩

/-- Put the outcome of changing the ledger back. -/
def withLedgerSession (workspace : Workspace σ) (session : Ledger.Session) : Workspace σ :=
  { workspace with
    migrator := { workspace.migrator with ledger := session.ledger }
    files := session.files }

/-- Do something with the ledger. -/
def onLedger (action : Action Ledger.Session MigrationError α) :
    Action (Workspace σ) MigrationError α :=
  Action.focus ledgerSession withLedgerSession action

/-- Do something with the database. -/
def onDatabase (action : Action σ SchemaError α) : Action (Workspace σ) SchemaError α :=
  Action.focus Workspace.database (fun workspace database =>
    { workspace with database := database }) action

/-- Open the directory of the migrator again; if that fails, the migrator stays. -/
def reopen : Action (Workspace σ) MigrationError Unit :=
  fun workspace =>
    let ending := Migrator.openIn (σ := σ) workspace.migrator.directory workspace.files
    let kept := { workspace with files := ending.state }
    match ending.outcome with
    | .error problem => ⟨kept, ending.notices, .error problem⟩
    | .ok migrator => ⟨{ kept with migrator := migrator }, ending.notices, .ok ()⟩

/-- Add a migration to the migrator. -/
def register (migration : Migration σ) : Action (Workspace σ) MigrationError Unit := do
  let workspace ← Action.current
  let migrator ← Action.inspect (fun _ => workspace.migrator.register migration)
  Action.replace { workspace with migrator := migrator }

/-! ## Status -/

/-- The state of every migration by the ledger as it is on file. -/
def status : Action (Workspace σ) MigrationError (List MigrationStatus) := do
  onLedger Ledger.reload
  let workspace ← Action.current
  return workspace.migrator.statuses

/-! ## Steps -/

/-- How a step ends when nothing fails. -/
inductive Outcome
  /-- A migration ran and was recorded. -/
  | ran (id : String)
  /-- The selected migration was where it should be. -/
  | settled (id : String)
  /-- No migration was left to run. -/
  | nothingLeft
  deriving DecidableEq

/-- What is said about a selected migration that is where it should be. -/
def settledNotice (id : String) : Direction → Notice
  | .up => .alreadyApplied id
  | .down => .notApplied id

/-- What is said about a migration that ran. -/
def ranNotice (id : String) : Direction → Notice
  | .up => .migrated id
  | .down => .reverted id

/-- Record in the ledger that a migration ran. -/
def record (revision : Revision) : Direction → Action Ledger.Session MigrationError Unit
  | .up => Ledger.insert revision
  | .down => Ledger.remove revision

/-- Run one half of a migration and record it. -/
def run (store : Store σ) (direction : Direction) (migration : Migration σ) :
    Action (Workspace σ) MigrationError Unit := do
  Action.mapError (.failed migration.id direction)
    (onDatabase (migration.half direction store))
  onLedger (record migration.revision direction)
  Action.tell [ranNotice migration.id direction]

/-- Run the selected migration in a direction, or the next one. -/
def step (store : Store σ) (direction : Direction) (selector? : Option String) :
    Action (Workspace σ) MigrationError Outcome := do
  onLedger Ledger.reload
  let workspace ← Action.current
  match ← Action.ofExcept (workspace.migrator.choose direction selector?) with
  | .nothing => return .nothingLeft
  | .settled migration =>
      Action.tell [settledNotice migration.id direction]
      return .settled migration.id
  | .run migration =>
      run store direction migration
      return .ran migration.id

/-- Apply the selected migration, or the first pending one. -/
def up (store : Store σ) (selector? : Option String) :
    Action (Workspace σ) MigrationError Outcome :=
  step store .up selector?

/-- Revert the selected migration, or the last applied one. -/
def down (store : Store σ) (selector? : Option String) :
    Action (Workspace σ) MigrationError Outcome :=
  step store .down selector?

/-! ## Refresh -/

/-- The migrations that ran in a refresh, in the order they ran. -/
structure RefreshReport where
  reverted : List String
  migrated : List String
  deriving DecidableEq

/-- A failure on the way, with what ran before it. -/
structure Interruption (α : Type) where
  problem : MigrationError
  before : α

/-- What is said about a migration that ran in a refresh. -/
def refreshNotice (id : String) : Direction → Notice
  | .up => .refreshMigrated id
  | .down => .refreshReverted id

/--
Run steps in a direction until none is left, after those that ran already.

Each step moves one migration, so there are at most as many as migrations.
-/
def sweep (store : Store σ) (direction : Direction) :
    Nat → List String → Action (Workspace σ) (Interruption (List String)) (List String)
  | 0, ran => return ran
  | fuel + 1, ran => do
      match ← Action.attempt (step store direction none) with
      | .error problem => Action.fail ⟨problem, ran⟩
      | .ok (.ran id) =>
          Action.tell [refreshNotice id direction]
          sweep store direction fuel (ran ++ [id])
      | .ok _ => return ran

/-- Run every step that is left in a direction. -/
def runAll (store : Store σ) (direction : Direction) :
    Action (Workspace σ) (Interruption (List String)) (List String) := do
  let workspace ← Action.current
  sweep store direction (workspace.migrator.migrations.length + 1) []

/-- Revert every applied migration, then apply every migration. -/
def refresh (store : Store σ) :
    Action (Workspace σ) (Interruption RefreshReport) RefreshReport := do
  let reverted ← Action.mapError
    (fun stopped => ⟨stopped.problem, ⟨stopped.before, []⟩⟩) (runAll store .down)
  let migrated ← Action.mapError
    (fun stopped => ⟨stopped.problem, ⟨reverted, stopped.before⟩⟩) (runAll store .up)
  return ⟨reverted, migrated⟩

/-! ## New migrations -/

/-- What is said when a new migration takes a revision that is in use. -/
def revisionNotices (migrator : Migrator σ) (revision : Revision) : List Notice :=
  if migrator.migrations.any (fun migration => migration.revision = revision) then
    [.revisionInUse revision.text]
  else
    []

/-- Write the file of a new migration. -/
def writeTemplate (revision : Revision) (name : String) :
    Action (Workspace σ) MigrationError Place := do
  let workspace ← Action.current
  let (place, files) ← Action.ofExcept
    (Migration.Template.write workspace.files workspace.migrator.directory revision name)
  Action.replace { workspace with files := files }
  return place

/-- Make a migration file for a revision, load it and register its migration. -/
def make (name : String) (revision : Revision) :
    Action (Workspace σ) MigrationError Place := do
  let sanitized := Name.sanitize name
  if sanitized.isEmpty then
    Action.fail (.invalidName name)
  Action.inspect (fun workspace =>
    Traced.tell (revisionNotices workspace.migrator revision))
  let place ← writeTemplate revision sanitized
  let file ← Action.inspect (fun workspace => MigrationFile.load workspace.files place)
  register file.migration
  return place

end Workspace

end SchemaMigration
