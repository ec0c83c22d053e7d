import SchemaMigration.CommandLine.Invocation
import SchemaMigration.CommandLine.StatusReport
import SchemaMigration.Database.Duckdb
import SchemaMigration.Project.Scaffold

namespace SchemaMigration.CommandLine

/-!
# Running commands

A command works on files and on a database, and writes lines. What it wrote
before it failed stays written.
-/

/-- Why a command fails. -/
inductive Failure
  | usage (problem : UsageError)
  | scaffold (problem : ScaffoldError)
  /-- The configuration could not be loaded. -/
  | project (problem : ConfigError)
  /-- The migrations of a directory could not be opened. -/
  | opening (directory : String) (problem : MigrationError)
  /-- There is no database for the target. -/
  | target (problem : ConfigError)
  | connection (problem : DatabaseError)
  | migrating (problem : MigrationError)
  deriving DecidableEq

namespace Failure

/-- A message with that of its cause after it. -/
def withCause (message : String) (cause? : Option String) : String :=
  match cause? with
  | some cause => s!"{message}: {cause}"
  | none => message

/-- The wording of a failure. -/
def message : Failure → String
  | .usage problem => problem.message
  | .scaffold problem => problem.message
  | .project problem => "Failed to load project: " ++ withCause problem.message problem.cause?
  | .opening directory problem =>
      s!"Failed to open migrations in {directory}: " ++
        withCause problem.message problem.cause?
  | .target problem =>
      "Failed to get database configuration: " ++ withCause problem.message problem.cause?
  | .connection problem => "Failed to connect to database: " ++ problem.message
  | .migrating problem => withCause problem.message problem.cause?

/-- The exit code of a failure. -/
def code : Failure → Nat
  | .usage _ => 2
  | _ => 1

end Failure

/-- What a command works on, and what it wrote so far. -/
structure Console (σ : Type) where
  files : FileTree
  database : σ
  output : String

/-- A command: its value is the exit code. -/
abbrev Job (σ α : Type) : Type :=
  Action (Console σ) Failure α

namespace Console

variable {σ α ε : Type}

/-- Write lines. -/
def say (lines : List String) : Job σ Unit :=
  fun console =>
    ⟨{ console with output := console.output ++ String.join (lines.map (· ++ "\n")) }, [],
      .ok ()⟩

/-- Do something with the files. -/
def onFiles (action : Action FileTree ε α) : Action (Console σ) ε α :=
  Action.focus Console.files (fun console files => { console with files := files }) action

/-- Do something in the workspace of a migrator. -/
def inWorkspace (migrator : Migrator σ) (action : Action (Workspace σ) ε α) :
    Action (Console σ) ε α :=
  Action.focus (fun console => ⟨migrator, console.files, console.database⟩)
    (fun console workspace =>
      { console with files := workspace.files, database := workspace.database })
    action

end Console

open Console

variable {σ : Type}

/-! ## Projects -/

/-- Make a new project. -/
def runInit (name databasePath : String) : Job σ Nat := do
  Action.mapError .scaffold (onFiles (Scaffold.check name))
  say [s!"Creating new Experimentum project: {name}", ""]
  Action.mapError .scaffold (onFiles (Scaffold.make name databasePath))
  say [
    "  experimentum.yml", "  migrations/", "  .gitignore", "",
    "Next steps:", s!"  cd {name}", "  xm migrate make create_experiments_table",
    "  xm migrate up"]
  return 0

/-- A project with its migrations, opened. -/
structure OpenProject (σ : Type) where
  config : Config
  migrator : Migrator σ

/-- The root directory of the project. -/
def rootOf (options : GlobalOptions) : Place :=
  Place.ofPath options.projectDirectory

/-- The configuration of the project. -/
def loadConfig (options : GlobalOptions) (files : FileTree) : Except ConfigError Config :=
  match options.config with
  | some path => Config.load files (Place.ofPath path)
  | none => Config.loadFrom files (rootOf options)

/-- Load the project and open its migrations. -/
def openProject (options : GlobalOptions) : Job σ (OpenProject σ) := do
  let console ← Action.current
  let config ← Action.ofExcept ((loadConfig options console.files).mapError .project)
  let directory := (rootOf options).join config.migrations
  let migrator ← Action.mapError (.opening directory.label)
    (onFiles (Migrator.openIn directory))
  return ⟨config, migrator⟩

/-- Connect to the database of the project. -/
def connect
    (engine : Duckdb.Engine σ)
    (options : GlobalOptions)
    (environmentTarget : Option String)
    (config : Config) :
    Job σ (Store σ) := do
  let target := Config.chosenTarget options.target environmentTarget
  let database ← Action.ofExcept ((config.databaseFor target).mapError .target)
  let console ← Action.current
  Action.ofExcept ((Duckdb.openAt engine console.database
    (database.pathFrom options.projectDirectory)).mapError .connection)
  return ⟨Duckdb.backend engine, database.dialect⟩

/-! ## Migrations -/

/-- Show the state of the migrations. -/
def runStatus (options : GlobalOptions) (format : StatusFormat) (check : Bool) :
    Job σ Nat := do
  let project ← openProject options
  let (statuses, orphaned) ← Action.mapError .migrating
    (inWorkspace project.migrator (do
      let statuses ← Workspace.status
      let workspace ← Action.current
      return (statuses, workspace.migrator.orphaned)))
  match format with
  | .json => say [(StatusReport.json statuses orphaned).pretty]
  | .table => say (StatusReport.lines project.migrator.directory.label statuses orphaned)
  let pending := StatusReport.pendingCount statuses
  if check && 0 < pending then
    if format = .table then
      say (StatusReport.pendingLines pending)
    return 1
  else
    return 0

/-- The line about a step. -/
def stepLine (direction : Direction) (outcome : Workspace.Outcome) : String :=
  match direction, outcome with
  | .up, .ran id => s!"Migrated {id}"
  | .up, .nothingLeft => "Migrations are all up to date."
  | .up, .settled id => s!"Migration {id} is already applied."
  | .down, .ran id => s!"Reverted {id}"
  | .down, .nothingLeft => "There are no migrations to downgrade."
  | .down, .settled id => s!"Migration {id} is not applied."

/-- Run one migration. -/
def runStep
    (engine : Duckdb.Engine σ)
    (options : GlobalOptions)
    (environmentTarget : Option String)
    (direction : Direction)
    (selector? : Option String) :
    Job σ Nat := do
  let project ← openProject options
  let store ← connect engine options environmentTarget project.config
  let outcome ← Action.mapError .migrating
    (inWorkspace project.migrator (Workspace.step store direction selector?))
  say [stepLine direction outcome]
  return 0

/-- The lines about the migrations that ran in a refresh. -/
def refreshLines (report : Workspace.RefreshReport) : List String :=
  let upgrading :=
    if report.migrated.isEmpty then []
    else "" :: "--- Upgrading Migrations ---" ::
      report.migrated.map (fun id => stepLine .up (.ran id))
  report.reverted.map (fun id => stepLine .down (.ran id)) ++ upgrading

/-- Revert and apply every migration. -/
def runRefresh
    (engine : Duckdb.Engine σ)
    (options : GlobalOptions)
    (environmentTarget : Option String) :
    Job σ Nat := do
  let project ← openProject options
  let store ← connect engine options environmentTarget project.config
  say ["--- Downgrading Migrations ---"]
  match ← Action.attempt (inWorkspace project.migrator (Workspace.refresh store)) with
  | .error stopped =>
      say (refreshLines stopped.before)
      Action.fail (.migrating stopped.problem)
  | .ok report =>
      say (refreshLines report)
      if report.migrated.isEmpty then
        say ["", "--- Upgrading Migrations ---", stepLine .up .nothingLeft]
      return 0

/-- Make a new migration file. -/
def runMake (options : GlobalOptions) (now : Timestamp) (name : String) : Job σ Nat := do
  let project ← openProject options
  let place ← Action.mapError .migrating
    (inWorkspace project.migrator (Workspace.make name (Revision.ofTimestamp now)))
  let path := place.label
  say ["Migration created successfully!", s!"  {path}"]
  return 0

/-! ## Commands -/

/-- What a command is given besides its arguments. -/
structure Surroundings where
  now : Timestamp
  /-- The target that the environment names. -/
  target : Option String

/-- Carry out an invocation. -/
def perform (engine : Duckdb.Engine σ) (around : Surroundings) (invocation : Invocation) :
    Job σ Nat :=
  let options := invocation.options
  match invocation.command with
  | .init name databasePath => runInit name databasePath
  | .status format check => runStatus options format check
  | .up selector? => runStep engine options around.target .up selector?
  | .down selector? => runStep engine options around.target .down selector?
  | .refresh => runRefresh engine options around.target
  | .make name => runMake options around.now name

/-- Carry out what arguments ask for. -/
def run (engine : Duckdb.Engine σ) (around : Surroundings) (written : List String) :
    Job σ Nat := do
  let invocation ← Action.ofExcept ((Invocation.ofArguments written).mapError .usage)
  perform engine around invocation

end SchemaMigration.CommandLine
