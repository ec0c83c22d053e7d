import SchemaMigration.FileTree.Basic
import SchemaMigration.Schema.Error
import SchemaMigration.Yaml.Error

namespace SchemaMigration

/-!
# Migration errors

Why migrations cannot be found, recorded or run.
-/

/-- The half of a migration that runs. -/
inductive Direction
  | up
  | down
  deriving DecidableEq

namespace Direction

/-- The word for a direction. -/
def word : Direction → String
  | .up => "up"
  | .down => "down"

end Direction

/-- What is wrong with a migration file. -/
inductive MigrationFileFlaw
  | nameNotText
  | malformedName
  | malformedDocument (problem : Yaml.Error)
  /-- The revision in the file is not the one in its name. -/
  | otherRevision (declared revision : String)
  | invalidOperation (problem : SchemaError)
  deriving DecidableEq

/-- The wording of a flaw. -/
def MigrationFileFlaw.message : MigrationFileFlaw → String
  | .nameNotText => "file name is not valid UTF-8"
  | .malformedName => "file name must look like <revision>_<name>.yml"
  | .malformedDocument problem => problem.message
  | .otherRevision declared revision =>
      s!"declared revision {declared} does not match the file name revision {revision}"
  | .invalidOperation problem => problem.message

/-- Why something about migrations fails. -/
inductive MigrationError
  | directoryNotFound (path : String)
  | ledgerUnreadable (path : String) (problem : FileProblem)
  /-- An entry of the ledger is no revision. -/
  | ledgerCorrupt (path entry : String)
  | ledgerUnwritable (path : String) (problem : FileProblem)
  | invalidFile (path : String) (flaw : MigrationFileFlaw)
  /-- A migration stopped half way; the ledger was not changed. -/
  | failed (id : String) (direction : Direction) (problem : SchemaError)
  | unknownMigration (selector : String)
  /-- A name for a new migration has no letter. -/
  | invalidName (name : String)
  | fileExists (path : String)
  | duplicate (id : String)
  | inaccessible (path : String) (problem : FileProblem)
  deriving DecidableEq

namespace MigrationError

/-- The wording of a migration error. -/
def message : MigrationError → String
  | .directoryNotFound path => s!"[M001] Migrations directory not found: {path}"
  | .ledgerUnreadable path problem =>
      let reason := problem.message
      s!"[M002] Failed to read version ledger {path}: {reason}"
  | .ledgerCorrupt path entry =>
      s!"[M003] Version ledger {path} is corrupt: '{entry}' is not a revision"
  | .ledgerUnwritable path problem =>
      let reason := problem.message
      s!"[M004] Failed to write version ledger {path}: {reason}"
  | .invalidFile path flaw =>
      let reason := flaw.message
      s!"[M005] Invalid migration file {path}: {reason}"
  | .failed id direction problem =>
      let word := direction.word
      let reason := problem.message
      s!"[M006] Migration {id} failed while running {word}: {reason}"
  | .unknownMigration selector =>
      s!"[M007] Unknown migration '{selector}'. Run \x60xm migrate status\x60 to list migrations"
  | .invalidName name =>
      s!"[M008] Invalid migration name '{name}': name must contain at least one letter"
  | .fileExists path => s!"[M009] Migration file already exists: {path}"
  | .duplicate id => s!"[M011] Duplicate migration id '{id}'"
  | .inaccessible path problem =>
      let reason := problem.message
      s!"[M012] Failed to access '{path}': {reason}"

/-- The wording of what an error was caused by, when it wraps another error. -/
def cause? : MigrationError → Option String
  | .ledgerUnreadable _ problem | .ledgerUnwritable _ problem | .inaccessible _ problem =>
      some problem.message
  | .failed _ _ problem => some problem.message
  | _ => none

end MigrationError

end SchemaMigration
