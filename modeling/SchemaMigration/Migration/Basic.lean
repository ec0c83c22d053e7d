import SchemaMigration.Migration.Error
import SchemaMigration.Migration.FileName
import SchemaMigration.Schema.Store

namespace SchemaMigration

/-!
# Migrations

A migration is one change of a schema, identified by its revision and its name,
with a half for each direction.
-/

/-- A migration that can run on stores over states of type `σ`. -/
structure Migration (σ : Type) where
  revision : Revision
  name : String
  up : Store σ → Action σ SchemaError Unit
  down : Store σ → Action σ SchemaError Unit

namespace Migration

variable {σ : Type}

/-- What identifies a migration. -/
def id (migration : Migration σ) : String :=
  stemOf migration.revision migration.name

/-- The half of a migration that a direction names. -/
def half (migration : Migration σ) : Direction → Store σ → Action σ SchemaError Unit
  | .up => migration.up
  | .down => migration.down

/-- The half of a migration that does not implement a direction. -/
def missingHalf (id : String) (direction : Direction) (_ : Store σ) : Action σ SchemaError Unit :=
  Action.tell [.notImplemented id direction.word]

/-- A migration that implements neither direction. -/
def unimplemented (revision : Revision) (name : String) : Migration σ where
  revision := revision
  name := name
  up := missingHalf (stemOf revision name) .up
  down := missingHalf (stemOf revision name) .down

end Migration

end SchemaMigration
