import SchemaMigration.Migration.Error
import SchemaMigration.Migration.FileName
import SchemaMigration.Name

namespace SchemaMigration.Migration.Template

/-!
# New migration files

The text of a migration file that does nothing yet, with hints how to go on.
-/

/-- The lines of a new migration file. -/
def lines (revision : Revision) (name : String) : List String :=
  let digits := revision.text
  let entity := Name.pascalCase name
  [ s!"# {digits}_{name}",
    s!"migration: {entity}",
    s!"revision: \x22{digits}\x22",
    "",
    "up: []",
    "  # - op: create",
    s!"  #   table: {name}",
    "  #   columns:",
    "  #     - \x7b name: id, type: increments \x7d",
    "  #   primary: id",
    "",
    "down: []",
    "  # - op: drop_if_exists",
    s!"  #   table: {name}" ]

/-- The text of a new migration file; its last line is not ended. -/
def render (revision : Revision) (name : String) : String :=
  Text.join "\n" (lines revision name)

/-- The place of the file of a new migration. -/
def place (directory : Place) (revision : Revision) (name : String) : Place :=
  directory.join (stemOf revision name ++ ".yml")

/-- Write a new migration file into a directory; what is there already is kept. -/
def write (files : FileTree) (directory : Place) (revision : Revision) (name : String) :
    Except MigrationError (Place × FileTree) :=
  let place := place directory revision name
  if files.contains place then
    .error (.fileExists place.label)
  else
    match files.write place (render revision name) with
    | .error problem => .error (.inaccessible place.label problem)
    | .ok written => .ok (place, written)

end SchemaMigration.Migration.Template
