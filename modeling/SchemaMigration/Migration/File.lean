import SchemaMigration.Migration.Basic
import SchemaMigration.Migration.Document
import SchemaMigration.Name

namespace SchemaMigration

/-!
# Migration files

A migration file is loaded as a whole: its name, its document and every
operation are checked before anything runs. The files of a directory are found
by their names; other files in it, and the directories below it, do not matter.
-/

/-- A migration that was loaded from a file. -/
structure MigrationFile where
  revision : Revision
  name : String
  entity : String
  place : Place
  up : List Migration.Operation
  down : List Migration.Operation

namespace MigrationFile

/-- What identifies the migration of a file. -/
def id (file : MigrationFile) : String :=
  Migration.stemOf file.revision file.name

/-- The revision and the name in a stem. -/
def identify (stem? : Option String) : Except MigrationFileFlaw (String × Revision × String) :=
  match stem? with
  | none => .error .nameNotText
  | some stem =>
      match Migration.splitStem stem with
      | none => .error .malformedName
      | some (digits, name) =>
          match Revision.parse digits with
          | .ok revision => .ok (stem, revision, name)
          | .error _ => .error .malformedName

/-- Check that a document declares no other revision than its file's name. -/
def checkRevision (document : Migration.Document) (revision : Revision) :
    Except MigrationFileFlaw Unit :=
  match document.revision with
  | none => .ok ()
  | some declared =>
      if declared.isFor revision then .ok ()
      else .error (.otherRevision declared.shown revision.text)

/-- Check every operation of a document. -/
def checkOperations (document : Migration.Document) : Except MigrationFileFlaw Unit :=
  (document.up ++ document.down).forM
    (fun operation => operation.check.mapError .invalidOperation)

/-- What is said when a document is about another entity than its file's name. -/
def entityNotices (stem name entity : String) : List Notice :=
  let expected := Name.pascalCase name
  if entity = expected then [] else [.entityMismatch stem entity expected]

/-- Load the file at a place whose stem is given, when the stem is a text. -/
def loadNamed (files : FileTree) (place : Place) (stem? : Option String) :
    Traced MigrationError MigrationFile := do
  let invalid (flaw : MigrationFileFlaw) : MigrationError := .invalidFile place.label flaw
  let (stem, revision, name) ← Traced.ofExcept ((identify stem?).mapError invalid)
  let content ← Traced.ofExcept ((files.read place).mapError (.inaccessible place.label))
  let document ← Traced.ofExcept ((Migration.Document.ofText content).mapError
    (fun problem => invalid (.malformedDocument problem)))
  Traced.ofExcept ((checkRevision document revision).mapError invalid)
  Traced.tell (entityNotices stem name document.entity)
  Traced.ofExcept ((checkOperations document).mapError invalid)
  return ⟨revision, name, document.entity, place, document.up, document.down⟩

/-- Load the file at a place. -/
def load (files : FileTree) (place : Place) : Traced MigrationError MigrationFile :=
  loadNamed files place (Migration.stem? place.label)

/-- Load the file to which a path of octets leads from a directory. -/
def loadOctets (files : FileTree) (directory : Place) (path : List Nat) :
    Traced MigrationError MigrationFile :=
  loadNamed files (directory.joinOctets path)
    (Migration.stemOfOctets? (Place.joinedOctets directory.label path))

variable {σ : Type}

/-- Run the operations of one direction. -/
def runHalf
    (id : String)
    (direction : Direction)
    (operations : List Migration.Operation)
    (store : Store σ) :
    Action σ SchemaError Unit := do
  if operations.isEmpty then
    Action.tell [.noOperations id direction.word]
  Migration.Operation.runAll store operations

/-- The migration in a file. -/
def migration (file : MigrationFile) : Migration σ where
  revision := file.revision
  name := file.name
  up := runHalf file.id .up file.up
  down := runHalf file.id .down file.down

/-! ## Directories -/

/-- The names of the migration files at a location, sorted. -/
def namesAt (files : FileTree) (location : Location) : List String :=
  ((files.names location).filter Migration.isFileName).mergeSort
    (fun first second => decide (first ≤ second))

/-- The places of the migration files of a directory, sorted by name. -/
def placesIn (files : FileTree) (directory : Place) : List Place :=
  match files.locate directory, Place.searched? directory.label with
  | .ok location, some written =>
      (namesAt files location).map (fun name =>
        ⟨Place.searchedEntry written name, directory.steps ++ [name]⟩)
  | _, _ => []

/-- Load every migration file of a directory, up to the first that is invalid. -/
def discover (files : FileTree) (directory : Place) :
    Traced MigrationError (List MigrationFile) :=
  Traced.each (load files) (placesIn files directory)

end MigrationFile

end SchemaMigration
