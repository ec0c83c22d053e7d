import SchemaMigration.Effects.Action
import SchemaMigration.Migration.Ledger
import SchemaMigration.Project.Config

namespace SchemaMigration

/-!
# New projects

A new project is a directory with a configuration file, an empty directory of
migrations, and a list of files that version control should leave out.
-/

/-- Why a project cannot be made. -/
inductive ScaffoldError
  | invalidName (name : String)
  | directoryExists (name : String)
  | directoryNotMade (path : String) (problem : FileProblem)
  | fileNotWritten (name : String) (problem : FileProblem)
  deriving DecidableEq

/-- The wording of a scaffold error. -/
def ScaffoldError.message : ScaffoldError → String
  | .invalidName name =>
      s!"Invalid project name '{name}': " ++
        "must not contain '/', '\\', '..', or start with '.' or '-'"
  | .directoryExists name =>
      s!"Directory '{name}' already exists. Choose a different project name."
  | .directoryNotMade path problem =>
      let reason := problem.message
      s!"Failed to create directory: {path}: {reason}"
  | .fileNotWritten name problem =>
      let reason := problem.message
      s!"Failed to write {name}: {reason}"

namespace Scaffold

/-- Whether a name can be the name of a project and of its directory. -/
def allowsName (name : String) : Bool :=
  let characters := name.toList
  !(characters.contains '/' || characters.contains '\\' || Text.contains name ".." ||
    characters.head? = some '.' || characters.head? = some '-')

/-- A text between double quotes, in which double quotes are escaped. -/
def quoted (text : String) : String :=
  let escape (c : Char) : List Char := if c = '\x22' then ['\\', '\x22'] else [c]
  String.ofList ('\x22' :: text.toList.flatMap escape ++ ['\x22'])

/-- The lines of the configuration file of a new project. -/
def configLines (name databasePath : String) : List String :=
  [ "name: " ++ quoted name,
    "",
    "migrations:",
    "  path: migrations",
    "",
    "database:",
    "  type: duckdb",
    "  path: " ++ quoted databasePath,
    "",
    "# targets:",
    "#   test:",
    "#     database:",
    "#       type: duckdb",
    "#       path: \x22:memory:\x22" ]

/-- Lines that are each ended. -/
def ended (lines : List String) : String :=
  String.join (lines.map (fun line => line ++ "\n"))

/-- The configuration file of a new project. -/
def configText (name databasePath : String) : String :=
  ended (configLines name databasePath)

/-- The list of files that version control should leave out. -/
def ignoredText (databasePath : String) : String :=
  ended [databasePath, databasePath ++ ".wal"]

/-- Write a file of a new project. -/
def writeFile (place : Place) (name content : String) : Action FileTree ScaffoldError Unit := do
  let files ← Action.current
  let written ← Action.ofExcept
    ((files.write place content).mapError (.fileNotWritten name))
  Action.replace written

/-- Check that a project of a name can be made. -/
def check (name : String) : Action FileTree ScaffoldError Unit := do
  let files ← Action.current
  if !allowsName name then
    Action.fail (.invalidName name)
  else if files.contains (Place.ofPath name) then
    Action.fail (.directoryExists name)

/-- Make the directories and the files of a new project. -/
def make (name databasePath : String) : Action FileTree ScaffoldError Unit := do
  let directory := Place.ofPath name
  let migrations := directory.join Config.usualMigrations
  let files ← Action.current
  let (made, problem?) := files.makeDirectory migrations
  Action.replace made
  match problem? with
  | some problem => Action.fail (.directoryNotMade migrations.label problem)
  | none => pure ()
  writeFile (directory.join Config.fileName) Config.fileName
    (configText name databasePath)
  writeFile (migrations.join Ledger.fileName) ("migrations/" ++ Ledger.fileName) ""
  writeFile (directory.join ".gitignore") ".gitignore" (ignoredText databasePath)

end Scaffold

end SchemaMigration
