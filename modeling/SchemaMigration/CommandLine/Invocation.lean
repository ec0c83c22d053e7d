import SchemaMigration.CommandLine.Arguments

namespace SchemaMigration.CommandLine

/-!
# Invocations

What the command line is asked to do. Some options may be given to a command
or to any of the commands around it; the innermost one counts.
-/

/-- The options that every command has. -/
structure GlobalOptions where
  verbose : Bool
  projectDirectory : String
  config : Option String
  target : Option String
  deriving DecidableEq

/-- How the state of the migrations is shown. -/
inductive StatusFormat
  | table
  | json
  deriving DecidableEq

/-- What there is to do. -/
inductive Command
  | init (name databasePath : String)
  | status (format : StatusFormat) (check : Bool)
  | up (selector : Option String)
  | down (selector : Option String)
  | refresh
  | make (name : String)
  deriving DecidableEq

/-- A command with its options. -/
structure Invocation where
  options : GlobalOptions
  command : Command
  deriving DecidableEq

/-! ## Options -/

/-- The options that every command has. -/
def globalRules : List OptionRule := [
  ⟨"verbose", some 'v', false⟩, ⟨"project-dir", some 'p', true⟩,
  ⟨"config", some 'c', true⟩, ⟨"target", some 't', true⟩]

/-- The options of `init`. -/
def initRules : List OptionRule :=
  [⟨"database-path", none, true⟩]

/-- The options of `migrate status`. -/
def statusRules : List OptionRule :=
  [⟨"output", some 'o', true⟩, ⟨"check", none, false⟩]

/-- The options of `migrate up` and `migrate down`. -/
def stepRules : List OptionRule :=
  [⟨"migration", some 'm', true⟩]

namespace GlobalOptions

/-- The options that every command has, from those of all commands, innermost first. -/
def ofGiven (given : GivenOptions) : GlobalOptions where
  verbose := (given.lookup "verbose").isSome
  projectDirectory := (given.lookup "project-dir").getD "."
  config := given.lookup "config"
  target := given.lookup "target"

end GlobalOptions

namespace StatusFormat

/-- The format that a word names. -/
def ofWord (word : String) : Except UsageError StatusFormat :=
  match word with
  | "table" => .ok .table
  | "json" => .ok .json
  | _ => .error (.invalidValue "output" word)

end StatusFormat

namespace Invocation

/-! ## Commands -/

/-- The commands. -/
def commands : List String :=
  ["init", "migrate"]

/-- The commands inside `migrate`. -/
def migrateCommands : List String :=
  ["status", "up", "down", "refresh", "make"]

/-- The database path of a new project when none is given. -/
def usualDatabasePath : String :=
  "experimentum.duckdb"

/-- A command without inner ones: its options and what it is asked to do. -/
def leaf (rules : List OptionRule) (written : List String)
    (command : Arguments → Except UsageError Command) :
    Except UsageError (GivenOptions × Command) := do
  let arguments ← Arguments.read (globalRules ++ rules) [] written
  return (arguments.options, ← command arguments)

/-- The command `init`. -/
def initCommand (written : List String) : Except UsageError (GivenOptions × Command) :=
  leaf initRules written (fun arguments => do
    let name ← arguments.oneWord "NAME"
    return .init name ((arguments.options.lookup "database-path").getD usualDatabasePath))

/-- One of the commands inside `migrate`. -/
def migrateCommand (name : String) (written : List String) :
    Except UsageError (GivenOptions × Command) :=
  match name with
  | "status" => leaf statusRules written (fun arguments => do
      arguments.noWord
      let format ← StatusFormat.ofWord ((arguments.options.lookup "output").getD "table")
      return .status format (arguments.options.lookup "check").isSome)
  | "up" => leaf stepRules written (fun arguments => do
      arguments.noWord
      return .up (arguments.options.lookup "migration"))
  | "down" => leaf stepRules written (fun arguments => do
      arguments.noWord
      return .down (arguments.options.lookup "migration"))
  | "refresh" => leaf [] written (fun arguments => do
      arguments.noWord
      return .refresh)
  | _ => leaf [] written (fun arguments => do
      return .make (← arguments.oneWord "NAME"))

/-- The invocation that arguments write. -/
def ofArguments (written : List String) : Except UsageError Invocation := do
  let outer ← Arguments.read globalRules commands written
  match ← outer.command with
  | ("init", rest) => do
      let (given, command) ← initCommand rest
      return ⟨GlobalOptions.ofGiven (given ++ outer.options), command⟩
  | (_, rest) => do
      let middle ← Arguments.read globalRules migrateCommands rest
      let (name, rest) ← middle.command
      let (given, command) ← migrateCommand name rest
      return ⟨GlobalOptions.ofGiven (given ++ middle.options ++ outer.options), command⟩

end Invocation

end SchemaMigration.CommandLine
