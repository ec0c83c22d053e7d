import SchemaMigration.Dialect
import SchemaMigration.FileTree.Basic
import SchemaMigration.Yaml.Record

namespace SchemaMigration

/-!
# Project configuration

What a project's configuration file says: where the migrations are, which
database they are for, and which other databases there are to choose from.
-/

/-- A database that a project can be connected to. -/
structure DatabaseConfig where
  /-- The system that runs the database. -/
  dialect : Dialect
  path : String
  deriving DecidableEq

/-- A configuration. -/
structure Config where
  name : String
  migrations : String
  database : DatabaseConfig
  /-- The other databases by name; one without a database of its own has the usual one. -/
  targets : List (String × Option DatabaseConfig)
  deriving DecidableEq

/-! ## Errors -/

/-- Why a configuration is of no use. -/
inductive ConfigFlaw
  | emptyName
  | emptyMigrations
  | emptyTargetPath (target : String)
  | unknownTarget (target : String) (available : List String)
  deriving DecidableEq

/-- The wording of a flaw. -/
def ConfigFlaw.message : ConfigFlaw → String
  | .emptyName => "Project name cannot be empty"
  | .emptyMigrations => "migrations.path cannot be empty"
  | .emptyTargetPath target => s!"Target '{target}' has an empty database path"
  | .unknownTarget target available =>
      let listed := Text.join ", " available
      s!"Target '{target}' not found. Available targets: {listed}"

/-- Why there is no configuration, or not the part of it that was asked for. -/
inductive ConfigError
  | notFound (path : String)
  | malformed (path : String) (problem : Yaml.Error)
  | invalid (flaw : ConfigFlaw)
  | inaccessible (path : String) (problem : FileProblem)
  deriving DecidableEq

namespace ConfigError

/-- The wording of a configuration error. -/
def message : ConfigError → String
  | .notFound path => s!"[E001] Config file not found: {path}"
  | .malformed path problem =>
      let reason := problem.message
      s!"[E002] Failed to parse config {path}: {reason}"
  | .invalid flaw =>
      let reason := flaw.message
      s!"[E003] Invalid config: {reason}"
  | .inaccessible path problem =>
      let reason := problem.message
      s!"[E007] Failed to access '{path}': {reason}"

/-- The wording of what an error was caused by, when it wraps another error. -/
def cause? : ConfigError → Option String
  | .inaccessible _ problem => some problem.message
  | _ => none

end ConfigError

/-! ## Databases -/

namespace DatabaseConfig

/-- The path that stands for a database in memory. -/
def memory : String :=
  ":memory:"

/-- The database of a project that names none. -/
def usual : DatabaseConfig :=
  ⟨.duckdb, "experimentum.duckdb"⟩

/-- Whether a database is in memory. -/
def isInMemory (database : DatabaseConfig) : Bool :=
  database.path = memory

/-- The path of a database of a project below a root directory. -/
def pathFrom (database : DatabaseConfig) (root : String) : String :=
  if database.isInMemory || Place.isAbsolute database.path then database.path
  else Place.joined root database.path

open Yaml

/-- The system that a word or a tag names. -/
def dialectOf : Tree → Except Yaml.Error Dialect
  | .scalar tag text isPlain =>
      let isNothing := isPlain && (text.isEmpty || isNullWord text)
      let isKnown :=
        match tag.bind Tag.localText? with
        | some name => name = "!duckdb" && isNothing
        | none => text = "duckdb"
      if isKnown then .ok .duckdb else .error (.shapeExpected "duckdb")
  | _ => .error (.shapeExpected "the name of a database system")

/-- A database in a configuration file. -/
def ofTree (tree : Tree) : Except Yaml.Error DatabaseConfig := do
  let record ← tree.record ["type", "path"]
  return {
    dialect := ← record.optionally "type" usual.dialect dialectOf
    path := ← record.optionally "path" usual.path Tree.text }

end DatabaseConfig

namespace Config

open Yaml

/-! ## Reading -/

/-- The name of a configuration file. -/
def fileName : String :=
  "experimentum.yml"

/-- The names under which a configuration file is looked for. -/
def fileNames : List String :=
  [fileName, "experimentum.yaml"]

/-- The directory of migrations of a project that names none. -/
def usualMigrations : String :=
  "migrations"

/-- The directory of migrations in a configuration file. -/
def migrationsOf (tree : Tree) : Except Yaml.Error String := do
  let record ← tree.record ["path"]
  record.optionally "path" usualMigrations Tree.text

/-- The database of a target in a configuration file. -/
def targetOf (tree : Tree) : Except Yaml.Error (Option DatabaseConfig) := do
  let record ← tree.record ["database"]
  record.optionally "database" none (Tree.optional DatabaseConfig.ofTree)

/-- Targets of which a later one takes the place of an earlier one of its name. -/
def putTarget (targets : List (String × Option DatabaseConfig))
    (target : String × Option DatabaseConfig) : List (String × Option DatabaseConfig) :=
  targets.filter (fun known => known.1 != target.1) ++ [target]

/-- The targets in a configuration file. -/
def targetsOf (tree : Tree) : Except Yaml.Error (List (String × Option DatabaseConfig)) := do
  let read ← (← tree.entries).mapM (fun (name, target) => do return (name, ← targetOf target))
  return read.foldl putTarget []

/-- The configuration that a tree holds. -/
def ofTree (tree : Tree) : Except Yaml.Error Config := do
  let record ← tree.record ["name", "migrations", "database", "targets"]
  return {
    name := ← record.required "name" Tree.text
    migrations := ← record.optionally "migrations" usualMigrations migrationsOf
    database := ← record.optionally "database" DatabaseConfig.usual DatabaseConfig.ofTree
    targets := ← record.optionally "targets" [] targetsOf }

/-- The configuration that a text holds. -/
def ofText (text : String) : Except Yaml.Error Config := do
  ofTree (← Tree.ofText text)

/-- The first target whose database has a blank path. -/
def blankTarget? (config : Config) : Option String :=
  (config.targets.find? (fun target =>
    target.2.any (fun database => Text.isBlankText database.path))).map Prod.fst

/-- What is wrong with a configuration, if anything is. -/
def flaw? (config : Config) : Option ConfigFlaw :=
  if Text.isBlankText config.name then some .emptyName
  else if Text.isBlankText config.migrations then some .emptyMigrations
  else config.blankTarget?.map .emptyTargetPath

/-- Load the configuration file at a place. -/
def load (files : FileTree) (place : Place) : Except ConfigError Config :=
  if !files.contains place then
    .error (.notFound place.label)
  else do
    let text ← (files.read place).mapError (.inaccessible place.label)
    let config ← (ofText text).mapError (.malformed place.label)
    match config.flaw? with
    | some flaw => throw (.invalid flaw)
    | none => return config

/-- Load the configuration file of a directory. -/
def loadFrom (files : FileTree) (directory : Place) : Except ConfigError Config :=
  match (fileNames.map directory.join).find? files.contains with
  | some place => load files place
  | none => .error (.notFound (directory.join fileName).label)

/-! ## Choosing a database -/

/-- The names of the targets, sorted. -/
def available (config : Config) : List String :=
  (config.targets.map Prod.fst).mergeSort (fun first second => decide (first ≤ second))

/-- The database of a target, or the usual one. -/
def databaseFor (config : Config) : Option String → Except ConfigError DatabaseConfig
  | none => .ok config.database
  | some target =>
      match config.targets.lookup target with
      | some database => .ok (database.getD config.database)
      | none => .error (.invalid (.unknownTarget target config.available))

/-- The target that is asked for: a given one before the one of the environment. -/
def chosenTarget (given environment : Option String) : Option String :=
  (given.or environment).filter (fun target => !target.isEmpty)

/-- The directory of migrations of a project below a root directory. -/
def migrationsFrom (config : Config) (root : String) : String :=
  Place.joined root config.migrations

end Config

end SchemaMigration
