import SchemaMigration.Project.Config
import SchemaMigration.Proofs.Outcomes

namespace SchemaMigration

/-!
# Configurations that are loaded

What a configuration that was loaded was read from.  The database of a target
never has a blank path, but the database that is used without one is not
checked: its path is blank where the file writes a blank one.
-/

open Yaml

/-! ## Reading -/

namespace DatabaseConfig

/-- The fields of a database in a configuration file. -/
def fields : List String :=
  ["type", "path"]

/-- A database is read field by field. -/
theorem ofTree_eq_ok
    {tree : Tree}
    {database : DatabaseConfig} :
    ofTree tree = .ok database ↔
      ∃ record,
        tree.record fields = .ok record ∧
          record.optionally "type" usual.dialect dialectOf = .ok database.dialect ∧
            record.optionally "path" usual.path Tree.text = .ok database.path := by
  unfold ofTree
  simp only [Outcome.bind_eq_ok]
  constructor
  · rintro ⟨record, isRecord, dialect, isDialect, path, isPath, returned⟩
    cases returned
    exact ⟨record, isRecord, isDialect, isPath⟩
  · rintro ⟨record, isRecord, isDialect, isPath⟩
    exact ⟨record, isRecord, _, isDialect, _, isPath, rfl⟩

end DatabaseConfig

namespace Config

/-- The fields of a configuration file. -/
def fields : List String :=
  ["name", "migrations", "database", "targets"]

/-- A configuration is read field by field. -/
theorem ofTree_eq_ok
    {tree : Tree}
    {config : Config} :
    ofTree tree = .ok config ↔
      ∃ record,
        tree.record fields = .ok record ∧
          record.required "name" Tree.text = .ok config.name ∧
            record.optionally "migrations" usualMigrations migrationsOf =
                .ok config.migrations ∧
              record.optionally "database" .usual DatabaseConfig.ofTree =
                  .ok config.database ∧
                record.optionally "targets" [] targetsOf = .ok config.targets := by
  unfold ofTree
  simp only [Outcome.bind_eq_ok]
  constructor
  · rintro ⟨record, isRecord, name, isName, migrations, areMigrations, database, isDatabase,
      targets, areTargets, returned⟩
    cases returned
    exact ⟨record, isRecord, isName, areMigrations, isDatabase, areTargets⟩
  · rintro ⟨record, isRecord, isName, areMigrations, isDatabase, areTargets⟩
    exact ⟨record, isRecord, _, isName, _, areMigrations, _, isDatabase, _, areTargets, rfl⟩

/-- A configuration is loaded from a file that can be read, when nothing is wrong with it. -/
theorem load_eq_ok
    {files : FileTree}
    {place : Place}
    {config : Config} :
    load files place = .ok config ↔
      ∃ text,
        files.read place = .ok text ∧
          ofText text = .ok config ∧
            config.flaw? = none := by
  unfold load
  cases found : files.find place with
  | error problem =>
      simp [FileTree.contains, FileTree.read, found]
  | ok entry =>
      have there : files.contains place = true := by
        rw [FileTree.contains, found]
      simp only [there, Bool.not_true, Bool.false_eq_true, if_false, Outcome.bind_eq_ok,
        Outcome.mapError_eq_ok]
      refine exists_congr fun text => and_congr_right fun _ => ?_
      constructor
      · rintro ⟨loaded, isLoaded, checked⟩
        split at checked
        · cases checked
        · rename_i fine
          cases checked
          exact ⟨isLoaded, fine⟩
      · rintro ⟨isLoaded, fine⟩
        refine ⟨config, isLoaded, ?_⟩
        rw [fine]
        rfl

/-! ## Paths of databases -/

/-- Whether a configuration file writes a path for the database that is used without a target. -/
def WritesPath (tree : Tree) (path : String) : Prop :=
  ∃ record part inner written,
    tree.record fields = .ok record ∧
      record.lookup "database" = some part ∧
        part.record DatabaseConfig.fields = .ok inner ∧
          inner.lookup "path" = some written ∧ written.text = .ok path

/-- Whether the database that is used without a target is the one of a target, or of none. -/
def FallsBack (config : Config) : Option String → Prop
  | none => True
  | some target => config.targets.lookup target = some none

theorem usualPath_visible : Text.isBlankText DatabaseConfig.usual.path = false := by
  decide

/-- The path of the database is the one that is written for it, or the usual one. -/
theorem path_of_ofTree
    {tree : Tree}
    {config : Config}
    (read : ofTree tree = .ok config) :
    WritesPath tree config.database.path ∨
      config.database.path = DatabaseConfig.usual.path ∧ ∀ path, ¬ WritesPath tree path := by
  obtain ⟨record, isRecord, _, _, isDatabase, _⟩ := ofTree_eq_ok.mp read
  unfold Record.optionally at isDatabase
  split at isDatabase
  · rename_i part isPart
    obtain ⟨inner, isInner, _, isPath⟩ := DatabaseConfig.ofTree_eq_ok.mp isDatabase
    unfold Record.optionally at isPath
    split at isPath
    · rename_i written isWritten
      exact .inl ⟨record, part, inner, written, isRecord, isPart, isInner, isWritten, isPath⟩
    · rename_i absent
      refine .inr ⟨(Except.ok.inj isPath).symm, ?_⟩
      rintro path ⟨_, _, _, _, alsoRecord, alsoPart, alsoInner, isWritten, _⟩
      cases isRecord.symm.trans alsoRecord
      cases isPart.symm.trans alsoPart
      cases isInner.symm.trans alsoInner
      cases absent.symm.trans isWritten
  · rename_i absent
    refine .inr ⟨by rw [← Except.ok.inj isDatabase], ?_⟩
    rintro path ⟨_, _, _, _, alsoRecord, isPart, _⟩
    cases isRecord.symm.trans alsoRecord
    cases absent.symm.trans isPart

/-- At most one path is written. -/
theorem WritesPath.unique
    {tree : Tree}
    {first second : String}
    (writes : WritesPath tree first)
    (alsoWrites : WritesPath tree second) :
    first = second := by
  obtain ⟨_, _, _, _, isRecord, isPart, isInner, isWritten, isPath⟩ := writes
  obtain ⟨_, _, _, _, alsoRecord, alsoPart, alsoInner, alsoWritten, alsoPath⟩ := alsoWrites
  cases isRecord.symm.trans alsoRecord
  cases isPart.symm.trans alsoPart
  cases isInner.symm.trans alsoInner
  cases isWritten.symm.trans alsoWritten
  exact Except.ok.inj (isPath.symm.trans alsoPath)

/-- The database has a blank path exactly when one is written for it. -/
theorem blank_path_iff_written
    {tree : Tree}
    {config : Config}
    (read : ofTree tree = .ok config) :
    Text.isBlankText config.database.path = true ↔
      ∃ path, WritesPath tree path ∧ Text.isBlankText path = true := by
  rcases path_of_ofTree read with writes | ⟨usual, writesNone⟩
  · constructor
    · intro blank
      exact ⟨_, writes, blank⟩
    · rintro ⟨path, alsoWrites, blank⟩
      rwa [writes.unique alsoWrites]
  · constructor
    · intro blank
      rw [usual, usualPath_visible] at blank
      cases blank
    · rintro ⟨path, writes, _⟩
      exact absurd writes (writesNone path)

/-- No target of a configuration without flaws has a database with a blank path. -/
theorem visible_of_flawless
    {config : Config}
    (fine : config.flaw? = none)
    {target : String}
    {database : DatabaseConfig}
    (held : config.targets.lookup target = some (some database)) :
    Text.isBlankText database.path = false := by
  have noneBlank : config.blankTarget? = none := by
    unfold flaw? at fine
    split at fine
    · cases fine
    · split at fine
      · cases fine
      · simpa using fine
  obtain ⟨before, after, shape, _⟩ := List.lookup_eq_some_iff.mp held
  have member : (target, some database) ∈ config.targets := by
    simp [shape]
  simp only [blankTarget?, Option.map_eq_none_iff, List.find?_eq_none] at noneBlank
  simpa using noneBlank _ member

/--
Choosing a database of a configuration that was loaded gives a blank path
exactly when the choice falls back to the database that is used without a
target, and the file writes a blank path for that.
-/
theorem blank_path_chosen_iff
    {files : FileTree}
    {place : Place}
    {config : Config}
    (loaded : load files place = .ok config)
    {target : Option String}
    {database : DatabaseConfig}
    (chosen : config.databaseFor target = .ok database) :
    Text.isBlankText database.path = true ↔
      config.FallsBack target ∧
        ∃ text tree path,
          files.read place = .ok text ∧
            Tree.ofText text = .ok tree ∧
              WritesPath tree path ∧ Text.isBlankText path = true := by
  obtain ⟨text, isText, isConfig, fine⟩ := load_eq_ok.mp loaded
  obtain ⟨tree, isTree, read⟩ := Outcome.bind_eq_ok.mp isConfig
  have blankBase :
      Text.isBlankText config.database.path = true ↔
        ∃ text tree path,
          files.read place = .ok text ∧
            Tree.ofText text = .ok tree ∧
              WritesPath tree path ∧ Text.isBlankText path = true := by
    rw [blank_path_iff_written read]
    constructor
    · rintro ⟨path, writes, blank⟩
      exact ⟨text, tree, path, isText, isTree, writes, blank⟩
    · rintro ⟨_, _, path, alsoText, alsoTree, writes, blank⟩
      cases isText.symm.trans alsoText
      cases isTree.symm.trans alsoTree
      exact ⟨path, writes, blank⟩
  rw [← blankBase]
  cases target with
  | none =>
      cases chosen
      simp [FallsBack]
  | some target =>
      cases held : config.targets.lookup target with
      | none =>
          simp [databaseFor, held] at chosen
      | some own =>
          cases own with
          | none =>
              simp only [databaseFor, held, Option.getD_none, Except.ok.injEq] at chosen
              simp [FallsBack, held, chosen]
          | some other =>
              simp only [databaseFor, held, Option.getD_some, Except.ok.injEq] at chosen
              have visible := visible_of_flawless fine held
              rw [chosen] at visible
              simp [FallsBack, held, visible]

/-- A configuration file with a blank path, and further lines. -/
def blankPathFiles (more : String) : FileTree :=
  ⟨[(["experimentum.yml"],
    .file (.text ("name: demo\ndatabase:\n  path: \"\"\n" ++ more)))], []⟩

/-- The lines of a target with a database of its own. -/
def targetLines : String :=
  "targets:\n  dev:\n    database:\n      path: dev.duckdb\n"

/-- The path of a target with a database of its own is not blank, although the other one is. -/
theorem own_path_chosen :
    let config : Config :=
      ⟨"demo", usualMigrations, ⟨.duckdb, ""⟩, [("dev", some ⟨.duckdb, "dev.duckdb"⟩)]⟩
    load (blankPathFiles targetLines) (.ofPath fileName) = .ok config ∧
      config.databaseFor (some "dev") = .ok ⟨.duckdb, "dev.duckdb"⟩ ∧
        ¬ Text.isBlankText "dev.duckdb" = true := by
  intro config
  have loaded : load (blankPathFiles targetLines) (.ofPath fileName) = .ok config := by
    decide +kernel
  have chosen : config.databaseFor (some "dev") = .ok ⟨.duckdb, "dev.duckdb"⟩ := by
    rfl
  refine ⟨loaded, chosen, ?_⟩
  rw [blank_path_chosen_iff loaded chosen]
  rintro ⟨fallsBack, _⟩
  cases fallsBack

/-- A configuration with a blank path is loaded, and the path is chosen without a target. -/
theorem blank_path_chosen :
    let config : Config := ⟨"demo", usualMigrations, ⟨.duckdb, ""⟩, []⟩
    load (blankPathFiles "") (.ofPath fileName) = .ok config ∧
      config.databaseFor none = .ok ⟨.duckdb, ""⟩ ∧ Text.isBlankText "" = true := by
  refine ⟨?_, rfl, rfl⟩
  decide +kernel

end Config

end SchemaMigration
