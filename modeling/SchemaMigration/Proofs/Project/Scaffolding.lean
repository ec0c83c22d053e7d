import SchemaMigration.CommandLine.Run
import SchemaMigration.Proofs.Project.ConfigLoading
import SchemaMigration.Proofs.Project.ConfigReading
import SchemaMigration.Proofs.RootedTree

namespace SchemaMigration

/-!
# New projects are loaded

Making a project puts five entries into the working directory, among them an
empty ledger, and nothing else is below the directory of migrations.  So that
directory is opened without a migration, and the configuration that is loaded
is what the configuration file is read as.
-/

/-! ## Entries of a tree -/

namespace FileTree

/-- A tree with further entries, of which an earlier one counts where two have one location. -/
def putAll (tree : FileTree) (entries : List (Location × FileEntry)) : FileTree :=
  entries.foldr (fun entry reached => reached.put entry.1 entry.2) tree

theorem holding?_putAll
    (tree : FileTree)
    {entries : List (Location × FileEntry)}
    (below : ∀ entry ∈ entries, entry.1 ≠ [])
    (location : Location) :
    (tree.putAll entries).holding? location =
      (entries.lookup location).or (tree.holding? location) := by
  induction entries with
  | nil =>
      rfl
  | cons entry rest inductionHypothesis =>
      obtain ⟨path, held⟩ := entry
      obtain ⟨pathBelow, restBelow⟩ := List.forall_mem_cons.mp below
      rw [putAll, List.foldr_cons, List.lookup_cons]
      by_cases same : location = path
      · subst same
        rw [holding?_put_self _ pathBelow, beq_self_eq_true]
        rfl
      · have different : (location == path) = false := by
          simpa using same
        rw [holding?_put_of_ne _ same, different]
        exact inductionHypothesis restBelow

/-- Steps that name entries lead to where they say. -/
theorem eq_of_follow_names
    {tree : FileTree}
    {start location : Location}
    {steps : List String}
    (named : ∀ step ∈ steps, Place.IsName step)
    (followed : tree.follow start steps = .ok location) :
    location = start ++ steps := by
  induction steps generalizing start with
  | nil =>
      cases followed
      exact (List.append_nil _).symm
  | cons step rest inductionHypothesis =>
      obtain ⟨stepNamed, restNamed⟩ := List.forall_mem_cons.mp named
      rw [← List.singleton_append, follow_append, Outcome.bind_eq_ok] at followed
      obtain ⟨next, here, later⟩ := followed
      rw [eq_of_follow_name stepNamed.named here] at later
      rw [inductionHypothesis restNamed later, List.append_assoc, List.singleton_append]

theorem eq_steps_of_locate
    {tree : FileTree}
    {place : Place}
    {location : Location}
    (named : ∀ step ∈ place.steps, Place.IsName step)
    (leads : tree.locate place = .ok location) :
    location = place.steps :=
  eq_of_follow_names named (locate_eq_ok_iff.mp leads).2

/-- A directory on the way that is made is made where nothing is. -/
theorem makeDirectories_cons_eq_ok
    {tree made : FileTree}
    {start : Location}
    {step : String}
    {rest : List String}
    (succeeded : tree.makeDirectories start (step :: rest) = (made, none)) :
    ∃ next,
      tree.follow start [step] = .ok next ∧
        (tree.holding? next = some .directory ∧
            tree.makeDirectories next rest = (made, none) ∨
          tree.holding? next = none ∧
            (tree.put next .directory).makeDirectories next rest = (made, none)) := by
  unfold makeDirectories at succeeded
  split at succeeded
  · cases succeeded
  · rename_i next followed
    refine ⟨next, followed, ?_⟩
    split at succeeded
    · rename_i isDirectory
      exact .inl ⟨isDirectory, succeeded⟩
    · cases succeeded
    · rename_i absent
      exact .inr ⟨absent, succeeded⟩

end FileTree

namespace Scaffold

/-! ## Names -/

/-- The name of a project has no backslash. -/
theorem noBackslash_of_allowsName
    {name : String}
    (allowed : allowsName name = true) :
    '\\' ∉ name.toList := by
  intro member
  simp [allowsName, member] at allowed

/-- A name that is allowed names an entry of the working directory, unless it is empty. -/
theorem isName_of_allowsName
    {name : String}
    (nonempty : name ≠ "")
    (allowed : allowsName name = true) :
    Place.IsName name where
  nonempty := nonempty
  moves := by
    rintro rfl
    revert allowed
    decide
  descends := by
    rintro rfl
    revert allowed
    decide
  single := by
    intro member
    simp [allowsName, member] at allowed

/-! ## Where everything is -/

/-- Where the configuration file of a new project is. -/
def configPlace (name : String) : Place :=
  (Place.ofPath name).join Config.fileName

/-- Where the migrations of a new project are. -/
def migrationsPlace (name : String) : Place :=
  (Place.ofPath name).join Config.usualMigrations

/-- The entries of a new project with their locations, those made last first. -/
def entriesOf (name databasePath : String) : List (Location × FileEntry) :=
  [ ([name, ".gitignore"], .file (.text (ignoredText databasePath))),
    ([name, Config.usualMigrations, Ledger.fileName], .file (.text "")),
    ([name, Config.fileName], .file (.text (configText name databasePath))),
    ([name, Config.usualMigrations], .directory),
    ([name], .directory) ]

theorem isName_configFile : Place.IsName Config.fileName :=
  ⟨by decide, by decide, by decide, by decide⟩

theorem isName_migrations : Place.IsName Config.usualMigrations :=
  ⟨by decide, by decide, by decide, by decide⟩

theorem isName_ledger : Place.IsName Ledger.fileName :=
  ⟨by decide, by decide, by decide, by decide⟩

theorem isName_ignored : Place.IsName ".gitignore" :=
  ⟨by decide, by decide, by decide, by decide⟩

theorem labelled_join
    (directory : Place)
    {file : String}
    (isFile : Place.IsName file) :
    (directory.join file).label.isEmpty = false := by
  rw [Place.join_name _ isFile, Bool.eq_false_iff]
  intro isEmpty
  have nothing : Place.joined directory.label file = "" := by
    simpa using isEmpty
  have short := (Place.endsWith_joined directory.label file).sublist
  rw [nothing] at short
  exact isFile.nonempty (String.toList_eq_nil_iff.mp (List.sublist_nil.mp short))

section Named

variable {name : String} (isName : Place.IsName name)

include isName

theorem labelled_ofPath : (Place.ofPath name).label.isEmpty = false :=
  isName.named.1

theorem steps_join_ofPath
    {file : String}
    (isFile : Place.IsName file) :
    ((Place.ofPath name).join file).steps = [name, file] := by
  rw [Place.join_name _ isFile, labelled_ofPath isName]
  simp [Place.ofPath, isName.stepsAlong_eq]

theorem locate_ofPath
    {files : FileTree}
    {file : String}
    (isFile : Place.IsName file)
    (fine : FileTree.pathProblem? ((Place.ofPath name).join file).label = none)
    {start : Location}
    (followed : files.follow [] [name] = .ok start) :
    files.locate (Place.ofPath name) = .ok start := by
  rw [Place.join_name _ isFile] at fine
  have nameFine : FileTree.pathProblem? (Place.ofPath name).label = none :=
    FileTree.pathProblem?_of_sublist (Place.sublist_joined _ isFile) fine
  rw [FileTree.locate_eq_ok_iff]
  refine ⟨nameFine, ?_⟩
  simpa [Place.ofPath, isName.stepsAlong_eq] using followed

theorem steps_ledgerPlace :
    ((migrationsPlace name).join Ledger.fileName).steps =
      [name, Config.usualMigrations, Ledger.fileName] := by
  rw [Place.join_name _ isName_ledger, migrationsPlace, labelled_join _ isName_migrations,
    steps_join_ofPath isName isName_migrations]
  rfl

end Named

/-! ## Making -/

/--
What making a project does to the files: its entries are put where nothing is,
and the configuration file and the ledger are where they should be.
-/
structure Makes (name databasePath : String) (before after : FileTree) : Prop where
  absent : before.holding? [name] = none
  entries : after = before.putAll (entriesOf name databasePath)
  configLeads : after.locate (configPlace name) = .ok [name, Config.fileName]
  ledgerLeads :
    after.locate ((migrationsPlace name).join Ledger.fileName) =
      .ok [name, Config.usualMigrations, Ledger.fileName]

/-- A project of a name can be made where the name is allowed and nothing is found there. -/
theorem check_ends
    (name : String)
    (files : FileTree) :
    (check name).Ends files (fun reached outcome =>
      reached = files ∧
        (outcome = .ok () →
          allowsName name = true ∧ files.contains (Place.ofPath name) = false)) := by
  simp only [check, Action.ends_bind, Action.ends_current]
  split
  · refine ⟨rfl, ?_⟩
    rintro ⟨⟩
  · rename_i allowed
    split
    · refine ⟨rfl, ?_⟩
      rintro ⟨⟩
    · rename_i free
      exact ⟨rfl, fun _ => ⟨by simpa using allowed, by simpa using free⟩⟩

/-- Writing a file of a project that succeeds puts it where its place says. -/
theorem writeFile_ends
    {place : Place}
    {steps : List String}
    (shape : place.steps = steps)
    (named : ∀ step ∈ steps, Place.IsName step)
    (name content : String)
    (files : FileTree) :
    (writeFile place name content).Ends files (fun reached outcome =>
      outcome = .ok () →
        files.locate place = .ok steps ∧
          FileTree.SameDirectories files reached ∧
            reached = files.put steps (.file (.text content))) := by
  subst shape
  simp only [writeFile, Action.ends_bind, Action.ends_current, Action.ends_ofExcept]
  cases wrote : files.write place content with
  | error problem =>
      rintro ⟨⟩
  | ok written =>
      obtain ⟨location, leads, notDirectory, rfl⟩ := FileTree.write_eq_ok wrote
      cases FileTree.eq_steps_of_locate named leads
      exact fun _ => ⟨leads, .put notDirectory _, rfl⟩

section Made

variable
  {files : FileTree}
  {name : String}
  (isName : Place.IsName name)
  (rooted : files.Rooted)
  (free : files.contains (Place.ofPath name) = false)

include isName free

/-- Nothing is where a project is made, if the name leads anywhere. -/
theorem absent_of_free
    {start : Location}
    (leads : files.locate (Place.ofPath name) = .ok start) :
    start = [name] ∧ files.holding? [name] = none := by
  have same : start = [name] := by
    have named : ∀ step ∈ (Place.ofPath name).steps, Place.IsName step := by
      simpa [Place.ofPath, isName.stepsAlong_eq] using isName
    rw [FileTree.eq_steps_of_locate named leads]
    exact isName.stepsAlong_eq
  refine ⟨same, ?_⟩
  unfold FileTree.contains FileTree.find at free
  rw [leads, same] at free
  cases held : files.holding? [name] with
  | none =>
      rfl
  | some entry =>
      simp [held] at free

include rooted

/-- The two directories of a project are made where nothing is. -/
theorem putAll_of_makeDirectory
    {made : FileTree}
    (makes : files.makeDirectory (migrationsPlace name) = (made, none)) :
    files.holding? [name] = none ∧
      made =
        files.putAll [([name, Config.usualMigrations], .directory), ([name], .directory)] := by
  unfold FileTree.makeDirectory at makes
  split at makes
  · cases makes
  rename_i fine
  split at makes
  · -- The directory would have to be there already.
    split at makes
    · rename_i entry found
      obtain ⟨location, leads, held⟩ := FileTree.find_eq_ok_iff.mp found
      obtain ⟨start, startLeads, rfl⟩ :=
        FileTree.locate_of_locate_join (labelled_ofPath isName) isName_migrations leads
      obtain ⟨rfl, absent⟩ := absent_of_free isName free startLeads
      rw [rooted.absent_below absent] at held
      cases held
    · cases makes
    · cases makes
  · rw [migrationsPlace, steps_join_ofPath isName isName_migrations] at makes
    obtain ⟨start, followed, makes⟩ := FileTree.makeDirectories_cons_eq_ok makes
    have leads := locate_ofPath isName isName_migrations fine followed
    obtain ⟨rfl, absent⟩ := absent_of_free isName free leads
    refine ⟨absent, ?_⟩
    obtain ⟨present, _⟩ | ⟨_, makes⟩ := makes
    · rw [absent] at present
      cases present
    obtain ⟨next, nextFollowed, makes⟩ := FileTree.makeDirectories_cons_eq_ok makes
    cases FileTree.eq_of_follow_name isName_migrations.named nextFollowed
    have nothing :
        (files.put [name] .directory).holding? [name, Config.usualMigrations] = none := by
      rw [FileTree.holding?_put_of_ne files (by simp)]
      exact rooted.absent_below absent [Config.usualMigrations]
    obtain ⟨present, _⟩ | ⟨_, makes⟩ := makes
    · rw [List.singleton_append, nothing] at present
      cases present
    · cases makes
      rfl

/-- Making a project that succeeds puts its entries where nothing is. -/
theorem make_ends (databasePath : String) :
    (make name databasePath).Ends files (fun reached outcome =>
      outcome = .ok () → Makes name databasePath files reached) := by
  have configSteps := steps_join_ofPath isName isName_configFile
  have configNamed : ∀ step ∈ [name, Config.fileName], Place.IsName step := by
    simpa using ⟨isName, isName_configFile⟩
  have ledgerSteps := steps_ledgerPlace isName
  have ledgerNamed :
      ∀ step ∈ [name, Config.usualMigrations, Ledger.fileName], Place.IsName step := by
    simpa using ⟨isName, isName_migrations, isName_ledger⟩
  have ignoredSteps := steps_join_ofPath isName isName_ignored
  have ignoredNamed : ∀ step ∈ [name, ".gitignore"], Place.IsName step := by
    simpa using ⟨isName, isName_ignored⟩
  simp only [make, Action.ends_bind, Action.ends_current, Action.ends_replace]
  cases makes : files.makeDirectory ((Place.ofPath name).join Config.usualMigrations) with
  | mk made problem? =>
  cases problem? with
  | some problem =>
      rintro ⟨⟩
  | none =>
  obtain ⟨absent, rfl⟩ := putAll_of_makeDirectory isName rooted free makes
  rw [Action.ends_bind]
  refine (writeFile_ends configSteps configNamed _ _ _).imp ?_
  rintro withConfig (_ | _) configured
  · rintro ⟨⟩
  obtain ⟨configLeads, configKeeps, rfl⟩ := configured rfl
  dsimp only
  rw [Action.ends_bind]
  refine (writeFile_ends ledgerSteps ledgerNamed _ _ _).imp ?_
  rintro withLedger (_ | _) listed
  · rintro ⟨⟩
  obtain ⟨ledgerLeads, ledgerKeeps, rfl⟩ := listed rfl
  refine (writeFile_ends ignoredSteps ignoredNamed _ _ _).imp ?_
  intro reached outcome ignores succeeded
  obtain ⟨_, ignoredKeeps, rfl⟩ := ignores succeeded
  refine ⟨absent, rfl, ?_, ?_⟩
  · exact FileTree.locate_of_sameDirectories
      ((configKeeps.trans ledgerKeeps).trans ignoredKeeps) configLeads
  · exact FileTree.locate_of_sameDirectories (ledgerKeeps.trans ignoredKeeps) ledgerLeads

end Made

/-! ## What is found -/

section Found

variable
  {before files : FileTree}
  {name databasePath : String}
  (made : Makes name databasePath before files)
  (rooted : before.Rooted)

include made

theorem holding?_of_makes (location : Location) :
    files.holding? location =
      ((entriesOf name databasePath).lookup location).or (before.holding? location) := by
  rw [made.entries]
  apply FileTree.holding?_putAll
  simp [entriesOf]

/-- The configuration file has the text that is written for the name and the path. -/
theorem read_configPlace :
    files.read (configPlace name) = .ok (configText name databasePath) := by
  have held :
      files.holding? [name, Config.fileName] =
        some (.file (.text (configText name databasePath))) := by
    rw [holding?_of_makes made]
    simp [entriesOf, List.lookup_cons, Config.fileName]
  rw [FileTree.read, FileTree.find_eq_ok_iff.mpr ⟨_, made.configLeads, held⟩]

theorem listedAt_ledger :
    Ledger.listedAt files [name, Config.usualMigrations, Ledger.fileName] = some [] := by
  have held :
      files.holding? [name, Config.usualMigrations, Ledger.fileName] =
        some (.file (.text "")) := by
    rw [holding?_of_makes made]
    simp [entriesOf, List.lookup_cons]
  rw [Ledger.listedAt, held]
  rfl

theorem locate_migrationsPlace :
    files.locate (migrationsPlace name) = .ok [name, Config.usualMigrations] := by
  obtain ⟨start, leads, shape⟩ :=
    FileTree.locate_of_locate_join (labelled_join _ isName_migrations) isName_ledger
      made.ledgerLeads
  have sameEnd :
      [name, Config.usualMigrations] ++ [Ledger.fileName] = start ++ [Ledger.fileName] :=
    shape
  rwa [List.append_cancel_right sameEnd]

theorem find_migrationsPlace :
    files.find (migrationsPlace name) = .ok .directory := by
  refine FileTree.find_eq_ok_iff.mpr ⟨_, locate_migrationsPlace made, ?_⟩
  rw [holding?_of_makes made]
  simp [entriesOf, List.lookup_cons, Config.usualMigrations, Config.fileName]

include rooted

/-- Nothing but the ledger is in the directory of migrations. -/
theorem eq_ledger_of_mem_names
    {file : String}
    (member : file ∈ files.names [name, Config.usualMigrations]) :
    file = Ledger.fileName := by
  have held := FileTree.holding_of_mem_names member
  by_contra other
  apply held
  have different : (file == Ledger.fileName) = false := by
    simpa using other
  have unlisted :
      (entriesOf name databasePath).lookup ([name, Config.usualMigrations] ++ [file]) = none := by
    simp [entriesOf, List.lookup_cons, different]
  have nothing : before.holding? ([name] ++ [Config.usualMigrations, file]) = none :=
    rooted.absent_below made.absent _
  rw [holding?_of_makes made, unlisted]
  exact nothing

theorem placesIn_migrationsPlace :
    MigrationFile.placesIn files (migrationsPlace name) = [] := by
  have noFile : Migration.isFileName Ledger.fileName = false := by
    decide
  have filtered :
      (files.names [name, Config.usualMigrations]).filter Migration.isFileName = [] := by
    rw [List.filter_eq_nil_iff]
    intro file member
    rw [eq_ledger_of_mem_names made rooted member, noFile]
    exact Bool.false_ne_true
  have noNames : MigrationFile.namesAt files [name, Config.usualMigrations] = [] := by
    rw [MigrationFile.namesAt, filtered, List.mergeSort_nil]
  rw [MigrationFile.placesIn, locate_migrationsPlace made]
  cases Place.searched? (migrationsPlace name).label with
  | none =>
      rfl
  | some written =>
      dsimp only
      rw [noNames]
      rfl

/-- The directory of migrations is opened without a migration and without an applied revision. -/
theorem openIn_migrationsPlace :
    (Migrator.openIn (migrationsPlace name) files).outcome =
      .ok (⟨migrationsPlace name, ⟨migrationsPlace name, []⟩, []⟩ : Migrator σ) := by
  have discovered :
      (MigrationFile.discover files (migrationsPlace name)).outcome = .ok [] := by
    rw [MigrationFile.discover, placesIn_migrationsPlace made rooted]
    rfl
  have reads :
      Migrator.Reads (migrationsPlace name) files ⟨migrationsPlace name, []⟩ [] :=
    ⟨find_migrationsPlace made,
      Ledger.openIn_of_listed made.ledgerLeads (listedAt_ledger made), discovered⟩
  exact (reads.openIn_ends.2 _).mpr ⟨List.nodup_nil, rfl⟩

end Found

end Scaffold

namespace CommandLine

open Console

namespace Console

variable {console : Console σ}

@[simp] theorem ends_say
    {lines : List String}
    {post : Console σ → Except Failure Unit → Prop} :
    (say lines).Ends console post ↔
      post
        { console with output := console.output ++ String.join (lines.map (· ++ "\n")) }
        (.ok ()) :=
  Iff.rfl

@[simp] theorem ends_onFiles
    {action : Action FileTree ε α}
    {post : Console σ → Except ε α → Prop} :
    (onFiles action).Ends console post ↔
      action.Ends console.files (fun files outcome =>
        post { console with files := files } outcome) :=
  Iff.rfl

end Console

/-- What a project that was made has gone through. -/
theorem runInit_ends
    (name databasePath : String)
    (console : Console σ) :
    (runInit name databasePath).Ends console (fun reached outcome =>
      ∀ code,
        outcome = .ok code →
          Scaffold.allowsName name = true ∧
            console.files.contains (Place.ofPath name) = false ∧
              (Scaffold.make name databasePath).Ends console.files (fun files made =>
                made = .ok () ∧ reached.files = files)) := by
  unfold runInit
  rw [Action.ends_bind, Action.ends_mapError, ends_onFiles]
  refine (Scaffold.check_ends name console.files).imp ?_
  rintro files (_ | _) ⟨rfl, checked⟩
  · rintro code ⟨⟩
  obtain ⟨allowed, free⟩ := checked rfl
  dsimp only [Except.mapError]
  rw [Action.ends_bind, ends_say]
  dsimp only
  rw [Action.ends_bind, Action.ends_mapError, ends_onFiles]
  dsimp only
  unfold Action.Ends
  cases (Scaffold.make name databasePath console.files).outcome with
  | error problem =>
      rintro code ⟨⟩
  | ok made =>
      exact fun code _ => ⟨allowed, free, rfl, rfl⟩

/--
Whether a new project is loaded as it was made: with its name and its database,
and with no migration and no applied revision.
-/
structure LoadsAsMade (files : FileTree) (name databasePath : String) : Prop where
  config :
    ∃ config,
      Config.load files (Scaffold.configPlace name) = .ok config ∧
        config.name = name ∧
          config.database.path = databasePath
  migrations :
    ∃ migrator : Migrator Unit,
      (Migrator.openIn (Scaffold.migrationsPlace name) files).outcome = .ok migrator ∧
        migrator.migrations = [] ∧
          migrator.ledger.applied = []

section Made

variable
  {console : Console σ}
  {name databasePath : String}
  (rooted : console.files.Rooted)
  {code : Nat}
  (made : (runInit name databasePath console).outcome = .ok code)

include made

theorem allowsName_of_runInit : Scaffold.allowsName name = true :=
  (runInit_ends name databasePath console code made).1

include rooted

/-- A project whose name is not empty is made with its entries where nothing is. -/
theorem makes_of_runInit (nonempty : name ≠ "") :
    Scaffold.Makes name databasePath console.files
      (runInit name databasePath console).state.files := by
  obtain ⟨allowed, free, succeeded, reached⟩ := runInit_ends name databasePath console code made
  have isName := Scaffold.isName_of_allowsName nonempty allowed
  rw [reached]
  exact Scaffold.make_ends isName rooted free databasePath succeeded

/-- The directory of migrations of a project whose name is not empty is opened empty. -/
theorem migrations_of_runInit (nonempty : name ≠ "") :
    ∃ migrator : Migrator Unit,
      (Migrator.openIn (Scaffold.migrationsPlace name)
          (runInit name databasePath console).state.files).outcome = .ok migrator ∧
        migrator.migrations = [] ∧
          migrator.ledger.applied = [] := by
  have makes := makes_of_runInit rooted made nonempty
  exact ⟨_, Scaffold.openIn_migrationsPlace makes rooted, rfl, rfl⟩

/-- A project is loaded as it was made where its name and its path are verbatim. -/
theorem loadsAsMade_of_verbatim
    (notBlank : Text.isBlankText name = false)
    (nameVerbatim : Yaml.Verbatim name.toList)
    (pathVerbatim : Yaml.Verbatim databasePath.toList) :
    LoadsAsMade (runInit name databasePath console).state.files name databasePath := by
  have nonempty : name ≠ "" := by
    rintro rfl
    cases notBlank
  have read := Scaffold.read_configPlace (makes_of_runInit rooted made nonempty)
  have isConfig := ConfigText.ofText_of_verbatim nameVerbatim pathVerbatim
  have fine :
      (⟨name, Config.usualMigrations, ⟨.duckdb, databasePath⟩, []⟩ : Config).flaw? = none := by
    have migrationsNotBlank : Text.isBlankText Config.usualMigrations = false := by
      decide
    simp [Config.flaw?, notBlank, migrationsNotBlank, Config.blankTarget?]
  have loaded := Config.load_eq_ok.mpr ⟨_, read, isConfig, fine⟩
  exact ⟨⟨_, loaded, rfl, rfl⟩, migrations_of_runInit rooted made nonempty⟩

/-- Only a verbatim name that is not blank and a verbatim path are loaded as they were given. -/
theorem verbatim_of_loadsAsMade
    (loads : LoadsAsMade (runInit name databasePath console).state.files name databasePath) :
    Text.isBlankText name = false ∧
      Yaml.Verbatim name.toList ∧
        Yaml.Verbatim databasePath.toList := by
  obtain ⟨config, loaded, sameName, samePath⟩ := loads.config
  obtain ⟨text, read, isConfig, fine⟩ := Config.load_eq_ok.mp loaded
  have notBlank : Text.isBlankText name = false := by
    rw [Config.flaw?, sameName] at fine
    split at fine
    · cases fine
    · rename_i notBlank
      exact Bool.eq_false_iff.mpr notBlank
  have nonempty : name ≠ "" := by
    rintro rfl
    cases notBlank
  rw [Scaffold.read_configPlace (makes_of_runInit rooted made nonempty)] at read
  cases read
  have noBackslash := Scaffold.noBackslash_of_allowsName (allowsName_of_runInit made)
  exact ⟨notBlank, ConfigText.verbatim_of_ofText noBackslash isConfig sameName samePath⟩

end Made

/--
A new project is loaded as it was made exactly where its name is not blank and
its name and its path are verbatim.

Its directory of migrations is opened without a migration and without an applied
revision in any case, unless the name is empty: then the directory is one of the
working directory, which need not be new.
-/
theorem new_project_loads_iff
    {console : Console σ}
    {name databasePath : String}
    (rooted : console.files.Rooted)
    (made : (runInit name databasePath console).outcome = .ok 0) :
    let files := (runInit name databasePath console).state.files
    (LoadsAsMade files name databasePath ↔
        Text.isBlankText name = false ∧
          Yaml.Verbatim name.toList ∧
            Yaml.Verbatim databasePath.toList) ∧
      (name ≠ "" →
        ∃ migrator : Migrator Unit,
          (Migrator.openIn (Scaffold.migrationsPlace name) files).outcome = .ok migrator ∧
            migrator.migrations = [] ∧
              migrator.ledger.applied = []) := by
  refine ⟨⟨verbatim_of_loadsAsMade rooted made, ?_⟩, migrations_of_runInit rooted made⟩
  rintro ⟨notBlank, nameVerbatim, pathVerbatim⟩
  exact loadsAsMade_of_verbatim rooted made notBlank nameVerbatim pathVerbatim

/-- An empty working directory. -/
def emptyConsole : Console Unit :=
  ⟨FileTree.empty, (), ""⟩

/-- A name with quotes and a path with blanks are loaded as they were given. -/
theorem quoted_project_loads :
    (runInit "my \"first\" project" "data/run 1.duckdb" emptyConsole).outcome = .ok 0 ∧
      LoadsAsMade
        (runInit "my \"first\" project" "data/run 1.duckdb" emptyConsole).state.files
        "my \"first\" project" "data/run 1.duckdb" := by
  have made :
      (runInit "my \"first\" project" "data/run 1.duckdb" emptyConsole).outcome = .ok 0 := by
    rfl
  refine ⟨made, (new_project_loads_iff FileTree.rooted_empty made).1.mpr ?_⟩
  exact ⟨by decide, by decide, by decide⟩

/-- A path with a backslash is written to a configuration file that is not loaded. -/
theorem backslash_path_not_loaded :
    (runInit "proj" "data\\dev.duckdb" emptyConsole).outcome = .ok 0 ∧
      ¬ LoadsAsMade (runInit "proj" "data\\dev.duckdb" emptyConsole).state.files
          "proj" "data\\dev.duckdb" := by
  have made : (runInit "proj" "data\\dev.duckdb" emptyConsole).outcome = .ok 0 := by
    rfl
  refine ⟨made, fun loads => ?_⟩
  obtain ⟨_, _, pathVerbatim⟩ := verbatim_of_loadsAsMade FileTree.rooted_empty made loads
  exact absurd pathVerbatim.noBackslash (by decide)

end CommandLine

end SchemaMigration
