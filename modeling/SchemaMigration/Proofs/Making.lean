import SchemaMigration.Migration.Workspace
import SchemaMigration.Proofs.Discovery

namespace SchemaMigration

/-!
# Making migrations

A new migration is written to a file, loaded from it and registered.  The file
is written before the registry is asked, so a name that another file or a
registered migration has already is refused only when the file is there.
-/

/-! ## Files that are added -/

namespace FileTree

/-- Whether a tree has one file more than another one, and nothing else is different. -/
structure Gains (before after : FileTree) (location : Location) (content : FileContent) :
    Prop where
  holds : after.holding? location = some (.file content)
  keeps : ∀ other, other ≠ location → after.holding? other = before.holding? other

theorem IsFree.gains
    {tree : FileTree}
    {place : Place}
    {location : Location}
    (free : tree.IsFree place location)
    (content : FileContent) :
    tree.Gains (tree.put location (.file content)) location content where
  holds := holding?_put_self tree (ne_nil_of_absent free.absent) _
  keeps _ different := holding?_put_of_ne tree different _

theorem IsFree.read_put
    {tree : FileTree}
    {place : Place}
    {location : Location}
    (free : tree.IsFree place location)
    (text : String) :
    (tree.put location (.file (.text text))).read place = .ok text := by
  have leads :=
    locate_of_sameDirectories (sameDirectories_put_of_absent free.absent (.text text)) free.leads
  have found :=
    find_eq_ok_iff.mpr
      ⟨location, leads, holding?_put_self tree (ne_nil_of_absent free.absent) _⟩
  rw [read, found]

end FileTree

namespace Migration.Template

variable
  {files : FileTree}
  {directory : Place}
  {revision : Revision}
  {name : String}

/-- The file of a new migration is written where nothing is. -/
theorem write_eq_ok
    {written : Place × FileTree}
    (succeeded : write files directory revision name = .ok written) :
    ∃ location,
      files.IsFree (place directory revision name) location ∧
        written =
          (place directory revision name,
            files.put location (.file (.text (render revision name)))) := by
  unfold write at succeeded
  dsimp only at succeeded
  split at succeeded
  · cases succeeded
  · rename_i notThere
    split at succeeded
    · cases succeeded
    · rename_i after wrote
      cases succeeded
      obtain ⟨location, leads, _, rfl⟩ := FileTree.write_eq_ok wrote
      refine ⟨location, ⟨leads, ?_⟩, rfl⟩
      cases held : files.holding? location with
      | none =>
          rfl
      | some _ =>
          simp [FileTree.contains, FileTree.find, leads, held] at notThere

theorem write_of_isFree
    {location : Location}
    (free : files.IsFree (place directory revision name) location) :
    write files directory revision name =
      .ok (place directory revision name,
        files.put location (.file (.text (render revision name)))) := by
  have notThere : files.contains (place directory revision name) = false := by
    simp [FileTree.contains, FileTree.find, free.leads, free.absent]
  have notDirectory : files.holding? location ≠ some .directory := by
    intro isDirectory
    rw [free.absent] at isDirectory
    cases isDirectory
  have wrote := FileTree.write_of_locate free.leads notDirectory (render revision name)
  simp only [write, notThere, wrote, Bool.false_eq_true, if_false]

theorem write_eq_error
    (occupied :
      ∀ location, ¬ files.IsFree (place directory revision name) location) :
    ∃ problem, write files directory revision name = .error problem := by
  cases wrote : write files directory revision name with
  | error problem =>
      exact ⟨problem, rfl⟩
  | ok written =>
      obtain ⟨location, free, _⟩ := write_eq_ok wrote
      exact absurd free (occupied location)

end Migration.Template

/-! ## Making -/

namespace Workspace

variable
  {workspace : Workspace σ}
  {name : String}
  {revision : Revision}

/-- The place of the file that is made for a name. -/
def madePlace (workspace : Workspace σ) (name : String) (revision : Revision) : Place :=
  Migration.Template.place workspace.migrator.directory revision (Name.sanitize name)

/-- What identifies the migration that is made for a name. -/
def madeId (name : String) (revision : Revision) : String :=
  Migration.stemOf revision (Name.sanitize name)

/-- The text of the file that is made for a name. -/
def madeText (name : String) (revision : Revision) : String :=
  Migration.Template.render revision (Name.sanitize name)

/-- A workspace with the file that is made for a name. -/
def withMade
    (workspace : Workspace σ)
    (name : String)
    (revision : Revision)
    (location : Location) :
    Workspace σ :=
  { workspace with
    files := workspace.files.put location (.file (.text (madeText name revision))) }

/-- A workspace with one more migration in its registry. -/
def withMigration (workspace : Workspace σ) (migration : Migration σ) : Workspace σ :=
  { workspace with
    migrator :=
      { workspace.migrator with
        migrations := Migrator.insertById migration workspace.migrator.migrations } }

theorem register_refuses
    {migration : Migration σ}
    (known : migration.id ∈ workspace.migrator.ids) :
    (register migration).Ends workspace (fun reached outcome =>
      reached = workspace ∧ outcome = .error (.duplicate migration.id)) := by
  unfold register
  simp only [Action.ends_bind, Action.ends_current, Action.ends_inspect, Migrator.register,
    List.contains_iff_mem, if_pos known, Traced.outcome_fail]
  exact ⟨trivial, trivial⟩

theorem register_adds
    {migration : Migration σ}
    (fresh : migration.id ∉ workspace.migrator.ids) :
    (register migration).Ends workspace (fun reached outcome =>
      reached = workspace.withMigration migration ∧ outcome = .ok ()) := by
  unfold register
  simp only [Action.ends_bind, Action.ends_current, Action.ends_inspect, Migrator.register,
    List.contains_iff_mem, if_neg fresh]
  exact ⟨rfl, rfl⟩

theorem make_refuses (noLetter : Name.sanitize name = "") :
    (make name revision).Ends workspace (fun reached outcome =>
      reached = workspace ∧ outcome = .error (.invalidName name)) := by
  have isEmpty : (Name.sanitize name).isEmpty = true := by
    simp [noLetter]
  unfold make
  dsimp only
  rw [if_pos isEmpty, Action.ends_bind]
  exact ⟨rfl, rfl⟩

section Lettered

variable (lettered : Name.sanitize name ≠ "")

include lettered

/-- For a name with a letter, the file is written, loaded and registered. -/
theorem make_ends_iff {post : Workspace σ → Except MigrationError Place → Prop} :
    (make name revision).Ends workspace post ↔
      (writeTemplate revision (Name.sanitize name)).Ends workspace (fun written outcome =>
        match outcome with
        | .error problem => post written (.error problem)
        | .ok place =>
            match (MigrationFile.load written.files place).outcome with
            | .error problem => post written (.error problem)
            | .ok file =>
                (register file.migration).Ends written (fun reached outcome =>
                  post reached (outcome.map (fun _ => place)))) := by
  have isNonempty : ¬ (Name.sanitize name).isEmpty = true := by
    simpa using lettered
  unfold make
  dsimp only
  rw [if_neg isNonempty, Action.ends_bind, Action.ends_inspect, Traced.outcome_tell,
    Action.ends_bind]
  dsimp only
  refine iff_of_eq
    (congrArg (Action.Ends _ workspace) (funext fun written => funext fun outcome => ?_))
  cases outcome with
  | error problem =>
      rfl
  | ok place =>
      dsimp only
      rw [Action.ends_bind, Action.ends_inspect]
      cases (MigrationFile.load written.files place).outcome with
      | error problem =>
          rfl
      | ok file =>
          dsimp only
          rw [Action.ends_bind]
          refine congrArg (Action.Ends _ written)
            (funext fun reached => funext fun outcome => ?_)
          cases outcome <;> rfl

theorem make_keeps
    (occupied : ∀ location, ¬ workspace.files.IsFree (workspace.madePlace name revision) location) :
    (make name revision).Ends workspace (fun reached outcome =>
      reached = workspace ∧ ∃ problem, outcome = .error problem) := by
  obtain ⟨problem, failed⟩ := Migration.Template.write_eq_error occupied
  rw [make_ends_iff lettered]
  unfold writeTemplate
  simp only [Action.ends_bind, Action.ends_current, failed, Action.ends_ofExcept]
  exact ⟨trivial, problem, rfl⟩

section Written

variable
  {location : Location}
  (free : workspace.files.IsFree (workspace.madePlace name revision) location)

include free

omit lettered in
theorem writeTemplate_ends :
    (writeTemplate revision (Name.sanitize name)).Ends workspace (fun reached outcome =>
      reached = workspace.withMade name revision location ∧
        outcome = .ok (workspace.madePlace name revision)) := by
  have wrote := Migration.Template.write_of_isFree free
  unfold writeTemplate
  simp only [Action.ends_bind, Action.ends_current, wrote, Action.ends_ofExcept,
    Action.ends_replace]
  exact ⟨rfl, rfl⟩

/-- A file that is not loaded stays where it was written. -/
theorem make_abandons
    {problem : MigrationError}
    (failed :
      (MigrationFile.load (workspace.withMade name revision location).files
        (workspace.madePlace name revision)).outcome = .error problem) :
    (make name revision).Ends workspace (fun reached outcome =>
      reached = workspace.withMade name revision location ∧ outcome = .error problem) := by
  rw [make_ends_iff lettered]
  refine (writeTemplate_ends free).imp ?_
  rintro written outcome ⟨rfl, rfl⟩
  simp only [failed]
  exact ⟨trivial, trivial⟩

/-- A migration that was loaded is registered unless another one is identified like it. -/
theorem make_registers
    {file : MigrationFile}
    (loaded :
      (MigrationFile.load (workspace.withMade name revision location).files
        (workspace.madePlace name revision)).outcome = .ok file) :
    (make name revision).Ends workspace (fun reached outcome =>
      if file.id ∈ workspace.migrator.ids then
        reached = workspace.withMade name revision location ∧
          outcome = .error (.duplicate file.id)
      else
        reached = (workspace.withMade name revision location).withMigration file.migration ∧
          outcome = .ok (workspace.madePlace name revision)) := by
  rw [make_ends_iff lettered]
  refine (writeTemplate_ends free).imp ?_
  rintro written outcome ⟨rfl, rfl⟩
  simp only [loaded]
  by_cases known : file.id ∈ workspace.migrator.ids
  · simp only [if_pos known]
    refine (register_refuses known).imp ?_
    rintro reached outcome ⟨rfl, rfl⟩
    exact ⟨rfl, rfl⟩
  · simp only [if_neg known]
    refine (register_adds known).imp ?_
    rintro reached outcome ⟨rfl, rfl⟩
    exact ⟨rfl, rfl⟩

end Written

end Lettered

/-! ## What is left behind -/

/-- Whether the file that is made for a name is there in addition, and nothing else differs. -/
def GainsMade (before after : Workspace σ) (name : String) (revision : Revision) : Prop :=
  ∃ location,
    before.files.IsFree (before.madePlace name revision) location ∧
      before.files.Gains after.files location (.text (madeText name revision))

theorem gainsMade_withMade
    {location : Location}
    (free : workspace.files.IsFree (workspace.madePlace name revision) location) :
    workspace.GainsMade (workspace.withMade name revision location) name revision :=
  ⟨location, free, free.gains _⟩

theorem GainsMade.changed
    {after : Workspace σ}
    (gains : workspace.GainsMade after name revision) :
    after ≠ workspace := by
  rintro rfl
  obtain ⟨location, free, gained⟩ := gains
  have holds := gained.holds
  rw [free.absent] at holds
  cases holds

theorem endsWith_madePlace
    (workspace : Workspace σ)
    (given : revision.Given)
    (snake : Name.IsSnake (Name.sanitize name).toList) :
    Place.EndsWith (workspace.madePlace name revision).label
      (madeId name revision ++ Migration.madeExtension) := by
  have joined := Place.join_name workspace.migrator.directory (Migration.isName_made given snake)
  have label :
      (workspace.madePlace name revision).label =
        Place.joined workspace.migrator.directory.label
          (madeId name revision ++ Migration.madeExtension) :=
    congrArg Place.label joined
  rw [label]
  exact Place.endsWith_joined _ _

/-- What is loaded from the file that is made for a name is identified by the name. -/
theorem id_of_made
    (given : revision.Given)
    (snake : Name.IsSnake (Name.sanitize name).toList)
    {files : FileTree}
    {file : MigrationFile}
    (loaded :
      (MigrationFile.load files (workspace.madePlace name revision)).outcome = .ok file) :
    file.id = madeId name revision := by
  have stem := MigrationFile.stem?_made snake given (workspace.endsWith_madePlace given snake)
  rw [MigrationFile.id_of_load loaded] at stem
  exact Option.some.inj stem

/-- How making a migration may end. -/
inductive MakeEnding (before : Workspace σ) (name : String) (revision : Revision) :
    Workspace σ → Except MigrationError Place → Prop
  | refused (problem : MigrationError) :
      MakeEnding before name revision before (.error problem)
  | abandoned {location : Location} (problem : MigrationError) :
      before.files.IsFree (before.madePlace name revision) location →
      MakeEnding before name revision (before.withMade name revision location) (.error problem)
  | made {location : Location} {migration : Migration σ} :
      before.files.IsFree (before.madePlace name revision) location →
      migration.id = madeId name revision →
      migration.id ∉ before.migrator.ids →
      MakeEnding before name revision
        ((before.withMade name revision location).withMigration migration)
        (.ok (before.madePlace name revision))

theorem make_ends
    (workspace : Workspace σ)
    (name : String)
    (given : revision.Given) :
    (make name revision).Ends workspace (workspace.MakeEnding name revision) := by
  by_cases noLetter : Name.sanitize name = ""
  · refine (make_refuses noLetter).imp ?_
    rintro reached outcome ⟨rfl, rfl⟩
    exact .refused _
  by_cases isFree : ∃ location, workspace.files.IsFree (workspace.madePlace name revision) location
  · obtain ⟨location, free⟩ := isFree
    have snake := Name.isSnake_sanitize noLetter
    cases loaded :
        (MigrationFile.load (workspace.withMade name revision location).files
          (workspace.madePlace name revision)).outcome with
    | error problem =>
        refine (make_abandons noLetter free loaded).imp ?_
        rintro reached outcome ⟨rfl, rfl⟩
        exact .abandoned _ free
    | ok file =>
        have sameId := id_of_made given snake loaded
        refine (make_registers noLetter free loaded).imp ?_
        intro reached outcome ends
        split at ends
        · obtain ⟨rfl, rfl⟩ := ends
          exact .abandoned _ free
        · rename_i fresh
          obtain ⟨rfl, rfl⟩ := ends
          exact .made free sameId fresh
  · refine (make_keeps noLetter (not_exists.mp isFree)).imp ?_
    rintro reached outcome ⟨rfl, problem, rfl⟩
    exact .refused problem

section Genuine

variable
  (genuine : revision.Genuine)
  (lettered : Name.sanitize name ≠ "")

/-- What the file that is made for a name is loaded as. -/
def madeFile (name : String) (revision : Revision) (place : Place) : MigrationFile :=
  ⟨revision, Name.sanitize name, Name.pascalCase (Name.sanitize name), place, [], []⟩

include genuine lettered

theorem load_madeFile
    {files : FileTree}
    {place : Place}
    (ends : Place.EndsWith place.label (madeId name revision ++ Migration.madeExtension))
    (holds : files.read place = .ok (madeText name revision)) :
    MigrationFile.load files place = ⟨[], .ok (madeFile name revision place)⟩ :=
  MigrationFile.load_made (Name.isSnake_sanitize lettered) genuine ends holds

/-- For a genuine revision, only what is registered already stands in the way of a new file. -/
theorem make_ends_of_isFree
    {location : Location}
    (free : workspace.files.IsFree (workspace.madePlace name revision) location) :
    (make name revision).Ends workspace (fun reached outcome =>
      if madeId name revision ∈ workspace.migrator.ids then
        reached = workspace.withMade name revision location ∧
          outcome = .error (.duplicate (madeId name revision))
      else
        reached =
            (workspace.withMade name revision location).withMigration
              (madeFile name revision (workspace.madePlace name revision)).migration ∧
          outcome = .ok (workspace.madePlace name revision)) := by
  have ends := workspace.endsWith_madePlace (.read genuine) (Name.isSnake_sanitize lettered)
  have loaded := load_madeFile genuine lettered ends (free.read_put (madeText name revision))
  exact make_registers lettered free (congrArg Traced.outcome loaded)

/-! ### Searching again -/

theorem isFileName_made :
    Migration.isFileName (madeId name revision ++ Migration.madeExtension) = true := by
  have snake := Name.isSnake_sanitize lettered
  have someName : Name.sanitize name ≠ "" :=
    lettered
  have hasExtension :
      Migration.hasExtension (madeId name revision ++ Migration.madeExtension) = true := by
    have isSuffix :
        Migration.madeExtension.toList.isSuffixOf
          (madeId name revision ++ Migration.madeExtension).toList = true := by
      rw [List.isSuffixOf_iff_suffix, String.toList_append]
      exact List.suffix_append _ _
    rw [Migration.hasExtension, List.any_eq_true]
    exact ⟨_, List.mem_cons_self, isSuffix⟩
  have stem := Migration.stemOf_append_extension
    (Migration.stemOf_ne_empty revision (Name.sanitize name))
  have split := Migration.splitStem_stemOf genuine someName (Name.IsSnake.oneLine snake)
  rw [Migration.isFileName, hasExtension, madeId, stem, split]
  rfl

section Found

variable
  {directory : Place}
  {files : FileTree}
  {location : Location}
  {written : String}
  (searched : Place.searched? directory.label = some written)

include searched

/-- The file that is made for a name is found beside the others in its directory. -/
theorem reads_made
    {ledger : Ledger}
    {found : List MigrationFile}
    (reads : Migrator.Reads directory files ledger found)
    (free :
      files.IsFree (directory.join (madeId name revision ++ Migration.madeExtension)) location) :
    ∃ place again,
      Migrator.Reads directory
          (files.put location (.file (.text (madeText name revision)))) ledger again ∧
        again.Perm (madeFile name revision place :: found) ∧
          MigrationFile.load (files.put location (.file (.text (madeText name revision)))) place =
            ⟨[], .ok (madeFile name revision place)⟩ := by
  have isName := Migration.isName_made (.read genuine) (Name.isSnake_sanitize lettered)
  obtain ⟨foundFree, start, leads, rfl⟩ :=
    MigrationFile.isFree_foundPlace searched isName free
  have loaded := load_madeFile genuine lettered (Place.endsWith_searchedEntry written _)
    (foundFree.read_put (madeText name revision))
  obtain ⟨again, readsAgain, moved⟩ :=
    reads.put leads searched free.absent (isFileName_made genuine lettered)
      (congrArg Traced.outcome loaded)
  exact ⟨_, again, readsAgain, moved, loaded⟩

/-- A directory in which a file was left behind is refused when it is opened again. -/
theorem openIn_refuses
    {migrator : Migrator σ}
    (opened : (Migrator.openIn directory files).outcome = .ok migrator)
    (known : madeId name revision ∈ migrator.ids)
    (free :
      (Migrator.openIn (σ := σ) directory files).state.IsFree
        (directory.join (madeId name revision ++ Migration.madeExtension)) location) :
    (Migrator.openIn directory).Ends
      ((Migrator.openIn (σ := σ) directory files).state.put location
        (.file (.text (madeText name revision))))
      (fun _ outcome => ∀ again : Migrator σ, outcome ≠ .ok again) := by
  obtain ⟨found, reads, distinct, isHolding⟩ := Migrator.reads_of_openIn opened
  obtain ⟨place, foundAgain, readsAgain, moved, _⟩ :=
    reads_made genuine lettered searched reads free
  have isFound : madeId name revision ∈ found.map MigrationFile.id := by
    rw [isHolding] at known
    exact (Migrator.perm_ids_holding _ _ distinct).mem_iff.mp known
  refine readsAgain.openIn_ends.imp ?_
  rintro reached outcome ⟨_, opens⟩ again openedAgain
  have distinctAgain := ((opens again).mp openedAgain).1
  rw [(moved.map MigrationFile.id).nodup_iff, List.map_cons, List.nodup_cons] at distinctAgain
  exact distinctAgain.1 isFound

end Found

end Genuine

/-- For a genuine revision, a failure leaves a file behind exactly for an identifier in use. -/
theorem make_leaves_iff
    (workspace : Workspace σ)
    (name : String)
    {revision : Revision}
    (genuine : revision.Genuine) :
    (make name revision).Ends workspace (fun reached outcome =>
      (∃ problem, outcome = .error problem ∧ reached ≠ workspace) ↔
        Name.sanitize name ≠ "" ∧
          (∃ location, workspace.files.IsFree (workspace.madePlace name revision) location) ∧
            madeId name revision ∈ workspace.migrator.ids) := by
  by_cases noLetter : Name.sanitize name = ""
  · refine (make_refuses noLetter).imp ?_
    rintro reached outcome ⟨rfl, rfl⟩
    simp [noLetter]
  by_cases isFree : ∃ location, workspace.files.IsFree (workspace.madePlace name revision) location
  · obtain ⟨location, free⟩ := isFree
    refine (make_ends_of_isFree genuine noLetter free).imp ?_
    intro reached outcome ends
    split at ends
    · rename_i known
      obtain ⟨rfl, rfl⟩ := ends
      have left := (gainsMade_withMade free).changed
      exact ⟨fun _ => ⟨noLetter, ⟨location, free⟩, known⟩, fun _ => ⟨_, rfl, left⟩⟩
    · rename_i fresh
      obtain ⟨rfl, rfl⟩ := ends
      simp [fresh]
  · refine (make_keeps noLetter (not_exists.mp isFree)).imp ?_
    rintro reached outcome ⟨rfl, _⟩
    simp [isFree]

/--
Making a migration that succeeds adds one file and one identifier.

Making one that fails changes nothing but may leave the new file behind: for a
genuine revision, exactly when a registered migration has what identifies the
new one, under a name with a letter, and no file is in the way.
-/
theorem make_adds_or_leaves
    (workspace : Workspace σ)
    (name : String)
    {revision : Revision}
    (given : revision.Given) :
    let ending := make name revision workspace
    (∀ place,
        ending.outcome = .ok place →
          place = workspace.madePlace name revision ∧
            workspace.GainsMade ending.state name revision ∧
              madeId name revision ∉ workspace.migrator.ids ∧
                ending.state.migrator.ids.Perm
                    (madeId name revision :: workspace.migrator.ids) ∧
                  ending.state.migrator.ledger = workspace.migrator.ledger ∧
                    ending.state.database = workspace.database) ∧
      (∀ problem,
        ending.outcome = .error problem →
          ending.state = workspace ∨
            ending.state.migrator = workspace.migrator ∧
              ending.state.database = workspace.database ∧
                workspace.GainsMade ending.state name revision) ∧
        (revision.Genuine →
          ((∃ problem, ending.outcome = .error problem ∧ ending.state ≠ workspace) ↔
            Name.sanitize name ≠ "" ∧
              (∃ location,
                workspace.files.IsFree (workspace.madePlace name revision) location) ∧
                madeId name revision ∈ workspace.migrator.ids)) := by
  intro ending
  have ends : workspace.MakeEnding name revision ending.state ending.outcome :=
    make_ends workspace name given
  refine ⟨?_, ?_, ?_⟩
  · intro place succeeded
    generalize ending.outcome = outcome at ends succeeded
    generalize ending.state = reached at ends
    cases ends with
    | refused problem =>
        cases succeeded
    | abandoned problem free =>
        cases succeeded
    | @made location migration free sameId fresh =>
        cases succeeded
        have moved :=
          (Migrator.perm_insertById migration workspace.migrator.migrations).map Migration.id
        rw [List.map_cons, sameId] at moved
        rw [sameId] at fresh
        exact ⟨rfl, gainsMade_withMade free, fresh, moved, rfl, rfl⟩
  · intro problem failed
    generalize ending.outcome = outcome at ends failed
    generalize ending.state = reached at ends
    cases ends with
    | refused problem =>
        exact .inl rfl
    | abandoned problem free =>
        exact .inr ⟨rfl, rfl, gainsMade_withMade free⟩
    | made free sameId fresh =>
        cases failed
  · exact make_leaves_iff workspace name

/-! ### A file with another extension -/

/-- A directory that holds a migration file whose extension is not the one of new files. -/
def clashingFiles : FileTree :=
  ⟨[(["m"], .directory),
    (["m", ".version"], .file (.text "")),
    (["m", "1_create_runs.yaml"],
      .file (.text "migration: CreateRuns\nup: []\ndown: []\n"))], []⟩

/-- A workspace on that directory, with its migration registered. -/
def clashing : Workspace Unit :=
  ⟨⟨⟨"m", ["m"]⟩, ⟨⟨"m", ["m"]⟩, []⟩, [.unimplemented ⟨"1"⟩ "create_runs"]⟩, clashingFiles, ()⟩

theorem sanitize_create_runs : Name.sanitize "create runs" = "create_runs" := by
  decide +kernel

theorem lettered_create_runs : Name.sanitize "create runs" ≠ "" := by
  rw [sanitize_create_runs]
  decide

theorem madeId_create_runs (revision : Revision) :
    madeId "create runs" revision = revision.text ++ "_create_runs" := by
  rw [madeId, sanitize_create_runs, Migration.stemOf, String.append_assoc]
  rfl

theorem genuine_first : (⟨"1"⟩ : Revision).Genuine := by
  unfold Revision.Genuine
  decide

theorem genuine_second : (⟨"2"⟩ : Revision).Genuine := by
  unfold Revision.Genuine
  decide

/-- The name of a registered migration leaves a file behind under its revision only. -/
theorem make_beside_other_extension :
    (∃ problem,
      (make "create runs" ⟨"1"⟩ clashing).outcome = .error problem ∧
        (make "create runs" ⟨"1"⟩ clashing).state ≠ clashing) ∧
      (make "create runs" ⟨"2"⟩ clashing).state.migrator.ids.Perm
        ["2_create_runs", "1_create_runs"] := by
  have firstFree :
      clashing.files.IsFree (clashing.madePlace "create runs" ⟨"1"⟩)
        ["m", "1_create_runs.yml"] := by
    rw [madePlace, sanitize_create_runs]
    exact ⟨rfl, rfl⟩
  have secondFree :
      clashing.files.IsFree (clashing.madePlace "create runs" ⟨"2"⟩)
        ["m", "2_create_runs.yml"] := by
    rw [madePlace, sanitize_create_runs]
    exact ⟨rfl, rfl⟩
  have known : madeId "create runs" ⟨"1"⟩ ∈ clashing.migrator.ids := by
    rw [madeId_create_runs]
    decide
  have fresh : madeId "create runs" ⟨"2"⟩ ∉ clashing.migrator.ids := by
    rw [madeId_create_runs]
    decide
  have left :=
    (make_adds_or_leaves clashing "create runs" (.read genuine_first)).2.2 genuine_first
  have made := make_ends_of_isFree genuine_second lettered_create_runs secondFree
  simp only [Action.Ends, if_neg fresh] at made
  have added := (make_adds_or_leaves clashing "create runs" (.read genuine_second)).1 _ made.2
  rw [madeId_create_runs] at added
  exact ⟨left.mpr ⟨lettered_create_runs, ⟨_, firstFree⟩, known⟩, added.2.2.2.1⟩

/-- What identifies the migrations of a directory, when it can be opened. -/
def idsIn (directory : Place) (files : FileTree) : Except MigrationError (List String) :=
  (Migrator.openIn directory files : Ending FileTree MigrationError (Migrator Unit)).outcome.map
    Migrator.ids

theorem opened_of_idsIn
    {directory : Place}
    {files : FileTree}
    {ids : List String}
    (openable : idsIn directory files = .ok ids) :
    ∃ migrator : Migrator Unit,
      (Migrator.openIn directory files).outcome = .ok migrator ∧
        migrator.ids = ids ∧
          migrator.directory = directory := by
  unfold idsIn at openable
  cases opened : (Migrator.openIn (σ := Unit) directory files).outcome with
  | error problem =>
      simp [opened, Except.map] at openable
  | ok migrator =>
      have sameIds : migrator.ids = ids := by
        simpa [opened, Except.map] using openable
      exact ⟨migrator, rfl, sameIds, Migrator.directory_of_openIn opened⟩

theorem opened_clashing :
    ∃ migrator : Migrator Unit,
      (Migrator.openIn ⟨"m", ["m"]⟩ clashingFiles).outcome = .ok migrator ∧
        migrator.ids = ["1_create_runs"] ∧
          migrator.directory = ⟨"m", ["m"]⟩ :=
  opened_of_idsIn (by decide +kernel)

theorem state_openIn_clashing :
    (Migrator.openIn (σ := Unit) ⟨"m", ["m"]⟩ clashingFiles).state = clashingFiles := by
  rfl

/-- A making that fails leaves a file behind with which the directory is refused from then on. -/
theorem failed_make_leaves_file :
    ∃ migrator : Migrator Unit,
      (Migrator.openIn ⟨"m", ["m"]⟩ clashingFiles).outcome = .ok migrator ∧
        (make "create runs" ⟨"1"⟩ ⟨migrator, clashingFiles, ()⟩).outcome =
            .error (.duplicate "1_create_runs") ∧
          clashingFiles.holding? ["m", "1_create_runs.yml"] = none ∧
            (make "create runs" ⟨"1"⟩ ⟨migrator, clashingFiles, ()⟩).state.files.holding?
                ["m", "1_create_runs.yml"] =
              some (.file (.text (madeText "create runs" ⟨"1"⟩))) ∧
              ∀ again : Migrator Unit,
                (Migrator.openIn ⟨"m", ["m"]⟩
                  (make "create runs" ⟨"1"⟩ ⟨migrator, clashingFiles, ()⟩).state.files).outcome ≠
                    .ok again := by
  obtain ⟨migrator, opened, ids, sameDirectory⟩ := opened_clashing
  have sameId : madeId "create runs" ⟨"1"⟩ = "1_create_runs" :=
    madeId_create_runs _
  have known : madeId "create runs" ⟨"1"⟩ ∈ migrator.ids := by
    rw [sameId, ids]
    exact List.mem_cons_self
  have free :
      clashingFiles.IsFree
        (Place.join ⟨"m", ["m"]⟩ (madeId "create runs" ⟨"1"⟩ ++ Migration.madeExtension))
        ["m", "1_create_runs.yml"] := by
    rw [sameId]
    exact ⟨rfl, rfl⟩
  have freeHere :
      (⟨migrator, clashingFiles, ()⟩ : Workspace Unit).files.IsFree
        ((⟨migrator, clashingFiles, ()⟩ : Workspace Unit).madePlace "create runs" ⟨"1"⟩)
        ["m", "1_create_runs.yml"] := by
    rw [madePlace, sameDirectory]
    exact free
  have left := make_ends_of_isFree genuine_first lettered_create_runs freeHere
  simp only [Action.Ends, if_pos known] at left
  obtain ⟨sameState, refused⟩ := left
  have searched : Place.searched? "m" = some "m" := by
    decide
  have closes := openIn_refuses genuine_first lettered_create_runs searched opened known
    (state_openIn_clashing ▸ free)
  rw [state_openIn_clashing] at closes
  refine ⟨migrator, opened, ?_, rfl, ?_, ?_⟩
  · rw [refused, sameId]
  · rw [sameState]
    exact (free.gains _).holds
  · rw [sameState]
    exact closes

end Workspace

end SchemaMigration
