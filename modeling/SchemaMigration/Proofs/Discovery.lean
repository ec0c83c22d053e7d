import Mathlib.Data.List.Perm.Basic
import SchemaMigration.Migration.Migrator
import SchemaMigration.Proofs.Ledger.Handles
import SchemaMigration.Proofs.Loading
import SchemaMigration.Proofs.Registry

namespace SchemaMigration

/-!
# Directories that gain a file

A directory can be opened when its ledger and its migration files can be read
and no two files share what identifies them.  One more migration file is found
beside the others, which are loaded as before.
-/

/-! ## Files that are added -/

namespace FileTree

theorem find_eq_ok_iff
    {tree : FileTree}
    {place : Place}
    {entry : FileEntry} :
    tree.find place = .ok entry ↔
      ∃ location, tree.locate place = .ok location ∧ tree.holding? location = some entry := by
  unfold find
  cases leads : tree.locate place with
  | error _ =>
      simp
  | ok location =>
      cases held : tree.holding? location <;> simp [held]

theorem isDirectory_iff
    {tree : FileTree}
    {place : Place} :
    tree.isDirectory place = true ↔ tree.find place = .ok .directory := by
  unfold isDirectory
  split
  · rename_i found
    simp [found]
  · rename_i other
    simpa using other

/-- Whether a place leads to a location where nothing is. -/
structure IsFree (tree : FileTree) (place : Place) (location : Location) : Prop where
  leads : tree.locate place = .ok location
  absent : tree.holding? location = none

section Absent

variable
  {tree : FileTree}
  {location : Location}
  (absent : tree.holding? location = none)
  (content : FileContent)

include absent

theorem ne_nil_of_absent : location ≠ [] := by
  rintro rfl
  cases absent

theorem sameDirectories_put_of_absent :
    SameDirectories tree (tree.put location (.file content)) := by
  apply SameDirectories.put
  rw [absent]
  exact nofun

/-- What was found at a place before is found there still. -/
theorem find_put_of_find
    {place : Place}
    {entry : FileEntry}
    (found : tree.find place = .ok entry) :
    (tree.put location (.file content)).find place = .ok entry := by
  obtain ⟨other, leads, held⟩ := find_eq_ok_iff.mp found
  have different : other ≠ location := by
    rintro rfl
    rw [absent] at held
    cases held
  rw [find_eq_ok_iff]
  refine ⟨other, ?_, ?_⟩
  · exact locate_of_sameDirectories (sameDirectories_put_of_absent absent content) leads
  · rwa [holding?_put_of_ne tree different]

theorem read_put_of_read
    {place : Place}
    {text : String}
    (read : tree.read place = .ok text) :
    (tree.put location (.file content)).read place = .ok text := by
  unfold FileTree.read at read ⊢
  cases found : tree.find place with
  | error _ =>
      simp [found] at read
  | ok entry =>
      rw [find_put_of_find absent content found]
      rwa [found] at read

end Absent

theorem lookup_eq_of_absent
    {tree : FileTree}
    {location : Location}
    (absent : tree.holding? location = none) :
    ∀ entry ∈ tree.entries, entry.1 ≠ location := by
  have below := ne_nil_of_absent absent
  simp only [holding?, List.isEmpty_iff, below, if_false, List.lookup_eq_none_iff] at absent
  intro entry member same
  have different := absent entry member
  simp [same] at different

/-- A directory has the name of a new entry in addition. -/
theorem names_put
    {tree : FileTree}
    {directory : Location}
    {name : String}
    (absent : tree.holding? (directory ++ [name]) = none)
    (entry : FileEntry) :
    (tree.put (directory ++ [name]) entry).names directory = name :: tree.names directory := by
  have kept :
      tree.entries.filter (fun kept => kept.1 != directory ++ [name]) = tree.entries := by
    rw [List.filter_eq_self]
    intro other member
    simpa using lookup_eq_of_absent absent other member
  simp [names, put, kept]

/-- What is in a directory is among its names. -/
theorem mem_names_of_holding
    {tree : FileTree}
    {directory : Location}
    {name : String}
    (held : tree.holding? (directory ++ [name]) ≠ none) :
    name ∈ tree.names directory := by
  by_contra missing
  apply held
  have below : directory ++ [name] ≠ [] :=
    List.append_ne_nil_of_right_ne_nil _ (List.cons_ne_nil _ _)
  simp only [holding?, List.isEmpty_iff, below, if_false, List.lookup_eq_none_iff]
  intro entry member
  rw [bne_iff_ne]
  intro same
  apply missing
  rw [names, List.mem_filterMap]
  exact ⟨entry, member, by simp [← same]⟩

end FileTree

/-! ## Files that are found -/

namespace MigrationFile

/-- The place at which a file of a searched directory is found. -/
def foundPlace (directory : Place) (written name : String) : Place :=
  ⟨Place.searchedEntry written name, directory.steps ++ [name]⟩

section Free

variable
  {files : FileTree}
  {directory : Place}
  {written : String}
  (searched : Place.searched? directory.label = some written)
  {name : String}
  (isName : Place.IsName name)

include searched in
theorem label_ne_empty : directory.label.isEmpty = false := by
  rw [Bool.eq_false_iff]
  intro isEmpty
  have nothing : directory.label = "" := by
    simpa using isEmpty
  rw [nothing] at searched
  cases searched

include searched isName

theorem join_eq :
    directory.join name = ⟨Place.joined directory.label name, directory.steps ++ [name]⟩ := by
  rw [Place.join_name directory isName, label_ne_empty searched]
  rfl

/-- A free place in a directory is free in the form in which the directory is searched, too. -/
theorem isFree_foundPlace
    {location : Location}
    (free : files.IsFree (directory.join name) location) :
    files.IsFree (foundPlace directory written name) location ∧
      ∃ start, files.locate directory = .ok start ∧ location = start ++ [name] := by
  obtain ⟨leads, absent⟩ := free
  refine ⟨⟨?_, absent⟩, FileTree.locate_of_locate_join (label_ne_empty searched) isName leads⟩
  rw [join_eq searched isName] at leads
  obtain ⟨fine, followed⟩ := FileTree.locate_eq_ok_iff.mp leads
  have foundFine : FileTree.pathProblem? (foundPlace directory written name).label = none :=
    FileTree.pathProblem?_of_sublist (Place.searchedEntry_sublist searched isName) fine
  exact FileTree.locate_eq_ok_iff.mpr ⟨foundFine, followed⟩

/-- A name that is not too long is free in a directory that does not hold it. -/
theorem isFree_join
    {start : Location}
    (leads : files.locate directory = .ok start)
    (isDirectory : files.holding? start = some .directory)
    (fine : FileTree.pathProblem? (Place.joined directory.label name) = none)
    (fits : name.utf8ByteSize ≤ FileTree.longestName)
    (absent : files.holding? (start ++ [name]) = none) :
    files.IsFree (directory.join name) (start ++ [name]) := by
  have followed := (FileTree.locate_eq_ok_iff.mp leads).2
  refine ⟨?_, absent⟩
  rw [join_eq searched isName, FileTree.locate_eq_ok_iff]
  refine ⟨fine, ?_⟩
  rw [FileTree.follow_append, followed, Outcome.ok_bind]
  exact FileTree.follow_name isDirectory isName.named fits

end Free

section Put

variable
  {files : FileTree}
  {directory : Place}
  {location : Location}
  (leads : files.locate directory = .ok location)
  {written : String}
  (searched : Place.searched? directory.label = some written)
  {name : String}

include leads searched in
theorem placesIn_eq :
    placesIn files directory =
      (namesAt files location).map (foundPlace directory written) := by
  simp only [placesIn, leads, searched]
  rfl

variable
  (absent : files.holding? (location ++ [name]) = none)
  (isFile : Migration.isFileName name = true)
  (content : FileContent)

include absent

include isFile in
theorem perm_namesAt_put :
    (namesAt (files.put (location ++ [name]) (.file content)) location).Perm
      (name :: namesAt files location) := by
  have names := FileTree.names_put absent (.file content)
  unfold namesAt
  rw [names, List.filter_cons, if_pos isFile]
  refine (List.mergeSort_perm _ _).trans ?_
  exact (List.mergeSort_perm _ _).symm.cons name

include isFile leads searched in
theorem perm_placesIn_put :
    (placesIn (files.put (location ++ [name]) (.file content)) directory).Perm
      (foundPlace directory written name :: placesIn files directory) := by
  have stillLeads :=
    FileTree.locate_of_sameDirectories
      (FileTree.sameDirectories_put_of_absent absent content) leads
  rw [placesIn_eq leads searched, placesIn_eq stillLeads searched, ← List.map_cons]
  exact (perm_namesAt_put absent isFile content).map _

theorem load_put
    {place : Place}
    {file : MigrationFile}
    (loaded : (load files place).outcome = .ok file) :
    (load (files.put (location ++ [name]) (.file content)) place).outcome = .ok file := by
  obtain ⟨_, text, _, _, read, _⟩ := of_load loaded
  have readStill := FileTree.read_put_of_read absent content read
  rwa [load_of_sameText (readStill.trans read.symm)]

include isFile leads searched in
/-- One more file is found beside those that were found before. -/
theorem discover_put
    {found : List MigrationFile}
    (discovered : (discover files directory).outcome = .ok found)
    {file : MigrationFile}
    (loaded :
      (load (files.put (location ++ [name]) (.file content))
        (foundPlace directory written name)).outcome = .ok file) :
    ∃ again,
      (discover (files.put (location ++ [name]) (.file content)) directory).outcome = .ok again ∧
        again.Perm (file :: found) := by
  rw [discover, Traced.outcome_each_eq_ok] at discovered
  have all :
      List.Forall₂
        (fun place file =>
          (load (files.put (location ++ [name]) (.file content)) place).outcome = .ok file)
        (foundPlace directory written name :: placesIn files directory) (file :: found) :=
    .cons loaded (discovered.imp (fun _ _ known => load_put absent content known))
  obtain ⟨again, foundAgain, moved⟩ :=
    List.perm_comp_forall₂ (perm_placesIn_put leads searched absent isFile content) all
  exact ⟨again, Traced.outcome_each_eq_ok.mpr foundAgain, moved⟩

end Put

end MigrationFile

/-! ## Registering what is found -/

namespace Migrator

theorem register_of_fresh
    {migrator : Migrator σ}
    {migration : Migration σ}
    (fresh : migration.id ∉ migrator.ids) :
    (migrator.register migration).outcome = .ok (migrator.offer migration) := by
  unfold offer register
  rw [if_neg (fun held => fresh (List.contains_iff_mem.mp held))]
  rfl

theorem perm_ids_offer
    {migrator : Migrator σ}
    {migration : Migration σ}
    (fresh : migration.id ∉ migrator.ids) :
    (migrator.offer migration).ids.Perm (migration.id :: migrator.ids) := by
  rw [offer_eq, if_neg fresh]
  exact (perm_insertById migration migrator.migrations).map Migration.id

/-- Migrations are registered one after the other when no two are identified alike. -/
theorem sweep_register_of_nodup
    {migrator : Migrator σ}
    {offered : List (Migration σ)}
    (distinct : (offered.map Migration.id ++ migrator.ids).Nodup) :
    (Traced.sweep register migrator offered).outcome = .ok (migrator.offerAll offered) ∧
      (migrator.offerAll offered).migrations.Perm (offered ++ migrator.migrations) := by
  induction offered generalizing migrator with
  | nil =>
      exact ⟨rfl, .refl _⟩
  | cons migration rest inductionHypothesis =>
      rw [List.map_cons, List.cons_append, List.nodup_cons, List.mem_append, not_or] at distinct
      obtain ⟨⟨notLater, fresh⟩, restDistinct⟩ := distinct
      have nextDistinct :
          (rest.map Migration.id ++ (migrator.offer migration).ids).Nodup := by
        have moved :
            (rest.map Migration.id ++ (migrator.offer migration).ids).Perm
              (migration.id :: (rest.map Migration.id ++ migrator.ids)) :=
          ((perm_ids_offer fresh).append_left _).trans List.perm_middle
        rw [moved.nodup_iff, List.nodup_cons, List.mem_append, not_or]
        exact ⟨⟨notLater, fresh⟩, restDistinct⟩
      obtain ⟨swept, moved⟩ := inductionHypothesis nextDistinct
      have nextMigrations :
          (migrator.offer migration).migrations.Perm (migration :: migrator.migrations) := by
        rw [offer_eq, if_neg fresh]
        exact perm_insertById migration migrator.migrations
      constructor
      · rw [Traced.sweep, Traced.outcome_bind, register_of_fresh fresh]
        exact swept
      · exact moved.trans ((nextMigrations.append_left rest).trans List.perm_middle)

/-- Migrations that were registered are not identified alike. -/
theorem nodup_of_sweep_register
    {migrator final : Migrator σ}
    {offered : List (Migration σ)}
    (known : migrator.ids.Nodup)
    (swept : (Traced.sweep register migrator offered).outcome = .ok final) :
    (offered.map Migration.id ++ migrator.ids).Nodup := by
  induction offered generalizing migrator with
  | nil =>
      exact known
  | cons migration rest inductionHypothesis =>
      rw [Traced.sweep, Traced.outcome_bind_eq_ok] at swept
      obtain ⟨next, registered, sweptRest⟩ := swept
      have fresh : migration.id ∉ migrator.ids := by
        intro held
        rw [register, if_pos (List.contains_iff_mem.mpr held)] at registered
        cases registered
      have nextIds : next.ids.Perm (migration.id :: migrator.ids) := by
        rw [register_of_fresh fresh] at registered
        cases registered
        exact perm_ids_offer fresh
      have nextKnown : next.ids.Nodup := by
        rw [nextIds.nodup_iff, List.nodup_cons]
        exact ⟨fresh, known⟩
      have restDistinct := inductionHypothesis nextKnown sweptRest
      have moved :
          (rest.map Migration.id ++ next.ids).Perm
            (migration.id :: (rest.map Migration.id ++ migrator.ids)) :=
        (nextIds.append_left _).trans List.perm_middle
      rwa [moved.nodup_iff] at restDistinct

end Migrator

/-! ## Opening -/

/-- Opening a ledger leaves the directories where they are. -/
theorem Ledger.directories_of_openIn
    (directory : Place)
    (files : FileTree) :
    (Ledger.openIn directory).Ends files (fun reached outcome =>
      FileTree.SameDirectories files reached ∧
        ∀ ledger, outcome = .ok ledger → ledger.directory = directory) := by
  have rereads (tree : FileTree) :
      ∀ ledger : Ledger,
        (⟨directory, []⟩ : Ledger).reread tree = .ok ledger → ledger.directory = directory :=
    fun ledger read => (Ledger.listedAt_of_reread read).1
  unfold Ledger.openIn
  simp only [Action.ends_bind, Action.ends_current]
  split
  · split
    · refine ⟨.refl files, ?_⟩
      rintro ledger ⟨⟩
    · rename_i written wrote
      obtain ⟨location, _, free, rfl⟩ := FileTree.write_eq_ok wrote
      exact ⟨.put free _, rereads _⟩
  · exact ⟨.refl files, rereads files⟩

theorem Ledger.openIn_of_read
    {directory : Place}
    {files : FileTree}
    {ledger : Ledger}
    (ofDirectory : ledger.directory = directory)
    {location : Location}
    (leads : files.locate ledger.place = .ok location)
    (listed : Ledger.listedAt files location = some ledger.applied) :
    Ledger.openIn directory files = ⟨files, [], .ok ledger⟩ := by
  have sameLedger : (⟨directory, ledger.applied⟩ : Ledger) = ledger := by
    rw [← ofDirectory]
  rw [Ledger.place, ofDirectory] at leads
  rw [Ledger.openIn_of_listed leads listed, sameLedger]

/-- A ledger that was opened is opened the same again, and directories stay. -/
theorem Ledger.openIn_again
    (directory : Place)
    (files : FileTree) :
    (Ledger.openIn directory).Ends files (fun reached outcome =>
      FileTree.SameDirectories files reached ∧
        ∀ ledger,
          outcome = .ok ledger →
            Ledger.openIn directory reached = ⟨reached, [], .ok ledger⟩) := by
  have located := Ledger.openIn_ends directory files
  obtain ⟨same, ofDirectory⟩ := Ledger.directories_of_openIn directory files
  refine ⟨same, ?_⟩
  intro ledger opened
  obtain ⟨location, leads, listed⟩ := located ledger opened
  exact Ledger.openIn_of_read (ofDirectory ledger opened) leads listed

/-- A ledger that is there is opened the same beside one more file. -/
theorem Ledger.openIn_put
    {directory : Place}
    {files : FileTree}
    {ledger : Ledger}
    (opened : Ledger.openIn directory files = ⟨files, [], .ok ledger⟩)
    {location : Location}
    (absent : files.holding? location = none)
    (content : FileContent) :
    Ledger.openIn directory (files.put location (.file content)) =
      ⟨files.put location (.file content), [], .ok ledger⟩ := by
  have located := Ledger.openIn_ends directory files
  have kept := Ledger.directories_of_openIn directory files
  rw [Action.Ends, opened] at located kept
  obtain ⟨ledgerLocation, leads, listed⟩ := located ledger rfl
  have different : ledgerLocation ≠ location := by
    rintro rfl
    rw [Ledger.listedAt, absent] at listed
    cases listed
  have stillLeads :=
    FileTree.locate_of_sameDirectories
      (FileTree.sameDirectories_put_of_absent absent content) leads
  have stillListed :=
    Ledger.listedAt_of_holding (FileTree.holding?_put_of_ne files different (.file content))
  exact Ledger.openIn_of_read (kept.2 ledger rfl) stillLeads (stillListed.trans listed)

namespace Migrator

theorem map_id_migration (found : List MigrationFile) :
    (found.map (MigrationFile.migration (σ := σ))).map Migration.id =
      found.map MigrationFile.id := by
  rw [List.map_map]
  rfl

theorem directory_offerAll (migrator : Migrator σ) (offered : List (Migration σ)) :
    (migrator.offerAll offered).directory = migrator.directory := by
  induction offered generalizing migrator with
  | nil =>
      rfl
  | cons migration rest inductionHypothesis =>
      refine (inductionHypothesis (migrator.offer migration)).trans ?_
      rw [offer_eq]
      split <;> rfl

/-- A migrator on a directory with the migrations of the files that were found there. -/
def holding (directory : Place) (ledger : Ledger) (found : List MigrationFile) : Migrator σ :=
  (⟨directory, ledger, []⟩ : Migrator σ).offerAll (found.map MigrationFile.migration)

section Holding

variable
  (directory : Place)
  (ledger : Ledger)
  {found : List MigrationFile}

theorem directory_holding (found : List MigrationFile) :
    (holding directory ledger found : Migrator σ).directory = directory :=
  directory_offerAll _ _

theorem ledger_holding (found : List MigrationFile) :
    (holding directory ledger found : Migrator σ).ledger = ledger :=
  ledger_offerAll _ _

theorem ordered_holding (found : List MigrationFile) :
    (holding directory ledger found : Migrator σ).Ordered :=
  ordered_offerAll (ordered_start directory ledger) _

theorem nodup_append_start_iff :
    ((found.map (MigrationFile.migration (σ := σ))).map Migration.id ++
        (⟨directory, ledger, []⟩ : Migrator σ).ids).Nodup ↔
      (found.map MigrationFile.id).Nodup := by
  rw [map_id_migration]
  simp [ids]

theorem perm_holding (distinct : (found.map MigrationFile.id).Nodup) :
    (holding directory ledger found : Migrator σ).migrations.Perm
      (found.map MigrationFile.migration) := by
  have moved := (sweep_register_of_nodup
    ((nodup_append_start_iff (σ := σ) directory ledger).mpr distinct)).2
  rw [holding]
  simpa using moved

theorem perm_ids_holding (distinct : (found.map MigrationFile.id).Nodup) :
    (holding directory ledger found : Migrator σ).ids.Perm (found.map MigrationFile.id) := by
  rw [← map_id_migration (σ := σ)]
  exact (perm_holding directory ledger distinct).map Migration.id

/-- Files are registered one after the other exactly when no two are identified alike. -/
theorem sweep_register_eq_ok_iff {migrator : Migrator σ} :
    (Traced.sweep register ⟨directory, ledger, []⟩
        (found.map MigrationFile.migration)).outcome = .ok migrator ↔
      (found.map MigrationFile.id).Nodup ∧ migrator = holding directory ledger found := by
  constructor
  · intro swept
    have noneKnown : (⟨directory, ledger, []⟩ : Migrator σ).ids.Nodup :=
      List.nodup_nil
    have distinct := nodup_of_sweep_register noneKnown swept
    exact ⟨(nodup_append_start_iff directory ledger).mp distinct, offerAll_of_sweep swept⟩
  · rintro ⟨distinct, rfl⟩
    exact (sweep_register_of_nodup ((nodup_append_start_iff directory ledger).mpr distinct)).1

end Holding

/-- What opening a directory reads when its ledger is there. -/
structure Reads
    (directory : Place)
    (files : FileTree)
    (ledger : Ledger)
    (found : List MigrationFile) :
    Prop where
  isDirectory : files.find directory = .ok .directory
  ledger : Ledger.openIn directory files = ⟨files, [], .ok ledger⟩
  discovered : (MigrationFile.discover files directory).outcome = .ok found

section Reads

variable
  {directory : Place}
  {files : FileTree}
  {ledger : Ledger}
  {found : List MigrationFile}

/-- A directory is opened exactly when no two of its files are identified alike. -/
theorem Reads.openIn_ends
    (reads : Reads directory files ledger found) :
    (openIn directory).Ends files (fun reached outcome =>
      reached = files ∧
        ∀ migrator : Migrator σ,
          outcome = .ok migrator ↔
            (found.map MigrationFile.id).Nodup ∧
              migrator = holding directory ledger found) := by
  have there := FileTree.isDirectory_iff.mpr reads.isDirectory
  have ledgerEnds :
      (Ledger.openIn directory).Ends files (fun reached outcome =>
        reached = files ∧ outcome = .ok ledger) := by
    rw [Action.Ends, reads.ledger]
    exact ⟨rfl, rfl⟩
  unfold openIn
  simp only [Action.ends_bind, Action.ends_current, there, Bool.not_true, Bool.false_eq_true,
    if_false]
  refine ledgerEnds.imp ?_
  rintro reached outcome ⟨rfl, rfl⟩
  dsimp only
  rw [Action.ends_inspect]
  refine ⟨rfl, ?_⟩
  intro migrator
  rw [← sweep_register_eq_ok_iff, Traced.outcome_bind, reads.discovered, Outcome.ok_bind,
    Traced.outcome_bind]
  cases (Traced.sweep register (⟨directory, ledger, []⟩ : Migrator σ)
    (found.map MigrationFile.migration)).outcome <;> exact Iff.rfl

/-- A directory that gains a migration file is read as before, with that file in addition. -/
theorem Reads.put
    (reads : Reads directory files ledger found)
    {location : Location}
    (leads : files.locate directory = .ok location)
    {written : String}
    (searched : Place.searched? directory.label = some written)
    {name : String}
    (absent : files.holding? (location ++ [name]) = none)
    (isFile : Migration.isFileName name = true)
    {content : FileContent}
    {file : MigrationFile}
    (loaded :
      (MigrationFile.load (files.put (location ++ [name]) (.file content))
        (MigrationFile.foundPlace directory written name)).outcome = .ok file) :
    ∃ again,
      Reads directory (files.put (location ++ [name]) (.file content)) ledger again ∧
        again.Perm (file :: found) := by
  obtain ⟨again, discovered, moved⟩ :=
    MigrationFile.discover_put leads searched absent isFile content reads.discovered loaded
  have there := FileTree.find_put_of_find absent content reads.isDirectory
  exact ⟨again, ⟨there, Ledger.openIn_put reads.ledger absent content, discovered⟩, moved⟩

/-- A directory that was opened is read the same once more. -/
theorem reads_of_openIn
    {migrator : Migrator σ}
    (opened : (openIn directory files).outcome = .ok migrator) :
    ∃ found,
      Reads directory (openIn (σ := σ) directory files).state migrator.ledger found ∧
        (found.map MigrationFile.id).Nodup ∧
          migrator = holding directory migrator.ledger found := by
  have ends :
      (openIn directory).Ends files (fun reached outcome =>
        ∀ migrator : Migrator σ,
          outcome = .ok migrator →
            ∃ found,
              Reads directory reached migrator.ledger found ∧
                (found.map MigrationFile.id).Nodup ∧
                  migrator = holding directory migrator.ledger found) := by
    unfold openIn
    simp only [Action.ends_bind, Action.ends_current]
    split
    · rintro migrator ⟨⟩
    · rename_i there
      have isDirectory : files.find directory = .ok .directory := by
        rw [← FileTree.isDirectory_iff]
        simpa using there
      obtain ⟨start, leads, held⟩ := FileTree.find_eq_ok_iff.mp isDirectory
      rw [Action.ends_bind]
      refine (Ledger.openIn_again directory files).imp ?_
      rintro reached (_ | ledger) ⟨sameDirectories, openedAgain⟩
      · rintro migrator ⟨⟩
      · dsimp only
        rw [Action.ends_inspect]
        intro migrator read
        simp only [Traced.outcome_bind_eq_ok, Traced.outcome_tell, Traced.outcome_pure,
          Except.ok.injEq] at read
        obtain ⟨found, discovered, final, swept, _, _, rfl⟩ := read
        obtain ⟨distinct, isHolding⟩ := (sweep_register_eq_ok_iff directory ledger).mp swept
        have sameLedger : final.ledger = ledger := by
          rw [isHolding, ledger_holding]
        have stillThere : reached.find directory = .ok .directory :=
          FileTree.find_eq_ok_iff.mpr
            ⟨start, FileTree.locate_of_sameDirectories sameDirectories leads,
              (sameDirectories start).mp held⟩
        rw [sameLedger]
        exact ⟨found, ⟨stillThere, openedAgain ledger rfl, discovered⟩, distinct, isHolding⟩
  exact ends migrator opened

theorem directory_of_openIn
    {migrator : Migrator σ}
    (opened : (openIn directory files).outcome = .ok migrator) :
    migrator.directory = directory := by
  obtain ⟨found, _, _, isHolding⟩ := reads_of_openIn opened
  rw [isHolding]
  exact directory_holding _ _ found

end Reads

end Migrator

end SchemaMigration
