import SchemaMigration.Proofs.Reopening

namespace SchemaMigration

/-!
# The registry and the order of registering

What a migrator holds is determined by what identifies the migrations it was
given, whatever their order.  So a directory is opened with the stems of its
files in ascending order, although the files are looked up in the order of their
names, which have the extension behind the stem.
-/

/-! ## Ascending lists -/

/-- Ascending lists of the same texts are the same. -/
theorem eq_of_ascending
    {first second : List String}
    (firstAscends : first.Pairwise (· < ·))
    (secondAscends : second.Pairwise (· < ·))
    (same : ∀ text, text ∈ first ↔ text ∈ second) :
    first = second := by
  have moved : first.Perm second :=
    (List.perm_ext_iff_of_nodup firstAscends.nodup secondAscends.nodup).mpr same
  exact moved.eq_of_pairwise (fun _ _ _ _ less greater => absurd greater less.asymm)
    firstAscends secondAscends

/-- Texts in ascending order. -/
def inOrder (texts : List String) : List String :=
  texts.mergeSort (fun first second => decide (first ≤ second))

theorem perm_inOrder (texts : List String) : (inOrder texts).Perm texts :=
  List.mergeSort_perm texts _

theorem pairwise_inOrder (texts : List String) : (inOrder texts).Pairwise (· ≤ ·) := by
  have sorted :
      (inOrder texts).Pairwise (fun first second => decide (first ≤ second) = true) := by
    apply List.pairwise_mergeSort
    · simpa using fun _ _ _ => le_trans
    · simpa using le_total
  exact sorted.imp of_decide_eq_true

/-- An ascending list is what its texts are sorted to. -/
theorem eq_inOrder_of_ascending
    {ascending texts : List String}
    (ascends : ascending.Pairwise (· < ·))
    (moved : ascending.Perm texts) :
    ascending = inOrder texts :=
  (moved.trans (perm_inOrder texts).symm).eq_of_pairwise (fun _ _ _ _ => le_antisymm)
    (ascends.imp le_of_lt) (pairwise_inOrder texts)

/-! ## Registering in sequence -/

namespace Workspace

/-- A workspace after migrations were registered one after the other, whether refused or not. -/
def registerAll (workspace : Workspace σ) (offered : List (Migration σ)) : Workspace σ :=
  offered.foldl (fun reached migration => (register migration reached).state) workspace

theorem migrator_register
    (migration : Migration σ)
    (workspace : Workspace σ) :
    (register migration workspace).state.migrator = workspace.migrator.offer migration := by
  rw [Migrator.offer_eq]
  by_cases known : migration.id ∈ workspace.migrator.ids
  · have refused := register_refuses known
    rw [if_pos known, refused.1]
  · have added := register_adds known
    rw [if_neg known, added.1]
    rfl

theorem migrator_registerAll
    (workspace : Workspace σ)
    (offered : List (Migration σ)) :
    (workspace.registerAll offered).migrator = workspace.migrator.offerAll offered := by
  induction offered generalizing workspace with
  | nil => rfl
  | cons migration rest inductionHypothesis =>
      refine (inductionHypothesis _).trans ?_
      rw [migrator_register]
      rfl

/-- A migration is registered exactly when nothing is identified like it. -/
theorem register_eq_ok_iff
    (migration : Migration σ)
    (workspace : Workspace σ) :
    (register migration workspace).outcome = .ok () ↔
      migration.id ∉ workspace.migrator.ids := by
  by_cases known : migration.id ∈ workspace.migrator.ids
  · have refused := (register_refuses known).2
    exact iff_of_false (by simp [refused]) (not_not_intro known)
  · exact iff_of_true (register_adds known).2 known

end Workspace

/-! ## Directories of valid files -/

namespace MigrationFile

/-- The names of the migration files at a location, as the directory lists them. -/
def fileNamesAt (files : FileTree) (location : Location) : List String :=
  (files.names location).filter Migration.isFileName

theorem namesAt_eq (files : FileTree) (location : Location) :
    namesAt files location = inOrder (fileNamesAt files location) :=
  rfl

theorem perm_namesAt (files : FileTree) (location : Location) :
    (namesAt files location).Perm (fileNamesAt files location) := by
  rw [namesAt_eq]
  exact perm_inOrder _

/-- A migration file has a name of its own in its directory. -/
theorem isName_of_isFileName
    {name : String}
    (isFile : Migration.isFileName name = true)
    (single : '/' ∉ name.toList) :
    Place.IsName name := by
  refine ⟨?_, ?_, ?_, single⟩
  · rintro rfl
    revert isFile
    decide
  · rintro rfl
    revert isFile
    decide
  · rintro rfl
    revert isFile
    decide

/--
A directory of valid migration files: it can be searched, its ledger can be
opened, every migration file in it loads, and no two of them have one stem.
-/
structure ValidDirectory
    (files : FileTree)
    (directory : Place)
    (location : Location)
    (written : String) :
    Prop where
  leads : files.locate directory = .ok location
  isDirectory : files.holding? location = some .directory
  searched : Place.searched? directory.label = some written
  ledger : ∃ ledger, (Ledger.openIn directory files).outcome = .ok ledger
  single : ∀ name ∈ fileNamesAt files location, '/' ∉ name.toList
  valid :
    ∀ name ∈ fileNamesAt files location,
      ∃ file, (load files (foundPlace directory written name)).outcome = .ok file
  distinct : ((fileNamesAt files location).map Place.stemOf).Nodup

variable
  {files : FileTree}
  {directory : Place}
  {location : Location}
  {written : String}

theorem stem?_foundPlace
    {name : String}
    (isName : Place.IsName name) :
    Migration.stem? (foundPlace directory written name).label = some (Place.stemOf name) := by
  have fileName :=
    Place.fileName?_of_endsWith isName (Place.endsWith_searchedEntry written name)
  rw [Migration.stem?, foundPlace, fileName]
  rfl

/-- Where every file loads, the files that are discovered are identified by their stems. -/
theorem discovered_of_loads
    (leads : files.locate directory = .ok location)
    (searched : Place.searched? directory.label = some written)
    (single : ∀ name ∈ fileNamesAt files location, '/' ∉ name.toList)
    (loads :
      ∀ name ∈ fileNamesAt files location,
        ∃ file, (load files (foundPlace directory written name)).outcome = .ok file) :
    ∃ found,
      (discover files directory).outcome = .ok found ∧
        (found.map id).Perm ((fileNamesAt files location).map Place.stemOf) := by
  have places := placesIn_eq leads searched
  have isListed {name : String} (member : name ∈ namesAt files location) :
      name ∈ fileNamesAt files location :=
    (perm_namesAt files location).mem_iff.mp member
  obtain ⟨found, discovered⟩ :
      ∃ found, (discover files directory).outcome = .ok found := by
    apply Traced.exists_each
    intro place member
    rw [places] at member
    obtain ⟨name, isName, rfl⟩ := List.mem_map.mp member
    exact loads name (isListed isName)
  refine ⟨found, discovered, ?_⟩
  have stems :
      found.map (fun file => some file.id) =
        (placesIn files directory).map (fun place => Migration.stem? place.label) :=
    Traced.map_each discovered (fun _ _ loaded => id_of_load loaded)
  have named :
      (placesIn files directory).map (fun place => Migration.stem? place.label) =
        (namesAt files location).map (fun name => some (Place.stemOf name)) := by
    rw [places, List.map_map]
    apply List.map_congr_left
    intro name member
    have listed := isListed member
    have isFile := (List.mem_filter.mp listed).2
    exact stem?_foundPlace (isName_of_isFileName isFile (single name listed))
  have sameStems : found.map id = (namesAt files location).map Place.stemOf := by
    apply List.map_injective_iff.mpr (fun _ _ => Option.some.inj)
    rw [List.map_map, List.map_map]
    exact stems.trans named
  rw [sameStems]
  exact (perm_namesAt files location).map _

end MigrationFile

/-! ## Opening -/

/-- Opening a ledger changes nothing, or makes its file where nothing was. -/
theorem Ledger.openIn_leaves
    {directory : Place}
    (labelled : directory.label.isEmpty = false)
    (files : FileTree) :
    (Ledger.openIn directory).Ends files (fun reached outcome =>
      ∀ ledger,
        outcome = .ok ledger →
          reached = files ∨
            ∃ start,
              files.locate directory = .ok start ∧
                files.holding? (start ++ [Ledger.fileName]) = none ∧
                  reached = files.put (start ++ [Ledger.fileName]) (.file (.text ""))) := by
  have isName : Place.IsName Ledger.fileName :=
    ⟨by decide, by decide, by decide, by decide⟩
  unfold Ledger.openIn
  simp only [Action.ends_bind, Action.ends_current]
  split
  · rename_i missing
    split
    · rintro ledger ⟨⟩
    · rename_i written wrote
      obtain ⟨location, leads, _, rfl⟩ := FileTree.write_eq_ok wrote
      obtain ⟨start, directoryLeads, rfl⟩ :=
        FileTree.locate_of_locate_join labelled isName leads
      have absent : files.holding? (start ++ [Ledger.fileName]) = none := by
        by_contra held
        obtain ⟨entry, holds⟩ := Option.ne_none_iff_exists'.mp held
        have found := FileTree.find_eq_ok_iff.mpr ⟨_, leads, holds⟩
        rw [FileTree.contains, found] at missing
        cases missing
      exact fun ledger _ => .inr ⟨start, directoryLeads, absent, rfl⟩
  · exact fun ledger _ => .inl rfl

namespace MigrationFile

variable
  {files : FileTree}
  {directory : Place}
  {location : Location}
  {written : String}

/-- The file of a ledger is no migration file. -/
theorem fileNamesAt_put_ledger
    (absent : files.holding? (location ++ [Ledger.fileName]) = none)
    (content : FileContent) :
    fileNamesAt (files.put (location ++ [Ledger.fileName]) (.file content)) location =
      fileNamesAt files location := by
  have other : Migration.isFileName Ledger.fileName = false := by
    decide
  rw [fileNamesAt, FileTree.names_put absent, List.filter_cons, if_neg (by simp [other])]
  rfl

/-- What is discovered once the ledger is opened are the valid files. -/
theorem ValidDirectory.discovered
    (valid : ValidDirectory files directory location written) :
    (Ledger.openIn directory).Ends files (fun reached outcome =>
      ∃ ledger found,
        outcome = .ok ledger ∧
          (discover reached directory).outcome = .ok found ∧
            (found.map id).Perm ((fileNamesAt files location).map Place.stemOf)) := by
  obtain ⟨ledger, opened⟩ := valid.ledger
  have leaves := Ledger.openIn_leaves (label_ne_empty valid.searched) files
  rw [Action.Ends] at leaves ⊢
  rw [opened] at leaves ⊢
  rcases leaves ledger rfl with unchanged | ⟨start, leads, absent, made⟩
  · obtain ⟨found, discovered, stems⟩ :=
      discovered_of_loads valid.leads valid.searched valid.single valid.valid
    rw [unchanged]
    exact ⟨ledger, found, rfl, discovered, stems⟩
  · cases leads.symm.trans valid.leads
    have stillLeads :=
      FileTree.locate_of_sameDirectories
        (FileTree.sameDirectories_put_of_absent absent (.text "")) leads
    have sameNames := fileNamesAt_put_ledger absent (.text "")
    obtain ⟨found, discovered, stems⟩ :=
      discovered_of_loads stillLeads valid.searched (sameNames ▸ valid.single) (by
        rw [sameNames]
        intro name member
        obtain ⟨file, loaded⟩ := valid.valid name member
        exact ⟨file, load_put absent (.text "") loaded⟩)
    rw [made]
    exact ⟨ledger, found, rfl, discovered, sameNames ▸ stems⟩

end MigrationFile

namespace Migrator

/-- A directory whose files are discovered and are not identified alike is opened with them. -/
theorem openIn_of_discovered
    {directory : Place}
    {files : FileTree}
    {ledger : Ledger}
    {found : List MigrationFile}
    (there : files.isDirectory directory = true)
    (opened :
      (Ledger.openIn directory).Ends files (fun reached outcome =>
        outcome = .ok ledger ∧
          (MigrationFile.discover reached directory).outcome = .ok found))
    (distinct : (found.map MigrationFile.id).Nodup) :
    (openIn directory files).outcome = .ok (holding directory ledger found : Migrator σ) := by
  have ends :
      (openIn directory).Ends files (fun _ outcome =>
        outcome = .ok (holding directory ledger found : Migrator σ)) := by
    unfold openIn
    simp only [Action.ends_bind, Action.ends_current, there, Bool.not_true, Bool.false_eq_true,
      if_false]
    refine opened.imp ?_
    rintro reached outcome ⟨rfl, discovered⟩
    dsimp only
    rw [Action.ends_inspect, Traced.outcome_bind, discovered, Outcome.ok_bind,
      Traced.outcome_bind, (sweep_register_eq_ok_iff directory ledger).mpr ⟨distinct, rfl⟩]
    rfl
  exact ends

/-- A valid directory is opened with the stems of its files in ascending order. -/
theorem opened_of_validDirectory
    {files : FileTree}
    {directory : Place}
    {location : Location}
    {written : String}
    (valid : MigrationFile.ValidDirectory files directory location written) :
    ∃ migrator : Migrator σ,
      (openIn directory files).outcome = .ok migrator ∧
        migrator.ids =
          inOrder ((MigrationFile.fileNamesAt files location).map Place.stemOf) := by
  have there : files.isDirectory directory = true :=
    FileTree.isDirectory_iff.mpr
      (FileTree.find_eq_ok_iff.mpr ⟨location, valid.leads, valid.isDirectory⟩)
  obtain ⟨ledger, found, opened, discovered, stems⟩ := valid.discovered
  have distinct : (found.map MigrationFile.id).Nodup :=
    stems.nodup_iff.mpr valid.distinct
  have moved := (perm_ids_holding (σ := σ) directory ledger distinct).trans stems
  exact ⟨_, openIn_of_discovered there ⟨opened, discovered⟩ distinct,
    eq_inOrder_of_ascending (ordered_holding directory ledger found) moved⟩

/-- Migrations that are identified alike are held alike, in whichever order they are offered. -/
theorem ids_offerAll_of_same
    {migrator : Migrator σ}
    (ordered : migrator.Ordered)
    {first second : List (Migration σ)}
    (same : ∀ id, id ∈ first.map Migration.id ↔ id ∈ second.map Migration.id) :
    (migrator.offerAll first).ids = (migrator.offerAll second).ids := by
  apply eq_of_ascending (ordered_offerAll ordered first) (ordered_offerAll ordered second)
  intro id
  rw [mem_ids_offerAll, mem_ids_offerAll, same]

end Migrator

namespace Workspace

/--
The registry does not depend on the order of registering.

Whatever is registered into a migrator that was opened, its migrations are
identified in ascending order by those held when it was opened and those
offered, the same for every order of offering them.  A migration is refused
exactly when one like it is held, and then nothing changes.

In particular a directory of valid files is opened with the stems of their names
in ascending order, whatever their extensions and however they are listed.
-/
theorem registry_independent_of_order :
    (∀ (directory : Place) (files : FileTree) (migrator : Migrator σ),
        (Migrator.openIn directory files).outcome = .ok migrator →
          ∀ (reached : FileTree) (database : σ) (offered : List (Migration σ)),
            let opened : Workspace σ := ⟨migrator, reached, database⟩
            let final := opened.registerAll offered
            final.migrator.ids.Pairwise (· < ·) ∧
              (∀ id,
                id ∈ final.migrator.ids ↔
                  id ∈ migrator.ids ∨ id ∈ offered.map Migration.id) ∧
              (∀ migration,
                ((register migration final).outcome = .ok () ↔
                    migration.id ∉ final.migrator.ids) ∧
                  (migration.id ∈ final.migrator.ids →
                    (register migration final).outcome = .error (.duplicate migration.id) ∧
                      (register migration final).state = final)) ∧
              ∀ other : List (Migration σ),
                other.Perm offered →
                  (opened.registerAll other).migrator.ids = final.migrator.ids) ∧
      ∀ (files : FileTree) (directory : Place) (location : Location) (written : String),
        MigrationFile.ValidDirectory files directory location written →
          ∃ migrator : Migrator σ,
            (Migrator.openIn directory files).outcome = .ok migrator ∧
              migrator.ids =
                inOrder ((MigrationFile.fileNamesAt files location).map Place.stemOf) := by
  refine ⟨?_, fun _ _ _ _ => Migrator.opened_of_validDirectory⟩
  intro directory files migrator isOpened reached database offered opened final
  have ordered : migrator.Ordered := Migrator.ordered_of_openIn isOpened
  have isFinal : final.migrator = migrator.offerAll offered :=
    migrator_registerAll opened offered
  refine ⟨?_, ?_, ?_, ?_⟩
  · rw [isFinal]
    exact Migrator.ordered_offerAll ordered offered
  · intro id
    rw [isFinal]
    exact Migrator.mem_ids_offerAll migrator offered
  · intro migration
    exact ⟨register_eq_ok_iff migration final,
      fun known => ⟨(register_refuses known).2, (register_refuses known).1⟩⟩
  · intro other moved
    rw [isFinal, migrator_registerAll]
    exact Migrator.ids_offerAll_of_same ordered
      (fun id => (moved.map Migration.id).mem_iff)

/-- The text of a migration file for an entity that does nothing. -/
def idleText (entity : String) : String :=
  "migration: " ++ entity ++ "\nup: []\ndown: []\n"

/-- A directory with a file of each extension, whose names and stems are in different orders. -/
def mixedFiles : FileTree :=
  ⟨[(["m"], .directory),
    (["m", "1_a.yml"], .file (.text (idleText "A"))),
    (["m", "1_a-b.yaml"], .file (.text (idleText "AB")))], []⟩

theorem fileNamesAt_mixed :
    MigrationFile.fileNamesAt mixedFiles ["m"] = ["1_a.yml", "1_a-b.yaml"] := by
  decide

theorem validDirectory_mixed :
    MigrationFile.ValidDirectory mixedFiles ⟨"m", ["m"]⟩ ["m"] "m" := by
  have loads (name : String) (member : name ∈ ["1_a.yml", "1_a-b.yaml"]) :
      (MigrationFile.load mixedFiles
        (MigrationFile.foundPlace ⟨"m", ["m"]⟩ "m" name)).outcome.isOk = true := by
    revert member name
    decide +kernel
  constructor
  · rfl
  · rfl
  · decide
  · exact ⟨_, rfl⟩
  · rw [fileNamesAt_mixed]
    decide
  · rw [fileNamesAt_mixed]
    intro name member
    have loaded := loads name member
    cases outcome :
        (MigrationFile.load mixedFiles
          (MigrationFile.foundPlace ⟨"m", ["m"]⟩ "m" name)).outcome with
    | ok file => exact ⟨file, rfl⟩
    | error problem =>
        rw [outcome] at loaded
        cases loaded
  · rw [fileNamesAt_mixed]
    decide

/--
The directory is opened with the stems in order, although the names of its files
are in the other order, and what is registered then is put where it belongs.
-/
theorem mixed_extensions_opened_in_order :
    MigrationFile.namesAt mixedFiles ["m"] = ["1_a-b.yaml", "1_a.yml"] ∧
      ∃ migrator : Migrator Unit,
        (Migrator.openIn ⟨"m", ["m"]⟩ mixedFiles).outcome = .ok migrator ∧
          migrator.ids = ["1_a", "1_a-b"] ∧
            ((⟨migrator, mixedFiles, ()⟩ : Workspace Unit).registerAll
                [.unimplemented ⟨"2"⟩ "c", .unimplemented ⟨"0"⟩ "d"]).migrator.ids =
              ["0_d", "1_a", "1_a-b", "2_c"] := by
  obtain ⟨registering, opening⟩ := registry_independent_of_order (σ := Unit)
  obtain ⟨migrator, opened, ids⟩ := opening _ _ _ _ validDirectory_mixed
  have stems :
      ["1_a", "1_a-b"].Perm ((MigrationFile.fileNamesAt mixedFiles ["m"]).map Place.stemOf) := by
    rw [fileNamesAt_mixed]
    decide
  have names :
      ["1_a-b.yaml", "1_a.yml"].Perm (MigrationFile.fileNamesAt mixedFiles ["m"]) := by
    rw [fileNamesAt_mixed]
    decide
  have held : migrator.ids = ["1_a", "1_a-b"] :=
    ids.trans (eq_inOrder_of_ascending (by decide) stems).symm
  obtain ⟨ascends, members, _⟩ :=
    registering _ _ migrator opened mixedFiles ()
      [.unimplemented ⟨"2"⟩ "c", .unimplemented ⟨"0"⟩ "d"]
  refine ⟨(eq_inOrder_of_ascending (by decide) names).symm, migrator, opened, held, ?_⟩
  apply eq_of_ascending ascends (by decide)
  intro id
  have offered :
      [Migration.unimplemented (σ := Unit) ⟨"2"⟩ "c", .unimplemented ⟨"0"⟩ "d"].map Migration.id =
        ["2_c", "0_d"] := by
    decide
  rw [members, held, offered]
  simp only [List.mem_cons, List.not_mem_nil, or_false]
  tauto

/-- A directory with one valid migration file and a ledger. -/
def filesWithLedger (ledger : String) : FileTree :=
  ⟨[(["m"], .directory),
    (["m", "1_a.yml"], .file (.text (idleText "A"))),
    (["m", ".version"], .file (.text ledger))], []⟩

/--
A migrator holds the file of its directory, although nobody offers it.  It is
not opened with the file where the directory cannot be searched as it is
written, and not opened at all where the ledger cannot be read.
-/
theorem valid_file_not_opened :
    (∀ ledger ∈ ["", "x"],
        MigrationFile.fileNamesAt (filesWithLedger ledger) ["m"] = ["1_a.yml"] ∧
          (MigrationFile.load (filesWithLedger ledger) ⟨"m/1_a.yml", ["m", "1_a.yml"]⟩).outcome.map
              MigrationFile.id = .ok "1_a") ∧
      (filesWithLedger "").locate unsearchable = .ok ["m"] ∧
        idsIn ⟨"m", ["m"]⟩ (filesWithLedger "") = .ok ["1_a"] ∧
          idsIn unsearchable (filesWithLedger "") = .ok [] ∧
            idsIn ⟨"m", ["m"]⟩ (filesWithLedger "x") =
              .error (.ledgerCorrupt "m/.version" "x") := by
  refine ⟨?_, rfl, by decide +kernel, by decide +kernel, by decide +kernel⟩
  intro ledger member
  rcases List.mem_pair.mp member with rfl | rfl
  · exact ⟨by decide, by decide +kernel⟩
  · exact ⟨by decide, by decide +kernel⟩

end Workspace

end SchemaMigration
