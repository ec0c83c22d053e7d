import SchemaMigration.Proofs.Ledger.Loops
import SchemaMigration.Proofs.Making

namespace SchemaMigration

/-!
# Opening a directory again

What is made for a name is read back when its directory is opened again, as
long as the file system takes the path of the new file and the directory can be
searched.
-/

/-! ## Paths that are not too long -/

namespace FileTree

/-- Whether the file system takes a name in a directory: neither it nor its path is too long. -/
structure Fits (directory : Place) (name : String) : Prop where
  shortName : name.utf8ByteSize ≤ longestName
  shortPath : (Place.joined directory.label name).utf8ByteSize ≤ longestPath

theorem hasZero_append (first second : String) :
    hasZero (first ++ second) = (hasZero first || hasZero second) := by
  simp [hasZero, List.any_append]

theorem Fits.pathProblem?_eq_none
    {directory : Place}
    {name : String}
    (fits : Fits directory name)
    (directoryFine : pathProblem? directory.label = none)
    (noZero : hasZero name = false) :
    pathProblem? (Place.joined directory.label name) = none := by
  have directoryNoZero := (pathProblem?_eq_none_iff.mp directoryFine).1
  have slashNoZero : hasZero "/" = false := by
    decide
  refine pathProblem?_eq_none_iff.mpr ⟨?_, fits.shortPath⟩
  unfold Place.joined
  split
  · exact noZero
  · split
    · simp [hasZero_append, directoryNoZero, noZero]
    · simp [hasZero_append, directoryNoZero, noZero, slashNoZero]

/-- What is free in a directory that is searched has a name that the file system takes. -/
theorem fits_of_isFree
    {files : FileTree}
    {directory : Place}
    {written : String}
    (searched : Place.searched? directory.label = some written)
    {name : String}
    (isName : Place.IsName name)
    {location : Location}
    (free : files.IsFree (directory.join name) location) :
    Fits directory name := by
  have leads := free.leads
  rw [MigrationFile.join_eq searched isName] at leads
  obtain ⟨fine, followed⟩ := locate_eq_ok_iff.mp leads
  refine ⟨?_, (pathProblem?_eq_none_iff.mp fine).2⟩
  rw [follow_append, Outcome.bind_eq_ok] at followed
  obtain ⟨start, _, here⟩ := followed
  obtain ⟨nonempty, moves, descends⟩ := isName.named
  simp only [follow, nonempty, moves, descends, Bool.false_eq_true, if_false] at here
  split at here
  · cases here
  · cases here
  · split at here
    · cases here
    · omega

end FileTree

namespace Workspace

/-- The name of the file that is made for a name. -/
def madeFileName (name : String) (revision : Revision) : String :=
  madeId name revision ++ Migration.madeExtension

section Made

variable
  {name : String}
  {revision : Revision}
  (genuine : revision.Genuine)
  (lettered : Name.sanitize name ≠ "")

include genuine lettered

theorem hasZero_madeFileName : FileTree.hasZero (madeFileName name revision) = false := by
  have snake := Name.isSnake_sanitize lettered
  have shape :
      (madeFileName name revision).toList =
        revision.text.toList ++ '_' :: ((Name.sanitize name).toList ++ ['.', 'y', 'm', 'l']) := by
    simp [madeFileName, madeId, Migration.stemOf, Migration.madeExtension]
  have digitsNoZero : ∀ c ∈ revision.text.toList, decide (c.toNat = 0) = false := by
    intro c member
    have digit := (Revision.genuine_iff.mp genuine).2 c member
    simp only [Text.isDigit, Bool.and_eq_true, decide_eq_true_eq] at digit
    have atLeast : 48 ≤ c.toNat := digit.1
    rw [decide_eq_false_iff_not]
    omega
  have nameNoZero : ∀ c ∈ (Name.sanitize name).toList, decide (c.toNat = 0) = false := by
    intro c member
    rw [decide_eq_false_iff_not]
    intro isZero
    have same : c = '\x00' :=
      Char.toNat_inj.mp isZero
    rw [same] at member
    rcases snake.of_mem _ member with isBar | solid
    · cases isBar
    · exact absurd solid (by decide)
  rw [FileTree.hasZero, shape, List.any_eq_false]
  intro c member
  rcases List.mem_append.mp member with digit | later
  · simpa using digitsNoZero c digit
  · rcases List.mem_cons.mp later with rfl | later
    · decide
    · rcases List.mem_append.mp later with inName | inExtension
      · simpa using nameNoZero c inName
      · have checked : ['.', 'y', 'm', 'l'].all (fun d => !decide (d.toNat = 0)) = true := by
          decide
        simpa using List.all_eq_true.mp checked c inExtension

section Directory

variable
  {directory : Place}
  {files : FileTree}
  {written : String}
  (searched : Place.searched? directory.label = some written)
  (unused :
    ∀ place ∈ MigrationFile.placesIn files directory,
      Migration.stem? place.label ≠ some (madeId name revision))

include searched unused

/-- Where no migration file has the stem, nothing is in the way of the file that is made. -/
theorem absent_of_unused
    {start : Location}
    (leads : files.locate directory = .ok start) :
    files.holding? (start ++ [madeFileName name revision]) = none := by
  by_contra held
  have isFile : Migration.isFileName (madeFileName name revision) = true :=
    isFileName_made genuine lettered
  have listed : madeFileName name revision ∈ MigrationFile.namesAt files start := by
    rw [MigrationFile.namesAt, List.mem_mergeSort, List.mem_filter]
    exact ⟨FileTree.mem_names_of_holding held, isFile⟩
  have found := List.mem_map_of_mem
    (f := MigrationFile.foundPlace directory written) listed
  rw [← MigrationFile.placesIn_eq leads searched] at found
  have stem := MigrationFile.stem?_made (Name.isSnake_sanitize lettered) (.read genuine)
    (Place.endsWith_searchedEntry written (madeFileName name revision))
  exact unused _ found stem

/-- Where no migration file has the stem, the file that is made has a free place if it fits. -/
theorem isFree_of_unused
    (isDirectory : files.find directory = .ok .directory)
    (fits : FileTree.Fits directory (madeFileName name revision)) :
    ∃ location, files.IsFree (directory.join (madeFileName name revision)) location := by
  obtain ⟨start, leads, held⟩ := FileTree.find_eq_ok_iff.mp isDirectory
  have isName := Migration.isName_made (.read genuine) (Name.isSnake_sanitize lettered)
  have fine := fits.pathProblem?_eq_none (FileTree.locate_eq_ok_iff.mp leads).1
    (hasZero_madeFileName genuine lettered)
  have absent := absent_of_unused genuine lettered searched unused leads
  exact ⟨_, MigrationFile.isFree_join searched isName leads held fine fits.shortName absent⟩

omit genuine lettered searched in
/-- Where no migration file has the stem, no migration that was found is identified by it. -/
theorem notFound_of_unused
    {found : List MigrationFile}
    (discovered : (MigrationFile.discover files directory).outcome = .ok found) :
    madeId name revision ∉ found.map MigrationFile.id := by
  intro member
  obtain ⟨file, isFound, sameId⟩ := List.mem_map.mp member
  obtain ⟨place, isPlace, loaded⟩ := Traced.item_of_mem_each discovered isFound
  have stem := MigrationFile.id_of_load loaded
  rw [sameId] at stem
  exact unused place isPlace stem

end Directory

/-- Where nothing is in the way of it, the file is made. -/
theorem make_writes
    {workspace : Workspace σ}
    {location : Location}
    (free :
      workspace.files.IsFree
        (workspace.migrator.directory.join (madeFileName name revision)) location)
    (fresh : madeId name revision ∉ workspace.migrator.ids) :
    (make name revision).Ends workspace (fun reached outcome =>
      reached.files = workspace.files.put location (.file (.text (madeText name revision))) ∧
        outcome = .ok (workspace.migrator.directory.join (madeFileName name revision))) := by
  refine (make_ends_of_isFree genuine lettered free).imp ?_
  intro reached outcome made
  rw [if_neg fresh] at made
  obtain ⟨rfl, rfl⟩ := made
  exact ⟨rfl, rfl⟩

end Made

/-- The row for the migration that is made, by what the ledger lists. -/
def madeStatus (name : String) (revision : Revision) (known : List Revision) : MigrationStatus :=
  ⟨madeId name revision, revision, Name.sanitize name,
    if revision ∈ known then .applied else .pending, revision.timestamp?⟩

/-- The status goes by what the file of the ledger lists. -/
theorem status_eq
    {workspace : Workspace σ}
    {location : Location}
    (works : workspace.WorksOn location)
    {known : List Revision}
    (listed : Ledger.listedAt workspace.files location = some known) :
    status.Ends workspace (fun _ outcome =>
      outcome = .ok (workspace.caughtUp known).migrator.statuses) := by
  simp only [status, Action.ends_bind, Action.ends_current, Action.ends_pure]
  rw [Action.Ends, reload_eq works listed]

theorem mem_statuses_of_mem
    {migrator : Migrator σ}
    {name : String}
    {revision : Revision}
    {place : Place}
    (member : (madeFile name revision place).migration ∈ migrator.migrations) :
    madeStatus name revision migrator.ledger.applied ∈ migrator.statuses := by
  refine List.mem_map.mpr ⟨_, member, ?_⟩
  simp [madeStatus, Migrator.stateOf, Migrator.isApplied, Ledger.contains, madeFile,
    MigrationFile.migration, Migration.id, madeId]

/-- A directory that gained the file that is made is opened with what it holds and the others. -/
theorem openIn_gains
    {name : String}
    {revision : Revision}
    (genuine : revision.Genuine)
    (lettered : Name.sanitize name ≠ "")
    {directory : Place}
    {files : FileTree}
    {ledger : Ledger}
    {found : List MigrationFile}
    (reads : Migrator.Reads directory files ledger found)
    (distinct : (found.map MigrationFile.id).Nodup)
    (fresh : madeId name revision ∉ found.map MigrationFile.id)
    {written : String}
    (searched : Place.searched? directory.label = some written)
    {location : Location}
    (free : files.IsFree (directory.join (madeFileName name revision)) location) :
    (Migrator.openIn directory).Ends
      (files.put location (.file (.text (madeText name revision))))
      (fun reached outcome =>
        reached = files.put location (.file (.text (madeText name revision))) ∧
          ∃ again : Migrator σ,
            outcome = .ok again ∧
              again.ledger = ledger ∧
                again.Ordered ∧
                  ∃ place,
                    MigrationFile.load reached place =
                        ⟨[], .ok (madeFile name revision place)⟩ ∧
                      again.migrations.Perm
                        ((madeFile name revision place).migration ::
                          found.map MigrationFile.migration)) := by
  obtain ⟨place, foundAgain, readsAgain, moved, loaded⟩ :=
    reads_made genuine lettered searched reads free
  have distinctAgain : (foundAgain.map MigrationFile.id).Nodup := by
    rw [(moved.map MigrationFile.id).nodup_iff, List.map_cons, List.nodup_cons]
    exact ⟨fresh, distinct⟩
  refine readsAgain.openIn_ends.imp ?_
  rintro reached outcome ⟨rfl, opens⟩
  have opened := (opens _).mpr ⟨distinctAgain, rfl⟩
  have registered := Migrator.perm_holding (σ := σ) directory ledger distinctAgain
  have migrations := registered.trans (moved.map MigrationFile.migration)
  exact ⟨rfl, _, opened, Migrator.ledger_holding directory ledger foundAgain,
    Migrator.ordered_holding directory ledger foundAgain, place, loaded, migrations⟩

/--
What is made for a name is read back.

Let a directory that can be searched have been opened, and no migration file in
it have the stem of a revision of digits and of a name with a letter.  If the
file system takes the path of the new file, it is made, and when the directory
is opened again it is loaded as a migration of that revision and name that does
nothing, with nothing to say about it; all other migrations are there as before,
and the new one is pending unless the ledger lists its revision.
-/
theorem made_is_read_back
    {directory : Place}
    {files : FileTree}
    {migrator : Migrator σ}
    (opened : (Migrator.openIn directory files).outcome = .ok migrator)
    (searchable : (Place.searched? directory.label).isSome)
    {name : String}
    (hasLetter : name.toList.any Text.isAlphabetic = true)
    {revision : Revision}
    (genuine : revision.Genuine)
    (fits : FileTree.Fits directory (madeFileName name revision))
    (unused :
      ∀ place ∈
          MigrationFile.placesIn (Migrator.openIn (σ := σ) directory files).state directory,
        Migration.stem? place.label ≠ some (madeId name revision))
    (database : σ) :
    let made :=
      make name revision ⟨migrator, (Migrator.openIn (σ := σ) directory files).state, database⟩
    made.outcome = .ok (directory.join (madeFileName name revision)) ∧
      ∃ again : Migrator σ,
        (Migrator.openIn directory made.state.files).outcome = .ok again ∧
          (Migrator.openIn (σ := σ) directory made.state.files).state = made.state.files ∧
            again.ids.Perm (madeId name revision :: migrator.ids) ∧
              again.ids.Pairwise (· < ·) ∧
                (∃ place,
                  MigrationFile.load made.state.files place =
                      ⟨[], .ok (madeFile name revision place)⟩ ∧
                    (madeFile name revision place).migration ∈ again.migrations) ∧
                  ∃ rows,
                    (status ⟨again, made.state.files, database⟩).outcome = .ok rows ∧
                      madeStatus name revision migrator.ledger.applied ∈ rows := by
  intro made
  obtain ⟨written, searched⟩ := Option.isSome_iff_exists.mp searchable
  obtain ⟨found, reads, distinct, isHolding⟩ := Migrator.reads_of_openIn opened
  have sameDirectory := Migrator.directory_of_openIn opened
  have lettered : Name.sanitize name ≠ "" := by
    intro isEmpty
    have noLetter := Name.sanitize_eq_empty_iff.mp isEmpty
    rw [hasLetter] at noLetter
    cases noLetter
  obtain ⟨location, free⟩ :=
    isFree_of_unused genuine lettered searched unused reads.isDirectory fits
  have notFound := notFound_of_unused unused reads.discovered
  have ids : migrator.ids.Perm (found.map MigrationFile.id) := by
    rw [isHolding]
    exact Migrator.perm_ids_holding directory _ distinct
  have fresh : madeId name revision ∉ migrator.ids :=
    fun known => notFound (ids.mem_iff.mp known)
  obtain ⟨sameFiles, succeeded⟩ :
      made.state.files =
          (Migrator.openIn (σ := σ) directory files).state.put location
            (.file (.text (madeText name revision))) ∧
        made.outcome = .ok (migrator.directory.join (madeFileName name revision)) :=
    make_writes genuine lettered (sameDirectory.symm ▸ free) fresh
  have gained := openIn_gains (σ := σ) genuine lettered reads distinct notFound searched free
  obtain ⟨stays, again, openedAgain, sameLedger, ordered, place, loaded, migrations⟩ := gained
  have located := Migrator.openIn_ends directory _ database again openedAgain
  rw [stays] at located loaded
  obtain ⟨_, ledgerLocation, works, listed⟩ := located
  rw [succeeded, sameDirectory, sameFiles]
  refine ⟨rfl, again, openedAgain, stays, ?_, ordered, ?_, ?_⟩
  · have gainedIds := migrations.map Migration.id
    rw [List.map_cons, Migrator.map_id_migration] at gainedIds
    exact gainedIds.trans (ids.symm.cons _)
  · exact ⟨place, loaded, migrations.mem_iff.mpr List.mem_cons_self⟩
  · have reported := status_eq works listed
    have row := mem_statuses_of_mem (migrations.mem_iff.mpr List.mem_cons_self)
    rw [sameLedger] at row
    exact ⟨_, reported, row⟩

theorem stem?_of_clashing :
    ∀ place ∈ MigrationFile.placesIn clashingFiles ⟨"m", ["m"]⟩,
      Migration.stem? place.label = some "1_create_runs" := by
  decide +kernel

theorem unused_in_clashing
    {revision : Revision}
    (different : "1_create_runs" ≠ madeId "create runs" revision) :
    ∀ place ∈ MigrationFile.placesIn clashingFiles ⟨"m", ["m"]⟩,
      Migration.stem? place.label ≠ some (madeId "create runs" revision) := by
  intro place isPlace taken
  rw [stem?_of_clashing place isPlace] at taken
  exact different (Option.some.inj taken)

/-- A second migration of the same name is read back beside the first. -/
theorem second_revision_is_read_back :
    ∃ migrator again : Migrator Unit,
      (Migrator.openIn ⟨"m", ["m"]⟩ clashingFiles).outcome = .ok migrator ∧
        (make "create runs" ⟨"2"⟩ ⟨migrator, clashingFiles, ()⟩).outcome =
            .ok (Place.join ⟨"m", ["m"]⟩ "2_create_runs.yml") ∧
          (Migrator.openIn ⟨"m", ["m"]⟩
              (make "create runs" ⟨"2"⟩ ⟨migrator, clashingFiles, ()⟩).state.files).outcome =
            .ok again ∧
            again.ids.Perm ["2_create_runs", "1_create_runs"] := by
  obtain ⟨migrator, opened, ids, sameDirectory⟩ := opened_clashing
  have sameId : madeId "create runs" ⟨"2"⟩ = "2_create_runs" :=
    madeId_create_runs _
  have sameName : madeFileName "create runs" ⟨"2"⟩ = "2_create_runs.yml" := by
    rw [madeFileName, sameId]
    rfl
  have fits : FileTree.Fits ⟨"m", ["m"]⟩ (madeFileName "create runs" ⟨"2"⟩) := by
    rw [sameName]
    exact ⟨by decide, by decide⟩
  have different : "1_create_runs" ≠ madeId "create runs" ⟨"2"⟩ := by
    rw [sameId]
    decide
  have made := made_is_read_back opened (by decide) (by decide +kernel) genuine_second fits
    (state_openIn_clashing.symm ▸ unused_in_clashing different) ()
  rw [state_openIn_clashing, sameName, sameId, ids] at made
  obtain ⟨succeeded, again, openedAgain, _, gained, _⟩ := made
  exact ⟨migrator, again, opened, succeeded, openedAgain, gained⟩

/-! ### What is not read back -/

/-- A revision that repeats one digit. -/
def ones (count : Nat) : Revision :=
  ⟨String.ofList (List.replicate (count + 1) '1')⟩

theorem genuine_ones (count : Nat) : (ones count).Genuine := by
  rw [Revision.genuine_iff, ones, String.toList_ofList]
  constructor
  · intro isEmpty
    have noDigits := String.toList_eq_nil_iff.mpr isEmpty
    rw [String.toList_ofList] at noDigits
    cases noDigits
  · intro c member
    rw [List.eq_of_mem_replicate member]
    rfl

theorem lt_utf8ByteSize_ones (count : Nat) :
    count < (String.ofList (List.replicate (count + 1) '1')).utf8ByteSize := by
  induction count with
  | zero =>
      decide
  | succ count inductionHypothesis =>
      have one : '1'.utf8Size = 1 := by
        decide
      rw [List.replicate_succ, FileTree.utf8ByteSize_ofList_cons]
      omega

theorem lt_utf8ByteSize_madeId (name : String) (count : Nat) :
    count < (madeId name (ones count)).utf8ByteSize := by
  have digits : count < (ones count).text.utf8ByteSize :=
    lt_utf8ByteSize_ones count
  rw [madeId, Migration.stemOf, String.utf8ByteSize_append, String.utf8ByteSize_append]
  omega

/-- Where more digits are repeated than a name may have, no place is free. -/
theorem not_isFree_ones
    {files : FileTree}
    {directory : Place}
    {written : String}
    (searched : Place.searched? directory.label = some written)
    {name : String}
    (lettered : Name.sanitize name ≠ "")
    {count : Nat}
    (tooMany : FileTree.longestName ≤ count)
    (location : Location) :
    ¬ files.IsFree (directory.join (madeFileName name (ones count))) location := by
  intro free
  have isName := Migration.isName_made (.read (genuine_ones count)) (Name.isSnake_sanitize lettered)
  have fits := FileTree.fits_of_isFree searched isName free
  have short : (madeId name (ones count) ++ Migration.madeExtension).utf8ByteSize ≤ _ :=
    fits.shortName
  have long := lt_utf8ByteSize_madeId name count
  rw [String.utf8ByteSize_append] at short
  omega

/-- A file whose name has more digits than a name may have is never made. -/
theorem make_ones_fails
    {migrator : Migrator σ}
    (files : FileTree)
    (database : σ)
    {written : String}
    (searched : Place.searched? migrator.directory.label = some written)
    {name : String}
    (lettered : Name.sanitize name ≠ "")
    {count : Nat}
    (tooMany : FileTree.longestName ≤ count) :
    (make name (ones count)).Ends ⟨migrator, files, database⟩ (fun reached outcome =>
      reached = ⟨migrator, files, database⟩ ∧ ∃ problem, outcome = .error problem) :=
  make_keeps lettered (not_isFree_ones searched lettered tooMany)

theorem madeId_ones_ne
    {name : String}
    {count : Nat}
    {id : String}
    (short : id.utf8ByteSize ≤ count) :
    id ≠ madeId name (ones count) := by
  have long := lt_utf8ByteSize_madeId name count
  rintro rfl
  omega

/-- A file for the revision of a far year is not loaded, since its name starts with a sign. -/
theorem load_far (files : FileTree) :
    (MigrationFile.load files
        (Place.join ⟨"m", ["m"]⟩ "+100000101000000_create_runs.yml")).outcome =
      .error (.invalidFile "m/+100000101000000_create_runs.yml" .malformedName) := by
  rfl

theorem make_far_fails
    {migrator : Migrator Unit}
    (sameDirectory : migrator.directory = ⟨"m", ["m"]⟩) :
    ∃ problem,
      (make "create runs" Revision.far ⟨migrator, clashingFiles, ()⟩).outcome = .error problem := by
  have place :
      (⟨migrator, clashingFiles, ()⟩ : Workspace Unit).madePlace "create runs" Revision.far =
        Place.join ⟨"m", ["m"]⟩ "+100000101000000_create_runs.yml" := by
    rw [madePlace, sanitize_create_runs, sameDirectory, Revision.far_eq]
    rfl
  have free :
      clashingFiles.IsFree (Place.join ⟨"m", ["m"]⟩ "+100000101000000_create_runs.yml")
        ["m", "+100000101000000_create_runs.yml"] :=
    ⟨rfl, rfl⟩
  rw [← place] at free
  have failed := load_far
    ((⟨migrator, clashingFiles, ()⟩ : Workspace Unit).withMade "create runs" Revision.far
      ["m", "+100000101000000_create_runs.yml"]).files
  rw [← place] at failed
  exact ⟨_, (make_abandons lettered_create_runs free failed).2⟩

/-- A directory as it is written when it can be opened but not searched. -/
def unsearchable : Place :=
  Place.ofPath ".//m"

def unsearchableFiles : FileTree :=
  ⟨[(["m"], .directory), (["m", ".version"], .file (.text ""))], []⟩

/-- What is made in a directory that cannot be searched is not found. -/
theorem make_unsearchable :
    ∃ migrator : Migrator Unit,
      (Migrator.openIn unsearchable unsearchableFiles).outcome = .ok migrator ∧
        (make "create runs" ⟨"2"⟩ ⟨migrator, unsearchableFiles, ()⟩).outcome =
            .ok (unsearchable.join "2_create_runs.yml") ∧
          idsIn unsearchable
              (make "create runs" ⟨"2"⟩ ⟨migrator, unsearchableFiles, ()⟩).state.files =
            .ok [] := by
  obtain ⟨migrator, opened, ids, sameDirectory⟩ :=
    opened_of_idsIn (show idsIn unsearchable unsearchableFiles = .ok [] by decide +kernel)
  have sameName : madeFileName "create runs" ⟨"2"⟩ = "2_create_runs.yml" := by
    rw [madeFileName, madeId_create_runs]
    rfl
  have free :
      unsearchableFiles.IsFree (unsearchable.join (madeFileName "create runs" ⟨"2"⟩))
        ["m", "2_create_runs.yml"] := by
    rw [sameName]
    exact ⟨rfl, rfl⟩
  have fresh : madeId "create runs" ⟨"2"⟩ ∉ migrator.ids := by
    rw [ids]
    exact List.not_mem_nil
  obtain ⟨sameFiles, succeeded⟩ :
      (make "create runs" ⟨"2"⟩ ⟨migrator, unsearchableFiles, ()⟩).state.files =
          unsearchableFiles.put ["m", "2_create_runs.yml"]
            (.file (.text (madeText "create runs" ⟨"2"⟩))) ∧
        (make "create runs" ⟨"2"⟩ ⟨migrator, unsearchableFiles, ()⟩).outcome =
          .ok (migrator.directory.join (madeFileName "create runs" ⟨"2"⟩)) :=
    make_writes genuine_second lettered_create_runs (sameDirectory.symm ▸ free) fresh
  rw [sameDirectory, sameName] at succeeded
  refine ⟨migrator, opened, succeeded, ?_⟩
  rw [sameFiles]
  decide +kernel

/--
A file whose name is too long is not made, a file for a revision that is not of
digits is not loaded, and a file in a directory that cannot be searched is not
found again.
-/
theorem made_but_not_read_back :
    (∃ migrator : Migrator Unit,
      (Migrator.openIn ⟨"m", ["m"]⟩ clashingFiles).outcome = .ok migrator ∧
        ∀ revision ∈ [ones 259, Revision.far],
          revision.Given ∧
            (∀ place ∈ MigrationFile.placesIn clashingFiles ⟨"m", ["m"]⟩,
              Migration.stem? place.label ≠ some (madeId "create runs" revision)) ∧
              ∃ problem,
                (make "create runs" revision ⟨migrator, clashingFiles, ()⟩).outcome =
                  .error problem) ∧
      ∃ migrator : Migrator Unit,
        (Migrator.openIn unsearchable unsearchableFiles).outcome = .ok migrator ∧
          (make "create runs" ⟨"2"⟩ ⟨migrator, unsearchableFiles, ()⟩).outcome =
              .ok (unsearchable.join "2_create_runs.yml") ∧
            idsIn unsearchable
                (make "create runs" ⟨"2"⟩ ⟨migrator, unsearchableFiles, ()⟩).state.files =
              .ok [] := by
  refine ⟨?_, make_unsearchable⟩
  obtain ⟨migrator, opened, _, sameDirectory⟩ := opened_clashing
  refine ⟨migrator, opened, ?_⟩
  rw [List.forall_mem_cons, List.forall_mem_singleton]
  constructor
  · have searched : Place.searched? migrator.directory.label = some "m" := by
      rw [sameDirectory]
      decide
    have different : "1_create_runs" ≠ madeId "create runs" (ones 259) :=
      madeId_ones_ne (by decide)
    have fails := make_ones_fails clashingFiles () searched lettered_create_runs
      (show FileTree.longestName ≤ 259 by decide)
    exact ⟨.read (genuine_ones 259), unused_in_clashing different, fails.2⟩
  · have different : "1_create_runs" ≠ madeId "create runs" Revision.far := by
      rw [Revision.far_eq, madeId_create_runs]
      decide
    exact ⟨.made _, unused_in_clashing different, make_far_fails sameDirectory⟩

end Workspace

end SchemaMigration
