import SchemaMigration.Proofs.Ledger.Steps

namespace SchemaMigration

/-!
# Opening migrators

A migrator that was opened works on the ledger of its directory, and its
revisions are genuine: they were read off the names of files.  Registering
further migrations with genuine revisions keeps that.
-/

/-! ## Files -/

namespace MigrationFile

theorem genuine_of_identify
    {stem? : Option String}
    {stem name : String}
    {revision : Revision}
    (identified : identify stem? = .ok (stem, revision, name)) :
    revision.Genuine := by
  unfold identify at identified
  split at identified
  · cases identified
  · split at identified
    · cases identified
    · split at identified
      · rename_i parsed
        cases identified
        exact (Revision.genuine_of_parse parsed).2
      · cases identified

/-- A file that loads has a genuine revision. -/
theorem genuine_of_load
    {files : FileTree}
    {place : Place}
    {file : MigrationFile}
    (loaded : (load files place).outcome = .ok file) :
    file.revision.Genuine := by
  unfold load loadNamed at loaded
  simp only [Traced.outcome_bind_eq_ok, Traced.outcome_ofExcept] at loaded
  obtain ⟨⟨stem, revision, name⟩, identified, _, _, _, _, _, _, _, _, _, _, returned⟩ :=
    loaded
  rw [Traced.outcome_pure] at returned
  cases returned
  cases identity : identify (Migration.stem? place.label) with
  | error _ =>
      simp [identity, Except.mapError] at identified
  | ok parts =>
      simp only [identity, Except.mapError, Except.ok.injEq] at identified
      rw [identified] at identity
      exact genuine_of_identify identity

/-- All files that are discovered have genuine revisions. -/
theorem genuine_of_discover
    {files : FileTree}
    {directory : Place}
    {found : List MigrationFile}
    (discovered : (discover files directory).outcome = .ok found) :
    ∀ file ∈ found, file.revision.Genuine := by
  rw [discover, Traced.outcome_each_eq_ok] at discovered
  generalize placesIn files directory = places at discovered
  induction discovered with
  | nil =>
      exact nofun
  | cons loaded _ inductionHypothesis =>
      intro file member
      rcases List.mem_cons.mp member with rfl | later
      · exact genuine_of_load loaded
      · exact inductionHypothesis file later

end MigrationFile

/-! ## The registry -/

namespace Migrator

theorem mem_insertById
    {migration registered : Migration σ}
    {migrations : List (Migration σ)}
    (member : registered ∈ insertById migration migrations) :
    registered = migration ∨ registered ∈ migrations := by
  induction migrations with
  | nil =>
      exact .inl (List.mem_singleton.mp member)
  | cons first rest inductionHypothesis =>
      unfold insertById at member
      split at member
      · rcases List.mem_cons.mp member with isFirst | later
        · exact .inr (List.mem_cons.mpr (.inl isFirst))
        · exact (inductionHypothesis later).imp_right (List.mem_cons_of_mem _)
      · exact List.mem_cons.mp member

/-- Registering keeps the directory and the ledger, and the migration is one of them then. -/
theorem register_eq_ok
    {migrator next : Migrator σ}
    {migration : Migration σ}
    (registered : (migrator.register migration).outcome = .ok next) :
    next = { migrator with migrations := insertById migration migrator.migrations } := by
  unfold register at registered
  split at registered
  · cases registered
  · simp only [Traced.outcome_bind_eq_ok, Traced.outcome_tell, Traced.outcome_pure,
      Except.ok.injEq] at registered
    obtain ⟨_, _, rfl⟩ := registered
    rfl

/-- Registering a migration of a genuine revision keeps all revisions genuine. -/
theorem genuine_of_register
    {migrator next : Migrator σ}
    {migration : Migration σ}
    (genuine : GenuineMigrations migrator.migrations)
    (another : migration.revision.Genuine)
    (registered : (migrator.register migration).outcome = .ok next) :
    GenuineMigrations next.migrations := by
  rw [register_eq_ok registered]
  intro held member
  rcases mem_insertById member with rfl | known
  · exact another
  · exact genuine held known

end Migrator

/-! ## Opening -/

theorem Ledger.listedAt_of_reread
    {ledger read : Ledger}
    {files : FileTree}
    (reread : ledger.reread files = .ok read) :
    read.directory = ledger.directory ∧
      ∃ location,
        files.locate ledger.place = .ok location ∧
          listedAt files location = some read.applied := by
  cases leads : files.locate ledger.place with
  | error _ =>
      simp [Ledger.reread, FileTree.read, FileTree.find, leads] at reread
  | ok location =>
      rcases reread_eq leads with ⟨revisions, listed, isRead⟩ | ⟨_, problem, failed⟩
      · rw [isRead] at reread
        cases reread
        exact ⟨rfl, location, rfl, listed⟩
      · rw [failed] at reread
        cases reread

/-- The ledger that was opened is the file in its directory, and lists what that lists. -/
theorem Ledger.openIn_ends
    (directory : Place)
    (files : FileTree) :
    (Ledger.openIn directory).Ends files (fun reached outcome =>
      ∀ ledger,
        outcome = .ok ledger →
          ∃ location,
            reached.locate ledger.place = .ok location ∧
              listedAt reached location = some ledger.applied) := by
  have rereads
      (tree : FileTree) :
      ∀ ledger : Ledger,
        (⟨directory, []⟩ : Ledger).reread tree = .ok ledger →
          ∃ location,
            tree.locate ledger.place = .ok location ∧
              listedAt tree location = some ledger.applied := by
    intro ledger read
    obtain ⟨sameDirectory, location, leads, listed⟩ := Ledger.listedAt_of_reread read
    refine ⟨location, ?_, listed⟩
    rwa [Ledger.place, sameDirectory]
  unfold Ledger.openIn
  simp only [Action.ends_bind, Action.ends_current]
  split
  · split
    · rintro ledger ⟨⟩
    · rename_i written _
      exact rereads written
  · exact rereads files

/-- A migrator that was opened works on the file that its ledger is, with genuine revisions. -/
theorem Migrator.openIn_ends
    (directory : Place)
    (files : FileTree)
    (database : σ) :
    (Migrator.openIn directory).Ends files (fun reached outcome =>
      ∀ migrator : Migrator σ,
        outcome = .ok migrator →
          GenuineMigrations migrator.migrations ∧
            ∃ location,
              (⟨migrator, reached, database⟩ : Workspace σ).WorksOn location ∧
                Ledger.listedAt reached location = some migrator.ledger.applied) := by
  unfold Migrator.openIn
  simp only [Action.ends_bind, Action.ends_current]
  split
  · rintro migrator ⟨⟩
  · rw [Action.ends_bind]
    refine (Ledger.openIn_ends directory files).imp ?_
    intro reached outcome located
    cases outcome with
    | error _ =>
        rintro migrator ⟨⟩
    | ok ledger =>
        dsimp only
        rw [Action.ends_inspect]
        intro migrator opened
        simp only [Traced.outcome_bind_eq_ok, Traced.outcome_tell, Traced.outcome_pure,
          Except.ok.injEq] at opened
        obtain ⟨found, discovered, final, swept, _, _, rfl⟩ := opened
        obtain ⟨location, leads, listed⟩ := located ledger rfl
        have registered :
            final.ledger = ledger ∧ GenuineMigrations final.migrations := by
          refine Traced.sweep_keeps
            (fun migrator => migrator.ledger = ledger ∧
              GenuineMigrations migrator.migrations)
            (fun migration => migration.revision.Genuine) ?_ ?_
            ⟨rfl, fun _ member => by cases member⟩ swept
          · rintro migrator migration next ⟨sameLedger, genuine⟩ another registers
            refine ⟨?_, genuine_of_register genuine another registers⟩
            rw [register_eq_ok registers, sameLedger]
          · intro migration member
            obtain ⟨file, isFound, rfl⟩ := List.mem_map.mp member
            exact MigrationFile.genuine_of_discover discovered file isFound
        rw [← registered.1] at leads listed
        exact ⟨registered.2, location, leads, listed⟩

end SchemaMigration
