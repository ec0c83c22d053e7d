import SchemaMigration.Migration.Workspace
import SchemaMigration.Proofs.Ledger.OnFile

namespace SchemaMigration

/-!
# Steps and the ledger

What steps, refreshes and inquiries do to the list on file, read off from how
they end.  A step that ran appends the revision of its migration or takes it
out, and everything else leaves the list as it was.
-/

/-! ## What identifies migrations -/

/-- What identifies migrations of genuine revisions tells the revisions apart. -/
theorem Migration.revision_eq_of_id_eq
    {first second : Migration σ}
    (firstGenuine : first.revision.Genuine)
    (secondGenuine : second.revision.Genuine)
    (same : first.id = second.id) :
    first.revision = second.revision := by
  have digitsOf
      (migration : Migration σ)
      (genuine : migration.revision.Genuine) :
      migration.id.toList.takeWhile Text.isDigit = migration.revision.text.toList := by
    have digits := (Revision.genuine_iff.mp genuine).2
    have shape :
        migration.id.toList =
          migration.revision.text.toList ++ '_' :: migration.name.toList := by
      simp [Migration.id, Migration.stemOf]
    have stops : Text.isDigit '_' = false := by
      decide
    rw [shape, List.takeWhile_append_of_pos digits, List.takeWhile_cons, stops]
    simp
  have texts : first.revision.text.toList = second.revision.text.toList := by
    rw [← digitsOf first firstGenuine, ← digitsOf second secondGenuine, same]
  have revisions : first.revision.text = second.revision.text :=
    String.toList_inj.mp texts
  cases firstShape : first.revision
  cases secondShape : second.revision
  simpa [firstShape, secondShape] using revisions

/-- Whether all migrations have genuine revisions. -/
def GenuineMigrations (migrations : List (Migration σ)) : Prop :=
  ∀ migration ∈ migrations, migration.revision.Genuine

/-- A step that was completed. -/
structure Completion where
  direction : Direction
  id : String
  deriving DecidableEq

namespace Completion

/-- The list after a revision was recorded for a direction. -/
def recorded (direction : Direction) (revision : Revision) (known : List Revision) :
    List Revision :=
  match direction with
  | .up => known ++ [revision]
  | .down => Ledger.removed revision known

/-- The list after a completed step, whose migration is among those of a migrator. -/
def record
    (migrations : List (Migration σ))
    (known : List Revision)
    (completion : Completion) :
    List Revision :=
  match migrations.find? (fun migration => migration.id = completion.id) with
  | some migration => recorded completion.direction migration.revision known
  | none => known

/-- The list after completed steps. -/
def recordAll
    (migrations : List (Migration σ))
    (completions : List Completion)
    (known : List Revision) :
    List Revision :=
  completions.foldl (record migrations) known

/-- Whether all completed steps are of migrations that are at hand. -/
def AllOf (migrations : List (Migration σ)) (completions : List Completion) : Prop :=
  ∀ completion ∈ completions,
    ∃ migration ∈ migrations, migration.id = completion.id

/-- A completed step records the revision of the migration that ran. -/
theorem record_of_mem
    {migrations : List (Migration σ)}
    (genuine : GenuineMigrations migrations)
    {migration : Migration σ}
    (member : migration ∈ migrations)
    (direction : Direction)
    (known : List Revision) :
    record migrations known ⟨direction, migration.id⟩ =
      recorded direction migration.revision known := by
  unfold record
  split
  · rename_i found isFound
    have sameId : found.id = migration.id := by
      simpa using List.find?_some isFound
    rw [Migration.revision_eq_of_id_eq
      (genuine found (List.mem_of_find?_eq_some isFound))
      (genuine migration member) sameId]
  · rename_i missing
    have unequal := List.find?_eq_none.mp missing migration member
    simp at unequal

end Completion

namespace Workspace

/--
What an action on a workspace does, beside the list on file: the migrations
stay, and so does the directory.
-/
structure Advances
    (location : Location)
    (change : List Revision → List Revision)
    (before after : Workspace σ) : Prop where
  migrations : after.migrator.migrations = before.migrator.migrations
  session : before.ledgerSession.Advances location change after.ledgerSession

namespace Advances

variable {location : Location}

theorem trans
    {before between after : Workspace σ}
    {first second : List Revision → List Revision}
    (earlier : Advances location first before between)
    (later : Advances location second between after) :
    Advances location (second ∘ first) before after where
  migrations := later.migrations.trans earlier.migrations
  session := earlier.session.trans later.session

/-- Where files and directory stay, the list stays. -/
theorem of_sameFiles
    {before after : Workspace σ}
    (migrations : after.migrator.migrations = before.migrator.migrations)
    (directory : after.migrator.ledger.directory = before.migrator.ledger.directory)
    (files : after.files = before.files) :
    Advances location id before after where
  migrations := migrations
  session := .of_sameFiles directory files

end Advances

/-- Whether the ledger of a workspace is the file at a location. -/
def WorksOn (workspace : Workspace σ) (location : Location) : Prop :=
  workspace.ledgerSession.LeadsTo location

theorem Advances.worksOn
    {location : Location}
    {change : List Revision → List Revision}
    {before after : Workspace σ}
    (advances : Advances location change before after)
    (works : before.WorksOn location) :
    after.WorksOn location :=
  advances.session.leadsTo works

theorem Advances.genuine
    {location : Location}
    {change : List Revision → List Revision}
    {before after : Workspace σ}
    (advances : Advances location change before after)
    (genuine : GenuineMigrations before.migrator.migrations) :
    GenuineMigrations after.migrator.migrations := by
  rw [advances.migrations]
  exact genuine

variable
  {location : Location}
  {workspace : Workspace σ}

/-! ## One step -/

/-- Reading the ledger again leaves the list, and takes it over when nothing fails. -/
theorem reload_ends
    (works : workspace.WorksOn location) :
    (onLedger Ledger.reload).Ends workspace (fun reached outcome =>
      Advances location id workspace reached ∧
        reached.files = workspace.files ∧
          ∀ value,
            outcome = .ok value →
              Ledger.listedAt workspace.files location =
                some reached.migrator.ledger.applied) := by
  rw [onLedger, Action.ends_focus]
  refine (Ledger.reload_ends works).imp ?_
  rintro reread outcome ⟨files, directory, read⟩
  refine ⟨.of_sameFiles rfl directory files, files, ?_⟩
  rintro value rfl
  exact read

/-- Recording a revision that a direction can record changes the list by it. -/
theorem record_ends
    (works : workspace.WorksOn location)
    {revision : Revision}
    (genuine : revision.Genuine)
    {known : List Revision}
    (listed : Ledger.listedAt workspace.files location = some known)
    {direction : Direction}
    (recordable : direction = .up → revision ∉ known) :
    (onLedger (Workspace.record revision direction)).Ends workspace
      (fun reached outcome =>
        Advances location (Ledger.ifOk (Completion.recorded direction revision) outcome)
          workspace reached) := by
  rw [onLedger, Action.ends_focus]
  cases direction with
  | up =>
      refine (Ledger.insert_ends works genuine).imp ?_
      rintro reached outcome advances
      refine ⟨rfl, advances.directory, advances.evolves, ?_⟩
      have appended : Ledger.inserted revision known = Completion.recorded .up revision known := by
        simp [Ledger.inserted, Completion.recorded, recordable rfl]
      refine advances.listed.trans ?_
      change Option.map _ (Ledger.listedAt workspace.files location) =
        Option.map _ (Ledger.listedAt workspace.files location)
      rw [listed]
      cases outcome <;> simp [Ledger.ifOk, appended]
  | down =>
      refine (Ledger.remove_ends works revision).imp ?_
      rintro reached outcome advances
      exact ⟨rfl, advances⟩

/-- Running a migration records it, or fails and leaves the list. -/
theorem run_ends
    (works : workspace.WorksOn location)
    (store : Store σ)
    {direction : Direction}
    {migration : Migration σ}
    (genuine : migration.revision.Genuine)
    (listed :
      Ledger.listedAt workspace.files location =
        some workspace.migrator.ledger.applied)
    (runnable : workspace.migrator.canRun direction migration = true) :
    (run store direction migration).Ends workspace (fun reached outcome =>
      Advances location
        (Ledger.ifOk (Completion.recorded direction migration.revision) outcome)
        workspace reached) := by
  simp only [run, onDatabase, Action.ends_bind, Action.ends_mapError, Action.ends_focus,
    Action.ends_tell]
  refine Action.ends_of_forall ?_
  intro database half
  have untouched :
      Advances location id workspace { workspace with database := database } :=
    .of_sameFiles rfl rfl rfl
  cases half with
  | error _ =>
      exact untouched
  | ok _ =>
      have recordable :
          direction = .up →
            migration.revision ∉ workspace.migrator.ledger.applied := by
        rintro rfl
        simpa [Migrator.canRun, Migrator.isApplied, Ledger.contains] using runnable
      have recording :=
        record_ends (untouched.worksOn works) genuine listed recordable
      refine recording.imp ?_
      rintro reached outcome advances
      cases outcome <;> exact untouched.trans advances

/-! ## Steps -/

/-- The completed steps of a step: itself, when it ran a migration. -/
def stepCompletions (direction : Direction) :
    Except MigrationError Outcome → List Completion
  | .ok (.ran id) => [⟨direction, id⟩]
  | _ => []

theorem mem_of_select
    {migrator : Migrator σ}
    {selector : String}
    {migration : Migration σ}
    (selected : migrator.select selector = .ok migration) :
    migration ∈ migrator.migrations := by
  simp only [Migrator.select] at selected
  split at selected
  · rename_i found isFound
    cases selected
    rcases Option.or_eq_some_iff.mp isFound with byId | ⟨_, byRevision⟩
    · exact List.mem_of_find?_eq_some byId
    · exact List.mem_of_find?_eq_some byRevision
  · cases selected

/-- What is chosen to run is a migration that can run. -/
theorem runnable_of_choose
    {migrator : Migrator σ}
    {direction : Direction}
    {selector? : Option String}
    {migration : Migration σ}
    (chosen : migrator.choose direction selector? = .ok (.run migration)) :
    migration ∈ migrator.migrations ∧ migrator.canRun direction migration = true := by
  cases selector? with
  | some selector =>
      simp only [Migrator.choose] at chosen
      cases selected : migrator.select selector with
      | error _ =>
          simp [selected, Except.map] at chosen
      | ok found =>
          simp only [selected, Except.map, Except.ok.injEq] at chosen
          split at chosen
          · rename_i runnable
            cases chosen
            exact ⟨mem_of_select selected, runnable⟩
          · cases chosen
  | none =>
      simp only [Migrator.choose, Except.ok.injEq] at chosen
      cases next : migrator.next? direction with
      | none =>
          simp [next] at chosen
      | some found =>
          simp only [next, Option.elim_some, Migrator.Choice.run.injEq] at chosen
          subst chosen
          cases direction with
          | up =>
              exact ⟨List.mem_of_find?_eq_some next, List.find?_some next⟩
          | down =>
              exact ⟨List.mem_reverse.mp (List.mem_of_find?_eq_some next),
                List.find?_some next⟩

/-- A step changes the list by the migration that it ran. -/
theorem step_ends
    (works : workspace.WorksOn location)
    (genuine : GenuineMigrations workspace.migrator.migrations)
    (store : Store σ)
    (direction : Direction)
    (selector? : Option String) :
    (step store direction selector?).Ends workspace (fun reached outcome =>
      Completion.AllOf workspace.migrator.migrations (stepCompletions direction outcome) ∧
        Advances location
          (Completion.recordAll workspace.migrator.migrations
            (stepCompletions direction outcome))
          workspace reached) := by
  have noneRan : Completion.AllOf workspace.migrator.migrations [] :=
    fun _ member => by cases member
  simp only [step, Action.ends_bind, Action.ends_current, Action.ends_ofExcept]
  refine (reload_ends works).imp ?_
  rintro reread outcome ⟨unchanged, files, read⟩
  cases outcome with
  | error _ =>
      exact ⟨noneRan, unchanged⟩
  | ok value =>
      have rereadWorks := unchanged.worksOn works
      cases chosen : reread.migrator.choose direction selector? with
      | error _ =>
          exact ⟨noneRan, unchanged⟩
      | ok choice =>
          cases choice with
          | nothing =>
              exact ⟨noneRan, unchanged⟩
          | settled migration =>
              exact ⟨noneRan, unchanged⟩
          | run migration =>
              obtain ⟨member, runnable⟩ := runnable_of_choose chosen
              -- The choice was made on the list as it is on file, so recording it fits.
              have listed :
                  Ledger.listedAt reread.files location =
                    some reread.migrator.ledger.applied := by
                rw [files]
                exact read value rfl
              simp only [Action.ends_bind, Action.ends_pure]
              have rereadGenuine := unchanged.genuine genuine
              refine (run_ends rereadWorks store (rereadGenuine migration member) listed
                runnable).imp ?_
              rintro reached ran advances
              cases ran with
              | error _ =>
                  exact ⟨noneRan, unchanged.trans advances⟩
              | ok _ =>
                  have change :
                      Completion.recordAll workspace.migrator.migrations
                          (stepCompletions direction (.ok (.ran migration.id))) =
                        Completion.recorded direction migration.revision := by
                    funext known
                    rw [← unchanged.migrations]
                    exact Completion.record_of_mem rereadGenuine member direction known
                  dsimp only
                  rw [change]
                  refine ⟨?_, unchanged.trans advances⟩
                  intro completion isThis
                  rw [List.mem_singleton.mp isThis, ← unchanged.migrations]
                  exact ⟨migration, member, rfl⟩

/-! ## Refreshes and inquiries -/

/-- What ran in a sweep, whether it was stopped or not. -/
def sweptIds : Except (Interruption (List String)) (List String) → List String
  | .ok ran => ran
  | .error stopped => stopped.before

/-- Ids of migrations that ran in a direction, as completed steps. -/
def ranIn (direction : Direction) (ids : List String) : List Completion :=
  ids.map (fun id => ⟨direction, id⟩)

/-- A sweep changes the list by the migrations that it ran. -/
theorem sweep_ends
    (works : workspace.WorksOn location)
    (genuine : GenuineMigrations workspace.migrator.migrations)
    (store : Store σ)
    (direction : Direction)
    (fuel : Nat)
    (ran : List String) :
    (sweep store direction fuel ran).Ends workspace (fun reached outcome =>
      ∃ added,
        sweptIds outcome = ran ++ added ∧
          Completion.AllOf workspace.migrator.migrations (ranIn direction added) ∧
            Advances location
              (Completion.recordAll workspace.migrator.migrations (ranIn direction added))
              workspace reached) := by
  induction fuel generalizing workspace ran with
  | zero =>
      exact ⟨[], (List.append_nil ran).symm, nofun, .of_sameFiles rfl rfl rfl⟩
  | succ fuel inductionHypothesis =>
      simp only [sweep, Action.ends_bind, Action.ends_attempt]
      refine (step_ends works genuine store direction none).imp ?_
      rintro between outcome ⟨here, stepped⟩
      cases outcome with
      | error problem =>
          exact ⟨[], (List.append_nil ran).symm, nofun, stepped⟩
      | ok ended =>
          cases ended with
          | settled _ =>
              exact ⟨[], (List.append_nil ran).symm, nofun, stepped⟩
          | nothingLeft =>
              exact ⟨[], (List.append_nil ran).symm, nofun, stepped⟩
          | ran id =>
              -- The sweep goes on with what ran so far, which is on file already.
              simp only [Action.ends_bind, Action.ends_tell]
              refine (inductionHypothesis (stepped.worksOn works) (stepped.genuine genuine)
                (ran ++ [id])).imp ?_
              rintro reached final ⟨added, swept, later, advances⟩
              rw [stepped.migrations] at later advances
              refine ⟨id :: added, by simpa using swept, ?_, stepped.trans advances⟩
              intro completion member
              rcases List.mem_cons.mp member with isThis | isLater
              · exact here completion (List.mem_singleton.mpr isThis)
              · exact later completion isLater

/-- The completed steps of a refresh, whether it was stopped or not. -/
def refreshCompletions :
    Except (Interruption RefreshReport) RefreshReport → List Completion
  | .ok report => ranIn .down report.reverted ++ ranIn .up report.migrated
  | .error stopped => ranIn .down stopped.before.reverted ++ ranIn .up stopped.before.migrated

/-- A refresh changes the list by the migrations that it reverted and then ran. -/
theorem refresh_ends
    (works : workspace.WorksOn location)
    (genuine : GenuineMigrations workspace.migrator.migrations)
    (store : Store σ) :
    (refresh store).Ends workspace (fun reached outcome =>
      Completion.AllOf workspace.migrator.migrations (refreshCompletions outcome) ∧
        Advances location
          (Completion.recordAll workspace.migrator.migrations (refreshCompletions outcome))
          workspace reached) := by
  simp only [refresh, runAll, Action.ends_bind, Action.ends_mapError, Action.ends_current,
    Action.ends_pure]
  refine (sweep_ends works genuine store .down _ []).imp ?_
  rintro between outcome ⟨reverted, swept, downOf, down⟩
  cases outcome with
  | error stopped =>
      have revertedIds : stopped.before = reverted := swept
      subst revertedIds
      simpa [Except.mapError, refreshCompletions, ranIn] using And.intro downOf down
  | ok downIds =>
      have revertedIds : downIds = reverted := swept
      subst revertedIds
      simp only [Except.mapError]
      refine (sweep_ends (down.worksOn works) (down.genuine genuine) store .up _ []).imp ?_
      rintro reached final ⟨migrated, alsoSwept, upOf, up⟩
      rw [down.migrations] at upOf up
      have both :
          Completion.recordAll workspace.migrator.migrations (ranIn .up migrated) ∘
              Completion.recordAll workspace.migrator.migrations (ranIn .down downIds) =
            Completion.recordAll workspace.migrator.migrations
              (ranIn .down downIds ++ ranIn .up migrated) := by
        funext known
        simp [Completion.recordAll, List.foldl_append]
      have allOf :
          Completion.AllOf workspace.migrator.migrations
            (ranIn .down downIds ++ ranIn .up migrated) := by
        intro completion member
        rcases List.mem_append.mp member with isDown | isUp
        · exact downOf completion isDown
        · exact upOf completion isUp
      have advances := down.trans up
      rw [both] at advances
      cases final with
      | error stopped =>
          have migratedIds : stopped.before = migrated := alsoSwept
          subst migratedIds
          exact ⟨allOf, advances⟩
      | ok upIds =>
          have migratedIds : upIds = migrated := alsoSwept
          subst migratedIds
          exact ⟨allOf, advances⟩

/-- Asking for the status leaves the list. -/
theorem status_ends
    (works : workspace.WorksOn location) :
    status.Ends workspace (fun reached _ => Advances location id workspace reached) := by
  simp only [status, Action.ends_bind, Action.ends_current, Action.ends_pure]
  refine (reload_ends works).imp ?_
  rintro reread outcome ⟨unchanged, _⟩
  cases outcome <;> exact unchanged

end Workspace

end SchemaMigration
