import SchemaMigration.Proofs.Ledger.Writing

namespace SchemaMigration

/-!
# The loops of a refresh

A refresh runs steps downwards until one runs nothing, and then upwards.  Each
step that runs a migration takes it off those that are left, so both loops end,
whether a step fails or not.
-/

/-! ## What is left to run -/

/-- The migrations that are left in a direction, in the order in which they run. -/
def Migrator.left
    (migrations : List (Migration σ))
    (known : List Revision) :
    Direction → List (Migration σ)
  | .up => migrations.filter (fun migration => !known.contains migration.revision)
  | .down => migrations.reverse.filter (fun migration => known.contains migration.revision)

namespace Migrator

theorem next?_eq_head?_left (migrator : Migrator σ) (direction : Direction) :
    migrator.next? direction =
      (left migrator.migrations migrator.ledger.applied direction).head? := by
  cases direction <;> exact List.head?_filter.symm

variable {migrations : List (Migration σ)} {known : List Revision} {direction : Direction}

/-- What is left are the migrations whose revisions the direction can record. -/
theorem mem_left_iff {migration : Migration σ} :
    migration ∈ left migrations known direction ↔
      migration ∈ migrations ∧ Completion.Fits direction migration.revision known := by
  cases direction <;> simp [left, Completion.Fits]

theorem fits_of_left_cons
    {migration : Migration σ}
    {rest : List (Migration σ)}
    (isLeft : left migrations known direction = migration :: rest) :
    migration ∈ migrations ∧ Completion.Fits direction migration.revision known := by
  have member : migration ∈ left migrations known direction := by
    rw [isLeft]
    exact List.mem_cons_self
  exact mem_left_iff.mp member

/-- Recording a revision takes its migrations off those that are left. -/
theorem left_recorded (revision : Revision) :
    left migrations (Completion.recorded direction revision known) direction =
      (left migrations known direction).filter (fun other => other.revision != revision) := by
  cases direction with
  | up =>
      simp only [left, Completion.recorded, List.filter_filter]
      apply List.filter_congr
      intro other _
      by_cases same : other.revision = revision <;> simp [same]
  | down =>
      simp only [left, Completion.recorded, Ledger.removed, List.filter_filter]
      apply List.filter_congr
      intro other _
      by_cases same : other.revision = revision <;> simp [same]

/-- What ran is not left, and everything behind it is when revisions are distinct. -/
theorem left_of_cons
    {migration : Migration σ}
    {rest : List (Migration σ)}
    (isLeft : left migrations known direction = migration :: rest) :
    left migrations (Completion.recorded direction migration.revision known) direction =
      rest.filter (fun other => other.revision != migration.revision) := by
  rw [left_recorded, isLeft, List.filter_cons_of_neg (by simp)]

theorem length_left_le :
    (left migrations known direction).length ≤ migrations.length := by
  cases direction with
  | up =>
      exact List.length_filter_le ..
  | down =>
      have shorter :=
        List.length_filter_le (fun migration => known.contains migration.revision)
          migrations.reverse
      rwa [List.length_reverse] at shorter

theorem nodup_left
    (distinct : (migrations.map Migration.revision).Nodup) :
    ((left migrations known direction).map Migration.revision).Nodup := by
  cases direction with
  | up =>
      exact distinct.sublist (List.filter_sublist.map _)
  | down =>
      have reversed : (migrations.reverse.map Migration.revision).Nodup := by
        rw [List.map_reverse]
        exact List.nodup_reverse.mpr distinct
      exact reversed.sublist (List.filter_sublist.map _)

end Migrator

namespace Workspace

theorem Advances.listedAt_of_listed
    {location : Location}
    {change : List Revision → List Revision}
    {before after : Workspace σ}
    (advances : Advances location change before after)
    {known : List Revision}
    (listed : Ledger.listedAt before.files location = some known) :
    Ledger.listedAt after.files location = some (change known) :=
  advances.session.listed.trans (congrArg (Option.map change) listed)

/-- A ledger that can be written can be written after every change. -/
theorem Advances.canWrite
    {location : Location}
    {change : List Revision → List Revision}
    {before after : Workspace σ}
    (advances : Advances location change before after)
    (canWrite : before.ledgerSession.CanWrite) :
    after.ledgerSession.CanWrite :=
  canWrite.of_evolves advances.session.directory advances.session.evolves

/-- A workspace whose ledger in memory lists revisions. -/
def caughtUp (workspace : Workspace σ) (known : List Revision) : Workspace σ :=
  { workspace with
    migrator := { workspace.migrator with
      ledger := { workspace.migrator.ledger with applied := known } } }

theorem advances_caughtUp
    (location : Location)
    (workspace : Workspace σ)
    (known : List Revision) :
    Advances location id workspace (workspace.caughtUp known) :=
  .of_sameFiles rfl rfl rfl

section Listed

variable
  {location : Location}
  {workspace : Workspace σ}
  (works : workspace.WorksOn location)
  {known : List Revision}
  (listed : Ledger.listedAt workspace.files location = some known)

include works listed

theorem reload_eq :
    onLedger Ledger.reload workspace = ⟨workspace.caughtUp known, [], .ok ()⟩ := by
  unfold onLedger Action.focus
  rw [Ledger.reload_eq works listed]
  rfl

/-- A step without a selector runs the first migration that is left. -/
theorem ends_step_iff
    {store : Store σ}
    {direction : Direction}
    {post : Workspace σ → Except MigrationError Outcome → Prop} :
    (step store direction none).Ends workspace post ↔
      match (Migrator.left workspace.migrator.migrations known direction).head? with
      | none => post (workspace.caughtUp known) (.ok .nothingLeft)
      | some migration =>
          (run store direction migration).Ends (workspace.caughtUp known)
            (fun reached outcome => post reached (outcome.map (fun _ => .ran migration.id))) := by
  simp only [step, Action.ends_bind, Action.ends_current, Action.ends_ofExcept]
  rw [Action.Ends, reload_eq works listed]
  simp only [Migrator.choose, Migrator.next?_eq_head?_left]
  change _ ↔
    match
      (Migrator.left (workspace.caughtUp known).migrator.migrations
        (workspace.caughtUp known).migrator.ledger.applied direction).head? with
    | none => _
    | some migration => _
  cases (Migrator.left (workspace.caughtUp known).migrator.migrations
        (workspace.caughtUp known).migrator.ledger.applied direction).head? with
  | none =>
      exact Iff.rfl
  | some migration =>
      simp only [Option.elim_some, Action.ends_bind, Action.ends_pure]
      unfold Action.Ends
      cases (run store direction migration (workspace.caughtUp known)).outcome <;> exact Iff.rfl

/-- A migration that ran is the first that was left, and it is on file. -/
theorem step_records_next
    (genuine : GenuineMigrations workspace.migrator.migrations)
    (store : Store σ)
    (direction : Direction) :
    (step store direction none).Ends workspace (fun reached outcome =>
      ∀ id,
        outcome = .ok (.ran id) →
          ∃ migration rest,
            Migrator.left workspace.migrator.migrations known direction = migration :: rest ∧
              Advances location (Completion.recorded direction migration.revision)
                workspace reached) := by
  rw [ends_step_iff works listed]
  cases isLeft : Migrator.left workspace.migrator.migrations known direction with
  | nil =>
      rintro id ⟨⟩
  | cons migration rest =>
      obtain ⟨held, fits⟩ := Migrator.fits_of_left_cons isLeft
      have unchanged := advances_caughtUp location workspace known
      have runnable :
          (workspace.caughtUp known).migrator.canRun direction migration = true := by
        cases direction <;>
          simpa [Migrator.canRun, Migrator.isApplied, Ledger.contains, caughtUp,
            Completion.Fits] using fits
      refine (run_ends (unchanged.worksOn works) store (genuine migration held) listed
        runnable).imp ?_
      rintro reached outcome advances id ran
      cases outcome with
      | error _ =>
          cases ran
      | ok _ =>
          exact ⟨migration, rest, rfl, unchanged.trans advances⟩

/-- Where nothing is left, a step only reads the ledger. -/
theorem step_idles
    {store : Store σ}
    {direction : Direction}
    (noneLeft : Migrator.left workspace.migrator.migrations known direction = []) :
    (step store direction none).Ends workspace (fun reached outcome =>
      outcome = .ok .nothingLeft ∧ reached = workspace.caughtUp known) := by
  rw [ends_step_iff works listed, noneLeft]
  exact ⟨rfl, rfl⟩

/-- The first migration that is left runs when its half succeeds. -/
theorem step_writes
    (genuine : GenuineMigrations workspace.migrator.migrations)
    (canWrite : workspace.ledgerSession.CanWrite)
    {store : Store σ}
    {direction : Direction}
    {migration : Migration σ}
    {rest : List (Migration σ)}
    (isLeft :
      Migrator.left workspace.migrator.migrations known direction = migration :: rest)
    {reaches : σ → Prop}
    (half : (migration.half direction store).Completes workspace.database reaches) :
    (step store direction none).Ends workspace (fun reached outcome =>
      outcome = .ok (.ran migration.id) ∧
        reaches reached.database ∧
          Ledger.Tidy reached.files location ∧
            Advances location (Completion.recorded direction migration.revision)
              workspace reached) := by
  obtain ⟨_, fits⟩ := Migrator.fits_of_left_cons isLeft
  have unchanged := advances_caughtUp location workspace known
  have stillCanWrite := unchanged.canWrite canWrite
  have ran :
      (step store direction none).Ends workspace (fun reached outcome =>
        outcome = .ok (.ran migration.id) ∧
          reaches reached.database ∧
            Ledger.WrittenAt reached.files location
              (Completion.recorded direction migration.revision known)) := by
    rw [ends_step_iff works listed, isLeft]
    have completed := run_writes (unchanged.worksOn works) stillCanWrite listed fits half
    refine Action.Ends.imp completed ?_
    rintro reached outcome ⟨rfl, arrived, written⟩
    exact ⟨rfl, arrived, written⟩
  obtain ⟨succeeded, arrived, written⟩ := ran
  obtain ⟨next, later, alsoLeft, advances⟩ :=
    step_records_next works listed genuine store direction migration.id succeeded
  rw [isLeft, List.cons.injEq] at alsoLeft
  obtain ⟨rfl, rfl⟩ := alsoLeft
  exact ⟨succeeded, arrived, ⟨_, advances.listedAt_of_listed listed, written⟩, advances⟩

end Listed

/-! ## The loops -/

/-- Steps in a direction until one fails or runs nothing, after those that ran already. -/
inductive Sweeps (store : Store σ) (direction : Direction) :
    Workspace σ → List String →
      Workspace σ → Except (Interruption (List String)) (List String) → Prop where
  | stopped
      {workspace : Workspace σ}
      {ran : List String}
      {problem : MigrationError}
      (failed : (step store direction none workspace).outcome = .error problem) :
      Sweeps store direction workspace ran
        (step store direction none workspace).state (.error ⟨problem, ran⟩)
  | finished
      {workspace : Workspace σ}
      {ran : List String}
      {ended : Outcome}
      (succeeded : (step store direction none workspace).outcome = .ok ended)
      (idle : ∀ id, ended ≠ .ran id) :
      Sweeps store direction workspace ran
        (step store direction none workspace).state (.ok ran)
  | again
      {workspace reached : Workspace σ}
      {ran : List String}
      {id : String}
      {outcome : Except (Interruption (List String)) (List String)}
      (stepped : (step store direction none workspace).outcome = .ok (.ran id))
      (later :
        Sweeps store direction (step store direction none workspace).state (ran ++ [id])
          reached outcome) :
      Sweeps store direction workspace ran reached outcome

/-- Both loops of a refresh, the second after the first was finished. -/
inductive Refreshes (store : Store σ) (workspace : Workspace σ) :
    Workspace σ → Except (Interruption RefreshReport) RefreshReport → Prop where
  | stoppedReverting
      {reached : Workspace σ}
      {stopped : Interruption (List String)}
      (down : Sweeps store .down workspace [] reached (.error stopped)) :
      Refreshes store workspace reached (.error ⟨stopped.problem, ⟨stopped.before, []⟩⟩)
  | stoppedMigrating
      {between reached : Workspace σ}
      {reverted : List String}
      {stopped : Interruption (List String)}
      (down : Sweeps store .down workspace [] between (.ok reverted))
      (up : Sweeps store .up between [] reached (.error stopped)) :
      Refreshes store workspace reached
        (.error ⟨stopped.problem, ⟨reverted, stopped.before⟩⟩)
  | finished
      {between reached : Workspace σ}
      {reverted migrated : List String}
      (down : Sweeps store .down workspace [] between (.ok reverted))
      (up : Sweeps store .up between [] reached (.ok migrated)) :
      Refreshes store workspace reached (.ok ⟨reverted, migrated⟩)

/-- As many steps as migrations are left, and one more, are all steps. -/
theorem sweep_sweeps
    {location : Location}
    {workspace : Workspace σ}
    (works : workspace.WorksOn location)
    (genuine : GenuineMigrations workspace.migrator.migrations)
    {known : List Revision}
    (listed : Ledger.listedAt workspace.files location = some known)
    (store : Store σ)
    {direction : Direction}
    {fuel : Nat}
    (enough :
      (Migrator.left workspace.migrator.migrations known direction).length < fuel)
    (ran : List String) :
    (sweep store direction fuel ran).Ends workspace
      (Sweeps store direction workspace ran) := by
  induction fuel generalizing workspace known ran with
  | zero =>
      exact absurd enough (Nat.not_lt_zero _)
  | succ fuel inductionHypothesis =>
      have recorded := step_records_next works listed genuine store direction
      simp only [sweep, Action.ends_bind, Action.ends_attempt]
      unfold Action.Ends at recorded
      rw [Action.Ends]
      cases ended : (step store direction none workspace).outcome with
      | error problem =>
          exact .stopped ended
      | ok outcome =>
          cases outcome with
          | settled id =>
              exact .finished ended (by simp)
          | nothingLeft =>
              exact .finished ended (by simp)
          | ran id =>
              obtain ⟨migration, rest, isLeft, advances⟩ := recorded id ended
              have nextListed := advances.listedAt_of_listed listed
              -- The migration that ran is not left, so there is fuel for the others.
              have fewer :
                  (Migrator.left (step store direction none workspace).state.migrator.migrations
                    (Completion.recorded direction migration.revision known)
                    direction).length < fuel := by
                rw [advances.migrations, Migrator.left_of_cons isLeft]
                rw [isLeft, List.length_cons] at enough
                have shorter :=
                  List.length_filter_le (fun other => other.revision != migration.revision) rest
                omega
              simp only [Action.ends_bind, Action.ends_tell]
              refine (inductionHypothesis (advances.worksOn works) (advances.genuine genuine)
                nextListed fewer (ran ++ [id])).imp ?_
              intro reached final later
              exact .again ended later

/-- A refresh runs both loops to their ends. -/
theorem refresh_refreshes
    {location : Location}
    {workspace : Workspace σ}
    (works : workspace.WorksOn location)
    (genuine : GenuineMigrations workspace.migrator.migrations)
    {known : List Revision}
    (listed : Ledger.listedAt workspace.files location = some known)
    (store : Store σ) :
    (refresh store).Ends workspace (Refreshes store workspace) := by
  have enough (tree : Workspace σ) (revisions : List Revision) (direction : Direction) :
      (Migrator.left tree.migrator.migrations revisions direction).length <
        tree.migrator.migrations.length + 1 :=
    Nat.lt_succ_of_le Migrator.length_left_le
  have down :
      (sweep store .down (workspace.migrator.migrations.length + 1) []).Ends workspace
        (fun between outcome =>
          Sweeps store .down workspace [] between outcome ∧
            between.WorksOn location ∧
              GenuineMigrations between.migrator.migrations ∧
                ∃ revisions, Ledger.listedAt between.files location = some revisions) := by
    refine ⟨sweep_sweeps works genuine listed store (enough workspace known .down) [], ?_⟩
    obtain ⟨_, _, _, advances⟩ :=
      sweep_ends works genuine store .down (workspace.migrator.migrations.length + 1) []
    exact ⟨advances.worksOn works, advances.genuine genuine, _,
      advances.listedAt_of_listed listed⟩
  simp only [refresh, runAll, Action.ends_bind, Action.ends_mapError, Action.ends_current,
    Action.ends_pure]
  refine down.imp ?_
  rintro between outcome ⟨swept, stillWorks, stillGenuine, revisions, nowListed⟩
  cases outcome with
  | error stopped =>
      exact .stoppedReverting swept
  | ok reverted =>
      dsimp only [Except.mapError]
      refine (sweep_sweeps stillWorks stillGenuine nowListed store
        (enough between revisions .up) []).imp ?_
      intro reached final alsoSwept
      cases final with
      | error stopped =>
          exact .stoppedMigrating swept alsoSwept
      | ok migrated =>
          exact .finished swept alsoSwept

end Workspace

end SchemaMigration
