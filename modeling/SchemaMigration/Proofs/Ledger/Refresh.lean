import SchemaMigration.Database.Rehearsal
import SchemaMigration.Proofs.Ledger.Loops
import SchemaMigration.Proofs.Registry

namespace SchemaMigration

/-!
# Refreshes

Where nothing fails and revisions are digits, a refresh reverts what is applied,
the latest migration first, and runs every migration, the earliest first.  Revisions that no
migration has stay at the front of the ledger.  A second refresh finds all
migrations applied and ends with the ledger as it was.
-/

/-! ## What a run records -/

namespace Completion

/-- The list after the revisions of migrations were recorded one after the other. -/
def recordedEach
    (direction : Direction)
    (migrations : List (Migration σ))
    (known : List Revision) :
    List Revision :=
  migrations.foldl (fun known migration => recorded direction migration.revision known) known

theorem recordedEach_up
    (migrations : List (Migration σ))
    (known : List Revision) :
    recordedEach .up migrations known = known ++ migrations.map Migration.revision := by
  induction migrations generalizing known with
  | nil =>
      exact (List.append_nil known).symm
  | cons migration rest inductionHypothesis =>
      refine (inductionHypothesis (known ++ [migration.revision])).trans ?_
      rw [List.append_assoc]
      rfl

/-- The revisions in a list that no migration has. -/
def withoutEach (migrations : List (Migration σ)) (known : List Revision) : List Revision :=
  known.filter (fun revision =>
    !migrations.any (fun migration => migration.revision = revision))

theorem recordedEach_down
    (migrations : List (Migration σ))
    (known : List Revision) :
    recordedEach .down migrations known = withoutEach migrations known := by
  induction migrations generalizing known with
  | nil =>
      exact (List.filter_true known).symm
  | cons migration rest inductionHypothesis =>
      refine (inductionHypothesis (Ledger.removed migration.revision known)).trans ?_
      rw [withoutEach, Ledger.removed, List.filter_filter]
      apply List.filter_congr
      intro revision _
      by_cases same : revision = migration.revision
      · simp [same]
      · simp [same, Ne.symm same]

variable {migrations : List (Migration σ)} {known : List Revision}

theorem mem_withoutEach_iff {revision : Revision} :
    revision ∈ withoutEach migrations known ↔
      revision ∈ known ∧ revision ∉ migrations.map Migration.revision := by
  simp [withoutEach]

/-- Reverting what is applied takes out all revisions that migrations have. -/
theorem withoutEach_left :
    withoutEach (Migrator.left migrations known .down) known = withoutEach migrations known := by
  apply List.filter_congr
  intro revision listed
  have same :
      (∃ migration ∈ Migrator.left migrations known .down, migration.revision = revision) ↔
        ∃ migration ∈ migrations, migration.revision = revision := by
    constructor
    · rintro ⟨migration, isLeft, rfl⟩
      exact ⟨migration, (Migrator.mem_left_iff.mp isLeft).1, rfl⟩
    · rintro ⟨migration, held, rfl⟩
      exact ⟨migration, Migrator.mem_left_iff.mpr ⟨held, listed⟩, rfl⟩
  rw [Bool.not_inj_iff, Bool.eq_iff_iff, List.any_eq_true, List.any_eq_true]
  simpa using same

/-- Revisions that no migration has are all that stays of a rebuilt list. -/
theorem withoutEach_append :
    withoutEach migrations
        (withoutEach migrations known ++ migrations.map Migration.revision) =
      withoutEach migrations known := by
  have noneStays : withoutEach migrations (migrations.map Migration.revision) = [] := by
    rw [List.eq_nil_iff_forall_not_mem]
    intro revision member
    obtain ⟨isHeld, notHeld⟩ := mem_withoutEach_iff.mp member
    exact notHeld isHeld
  have allStay :
      withoutEach migrations (withoutEach migrations known) = withoutEach migrations known := by
    rw [withoutEach, List.filter_eq_self]
    intro revision member
    exact (List.mem_filter.mp member).2
  rw [withoutEach, List.filter_append]
  change withoutEach migrations (withoutEach migrations known) ++
    withoutEach migrations (migrations.map Migration.revision) = _
  rw [allStay, noneStays, List.append_nil]

end Completion

namespace Migrator

variable {migrations : List (Migration σ)} {known : List Revision}

/-- Where no revision of a migration is listed, all migrations are left upwards. -/
theorem left_withoutEach :
    left migrations (Completion.withoutEach migrations known) .up = migrations := by
  rw [left, List.filter_eq_self]
  intro migration held
  have absent : migration.revision ∉ Completion.withoutEach migrations known :=
    fun listed => (Completion.mem_withoutEach_iff.mp listed).2 (List.mem_map_of_mem held)
  simpa using absent

/-- Where all revisions of migrations are listed, all migrations are left downwards. -/
theorem left_of_allListed
    (allListed : ∀ migration ∈ migrations, migration.revision ∈ known) :
    left migrations known .down = migrations.reverse := by
  rw [left, List.filter_eq_self]
  intro migration held
  simpa using allListed migration (List.mem_reverse.mp held)

/-- Migrations of distinct revisions that are left behind the first one stay left without it. -/
theorem left_behind_first
    {direction : Direction}
    (distinct : (migrations.map Migration.revision).Nodup)
    {migration : Migration σ}
    {rest : List (Migration σ)}
    (isLeft : left migrations known direction = migration :: rest) :
    left migrations (Completion.recorded direction migration.revision known) direction = rest := by
  have revisions : ((left migrations known direction).map Migration.revision).Nodup :=
    nodup_left distinct
  rw [isLeft, List.map_cons, List.nodup_cons] at revisions
  rw [left_of_cons isLeft, List.filter_eq_self]
  intro other member
  rw [bne_iff_ne]
  intro same
  exact revisions.1 (same ▸ List.mem_map_of_mem member)

end Migrator

/-! ## Halves without a ledger -/

/-- Halves of migrations, one after the other. -/
def Migration.runHalves (store : Store σ) :
    List (Direction × Migration σ) → Action σ SchemaError Unit
  | [] => pure ()
  | (direction, migration) :: rest => do
      migration.half direction store
      runHalves store rest

theorem Migration.completes_runHalves_append
    {store : Store σ}
    {first second : List (Direction × Migration σ)}
    {database : σ}
    {reaches : σ → Prop} :
    (runHalves store (first ++ second)).Completes database reaches ↔
      (runHalves store first).Completes database (fun between =>
        (runHalves store second).Completes between reaches) := by
  induction first generalizing database with
  | nil =>
      exact ⟨fun completes => ⟨rfl, completes⟩, And.right⟩
  | cons entry rest inductionHypothesis =>
      simp only [List.cons_append, runHalves, Action.completes_bind, inductionHypothesis]

namespace Workspace

/-! ## Loops where nothing fails -/

variable {location : Location} {direction : Direction}

/-- A sweep runs all migrations that are left when all of their halves succeed. -/
theorem sweep_completes
    {workspace : Workspace σ}
    (works : workspace.WorksOn location)
    (genuine : GenuineMigrations workspace.migrator.migrations)
    {known : List Revision}
    (listed : Ledger.listedAt workspace.files location = some known)
    (canWrite : workspace.ledgerSession.CanWrite)
    (distinct : (workspace.migrator.migrations.map Migration.revision).Nodup)
    {toRun : List (Migration σ)}
    (isLeft : Migrator.left workspace.migrator.migrations known direction = toRun)
    {fuel : Nat}
    (enough : toRun.length < fuel)
    {store : Store σ}
    {reaches : σ → Prop}
    (halves :
      (Migration.runHalves store
        (toRun.map (fun migration => (direction, migration)))).Completes
          workspace.database reaches)
    (ran : List String) :
    (sweep store direction fuel ran).Ends workspace (fun reached outcome =>
      outcome = .ok (ran ++ toRun.map Migration.id) ∧
        reaches reached.database ∧
          Advances location (Completion.recordedEach direction toRun) workspace reached ∧
            (toRun = [] → reached.files = workspace.files) ∧
              (toRun ≠ [] → Ledger.Tidy reached.files location)) := by
  induction toRun generalizing workspace known fuel ran with
  | nil =>
      obtain ⟨_, arrived⟩ := halves
      cases fuel with
      | zero =>
          exact absurd enough (Nat.not_lt_zero _)
      | succ fuel =>
          simp only [sweep, Action.ends_bind, Action.ends_attempt]
          refine (step_idles works listed isLeft).imp ?_
          rintro reached outcome ⟨rfl, rfl⟩
          exact ⟨congrArg Except.ok (List.append_nil ran).symm, arrived,
            .of_sameFiles rfl rfl rfl, fun _ => rfl, fun some => absurd rfl some⟩
  | cons migration rest inductionHypothesis =>
      cases fuel with
      | zero =>
          exact absurd enough (Nat.not_lt_zero _)
      | succ fuel =>
          rw [List.map_cons, Migration.runHalves, Action.completes_bind] at halves
          have stepped := step_writes works listed genuine canWrite isLeft halves
          simp only [sweep, Action.ends_bind, Action.ends_attempt]
          refine stepped.imp ?_
          rintro between outcome ⟨rfl, restCompletes, tidy, advances⟩
          have stillCanWrite := advances.canWrite canWrite
          have restLeft :
              Migrator.left between.migrator.migrations
                (Completion.recorded direction migration.revision known) direction = rest := by
            rw [advances.migrations, Migrator.left_behind_first distinct isLeft]
          rw [← advances.migrations] at distinct
          have later :=
            inductionHypothesis (advances.worksOn works) (advances.genuine genuine)
              (advances.listedAt_of_listed listed) stillCanWrite distinct restLeft
              (Nat.lt_of_succ_lt_succ enough) restCompletes (ran ++ [migration.id])
          simp only [Action.ends_bind, Action.ends_tell]
          refine later.imp ?_
          rintro reached final ⟨rfl, arrived, alsoAdvances, sameFiles, alsoTidy⟩
          refine ⟨by simp, arrived, advances.trans alsoAdvances,
            fun none => absurd none (List.cons_ne_nil _ _), fun _ => ?_⟩
          by_cases noneLeft : rest = []
          · rw [sameFiles noneLeft]
            exact tidy
          · exact alsoTidy noneLeft

/-! ## Refreshes -/

/--
A workspace that can be refreshed: its ledger lists revisions, and its
migrations are in order, each with a revision of its own.
-/
structure Refreshable
    (workspace : Workspace σ)
    (location : Location)
    (known : List Revision) : Prop where
  works : workspace.WorksOn location
  ordered : workspace.migrator.Ordered
  distinct : (workspace.migrator.migrations.map Migration.revision).Nodup
  listed : Ledger.listedAt workspace.files location = some known

theorem Advances.refreshable
    {change : List Revision → List Revision}
    {before after : Workspace σ}
    (advances : Advances location change before after)
    {known : List Revision}
    (refreshable : before.Refreshable location known) :
    after.Refreshable location (change known) where
  works := advances.worksOn refreshable.works
  ordered := by
    rw [Migrator.Ordered, Migrator.ids, advances.migrations]
    exact refreshable.ordered
  distinct := by
    rw [advances.migrations]
    exact refreshable.distinct
  listed := advances.listedAt_of_listed refreshable.listed

/-- Once opened, and whatever else was offered, a migrator of distinct revisions can refresh. -/
theorem refreshable_of_openIn
    {directory : Place}
    {files : FileTree}
    {migrator : Migrator σ}
    (opened : (Migrator.openIn directory files).outcome = .ok migrator)
    {offered : List (Migration σ)}
    (distinct : ((migrator.offerAll offered).migrations.map Migration.revision).Nodup)
    (database : σ) :
    ∃ location,
      (⟨migrator.offerAll offered, (Migrator.openIn (σ := σ) directory files).state,
        database⟩ : Workspace σ).Refreshable location migrator.ledger.applied := by
  obtain ⟨_, location, works, listed⟩ :=
    Migrator.openIn_ends directory files database migrator opened
  refine ⟨location, ?_, ?_, distinct, listed⟩
  · rw [WorksOn, Ledger.Session.LeadsTo, ledgerSession, Migrator.ledger_offerAll]
    exact works
  · exact Migrator.ordered_offerAll (Migrator.ordered_of_openIn opened) offered

end Workspace

/-- The halves of a refresh: those of what is applied, backwards, and then all others. -/
def Migrator.refreshHalves (migrator : Migrator σ) : List (Direction × Migration σ) :=
  (migrator.migrations.filter migrator.isApplied).reverse.map
      (fun migration => (.down, migration)) ++
    migrator.migrations.map (fun migration => (.up, migration))

namespace Workspace

variable
  {location : Location}
  {workspace : Workspace σ}
  {known : List Revision}

/-- Downwards, what is applied is left, backwards. -/
theorem left_eq_applied :
    Migrator.left workspace.migrator.migrations known .down =
      ((workspace.caughtUp known).migrator.migrations.filter
        (workspace.caughtUp known).migrator.isApplied).reverse := by
  rw [← List.filter_reverse]
  rfl

/-- The halves of a refresh depend on the migrations and on what is listed. -/
theorem refreshHalves_caughtUp
    {other : Workspace σ}
    (same : other.migrator.migrations = workspace.migrator.migrations) :
    (other.caughtUp known).migrator.refreshHalves =
      (workspace.caughtUp known).migrator.refreshHalves := by
  unfold Migrator.refreshHalves caughtUp
  rw [same]
  rfl

/-- A refresh reverts what is applied and runs everything when all halves succeed. -/
theorem refresh_completes
    (refreshable : workspace.Refreshable location known)
    (genuine : GenuineMigrations workspace.migrator.migrations)
    (canWrite : workspace.ledgerSession.CanWrite)
    {store : Store σ}
    {reaches : σ → Prop}
    (halves :
      (Migration.runHalves store (workspace.caughtUp known).migrator.refreshHalves).Completes
        workspace.database reaches) :
    (refresh store).Ends workspace (fun reached outcome =>
      outcome =
          .ok ⟨(Migrator.left workspace.migrator.migrations known .down).map Migration.id,
            workspace.migrator.ids⟩ ∧
        reaches reached.database ∧
          Advances location
            (Completion.recordedEach .up workspace.migrator.migrations ∘
              Completion.recordedEach .down
                (Migrator.left workspace.migrator.migrations known .down))
            workspace reached ∧
            (workspace.migrator.migrations = [] → reached.files = workspace.files) ∧
              (workspace.migrator.migrations ≠ [] → Ledger.Tidy reached.files location)) := by
  rw [Migrator.refreshHalves, Migration.completes_runHalves_append, ← left_eq_applied] at halves
  have down :=
    sweep_completes refreshable.works genuine refreshable.listed canWrite refreshable.distinct rfl
      (Nat.lt_succ_of_le Migrator.length_left_le) halves []
  simp only [refresh, runAll, Action.ends_bind, Action.ends_mapError, Action.ends_current,
    Action.ends_pure]
  refine down.imp ?_
  rintro between outcome ⟨rfl, upHalves, reverted, sameBefore, _⟩
  have refreshableThere := reverted.refreshable refreshable
  rw [Completion.recordedEach_down, Completion.withoutEach_left] at refreshableThere
  have canWriteThere := reverted.canWrite canWrite
  have allLeft :
      Migrator.left between.migrator.migrations
          (Completion.withoutEach workspace.migrator.migrations known) .up =
        workspace.migrator.migrations := by
    rw [reverted.migrations, Migrator.left_withoutEach]
  have enough :
      workspace.migrator.migrations.length < between.migrator.migrations.length + 1 := by
    rw [reverted.migrations]
    exact Nat.lt_succ_self _
  have up :=
    sweep_completes refreshableThere.works (reverted.genuine genuine) refreshableThere.listed
      canWriteThere refreshableThere.distinct allLeft enough upHalves []
  dsimp only [Except.mapError]
  refine up.imp ?_
  rintro reached final ⟨rfl, arrived, migrated, sameAfter, tidy⟩
  refine ⟨rfl, arrived, reverted.trans migrated, fun noMigrations => ?_, tidy⟩
  have noneLeft : Migrator.left workspace.migrator.migrations known .down = [] := by
    rw [noMigrations]
    rfl
  exact (sameAfter noMigrations).trans (sameBefore noneLeft)

/-- What a refresh records is every revision, behind those that no migration has. -/
theorem recordedEach_refresh (migrations : List (Migration σ)) (known : List Revision) :
    (Completion.recordedEach .up migrations ∘
        Completion.recordedEach .down (Migrator.left migrations known .down)) known =
      Completion.withoutEach migrations known ++ migrations.map Migration.revision := by
  rw [Function.comp_apply, Completion.recordedEach_down, Completion.withoutEach_left,
    Completion.recordedEach_up]

/-- A refresh of what a refresh left reverts and runs everything; the ledger stays as written. -/
theorem refresh_repeats
    (refreshable : workspace.Refreshable location known)
    (genuine : GenuineMigrations workspace.migrator.migrations)
    (rebuilt :
      Completion.withoutEach workspace.migrator.migrations known ++
          workspace.migrator.migrations.map Migration.revision =
        known)
    (tidy : workspace.migrator.migrations ≠ [] → Ledger.Tidy workspace.files location)
    (canWrite : workspace.ledgerSession.CanWrite)
    {store : Store σ}
    (halves :
      (Migration.runHalves store (workspace.caughtUp known).migrator.refreshHalves
        workspace.database).outcome = .ok ()) :
    (refresh store).Ends workspace (fun reached outcome =>
      Refreshes store workspace reached outcome ∧
        outcome = .ok ⟨workspace.migrator.ids.reverse, workspace.migrator.ids⟩ ∧
          reached.files.holding? location = workspace.files.holding? location) := by
  have halvesComplete :
      (Migration.runHalves store (workspace.caughtUp known).migrator.refreshHalves).Completes
        workspace.database (fun _ => True) :=
    ⟨halves, trivial⟩
  have allListed :
      ∀ migration ∈ workspace.migrator.migrations, migration.revision ∈ known := by
    intro migration held
    rw [← rebuilt]
    exact List.mem_append_right _ (List.mem_map_of_mem held)
  refine ⟨refresh_refreshes refreshable.works genuine refreshable.listed store, ?_⟩
  obtain ⟨reported, _, advances, sameFiles, tidyAfter⟩ :=
    refresh_completes refreshable genuine canWrite halvesComplete
  rw [Migrator.left_of_allListed allListed, List.map_reverse] at reported
  refine ⟨reported, ?_⟩
  by_cases noMigrations : workspace.migrator.migrations = []
  · rw [sameFiles noMigrations]
  · have listed := advances.listedAt_of_listed refreshable.listed
    rw [recordedEach_refresh, rebuilt] at listed
    exact Ledger.holding?_eq_of_tidy (tidy noMigrations) (tidyAfter noMigrations)
      (listed.trans refreshable.listed.symm)

/-- When all halves succeed, a refresh rebuilds the ledger, and another one leaves it so. -/
theorem refresh_rebuilds
    (refreshable : workspace.Refreshable location known)
    (genuine : GenuineMigrations workspace.migrator.migrations)
    (canWrite : workspace.ledgerSession.CanWrite)
    {store : Store σ}
    {rebuilt : List Revision}
    (isRebuilt :
      Completion.withoutEach workspace.migrator.migrations known ++
          workspace.migrator.migrations.map Migration.revision =
        rebuilt)
    {reaches : σ → Prop}
    (halves :
      (Migration.runHalves store (workspace.caughtUp known).migrator.refreshHalves).Completes
        workspace.database reaches) :
    (refresh store).Ends workspace (fun reached outcome =>
      outcome =
          .ok ⟨(Migrator.left workspace.migrator.migrations known .down).map Migration.id,
            workspace.migrator.ids⟩ ∧
        Ledger.listedAt reached.files location = some rebuilt ∧
          reaches reached.database ∧
            ((Migration.runHalves store (workspace.caughtUp rebuilt).migrator.refreshHalves
                reached.database).outcome = .ok () →
              (refresh store).Ends reached (fun again repeated =>
                Refreshes store reached again repeated ∧
                  repeated = .ok ⟨workspace.migrator.ids.reverse, workspace.migrator.ids⟩ ∧
                    again.files.holding? location = reached.files.holding? location))) := by
  refine (refresh_completes refreshable genuine canWrite halves).imp ?_
  rintro reached outcome ⟨reported, arrived, advances, _, tidy⟩
  have refreshableAgain := advances.refreshable refreshable
  rw [recordedEach_refresh, isRebuilt] at refreshableAgain
  refine ⟨reported, refreshableAgain.listed, arrived, ?_⟩
  intro halvesAgain
  have canWriteAgain := advances.canWrite canWrite
  have settled :
      Completion.withoutEach reached.migrator.migrations rebuilt ++
          reached.migrator.migrations.map Migration.revision =
        rebuilt := by
    rw [advances.migrations, ← isRebuilt, Completion.withoutEach_append]
  have sameIds : reached.migrator.ids = workspace.migrator.ids :=
    congrArg (List.map Migration.id) advances.migrations
  rw [← advances.migrations] at tidy
  rw [← refreshHalves_caughtUp advances.migrations] at halvesAgain
  rw [← sameIds]
  exact refresh_repeats refreshableAgain (advances.genuine genuine) settled tidy canWriteAgain
    halvesAgain

/--
A refresh of migrations whose revisions are digits comes to its end and leaves
the ledger with what it reports to have done, whatever fails.

When nothing fails it reverts all applied migrations, the latest first, and runs
all migrations, the earliest first.  The ledger then lists the revisions that no
migration has, as they were listed before, and all others behind them.  A second
refresh reverts all migrations and runs all of them, and the ledger stays as it
was written.
-/
theorem refresh_rebuilds_everything
    {workspace : Workspace σ}
    {location : Location}
    {known : List Revision}
    (refreshable : workspace.Refreshable location known)
    (genuine : GenuineMigrations workspace.migrator.migrations)
    (store : Store σ) :
    let migrator := (workspace.caughtUp known).migrator
    let reverted :=
      (migrator.migrations.filter migrator.isApplied).reverse.map Migration.id
    let rebuilt := migrator.orphaned ++ migrator.migrations.map Migration.revision
    (refresh store).Ends workspace (fun reached outcome =>
      Refreshes store workspace reached outcome ∧
        Ledger.listedAt reached.files location =
            some (Completion.recordAll migrator.migrations (refreshCompletions outcome)
              known) ∧
          (workspace.ledgerSession.CanWrite →
            (Migration.runHalves store migrator.refreshHalves workspace.database).outcome =
                .ok () →
              outcome = .ok ⟨reverted, migrator.ids⟩ ∧
                reverted.Pairwise (· > ·) ∧
                  migrator.ids.Pairwise (· < ·) ∧
                    Ledger.listedAt reached.files location = some rebuilt ∧
                      reached.database =
                          (Migration.runHalves store migrator.refreshHalves
                            workspace.database).state ∧
                        ((Migration.runHalves store
                              (workspace.caughtUp rebuilt).migrator.refreshHalves
                              reached.database).outcome =
                            .ok () →
                          (refresh store).Ends reached (fun again repeated =>
                            Refreshes store reached again repeated ∧
                              repeated = .ok ⟨migrator.ids.reverse, migrator.ids⟩ ∧
                                again.files.holding? location =
                                  reached.files.holding? location)))) := by
  intro migrator reverted rebuilt
  obtain ⟨_, recorded⟩ := refresh_ends refreshable.works genuine store
  refine ⟨refresh_refreshes refreshable.works genuine refreshable.listed store,
    recorded.listedAt_of_listed refreshable.listed, ?_⟩
  intro canWrite halves
  have halvesComplete :
      (Migration.runHalves store migrator.refreshHalves).Completes workspace.database
        (fun database =>
          database =
            (Migration.runHalves store migrator.refreshHalves workspace.database).state) :=
    ⟨halves, rfl⟩
  have applied :
      reverted = (Migrator.left workspace.migrator.migrations known .down).map Migration.id := by
    rw [left_eq_applied]
  have descending : reverted.Pairwise (· > ·) := by
    have ascending :
        ((migrator.migrations.filter migrator.isApplied).map Migration.id).Pairwise (· < ·) :=
      refreshable.ordered.sublist (List.filter_sublist.map _)
    rw [applied, left_eq_applied, List.map_reverse, List.pairwise_reverse]
    exact ascending
  obtain ⟨reported, listed, database, again⟩ :=
    refresh_rebuilds refreshable genuine canWrite rfl halvesComplete
  rw [← applied] at reported
  exact ⟨reported, descending, refreshable.ordered, listed, database, again⟩

/-- A migration that makes a table, and takes it away again. -/
def tableMigration (revision : Revision) (table : String) : Migration Rehearsal where
  revision := revision
  name := "create_" ++ table
  up := fun store => store.execute ("CREATE TABLE " ++ table ++ " (id INTEGER)")
  down := fun store => store.execute ("DROP TABLE " ++ table)

/-- Three migrations, of which two are listed against their order, with a stranger between them. -/
def shuffledWorkspace : Workspace Rehearsal where
  migrator := {
    directory := ⟨"m", ["m"]⟩
    ledger := ⟨⟨"m", ["m"]⟩, []⟩
    migrations := [
      tableMigration ⟨"20180101"⟩ "runs",
      tableMigration ⟨"20180102"⟩ "notes",
      tableMigration ⟨"20180103"⟩ "tags"] }
  files :=
    ⟨[(["m"], .directory),
      (["m", ".version"], .file (.text "20180102|20170101|20180101"))], []⟩
  database := ⟨[], [], [], []⟩

/-- What was applied is reverted by identifier, and the stranger is listed first from then on. -/
theorem refresh_rebuilds_shuffled :
    let store := Store.ofBackend (Rehearsal.backend "rehearsal" .duckdb)
    let ids := ["20180101_create_runs", "20180102_create_notes", "20180103_create_tags"]
    (refresh store).Ends shuffledWorkspace (fun reached outcome =>
      outcome = .ok ⟨["20180102_create_notes", "20180101_create_runs"], ids⟩ ∧
        Ledger.listedAt reached.files ["m", ".version"] =
            some [⟨"20170101"⟩, ⟨"20180101"⟩, ⟨"20180102"⟩, ⟨"20180103"⟩] ∧
          (refresh store).Ends reached (fun again repeated =>
            Refreshes store reached again repeated ∧
              repeated = .ok ⟨ids.reverse, ids⟩ ∧
                again.files.holding? ["m", ".version"] =
                  reached.files.holding? ["m", ".version"])) := by
  intro store ids
  have refreshable :
      shuffledWorkspace.Refreshable ["m", ".version"]
        [⟨"20180102"⟩, ⟨"20170101"⟩, ⟨"20180101"⟩] := {
    works := by rfl
    ordered := by
      unfold Migrator.Ordered shuffledWorkspace
      decide
    distinct := by
      unfold shuffledWorkspace
      decide
    listed := by rfl }
  have genuine : GenuineMigrations shuffledWorkspace.migrator.migrations := by
    unfold GenuineMigrations Revision.Genuine shuffledWorkspace
    decide
  have canWrite : shuffledWorkspace.ledgerSession.CanWrite :=
    ⟨nofun, rfl⟩
  obtain ⟨_, _, succeeding⟩ := refresh_rebuilds_everything refreshable genuine store
  have succeeds
      {halves : Except SchemaError Unit}
      (isOk : halves.isOk = true) :
      halves = .ok () := by
    cases halves with
    | error _ =>
        cases isOk
    | ok _ =>
        rfl
  obtain ⟨outcome, _, _, listed, database, again⟩ :=
    succeeding canWrite (succeeds (by decide +kernel))
  rw [database] at again
  exact ⟨outcome, listed, again (succeeds (by decide +kernel))⟩

/-- A workspace of one migration, with an empty ledger. -/
def soloWorkspace (revision : Revision) : Workspace Rehearsal where
  migrator := {
    directory := ⟨"m", ["m"]⟩
    ledger := ⟨⟨"m", ["m"]⟩, []⟩
    migrations := [tableMigration revision "runs"] }
  files := ⟨[(["m"], .directory), (["m", ".version"], .file (.text ""))], []⟩
  database := ⟨[], [], [], []⟩

/--
Where a revision starts with a sign the refresh runs its migration, and then it
cannot read the ledger that it wrote, though nothing failed.
-/
theorem refresh_stops_after_far_migration :
    let store := Store.ofBackend (Rehearsal.backend "rehearsal" .duckdb)
    let migrator := (soloWorkspace Revision.far).migrator
    (soloWorkspace Revision.far).Refreshable ["m", ".version"] [] ∧
      (soloWorkspace Revision.far).ledgerSession.CanWrite ∧
        (Migration.runHalves store migrator.refreshHalves
            (soloWorkspace Revision.far).database).outcome =
          .ok () ∧
          (refresh store (soloWorkspace Revision.far)).outcome =
            .error ⟨.ledgerCorrupt "m/.version" "+100000101000000",
              ⟨[], ["+100000101000000_create_runs"]⟩⟩ := by
  rw [Revision.far_eq]
  have refreshable :
      (soloWorkspace ⟨"+100000101000000"⟩).Refreshable ["m", ".version"] [] := {
    works := by rfl
    ordered := List.pairwise_singleton ..
    distinct := List.nodup_singleton _
    listed := by rfl }
  exact ⟨refreshable, ⟨nofun, rfl⟩, rfl, rfl⟩

end Workspace

end SchemaMigration
