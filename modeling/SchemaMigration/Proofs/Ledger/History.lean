import Mathlib.Logic.Function.Basic
import SchemaMigration.Database.Rehearsal
import SchemaMigration.Proofs.Ledger.Steps

namespace SchemaMigration

/-!
# The ledger is the history of what ran

Any number of migrators may work on one directory, each with the ledger that it
read last.  Whole calls on them interleave in any order.  As long as revisions
are digits, what the file lists in the end is what it listed at first, changed by
the completed steps one after the other; no step of another migrator is lost and
no failure is recorded, whether a statement was refused or a write broke off.
-/

/-- Migrators that share files and a database. -/
structure Fleet (ι σ : Type) where
  migrators : ι → Migrator σ
  files : FileTree
  database : σ

/-- A whole call on a migrator. -/
inductive MigratorCall (σ : Type)
  | status
  | step (store : Store σ) (direction : Direction) (selector? : Option String)
  | refresh (store : Store σ)

namespace Fleet

variable {ι σ : Type}

/-- One of the migrators at work. -/
def workspace (fleet : Fleet ι σ) (index : ι) : Workspace σ :=
  ⟨fleet.migrators index, fleet.files, fleet.database⟩

/-- The fleet after one of its migrators was at work. -/
def withWorkspace
    [DecidableEq ι]
    (fleet : Fleet ι σ)
    (index : ι)
    (workspace : Workspace σ) :
    Fleet ι σ where
  migrators := Function.update fleet.migrators index workspace.migrator
  files := workspace.files
  database := workspace.database

theorem migrators_withWorkspace_self
    [DecidableEq ι]
    (fleet : Fleet ι σ)
    (index : ι)
    (workspace : Workspace σ) :
    (fleet.withWorkspace index workspace).migrators index = workspace.migrator :=
  Function.update_self ..

theorem migrators_withWorkspace_of_ne
    [DecidableEq ι]
    (fleet : Fleet ι σ)
    {index other : ι}
    (different : other ≠ index)
    (workspace : Workspace σ) :
    (fleet.withWorkspace index workspace).migrators other = fleet.migrators other :=
  Function.update_of_ne different ..

/-- The fleet after a call, with the steps that the call completed. -/
def call
    [DecidableEq ι]
    (fleet : Fleet ι σ)
    (index : ι) :
    MigratorCall σ → Fleet ι σ × List Completion
  | .status =>
      let ending := Workspace.status (fleet.workspace index)
      (fleet.withWorkspace index ending.state, [])
  | .step store direction selector? =>
      let ending := Workspace.step store direction selector? (fleet.workspace index)
      (fleet.withWorkspace index ending.state,
        Workspace.stepCompletions direction ending.outcome)
  | .refresh store =>
      let ending := Workspace.refresh store (fleet.workspace index)
      (fleet.withWorkspace index ending.state,
        Workspace.refreshCompletions ending.outcome)

/-- The fleet after calls, with the steps that each migrator completed. -/
def run
    [DecidableEq ι]
    (fleet : Fleet ι σ) :
    List (ι × MigratorCall σ) → Fleet ι σ × List (ι × Completion)
  | [] => (fleet, [])
  | (index, call) :: later =>
      let (next, completions) := fleet.call index call
      let (final, laterCompletions) := next.run later
      (final, completions.map (fun completion => (index, completion)) ++ laterCompletions)

/-- The list after a completed step of a migrator. -/
def record
    (fleet : Fleet ι σ)
    (known : List Revision)
    (entry : ι × Completion) :
    List Revision :=
  Completion.record (fleet.migrators entry.1).migrations known entry.2

/-- Whether all migrators have the file at a location for their ledger. -/
def WorksOn (fleet : Fleet ι σ) (location : Location) : Prop :=
  ∀ index, fleet.files.locate (fleet.migrators index).ledger.place = .ok location

/-- What calls do to a fleet, beside the list on file. -/
structure Advances
    (location : Location)
    (change : List Revision → List Revision)
    (before after : Fleet ι σ) : Prop where
  migrations :
    ∀ index, (after.migrators index).migrations = (before.migrators index).migrations
  directory :
    ∀ index,
      (after.migrators index).ledger.directory = (before.migrators index).ledger.directory
  evolves : before.files.Evolves after.files
  listed :
    Ledger.listedAt after.files location =
      (Ledger.listedAt before.files location).map change

namespace Advances

variable {location : Location}

theorem refl (fleet : Fleet ι σ) : Advances location id fleet fleet where
  migrations := fun _ => rfl
  directory := fun _ => rfl
  evolves := .refl _
  listed := by simp

theorem trans
    {before between after : Fleet ι σ}
    {first second : List Revision → List Revision}
    (earlier : Advances location first before between)
    (later : Advances location second between after) :
    Advances location (second ∘ first) before after where
  migrations := fun index => (later.migrations index).trans (earlier.migrations index)
  directory := fun index => (later.directory index).trans (earlier.directory index)
  evolves := earlier.evolves.trans later.evolves
  listed := by rw [later.listed, earlier.listed, Option.map_map]

/-- What one workspace did is what the fleet did. -/
theorem of_workspace
    [DecidableEq ι]
    {fleet : Fleet ι σ}
    {index : ι}
    {change : List Revision → List Revision}
    {reached : Workspace σ}
    (advances : Workspace.Advances location change (fleet.workspace index) reached) :
    Advances location change fleet (fleet.withWorkspace index reached) where
  migrations := by
    intro other
    by_cases same : other = index
    · subst same
      rw [migrators_withWorkspace_self]
      exact advances.migrations
    · rw [migrators_withWorkspace_of_ne fleet same]
  directory := by
    intro other
    by_cases same : other = index
    · subst same
      rw [migrators_withWorkspace_self]
      exact advances.session.directory
    · rw [migrators_withWorkspace_of_ne fleet same]
  evolves := advances.session.evolves
  listed := advances.session.listed

theorem worksOn
    {change : List Revision → List Revision}
    {before after : Fleet ι σ}
    (advances : Advances location change before after)
    (works : before.WorksOn location) :
    after.WorksOn location := by
  intro index
  have samePlace :
      (after.migrators index).ledger.place = (before.migrators index).ledger.place := by
    rw [Ledger.place, Ledger.place, advances.directory index]
  rw [samePlace]
  exact advances.evolves.locate (works index)

theorem genuine
    {change : List Revision → List Revision}
    {before after : Fleet ι σ}
    (advances : Advances location change before after)
    (genuine : ∀ index, GenuineMigrations (before.migrators index).migrations)
    (index : ι) :
    GenuineMigrations (after.migrators index).migrations := by
  rw [advances.migrations index]
  exact genuine index

end Advances

theorem WorksOn.workspace
    {fleet : Fleet ι σ}
    {location : Location}
    (works : fleet.WorksOn location)
    (index : ι) :
    (fleet.workspace index).WorksOn location :=
  works index

/-- One call changes the list by the steps that it completed. -/
theorem call_advances
    [DecidableEq ι]
    {fleet : Fleet ι σ}
    {location : Location}
    (works : fleet.WorksOn location)
    (genuine : ∀ index, GenuineMigrations (fleet.migrators index).migrations)
    (index : ι)
    (call : MigratorCall σ) :
    Completion.AllOf (fleet.migrators index).migrations (fleet.call index call).2 ∧
      Advances location
        (Completion.recordAll (fleet.migrators index).migrations (fleet.call index call).2)
        fleet (fleet.call index call).1 := by
  cases call with
  | status =>
      exact ⟨nofun, .of_workspace (Workspace.status_ends (works.workspace index))⟩
  | step store direction selector? =>
      obtain ⟨allOf, advances⟩ :=
        Workspace.step_ends (works.workspace index) (genuine index) store direction selector?
      exact ⟨allOf, .of_workspace advances⟩
  | refresh store =>
      obtain ⟨allOf, advances⟩ :=
        Workspace.refresh_ends (works.workspace index) (genuine index) store
      exact ⟨allOf, .of_workspace advances⟩

/-- Completed steps are recorded alike as long as the migrations stay. -/
theorem record_eq
    {fleet next : Fleet ι σ}
    (migrations :
      ∀ index, (next.migrators index).migrations = (fleet.migrators index).migrations) :
    next.record = fleet.record := by
  funext known entry
  rw [record, record, migrations entry.1]

/-- Calls change the list by all steps that they completed, in order. -/
theorem run_advances
    [DecidableEq ι]
    {fleet : Fleet ι σ}
    {location : Location}
    (works : fleet.WorksOn location)
    (genuine : ∀ index, GenuineMigrations (fleet.migrators index).migrations)
    (calls : List (ι × MigratorCall σ)) :
    Advances location
      (fun known => (fleet.run calls).2.foldl fleet.record known)
      fleet (fleet.run calls).1 := by
  induction calls generalizing fleet with
  | nil =>
      exact .refl fleet
  | cons indexed later inductionHypothesis =>
      obtain ⟨index, call⟩ := indexed
      obtain ⟨_, first⟩ := call_advances works genuine index call
      have rest := inductionHypothesis (first.worksOn works) (first.genuine genuine)
      rw [record_eq first.migrations] at rest
      have change :
          (fun known => (fleet.run ((index, call) :: later)).2.foldl fleet.record known) =
            (fun known =>
                ((fleet.call index call).1.run later).2.foldl fleet.record known) ∘
              Completion.recordAll (fleet.migrators index).migrations
                (fleet.call index call).2 := by
        funext known
        simp only [run, List.foldl_append, List.foldl_map, Function.comp_apply]
        rfl
      rw [change]
      exact first.trans rest

/-- Every completed step is of a migration that the migrator holds. -/
theorem run_allOf
    [DecidableEq ι]
    {fleet : Fleet ι σ}
    {location : Location}
    (works : fleet.WorksOn location)
    (genuine : ∀ index, GenuineMigrations (fleet.migrators index).migrations)
    (calls : List (ι × MigratorCall σ)) :
    ∀ entry ∈ (fleet.run calls).2,
      ∃ migration ∈ (fleet.migrators entry.1).migrations,
        migration.id = entry.2.id := by
  induction calls generalizing fleet with
  | nil =>
      exact nofun
  | cons indexed later inductionHypothesis =>
      obtain ⟨index, call⟩ := indexed
      obtain ⟨allOf, first⟩ := call_advances works genuine index call
      intro entry member
      rcases List.mem_append.mp member with here | there
      · obtain ⟨completion, completed, rfl⟩ := List.mem_map.mp here
        exact allOf completion completed
      · rw [← first.migrations entry.1]
        exact inductionHypothesis (first.worksOn works) (first.genuine genuine) entry there

end Fleet

/-! ## What the next step runs -/

namespace Workspace

/-- What runs without a selector is next by the status that was asked for just before. -/
theorem next_of_step
    {workspace : Workspace σ}
    {store : Store σ}
    {direction : Direction}
    {id : String}
    (ran : (step store direction none workspace).outcome = .ok (.ran id)) :
    ∃ migrator : Migrator σ,
      (status workspace).outcome = .ok migrator.statuses ∧
        (migrator.next? direction).map Migration.id = some id := by
  have ends :
      (step store direction none).Ends workspace
        (fun _ outcome => outcome = .ok (.ran id)) :=
    ran
  suffices asked :
      status.Ends workspace (fun _ outcome =>
        ∃ migrator : Migrator σ,
          outcome = .ok migrator.statuses ∧
            (migrator.next? direction).map Migration.id = some id) from asked
  simp only [step, status, Action.ends_bind, Action.ends_current, Action.ends_ofExcept,
    Action.ends_pure] at ends ⊢
  unfold Action.Ends at ends ⊢
  cases reread : (onLedger Ledger.reload workspace).outcome with
  | error _ =>
      simp [reread] at ends
  | ok _ =>
      simp only [reread, Migrator.choose] at ends ⊢
      refine ⟨_, rfl, ?_⟩
      cases next :
          (onLedger Ledger.reload workspace).state.migrator.next? direction with
      | none =>
          rw [next] at ends
          have nothing :
              (Except.ok .nothingLeft : Except MigrationError Outcome) = .ok (.ran id) :=
            ends
          cases nothing
      | some migration =>
          rw [next] at ends
          have finished :
              (run store direction migration >>= fun _ => pure (Outcome.ran migration.id)).Ends
                (onLedger Ledger.reload workspace).state
                (fun _ outcome => outcome = .ok (Outcome.ran id)) :=
            ends
          simp only [Action.ends_bind, Action.ends_pure] at finished
          unfold Action.Ends at finished
          dsimp only at finished
          split at finished
          · cases finished
          · cases finished
            rfl

/-- What runs upwards without a selector is the first pending migration of the status. -/
theorem first_pending_of_up
    {workspace : Workspace σ}
    {store : Store σ}
    {id : String}
    (ran : (up store none workspace).outcome = .ok (.ran id)) :
    ∃ rows,
      (status workspace).outcome = .ok rows ∧
        (rows.find? (fun row => row.state = .pending)).map MigrationStatus.id = some id := by
  obtain ⟨migrator, asked, next⟩ := next_of_step ran
  refine ⟨_, asked, ?_⟩
  have pending (migration : Migration σ) :
      decide (migrator.stateOf migration = .pending) = migrator.canRun .up migration := by
    unfold Migrator.stateOf Migrator.canRun
    cases migrator.isApplied migration <;> rfl
  simpa [Migrator.statuses, List.find?_map, Function.comp_def, pending, Migrator.next?]
    using next

/-- What runs downwards without a selector is the last applied migration of the status. -/
theorem last_applied_of_down
    {workspace : Workspace σ}
    {store : Store σ}
    {id : String}
    (ran : (down store none workspace).outcome = .ok (.ran id)) :
    ∃ rows,
      (status workspace).outcome = .ok rows ∧
        (rows.reverse.find? (fun row => row.state = .applied)).map MigrationStatus.id =
          some id := by
  obtain ⟨migrator, asked, next⟩ := next_of_step ran
  refine ⟨_, asked, ?_⟩
  have applied (migration : Migration σ) :
      decide (migrator.stateOf migration = .applied) = migrator.canRun .down migration := by
    unfold Migrator.stateOf Migrator.canRun
    cases migrator.isApplied migration <;> rfl
  simpa [Migrator.statuses, ← List.map_reverse, List.find?_map, Function.comp_def, applied,
    Migrator.next?] using next

end Workspace

/-! ## Histories -/

namespace Fleet

/--
What the ledger lists after calls in any order is what it listed before, with
the revisions of completed steps appended and taken out one after the other.

All revisions are digits here.  Each completed step is of a migration of its
migrator.  Wherever the calls led, a step without a selector runs the first
pending or the last applied migration of the status.
-/
theorem ledger_lists_history
    [DecidableEq ι]
    {fleet : Fleet ι σ}
    {location : Location}
    (works : fleet.WorksOn location)
    (genuine : ∀ index, GenuineMigrations (fleet.migrators index).migrations)
    (calls : List (ι × MigratorCall σ)) :
    let reached := (fleet.run calls).1
    let completed := (fleet.run calls).2
    Ledger.listedAt reached.files location =
        (Ledger.listedAt fleet.files location).map
          (fun initial => completed.foldl fleet.record initial) ∧
      (∀ entry ∈ completed,
        ∃ migration ∈ (fleet.migrators entry.1).migrations,
          migration.id = entry.2.id ∧
            ∀ known,
              fleet.record known entry =
                match entry.2.direction with
                | .up => known ++ [migration.revision]
                | .down => known.filter (fun other => other != migration.revision)) ∧
        ∀ index store id,
          ((Workspace.up store none (reached.workspace index)).outcome = .ok (.ran id) →
            ∃ rows,
              (Workspace.status (reached.workspace index)).outcome = .ok rows ∧
                (rows.find? (fun row => row.state = .pending)).map MigrationStatus.id =
                  some id) ∧
          ((Workspace.down store none (reached.workspace index)).outcome = .ok (.ran id) →
            ∃ rows,
              (Workspace.status (reached.workspace index)).outcome = .ok rows ∧
                (rows.reverse.find? (fun row => row.state = .applied)).map
                    MigrationStatus.id =
                  some id) := by
  intro reached completed
  refine ⟨(run_advances works genuine calls).listed, ?_, ?_⟩
  · intro entry member
    obtain ⟨migration, held, same⟩ := run_allOf works genuine calls entry member
    refine ⟨migration, held, same, ?_⟩
    intro known
    have recorded :=
      Completion.record_of_mem (genuine entry.1) held entry.2.direction known
    rw [same] at recorded
    exact recorded
  · intro index store id
    exact ⟨Workspace.first_pending_of_up, Workspace.last_applied_of_down⟩

/-- A migration whose statement upwards may be refused. -/
def indexMigration : Migration Rehearsal where
  revision := ⟨"20180102000000"⟩
  name := "index_runs"
  up := fun store => store.execute "CREATE INDEX by_status ON runs (status)"
  down := fun store => store.execute "DROP INDEX by_status"

/-- A write that breaks off on a full device, and a move that the device fails. -/
def pairedFaults : List (Option FileFault) :=
  [none, none,
    some ⟨.refused "No space left on device (os error 28)", some "2017"⟩,
    none, some ⟨.refused "Input/output error (os error 5)", none⟩]

/--
Two migrators of one directory whose ledger lists a revision that neither has;
the database refuses indexes, and the ledger cannot always be written.
-/
def pairedFleet : Fleet Bool Rehearsal where
  migrators := fun _ => {
    directory := ⟨"m", ["m"]⟩
    ledger := ⟨⟨"m", ["m"]⟩, []⟩
    migrations := [.unimplemented ⟨"20180101000000"⟩ "create_runs", indexMigration] }
  files :=
    ⟨[(["m"], .directory), (["m", ".version"], .file (.text "20170101000000"))], pairedFaults⟩
  database := ⟨[], [⟨"INDEX", "no indexes"⟩], [], []⟩

/--
One migrator runs the first migration, the other one fails to run the second,
and then neither can record that the first one is reverted.
-/
def pairedCalls : List (Bool × MigratorCall Rehearsal) :=
  let store := Store.ofBackend (Rehearsal.backend "rehearsal" .duckdb)
  [(false, .step store .up none), (true, .step store .up none),
    (true, .step store .down none), (false, .step store .down none)]

/-- The ledger lists what ran after what it listed, and not what failed. -/
theorem ledger_lists_history_of_pair :
    (pairedFleet.run pairedCalls).2 = [(false, ⟨.up, "20180101000000_create_runs"⟩)] ∧
      (pairedFleet.run pairedCalls).1.files.faults = [] ∧
        Ledger.listedAt (pairedFleet.run pairedCalls).1.files ["m", ".version"] =
          some [⟨"20170101000000"⟩, ⟨"20180101000000"⟩] := by
  have works : pairedFleet.WorksOn ["m", ".version"] := by
    intro index
    cases index <;> rfl
  have genuine (index : Bool) : GenuineMigrations (pairedFleet.migrators index).migrations := by
    intro migration member
    rcases List.mem_cons.mp member with rfl | later
    · rfl
    · rw [List.mem_singleton.mp later]
      rfl
  have completed :
      (pairedFleet.run pairedCalls).2 =
        [(false, ⟨.up, "20180101000000_create_runs"⟩)] := by
    rfl
  refine ⟨completed, rfl, ?_⟩
  refine (ledger_lists_history works genuine pairedCalls).1.trans ?_
  simp only [completed]
  rfl

/-- A migrator of one migration beside an empty ledger. -/
def soloFleet (revision : Revision) : Fleet Unit Rehearsal where
  migrators := fun _ => {
    directory := ⟨"m", ["m"]⟩
    ledger := ⟨⟨"m", ["m"]⟩, []⟩
    migrations := [.unimplemented revision "create_runs"] }
  files := ⟨[(["m"], .directory), (["m", ".version"], .file (.text ""))], []⟩
  database := ⟨[], [], [], []⟩

/-- Its migration is run. -/
def soloCalls : List (Unit × MigratorCall Rehearsal) :=
  [((), .step (Store.ofBackend (Rehearsal.backend "rehearsal" .duckdb)) .up none)]

/-- A migration whose revision starts with a sign runs, and its ledger cannot be read any more. -/
theorem ledger_unreadable_after_far_migration :
    (soloFleet Revision.far).WorksOn ["m", ".version"] ∧
      Ledger.listedAt (soloFleet Revision.far).files ["m", ".version"] = some [] ∧
        ((soloFleet Revision.far).run soloCalls).2 =
            [((), ⟨.up, "+100000101000000_create_runs"⟩)] ∧
          Ledger.listedAt ((soloFleet Revision.far).run soloCalls).1.files ["m", ".version"] =
            none := by
  have works : (soloFleet Revision.far).WorksOn ["m", ".version"] := by
    rintro ⟨⟩
    rfl
  rw [Revision.far_eq] at works ⊢
  exact ⟨works, rfl, rfl, rfl⟩

end Fleet

end SchemaMigration
