import SchemaMigration.Proofs.TableNames
import SchemaMigration.Proofs.Validation

namespace SchemaMigration

/-!
# Reserved table names

Names that start with the mark of temporary tables are kept for rebuilds.  No
blueprint can be started for such a name, and what a blueprint does makes no
other table.  A rename does not look at the new name, so it is the one call that
can leave a table under a reserved name.
-/

/-- Whether a name is kept for the tables of rebuilds. -/
def IsReserved (name : String) : Prop :=
  Text.begins temporaryMark.toList name.toList = true

instance (name : String) : Decidable (IsReserved name) :=
  inferInstanceAs (Decidable (Text.begins temporaryMark.toList name.toList = true))

theorem not_isReserved_of_tableNameFlaw?
    {name : String}
    (good : tableNameFlaw? name = none) :
    ¬ IsReserved name := by
  intro reserved
  have begins : Text.begins temporaryMark.toList name.toList = true :=
    reserved
  unfold tableNameFlaw? at good
  rw [begins] at good
  split at good
  · cases good
  · split at good <;> cases good

/-! ## What a database takes -/

namespace Store

/-- The statements that a database takes of a list: those before the first that it refuses. -/
def accepted (store : Store σ) : σ → List Statement → List Statement
  | _, [] => []
  | state, statement :: rest =>
      match store.backend.execute state (statement.render store.dialect) with
      | .ok (_, next) => statement :: store.accepted next rest
      | .error _ => []

/-- Executing statements gives the database the accepted ones, which are all if nothing fails. -/
theorem accepted_of_executeAll
    (store : Store σ)
    (state : σ)
    (statements : List Statement)
    (taken : List String) :
    (store.recording.executeAll statements).Ends (state, taken) (fun reached outcome =>
      reached.2 =
          taken ++ (store.accepted state statements).map (Statement.render store.dialect) ∧
        (outcome = .ok () → store.accepted state statements = statements)) := by
  induction statements generalizing state taken with
  | nil => exact ⟨(List.append_nil taken).symm, fun _ => rfl⟩
  | cons statement rest inductionHypothesis =>
      have sameText :
          statement.render store.recording.dialect = statement.render store.dialect :=
        rfl
      simp only [executeAll, Action.ends_bind, sameText, ends_recording_execute, accepted]
      cases store.backend.execute state (statement.render store.dialect) with
      | error reason =>
          refine ⟨(List.append_nil taken).symm, fun succeeded => ?_⟩
          cases succeeded
      | ok answer =>
          refine (inductionHypothesis _ (taken ++ [statement.render store.dialect])).imp ?_
          rintro reached outcome ⟨grown, complete⟩
          refine ⟨?_, fun succeeded => congrArg _ (complete succeeded)⟩
          rw [grown, List.append_assoc]
          rfl

/-- Announcing a statement and executing it ends as executing it alone. -/
theorem ends_perform
    {store : Store σ}
    {state : σ}
    {notice : Notice}
    {statement : Statement}
    {post : σ → Except SchemaError Unit → Prop} :
    (store.perform notice statement).Ends state post ↔
      (store.executeAll [statement]).Ends state post := by
  simp only [perform, executeAll, Action.ends_bind, Action.ends_tell, ends_execute]
  cases store.backend.execute state (statement.render store.dialect) <;> rfl

end Store

/-! ## Calls -/

/-- A blueprint as a caller holds it: its table has a name that a table may have. -/
structure Begun where
  blueprint : Blueprint
  named : tableNameFlaw? blueprint.table = none

theorem tableNameFlaw?_of_start
    {purpose : Blueprint.Purpose}
    {table : String}
    {blueprint : Blueprint}
    (started : Blueprint.start purpose table = .ok blueprint) :
    tableNameFlaw? blueprint.table = none := by
  unfold Blueprint.start at started
  split at started
  · cases started
  · rename_i good
    cases started
    exact good

/-- Begin a blueprint, unless its table cannot have the name. -/
def Begun.start (purpose : Blueprint.Purpose) (table : String) : Except SchemaError Begun :=
  match started : Blueprint.start purpose table with
  | .ok blueprint => .ok ⟨blueprint, tableNameFlaw?_of_start started⟩
  | .error problem => .error problem

/-- A call that changes tables. -/
inductive SchemaCall
  /-- Begin a blueprint for a table, fill it in and apply it. -/
  | build (purpose : Blueprint.Purpose) (table : String) (fill : Begun → Begun)
  /-- Apply a blueprint that was begun and filled in before. -/
  | apply (begun : Begun)
  | rename (source target : String)
  | drop (table : String)
  | dropIfExists (table : String)
  /-- Carry out an operation of a migration. -/
  | operate (operation : Migration.Operation)

namespace SchemaCall

/-- Carry a call out. -/
def run (store : Store σ) : SchemaCall → Action σ SchemaError Unit
  | .build purpose table fill => do
      let begun ← Action.ofExcept (Begun.start purpose table)
      store.apply (fill begun).blueprint
  | .apply begun => store.apply begun.blueprint
  | .rename source target => store.rename source target
  | .drop table => store.drop table
  | .dropIfExists table => store.dropIfExists table
  | .operate operation => operation.run store

/-- The statements of a table entry. -/
def plannedEntry
    (dialect : Dialect)
    (view : Introspection)
    (entry : Migration.TableEntry)
    (purpose : Blueprint.Purpose) :
    Except SchemaError (List Statement) := do
  let blueprint ← entry.blueprint purpose
  (blueprint.plan dialect view).outcome

/-- The statements of a call, for a dialect and what the database reports. -/
def planned (dialect : Dialect) (view : Introspection) :
    SchemaCall → Except SchemaError (List Statement)
  | .build purpose table fill => do
      let begun ← Begun.start purpose table
      ((fill begun).blueprint.plan dialect view).outcome
  | .apply begun => (begun.blueprint.plan dialect view).outcome
  | .operate (.create entry) => plannedEntry dialect view entry .create
  | .operate (.alter entry) => plannedEntry dialect view entry .alter
  | .rename source target | .operate (.rename source target) => .ok [.renameTable source target]
  | .drop table | .operate (.drop table) => .ok [.dropTable table false]
  | .dropIfExists table | .operate (.dropIfExists table) => .ok [.dropTable table true]

/-- The old and the new name of a call that renames a table. -/
def renaming? : SchemaCall → Option (String × String)
  | .rename source target | .operate (.rename source target) => some (source, target)
  | .build .. | .apply _ | .drop _ | .dropIfExists _ | .operate (.create _)
  | .operate (.alter _) | .operate (.drop _) | .operate (.dropIfExists _) => none

/-- Carrying a call out plans its statements once and executes them. -/
theorem ends_run
    {store : Store σ}
    {state : σ}
    {call : SchemaCall}
    {post : σ → Except SchemaError Unit → Prop} :
    (call.run store).Ends state post ↔
      match call.planned store.dialect (store.backend.introspect state) with
      | .ok statements => (store.executeAll statements).Ends state post
      | .error problem => post state (.error problem) := by
  have ofEntry (entry : Migration.TableEntry) (purpose : Blueprint.Purpose) :
      (Migration.Operation.applyEntry store entry purpose).Ends state post ↔
        match plannedEntry store.dialect (store.backend.introspect state) entry purpose with
        | .ok statements => (store.executeAll statements).Ends state post
        | .error problem => post state (.error problem) := by
    rw [Migration.Operation.applyEntry, Action.ends_bind, Action.ends_ofExcept, plannedEntry]
    cases entry.blueprint purpose with
    | error problem => rfl
    | ok blueprint => exact Store.ends_apply
  cases call with
  | build purpose table fill =>
      rw [run, Action.ends_bind, Action.ends_ofExcept, planned]
      cases Begun.start purpose table with
      | error problem => rfl
      | ok begun => exact Store.ends_apply
  | apply begun => exact Store.ends_apply
  | rename source target => exact Store.ends_perform
  | drop table => exact Store.ends_perform
  | dropIfExists table => exact Store.ends_perform
  | operate operation =>
      cases operation with
      | create entry => exact ofEntry entry .create
      | alter entry => exact ofEntry entry .alter
      | rename source target => exact Store.ends_perform
      | drop table => exact Store.ends_perform
      | dropIfExists table => exact Store.ends_perform

/-- A call applies a blueprint for a good name, renames a table, or drops one. -/
theorem planned_cases
    {dialect : Dialect}
    {view : Introspection}
    {call : SchemaCall}
    {statements : List Statement}
    (succeeded : call.planned dialect view = .ok statements) :
    (call.renaming? = none ∧
        ∃ blueprint : Blueprint,
          tableNameFlaw? blueprint.table = none ∧
            (blueprint.plan dialect view).outcome = .ok statements) ∨
      (∃ source target,
        call.renaming? = some (source, target) ∧ statements = [.renameTable source target]) ∨
        (call.renaming? = none ∧
          ∃ table ifExists, statements = [.dropTable table ifExists]) := by
  have ofEntry
      {entry : Migration.TableEntry}
      {purpose : Blueprint.Purpose}
      (entered : plannedEntry dialect view entry purpose = .ok statements) :
      ∃ blueprint : Blueprint,
        tableNameFlaw? blueprint.table = none ∧
          (blueprint.plan dialect view).outcome = .ok statements := by
    rw [plannedEntry, Outcome.bind_eq_ok] at entered
    obtain ⟨blueprint, built, planning⟩ := entered
    refine ⟨blueprint, ?_, planning⟩
    rw [(Migration.TableEntry.body_of_blueprint built).1]
    exact (Migration.TableEntry.blueprint_eq_ok_iff.mp built).1
  cases call with
  | build purpose table fill =>
      rw [planned, Outcome.bind_eq_ok] at succeeded
      obtain ⟨begun, _, planning⟩ := succeeded
      exact .inl ⟨rfl, (fill begun).blueprint, (fill begun).named, planning⟩
  | apply begun => exact .inl ⟨rfl, begun.blueprint, begun.named, succeeded⟩
  | rename source target =>
      cases succeeded
      exact .inr (.inl ⟨source, target, rfl, rfl⟩)
  | drop table =>
      cases succeeded
      exact .inr (.inr ⟨rfl, table, false, rfl⟩)
  | dropIfExists table =>
      cases succeeded
      exact .inr (.inr ⟨rfl, table, true, rfl⟩)
  | operate operation =>
      cases operation with
      | create entry => exact .inl ⟨rfl, ofEntry succeeded⟩
      | alter entry => exact .inl ⟨rfl, ofEntry succeeded⟩
      | rename source target =>
          cases succeeded
          exact .inr (.inl ⟨source, target, rfl, rfl⟩)
      | drop table =>
          cases succeeded
          exact .inr (.inr ⟨rfl, table, false, rfl⟩)
      | dropIfExists table =>
          cases succeeded
          exact .inr (.inr ⟨rfl, table, true, rfl⟩)

/-- A reserved name is new after the statements of a call exactly when a table is renamed to it. -/
theorem mem_namesAfterAll_planned_iff
    {dialect : Dialect}
    {view : Introspection}
    {call : SchemaCall}
    {statements : List Statement}
    (succeeded : call.planned dialect view = .ok statements)
    {names : Set String}
    {name : String}
    (reserved : IsReserved name)
    (absent : name ∉ names) :
    name ∈ Statement.namesAfterAll names statements ↔
      ∃ source ∈ names, call.renaming? = some (source, name) := by
  rcases planned_cases succeeded with
    ⟨stays, blueprint, good, planning⟩ | ⟨source, target, renames, rfl⟩ |
      ⟨stays, table, ifExists, rfl⟩
  · refine iff_of_false ?_ (by simp [stays])
    intro there
    rcases Blueprint.mem_namesAfterAll_plan planning there with rfl | before
    · exact not_isReserved_of_tableNameFlaw? good reserved
    · exact absent before
  · have renamed :
        name ∈ Statement.namesAfterAll names [.renameTable source target] ↔
          name = target ∧ source ∈ names :=
      ⟨fun there => there.resolve_left (fun before => absent before.1), .inr⟩
    rw [renamed, renames]
    constructor
    · rintro ⟨rfl, there⟩
      exact ⟨source, there, rfl⟩
    · rintro ⟨_, there, ⟨⟩⟩
      exact ⟨rfl, there⟩
  · refine iff_of_false ?_ (by simp [stays])
    exact fun there => absent there.1

/-! ## Runs of calls -/

/-- The statements of a call that the database takes. -/
def accepted (call : SchemaCall) (store : Store σ) (state : σ) : List Statement :=
  match call.planned store.dialect (store.backend.introspect state) with
  | .ok statements => store.accepted state statements
  | .error _ => []

/-- The names of the tables after a call. -/
def namesAfter (call : SchemaCall) (store : Store σ) (state : σ) (names : Set String) :
    Set String :=
  Statement.namesAfterAll names (call.accepted store state)

/-- What holds of every call of a run, of the state and the names that it finds. -/
def Along (store : Store σ) (holds : σ → Set String → SchemaCall → Prop) :
    σ → Set String → List SchemaCall → Prop
  | _, _, [] => True
  | state, names, call :: rest =>
      holds state names call ∧
        Along store holds (call.run store state).state (call.namesAfter store state names) rest

/-- Whether a call that succeeds makes no table under a reserved name. -/
def KeepsReserved
    (store : Store σ)
    (state : σ)
    (names : Set String)
    (call : SchemaCall) :
    Prop :=
  (call.run store state).outcome = .ok () →
    ∀ name ∈ call.namesAfter store state names, IsReserved name → name ∈ names

/-- Whether a call that succeeds renames no table to a reserved name that is free. -/
def SparesReserved
    (store : Store σ)
    (state : σ)
    (names : Set String)
    (call : SchemaCall) :
    Prop :=
  (call.run store state).outcome = .ok () →
    ∀ source ∈ names, ∀ target,
      call.renaming? = some (source, target) → IsReserved target → target ∈ names

variable
  {store : Store σ}
  {state : σ}

/-- The accepted statements are what the database is given, and all of them when nothing fails. -/
theorem accepted_of_run
    (call : SchemaCall)
    (taken : List String) :
    (call.run store.recording).Ends (state, taken) (fun reached _ =>
      reached.2 =
        taken ++ (call.accepted store state).map (Statement.render store.dialect)) := by
  have sameDialect : store.recording.dialect = store.dialect := rfl
  have sameAnswers :
      store.recording.backend.introspect (state, taken) = store.backend.introspect state :=
    rfl
  rw [ends_run, sameDialect, sameAnswers, accepted]
  cases call.planned store.dialect (store.backend.introspect state) with
  | error problem => exact (List.append_nil taken).symm
  | ok statements =>
      exact (Store.accepted_of_executeAll store state statements taken).imp (fun _ _ both => both.1)

/-- A call that succeeds has its statements planned, and the database takes all of them. -/
theorem accepted_of_success
    {call : SchemaCall}
    (succeeded : (call.run store state).outcome = .ok ()) :
    call.planned store.dialect (store.backend.introspect state) =
      .ok (call.accepted store state) := by
  have ending : (call.run store).Ends state (fun _ outcome => outcome = .ok ()) :=
    succeeded
  rw [ends_run] at ending
  rw [accepted]
  cases planning : call.planned store.dialect (store.backend.introspect state) with
  | error problem =>
      rw [planning] at ending
      cases ending
  | ok statements =>
      rw [planning] at ending
      have sameOutcome :
          (store.recording.executeAll statements (state, [])).outcome =
            (store.executeAll statements state).outcome :=
        (Store.recording_executeAll statements).2
      have complete := (Store.accepted_of_executeAll store state statements []).2
      exact congrArg _ (complete (sameOutcome.trans ending)).symm

/-- One call keeps the reserved names exactly when it is no rename to one of them. -/
theorem keepsReserved_iff
    (store : Store σ)
    (state : σ)
    (names : Set String)
    (call : SchemaCall) :
    KeepsReserved store state names call ↔ SparesReserved store state names call := by
  unfold KeepsReserved SparesReserved
  refine imp_congr_right (fun succeeded => ?_)
  have planning := accepted_of_success succeeded
  constructor
  · intro keeps source there target renames reserved
    by_contra absent
    apply absent
    apply keeps target _ reserved
    exact (mem_namesAfterAll_planned_iff planning reserved absent).mpr ⟨source, there, renames⟩
  · intro spares name there reserved
    by_contra absent
    obtain ⟨source, before, renames⟩ :=
      (mem_namesAfterAll_planned_iff planning reserved absent).mp there
    exact absent (spares source before name renames reserved)

theorem along_congr
    {holds also : σ → Set String → SchemaCall → Prop}
    (same : ∀ state names call, holds state names call ↔ also state names call)
    (names : Set String)
    (calls : List SchemaCall) :
    Along store holds state names calls ↔ Along store also state names calls := by
  induction calls generalizing state names with
  | nil => rfl
  | cons call rest inductionHypothesis =>
      exact and_congr (same state names call) (inductionHypothesis _)

/--
Along every run of calls, whether these succeed or fail, no call that succeeds
makes a table under a reserved name, exactly when none of them renames a table
that is there to such a name that is free.

The names change by the statements that the database is given.
-/
theorem reserved_names_kept_iff
    (store : Store σ)
    (state : σ)
    (names : Set String)
    (calls : List SchemaCall) :
    (∀ (call : SchemaCall) (state : σ) (taken : List String),
        (call.run store.recording (state, taken)).state.2 =
          taken ++ (call.accepted store state).map (Statement.render store.dialect)) ∧
      (Along store (KeepsReserved store) state names calls ↔
        Along store (SparesReserved store) state names calls) :=
  ⟨fun call _ taken => accepted_of_run call taken,
    along_congr (keepsReserved_iff store) names calls⟩

/-- A database with one table, which takes every statement. -/
def oneTableStore (table : String) : Store Unit where
  backend :=
    { label := "one table"
      dialect := .duckdb
      introspect := fun _ => { Blueprint.emptyView with tableNames := pure [table] }
      execute := fun _ _ => .ok (0, ())
      countRows := fun _ _ => .ok 0 }
  dialect := .duckdb

/-- A table is renamed to the name that a rebuild of a table of its old name would need. -/
theorem renamed_to_reserved_name :
    ((rename "runs" "__tmp__runs").run (oneTableStore "runs") ()).outcome = .ok () ∧
      ¬ Along (oneTableStore "runs") (KeepsReserved (oneTableStore "runs")) () {"runs"}
          [.rename "runs" "__tmp__runs"] := by
  refine ⟨rfl, ?_⟩
  rintro ⟨keeps, _⟩
  have there :
      "__tmp__runs" ∈
        (rename "runs" "__tmp__runs").namesAfter (oneTableStore "runs") () {"runs"} :=
    .inr ⟨rfl, rfl⟩
  have before : "__tmp__runs" ∈ ({"runs"} : Set String) :=
    keeps rfl _ there (by decide)
  simp at before

end SchemaCall

end SchemaMigration
