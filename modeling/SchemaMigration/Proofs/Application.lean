import SchemaMigration.Proofs.Asking
import SchemaMigration.Proofs.Outcomes

namespace SchemaMigration

/-!
# Blueprints are planned first and executed afterwards

What a store executes for a blueprint is a first part of one list, which
depends on the dialect, on the blueprint and on what the database reports.
Where there is no such list, nothing is executed.
-/

/-! ## What stands in the way of a plan -/

/-- Whether something that a database reports about a table cannot be read. -/
def Introspection.Fails
    (view : Introspection)
    (table : String)
    (problem : DatabaseError) :
    Prop :=
  view.tableNames.outcome = .error problem ∨
    (view.columns table).outcome = .error problem ∨
      (view.primaryKey table).outcome = .error problem ∨
        (view.foreignKeys table).outcome = .error problem ∨
          (view.indexes table).outcome = .error problem

/--
What may be wrong before anything is executed: the table is missing or would be
without columns, a declaration is incomplete or out of range, a key or a column
of it is not there, or the database does not report about the table.
-/
def Blueprint.Obstacle (blueprint : Blueprint) (view : Introspection) : SchemaError → Prop
  | .tableNotFound table => table = blueprint.table ∧ blueprint.purpose = .alter
  | .emptyTable table => table = blueprint.table
  | .incompleteForeignKey table _ _ _ => table = blueprint.table
  | .tooManyDimensions table _ _ _ => table = blueprint.table
  | .keyNotFound table _ _ => table = blueprint.table
  | .keyColumnNotFound table _ _ _ => table = blueprint.table
  | .database problem => view.Fails blueprint.table problem
  | .invalidTableName _ _ => False
  | .invalidReferentialAction _ => False

/--
Whether a sort of problems holds what may be wrong with a plan besides a
declaration that is incomplete or out of range.
-/
structure Blueprint.Admits
    (blueprint : Blueprint)
    (view : Introspection)
    (sort : SchemaError → Prop) :
    Prop where
  noTable : blueprint.purpose = .alter → sort (.tableNotFound blueprint.table)
  noColumns : sort (.emptyTable blueprint.table)
  noKey : ∀ name kind, sort (.keyNotFound blueprint.table name kind)
  noKeyColumn : ∀ name kind column, sort (.keyColumnNotFound blueprint.table name kind column)
  unread : ∀ problem, view.Fails blueprint.table problem → sort (.database problem)

theorem Blueprint.admits_obstacle
    (blueprint : Blueprint)
    (view : Introspection) :
    blueprint.Admits view (blueprint.Obstacle view) where
  noTable := fun altering => ⟨rfl, altering⟩
  noColumns := rfl
  noKey := fun _ _ => rfl
  noKeyColumn := fun _ _ _ => rfl
  unread := fun _ fails => fails

section Obstacles

variable
  {blueprint : Blueprint}
  {dialect : Dialect}
  {view : Introspection}
  {sort : SchemaError → Prop}

theorem Introspection.fails_of_hasTable
    {table : String}
    {problem : DatabaseError}
    (failed : (view.hasTable table).outcome = .error problem) :
    view.Fails table problem := by
  have named : (view.hasTable table).FailsOnly (view.Fails table) :=
    Traced.failsOnly_bind (fun _ unread => .inl unread) (fun _ _ => Traced.failsOnly_pure _)
  exact named problem failed

namespace Blueprint

/-! ### Parts that only give notices -/

theorem failsOnly_mergeColumn (columns : List ColumnDefinition) (column : ColumnDefinition) :
    (Rebuild.mergeColumn blueprint.table columns column).FailsOnly sort := by
  unfold Rebuild.mergeColumn
  split
  · exact Traced.failsOnly_bind (Traced.failsOnly_tell _) (fun _ _ => Traced.failsOnly_pure _)
  · exact Traced.failsOnly_pure _

theorem failsOnly_announced (statement : Statement) :
    (Alteration.announced dialect statement).FailsOnly sort :=
  Traced.failsOnly_bind (Traced.failsOnly_tell _) (fun _ _ => Traced.failsOnly_pure _)

theorem failsOnly_columnStatements (live : List LiveColumn) (column : ColumnDefinition) :
    (Alteration.columnStatements dialect blueprint.table live column).FailsOnly sort := by
  have announcing (added : List Statement) :
      (Traced.FailsOnly sort do
        let keys ← Traced.each (fun key =>
          Alteration.announced dialect (.addForeignKey blueprint.table key)) column.foreignKeys
        return added ++ keys) := by
    refine Traced.failsOnly_bind ?_ (fun _ _ => Traced.failsOnly_pure _)
    exact Traced.failsOnly_each (fun _ _ => failsOnly_announced _)
  unfold Alteration.columnStatements
  dsimp only
  split
  · exact Traced.failsOnly_bind (Traced.failsOnly_tell _) (fun _ _ => announcing _)
  · exact announcing _

theorem failsOnly_dropColumnStatements (live : List LiveColumn) (name : String) :
    (Alteration.dropColumnStatements blueprint.table live name).FailsOnly sort := by
  unfold Alteration.dropColumnStatements
  split
  · exact Traced.failsOnly_pure _
  · exact Traced.failsOnly_bind (Traced.failsOnly_tell _) (fun _ _ => Traced.failsOnly_pure _)

/-! ### Declarations -/

section Declarations

variable
  (incomplete : ∀ column name gap, sort (.incompleteForeignKey blueprint.table column name gap))
  (tooDeep :
    ∀ column requested supported,
      sort (.tooManyDimensions blueprint.table column requested supported))

include incomplete

theorem failsOnly_completeForeignKey (draft : ForeignKeyDraft) :
    (Traced.ofExcept (blueprint.completeForeignKey draft)).FailsOnly sort := by
  refine Traced.failsOnly_ofExcept ?_
  intro problem failed
  unfold completeForeignKey at failed
  cases completed : draft.complete with
  | ok _ =>
      rw [completed] at failed
      cases failed
  | error gap =>
      rw [completed] at failed
      cases failed
      exact incomplete _ _ gap

include tooDeep

theorem failsOnly_resolveColumn (column : Column) :
    (blueprint.resolveColumn dialect column).FailsOnly sort := by
  unfold resolveColumn
  split
  · exact Traced.failsOnly_bind (Traced.failsOnly_fail.mpr (tooDeep _ _ _)) nofun
  · refine Traced.failsOnly_bind (Traced.failsOnly_tell _) (fun _ _ => ?_)
    refine Traced.failsOnly_bind ?_ (fun _ _ => Traced.failsOnly_pure _)
    exact Traced.failsOnly_each (fun draft _ => failsOnly_completeForeignKey incomplete draft)

theorem failsOnly_resolve :
    (blueprint.resolve dialect).FailsOnly sort := by
  unfold resolve
  refine Traced.failsOnly_bind ?_ (fun _ _ => ?_)
  · exact Traced.failsOnly_each (fun column _ => failsOnly_resolveColumn incomplete tooDeep column)
  · refine Traced.failsOnly_bind ?_ (fun _ _ => Traced.failsOnly_pure _)
    exact Traced.failsOnly_each (fun draft _ => failsOnly_completeForeignKey incomplete draft)

end Declarations

section Plans

variable (admits : blueprint.Admits view sort)

include admits

theorem failsOnly_load :
    (Snapshot.load view blueprint.table).FailsOnly sort := by
  refine Traced.failsOnly_mapError ?_
  refine Traced.failsOnly_bind
    (fun _ unread => admits.unread _ (.inr (.inr (.inl unread)))) (fun _ _ => ?_)
  refine Traced.failsOnly_bind
    (fun _ unread => admits.unread _ (.inr (.inr (.inr (.inl unread))))) (fun _ _ => ?_)
  refine Traced.failsOnly_bind
    (fun _ unread => admits.unread _ (.inr (.inl unread))) (fun _ _ => ?_)
  refine Traced.failsOnly_bind (Traced.failsOnly_tell _) (fun _ _ => ?_)
  refine Traced.failsOnly_bind
    (fun _ unread => admits.unread _ (.inr (.inr (.inr (.inr unread))))) (fun _ _ => ?_)
  exact Traced.failsOnly_pure _

/-! ### Rebuilds -/

theorem failsOnly_mergeKey (draft : Rebuild.Draft) (key : Key) :
    (Rebuild.mergeKey blueprint.table draft key).FailsOnly sort := by
  unfold Rebuild.mergeKey
  split
  · exact Traced.failsOnly_fail.mpr (admits.noKeyColumn _ _ _)
  · split
    · split
      · exact Traced.failsOnly_bind (Traced.failsOnly_tell _)
          (fun _ _ => Traced.failsOnly_pure _)
      · exact Traced.failsOnly_pure _
    · exact Traced.failsOnly_pure _

theorem failsOnly_mergeForeignKey (columns : List ColumnDefinition) (key : ForeignKey) :
    (Rebuild.mergeForeignKey blueprint.table columns key).FailsOnly sort := by
  unfold Rebuild.mergeForeignKey
  split
  · exact Traced.failsOnly_pure _
  · exact Traced.failsOnly_fail.mpr (admits.noKeyColumn _ _ _)

theorem failsOnly_merge (snapshot : Snapshot) (resolved : Resolved) (dropped : Dropped) :
    (Rebuild.merge blueprint.table snapshot resolved dropped).FailsOnly sort := by
  unfold Rebuild.merge
  split
  · exact Traced.failsOnly_bind (Traced.failsOnly_fail.mpr (admits.noKey _ _)) nofun
  · refine Traced.failsOnly_bind
      (Traced.failsOnly_sweep failsOnly_mergeColumn _ _) (fun _ _ => ?_)
    refine Traced.failsOnly_bind
      (Traced.failsOnly_sweep (failsOnly_mergeKey admits) _ _) (fun _ _ => ?_)
    refine Traced.failsOnly_bind
      (Traced.failsOnly_sweep (failsOnly_mergeForeignKey admits) _ _) (fun _ _ => ?_)
    dsimp only
    split
    · exact Traced.failsOnly_bind (Traced.failsOnly_fail.mpr admits.noColumns) nofun
    · exact Traced.failsOnly_pure _

theorem failsOnly_rebuild (snapshot : Snapshot) (resolved : Resolved) (dropped : Dropped) :
    (Rebuild.plan dialect blueprint.table snapshot resolved dropped).FailsOnly sort := by
  unfold Rebuild.plan
  refine Traced.failsOnly_bind (failsOnly_merge admits snapshot resolved dropped) (fun _ _ => ?_)
  exact Traced.failsOnly_bind (Traced.failsOnly_tell _) (fun _ _ => Traced.failsOnly_pure _)

/-! ### Alterations in place -/

theorem failsOnly_dropKeyStatements (live : List LiveColumn) (key : Key) :
    (Alteration.dropKeyStatements dialect blueprint.table live key).FailsOnly sort := by
  refine Traced.failsOnly_ofExcept ?_
  intro problem failed
  unfold Statement.dropKeyAll at failed
  split at failed <;> cases failed
  exact admits.noKeyColumn _ _ _

theorem failsOnly_alteration
    (live : List LiveColumn)
    (resolved : Resolved)
    (dropped : Dropped) :
    (Alteration.plan dialect blueprint.table live resolved dropped).FailsOnly sort := by
  unfold Alteration.plan
  refine Traced.failsOnly_bind
    (Traced.failsOnly_each (fun column _ => failsOnly_columnStatements live column))
    (fun _ _ => ?_)
  refine Traced.failsOnly_bind
    (Traced.failsOnly_each (fun _ _ => failsOnly_announced _)) (fun _ _ => ?_)
  refine Traced.failsOnly_bind
    (Traced.failsOnly_each (fun key _ => failsOnly_dropKeyStatements admits live key))
    (fun _ _ => ?_)
  refine Traced.failsOnly_bind
    (Traced.failsOnly_each (fun name _ => failsOnly_dropColumnStatements live name))
    (fun _ _ => ?_)
  exact Traced.failsOnly_pure _

/-! ### Whole plans -/

theorem failsOnly_hasTable :
    (asked (view.hasTable blueprint.table)).FailsOnly sort :=
  Traced.failsOnly_mapError (fun _ failed =>
    admits.unread _ (Introspection.fails_of_hasTable failed))

theorem failsOnly_createStatements (resolved : Resolved) :
    (createStatements dialect blueprint.table resolved).FailsOnly sort := by
  unfold createStatements
  dsimp only
  split
  · exact Traced.failsOnly_bind (Traced.failsOnly_fail.mpr admits.noColumns) nofun
  · refine Traced.failsOnly_bind (Traced.failsOnly_tell _) (fun _ _ => ?_)
    refine Traced.failsOnly_bind ?_ (fun _ _ => ?_)
    · refine Traced.failsOnly_each (fun _ _ => ?_)
      exact Traced.failsOnly_bind (Traced.failsOnly_tell _) (fun _ _ => failsOnly_announced _)
    · exact Traced.failsOnly_bind (Traced.failsOnly_tell _)
        (fun _ _ => Traced.failsOnly_pure _)

variable (resolves : (blueprint.resolve dialect).FailsOnly sort)

include resolves

theorem failsOnly_planCreate :
    (blueprint.planCreate dialect view).FailsOnly sort := by
  unfold planCreate
  refine Traced.failsOnly_bind (failsOnly_hasTable admits) (fun _ _ => ?_)
  split
  · exact Traced.failsOnly_bind (Traced.failsOnly_tell _) (fun _ _ => Traced.failsOnly_pure _)
  · exact Traced.failsOnly_bind resolves (fun _ _ => failsOnly_createStatements admits _)

theorem failsOnly_planAlter (altering : blueprint.purpose = .alter) :
    (blueprint.planAlter dialect view).FailsOnly sort := by
  unfold planAlter
  refine Traced.failsOnly_bind (failsOnly_hasTable admits) (fun _ _ => ?_)
  dsimp only
  split
  · exact Traced.failsOnly_bind (Traced.failsOnly_fail.mpr (admits.noTable altering)) nofun
  · split
    · exact Traced.failsOnly_pure _
    · refine Traced.failsOnly_bind resolves (fun _ _ => ?_)
      have told (planned : List Statement) :
          (Traced.tell [.altering blueprint.table] >>= fun _ =>
            (pure planned : Traced SchemaError (List Statement))).FailsOnly sort :=
        Traced.failsOnly_bind (Traced.failsOnly_tell _) (fun _ _ => Traced.failsOnly_pure _)
      split
      · refine Traced.failsOnly_bind ?_ (fun live _ => ?_)
        · exact Traced.failsOnly_mapError (fun _ unread => admits.unread _ (.inr (.inl unread)))
        · exact Traced.failsOnly_bind (failsOnly_alteration admits _ _ _) (fun _ _ => told _)
      · refine Traced.failsOnly_bind (failsOnly_load admits) (fun snapshot _ => ?_)
        exact Traced.failsOnly_bind (failsOnly_rebuild admits _ _ _) (fun _ _ => told _)

/-- A plan fails for reasons of a sort that holds what may be wrong besides resolving. -/
theorem failsOnly_plan_of_resolve :
    (blueprint.plan dialect view).FailsOnly sort := by
  unfold plan
  cases purpose : blueprint.purpose with
  | create =>
      exact failsOnly_planCreate admits resolves
  | alter =>
      exact failsOnly_planAlter admits resolves purpose

end Plans

theorem failsOnly_plan :
    (blueprint.plan dialect view).FailsOnly (blueprint.Obstacle view) := by
  refine failsOnly_plan_of_resolve (blueprint.admits_obstacle view) ?_
  exact failsOnly_resolve (fun _ _ _ => rfl) (fun _ _ _ => rfl)

end Blueprint

end Obstacles

/-! ## What a database takes -/

/-- A database that keeps the statements it takes, in order, beside its state. -/
def Backend.recording (backend : Backend σ) : Backend (σ × List String) where
  label := backend.label
  dialect := backend.dialect
  introspect := fun (state, _) => backend.introspect state
  execute := fun (state, taken) statement =>
    (backend.execute state statement).map
      (fun (affected, next) => (affected, next, taken ++ [statement]))
  countRows := fun (state, _) query => backend.countRows state query

namespace Store

/-- A store whose database keeps the statements it takes. -/
def recording (store : Store σ) : Store (σ × List String) :=
  ⟨store.backend.recording, store.dialect⟩

/-- A store whose database answers statements in another way. -/
def answering
    (store : Store σ)
    (execute : σ → String → Except DatabaseError (Nat × σ)) :
    Store σ :=
  { store with backend := { store.backend with execute := execute } }

section Statements

variable
  {store : Store σ}
  {state : σ}
  {taken : List String}

theorem ends_execute
    {statement : String}
    {post : σ → Except SchemaError Unit → Prop} :
    (store.execute statement).Ends state post ↔
      match store.backend.execute state statement with
      | .ok (_, next) => post next (.ok ())
      | .error reason => post state (.error (.database reason)) := by
  unfold Action.Ends execute
  cases store.backend.execute state statement <;> rfl

theorem ends_recording_execute
    {statement : String}
    {post : σ × List String → Except SchemaError Unit → Prop} :
    (store.recording.execute statement).Ends (state, taken) post ↔
      match store.backend.execute state statement with
      | .ok (_, next) => post (next, taken ++ [statement]) (.ok ())
      | .error reason => post (state, taken) (.error (.database reason)) := by
  have answered :
      store.recording.backend.execute (state, taken) statement =
        (store.backend.execute state statement).map
          (fun (affected, next) => (affected, next, taken ++ [statement])) :=
    rfl
  rw [ends_execute, answered]
  cases store.backend.execute state statement <;> rfl

/-- Keeping the statements makes no difference to where they lead. -/
theorem recording_executeAll (statements : List Statement) :
    (store.recording.executeAll statements).Ends (state, taken) (fun reached outcome =>
      (store.executeAll statements).Ends state (fun plain plainOutcome =>
        reached.1 = plain ∧ outcome = plainOutcome)) := by
  induction statements generalizing state taken with
  | nil =>
      exact ⟨rfl, rfl⟩
  | cons statement rest inductionHypothesis =>
      have sameText :
          statement.render store.recording.dialect = statement.render store.dialect :=
        rfl
      simp only [executeAll, Action.ends_bind, sameText]
      rw [ends_recording_execute]
      simp only [ends_execute]
      cases store.backend.execute state (statement.render store.dialect) with
      | error reason =>
          exact ⟨trivial, rfl⟩
      | ok answer =>
          exact inductionHypothesis

/--
Where executing stops with statements left: at the end when it succeeds, and
otherwise at one that the database refuses.
-/
def StopsAt (store : Store σ) (reached : σ) (left : List String) :
    Except SchemaError Unit → Prop
  | .ok _ => left = []
  | .error problem =>
      ∃ refused later reason,
        left = refused :: later ∧
          store.backend.execute reached refused = .error reason ∧
            problem = .database reason

/-- What is taken of statements are those before the one where executing stops. -/
theorem taken_of_executeAll (statements : List Statement) :
    (store.recording.executeAll statements).Ends (state, taken) (fun reached outcome =>
      ∃ added left,
        reached.2 = taken ++ added ∧
          statements.map (Statement.render store.dialect) = added ++ left ∧
            store.StopsAt reached.1 left outcome) := by
  induction statements generalizing state taken with
  | nil =>
      exact ⟨[], [], (List.append_nil taken).symm, rfl, rfl⟩
  | cons statement rest inductionHypothesis =>
      have sameText :
          statement.render store.recording.dialect = statement.render store.dialect :=
        rfl
      simp only [executeAll, Action.ends_bind, sameText, ends_recording_execute]
      cases executed : store.backend.execute state (statement.render store.dialect) with
      | error reason =>
          exact ⟨[], _, (List.append_nil taken).symm, rfl, _, _, reason, rfl, executed, rfl⟩
      | ok answer =>
          refine Action.Ends.imp inductionHypothesis ?_
          rintro reached outcome ⟨added, left, grown, split, ending⟩
          refine ⟨statement.render store.dialect :: added, left, ?_, ?_, ending⟩
          · simpa using grown
          · simp [split]

/-- Carrying a plan out makes the plan once and executes it, if there is one. -/
theorem ends_carryOut
    {plan : Dialect → Introspection → Traced SchemaError (List Statement)}
    {post : σ → Except SchemaError Unit → Prop} :
    (store.carryOut plan).Ends state post ↔
      match (plan store.dialect (store.backend.introspect state)).outcome with
      | .ok planned => (store.executeAll planned).Ends state post
      | .error problem => post state (.error problem) := by
  rw [carryOut, Action.ends_bind, Action.ends_inspect]
  cases (plan store.dialect (store.backend.introspect state)).outcome <;> rfl

/-- What is taken for a plan are its statements up to where executing stops. -/
theorem taken_of_carryOut
    {plan : Dialect → Introspection → Traced SchemaError (List Statement)}
    {planned : List Statement}
    (planning :
      (plan store.dialect (store.backend.introspect state)).outcome = .ok planned)
    (taken : List String) :
    (store.recording.carryOut plan).Ends (state, taken) (fun reached outcome =>
      ∃ added left,
        reached.2 = taken ++ added ∧
          planned.map (Statement.render store.dialect) = added ++ left ∧
            store.StopsAt reached.1 left outcome) := by
  have sameDialect : store.recording.dialect = store.dialect := rfl
  have sameAnswers :
      store.recording.backend.introspect (state, taken) = store.backend.introspect state :=
    rfl
  rw [ends_carryOut, sameDialect, sameAnswers, planning]
  exact taken_of_executeAll planned

/-- Keeping the statements makes no difference to carrying a plan out. -/
theorem recording_carryOut
    (plan : Dialect → Introspection → Traced SchemaError (List Statement)) :
    (store.recording.carryOut plan).Ends (state, taken) (fun reached outcome =>
      (store.carryOut plan).Ends state (fun plain plainOutcome =>
        reached.1 = plain ∧ outcome = plainOutcome)) := by
  have sameDialect : store.recording.dialect = store.dialect := rfl
  have sameAnswers :
      store.recording.backend.introspect (state, taken) = store.backend.introspect state :=
    rfl
  simp only [ends_carryOut, sameDialect, sameAnswers]
  cases (plan store.dialect (store.backend.introspect state)).outcome with
  | error problem =>
      exact ⟨trivial, rfl⟩
  | ok planned =>
      exact recording_executeAll planned

/-- Carrying a plan out with success executes all of its statements in order. -/
theorem executed_of_carryOut
    {plan : Dialect → Introspection → Traced SchemaError (List Statement)}
    (succeeded : (store.carryOut plan state).outcome = .ok ()) :
    ∃ planned,
      (plan store.dialect (store.backend.introspect state)).outcome = .ok planned ∧
        (store.recording.carryOut plan (state, [])).state =
          ((store.carryOut plan state).state,
            planned.map (Statement.render store.dialect)) := by
  cases planning : (plan store.dialect (store.backend.introspect state)).outcome with
  | error problem =>
      have failed :
          (store.carryOut plan).Ends state (fun _ outcome => outcome = .error problem) := by
        rw [ends_carryOut, planning]
      rw [Action.Ends, succeeded] at failed
      cases failed
  | ok planned =>
      obtain ⟨sameState, sameOutcome⟩ :
          (store.recording.carryOut plan (state, [])).state.1 =
              (store.carryOut plan state).state ∧
            (store.recording.carryOut plan (state, [])).outcome =
              (store.carryOut plan state).outcome :=
        recording_carryOut plan
      obtain ⟨added, left, grown, split, stopped⟩ := taken_of_carryOut planning []
      rw [sameOutcome, succeeded] at stopped
      have finished : left = [] := stopped
      refine ⟨planned, rfl, Prod.ext sameState ?_⟩
      rw [grown, split, finished, List.nil_append, List.append_nil]

/-- Applying a blueprint plans it once and executes the plan, if there is one. -/
theorem ends_apply
    {blueprint : Blueprint}
    {post : σ → Except SchemaError Unit → Prop} :
    (store.apply blueprint).Ends state post ↔
      match (blueprint.plan store.dialect (store.backend.introspect state)).outcome with
      | .ok planned => (store.executeAll planned).Ends state post
      | .error problem => post state (.error problem) := by
  rw [apply_eq_carryOut]
  exact ends_carryOut

theorem apply_of_unplanned
    (store : Store σ)
    (state : σ)
    {blueprint : Blueprint}
    {problem : SchemaError}
    (unplanned :
      (blueprint.plan store.dialect (store.backend.introspect state)).outcome =
        .error problem) :
    (store.apply blueprint).Ends state (fun reached outcome =>
      reached = state ∧ outcome = .error problem) := by
  rw [ends_apply, unplanned]
  exact ⟨rfl, rfl⟩

/-- What is taken for a blueprint are the statements of its plan up to where executing stops. -/
theorem taken_of_apply
    {blueprint : Blueprint}
    {planned : List Statement}
    (planning :
      (blueprint.plan store.dialect (store.backend.introspect state)).outcome = .ok planned)
    (taken : List String) :
    (store.recording.apply blueprint).Ends (state, taken) (fun reached outcome =>
      ∃ added left,
        reached.2 = taken ++ added ∧
          planned.map (Statement.render store.dialect) = added ++ left ∧
            store.StopsAt reached.1 left outcome) := by
  rw [apply_eq_carryOut]
  exact taken_of_carryOut planning taken

/-- Keeping the statements makes no difference to applying a blueprint. -/
theorem recording_apply (blueprint : Blueprint) :
    (store.recording.apply blueprint).Ends (state, taken) (fun reached outcome =>
      (store.apply blueprint).Ends state (fun plain plainOutcome =>
        reached.1 = plain ∧ outcome = plainOutcome)) := by
  rw [apply_eq_carryOut, apply_eq_carryOut]
  exact recording_carryOut blueprint.plan

/-- Applying a blueprint with success executes all statements of its plan in order. -/
theorem executed_of_apply
    {blueprint : Blueprint}
    (succeeded : (store.apply blueprint state).outcome = .ok ()) :
    ∃ planned,
      (blueprint.plan store.dialect (store.backend.introspect state)).outcome = .ok planned ∧
        (store.recording.apply blueprint (state, [])).state =
          ((store.apply blueprint state).state,
            planned.map (Statement.render store.dialect)) := by
  rw [apply_eq_carryOut] at succeeded ⊢
  rw [apply_eq_carryOut]
  exact executed_of_carryOut succeeded

end Statements

end Store

/-! ## Applying a blueprint -/

namespace Blueprint

/-- The statements that carry a blueprint out, as texts, or what stands in the way. -/
def script
    (blueprint : Blueprint)
    (dialect : Dialect)
    (view : Introspection) :
    Except SchemaError (List String) :=
  (blueprint.plan dialect view).outcome.map
    (fun planned => planned.map (Statement.render dialect))

end Blueprint

/--
Applying a blueprint executes its script up to the first statement that is
refused, and nothing else.

The script depends on the dialect, the blueprint and the answers of the
database only.  Where there is none, something was wrong beforehand: the
database is not given any statement, so it would be the same with a database
that answers statements in any other way.
-/
theorem apply_executes_script
    (store : Store σ)
    (blueprint : Blueprint)
    (state : σ) :
    let view := store.backend.introspect state
    let plain := store.apply blueprint state
    let recorded := store.recording.apply blueprint (state, [])
    let accepted := recorded.state.2
    recorded.state.1 = plain.state ∧ recorded.outcome = plain.outcome ∧
      match blueprint.script store.dialect view with
      | .ok script =>
          accepted <+: script ∧
            (plain.outcome = .ok () ↔ accepted = script) ∧
              ∀ problem,
                plain.outcome = .error problem →
                  ∃ refused later reason,
                    script = accepted ++ refused :: later ∧
                      store.backend.execute plain.state refused = .error reason ∧
                        problem = .database reason
      | .error problem =>
          accepted = [] ∧ blueprint.Obstacle view problem ∧
            ∀ execute,
              ((store.answering execute).apply blueprint state).state = state ∧
                ((store.answering execute).apply blueprint state).outcome =
                  .error problem := by
  intro view plain recorded accepted
  obtain ⟨sameState, sameOutcome⟩ :
      recorded.state.1 = plain.state ∧ recorded.outcome = plain.outcome :=
    Store.recording_apply blueprint
  refine ⟨sameState, sameOutcome, ?_⟩
  cases planning : (blueprint.plan store.dialect view).outcome with
  | error problem =>
      have unscripted : blueprint.script store.dialect view = .error problem := by
        rw [Blueprint.script, planning]
        rfl
      rw [unscripted]
      have untouched : recorded.state = (state, []) :=
        (Store.apply_of_unplanned store.recording (state, []) planning).1
      refine ⟨congrArg Prod.snd untouched, Blueprint.failsOnly_plan problem planning, ?_⟩
      intro execute
      exact Store.apply_of_unplanned (store.answering execute) state planning
  | ok planned =>
      have scripted :
          blueprint.script store.dialect view =
            .ok (planned.map (Statement.render store.dialect)) := by
        rw [Blueprint.script, planning]
        rfl
      rw [scripted]
      obtain ⟨added, left, grown, split, ending⟩ :=
        Store.taken_of_apply planning []
      have isAdded : accepted = added := grown
      have plainEnding : Store.StopsAt store plain.state left plain.outcome := by
        rw [← sameOutcome, ← sameState]
        exact ending
      rw [split, isAdded]
      refine ⟨List.prefix_append added left, ?_, ?_⟩
      · rw [List.self_eq_append_right]
        cases result : plain.outcome with
        | ok _ =>
            rw [result] at plainEnding
            exact iff_of_true rfl plainEnding
        | error problem =>
            rw [result] at plainEnding
            obtain ⟨refused, later, _, isLeft, _⟩ := plainEnding
            exact iff_of_false nofun (by simp [isLeft])
      · intro problem failed
        rw [failed] at plainEnding
        obtain ⟨refused, later, reason, rfl, isRefused, wrapped⟩ := plainEnding
        exact ⟨refused, later, reason, rfl, isRefused, wrapped⟩

end SchemaMigration
