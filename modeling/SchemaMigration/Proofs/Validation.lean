import SchemaMigration.Proofs.Application
import SchemaMigration.Proofs.Loading
import SchemaMigration.Proofs.Resolution

namespace SchemaMigration

/-!
# What is checked when a migration is loaded

Loading builds the blueprint of every operation and throws it away.  Running
builds it again and also resolves it, so what only resolving refuses is found
when the migration runs: arrays that are nested too deeply, and nothing else.
-/

/-- Whether a table change fails for a reason that is in its declaration alone. -/
def SchemaError.IsDeclared : SchemaError → Prop
  | .invalidTableName _ _ => True
  | .invalidReferentialAction _ => True
  | .incompleteForeignKey _ _ _ _ => True
  | .tooManyDimensions _ _ _ _ => True
  | .tableNotFound _ => False
  | .emptyTable _ => False
  | .keyColumnNotFound _ _ _ _ => False
  | .keyNotFound _ _ _ => False
  | .database _ => False

/-- Whether a table change fails for a reason that takes more than its declaration. -/
def SchemaError.IsMet (problem : SchemaError) : Prop :=
  ¬problem.IsDeclared

namespace Outcome

/-- Each result of a list of computations is the result of one of them. -/
theorem of_mem_mapM
    {compute : α → Except ε β}
    {items : List α}
    {values : List β}
    {value : β}
    (computed : items.mapM compute = .ok values)
    (member : value ∈ values) :
    ∃ item ∈ items, compute item = .ok value := by
  induction items generalizing values with
  | nil =>
      cases computed
      cases member
  | cons item rest inductionHypothesis =>
      rw [List.mapM_cons] at computed
      cases here : compute item with
      | error problem =>
          rw [here] at computed
          cases computed
      | ok first =>
          cases later : rest.mapM compute with
          | error problem =>
              rw [here, later] at computed
              cases computed
          | ok others =>
              rw [here, later] at computed
              cases computed
              rcases List.mem_cons.mp member with rfl | inOthers
              · exact ⟨item, List.mem_cons_self, here⟩
              · obtain ⟨other, isLater, isComputed⟩ := inductionHypothesis later inOthers
                exact ⟨other, List.mem_cons_of_mem _ isLater, isComputed⟩

/-- Where every check of a list passes, each one does. -/
theorem of_mem_forM
    {check : α → Except ε Unit}
    {items : List α}
    (checked : items.forM check = .ok ()) :
    ∀ item ∈ items, check item = .ok () := by
  induction items with
  | nil => exact List.forall_mem_nil _
  | cons item rest inductionHypothesis =>
      rw [List.forM] at checked
      cases here : check item with
      | error problem =>
          rw [here] at checked
          cases checked
      | ok _ =>
          rw [here] at checked
          exact List.forall_mem_cons.mpr ⟨here, inductionHypothesis checked⟩

end Outcome

namespace Action

/-! ## Why actions fail -/

variable {sort : ε → Prop}

/-- Whether an action fails for reasons of one sort only, in every state. -/
def FailsOnly (sort : ε → Prop) (action : Action σ ε α) : Prop :=
  ∀ state problem, (action state).outcome = .error problem → sort problem

theorem failsOnly_iff_ends
    {action : Action σ ε α} :
    action.FailsOnly sort ↔
      ∀ state, action.Ends state (fun _ outcome =>
        ∀ problem, outcome = .error problem → sort problem) :=
  Iff.rfl

theorem failsOnly_pure (value : α) :
    (pure value : Action σ ε α).FailsOnly sort :=
  nofun

theorem failsOnly_tell (notices : List Notice) :
    (tell notices : Action σ ε Unit).FailsOnly sort :=
  nofun

theorem failsOnly_inspect
    {read : σ → Traced ε α}
    (fails : ∀ state, (read state).FailsOnly sort) :
    (inspect read).FailsOnly sort :=
  fails

theorem failsOnly_bind
    {first : Action σ ε α}
    {next : α → Action σ ε β}
    (firstFails : first.FailsOnly sort)
    (nextFails : ∀ value, (next value).FailsOnly sort) :
    (first >>= next).FailsOnly sort := by
  rw [failsOnly_iff_ends]
  intro state
  rw [ends_bind]
  unfold Ends
  cases reached : (first state).outcome with
  | error problem =>
      rintro _ ⟨⟩
      exact firstFails state problem reached
  | ok value => exact nextFails value _

end Action

/-! ## Blueprints -/

/-- Whether nothing is missing from a declared foreign key. -/
def ForeignKeyDraft.IsComplete (draft : ForeignKeyDraft) : Prop :=
  ∃ key, draft.complete = .ok key

/-- Whether an array is nested as deeply as is supported, or less. -/
def Column.Supported (column : Column) : Prop :=
  ∀ depth ∈ column.parameters.dimensions, depth ≤ NativeType.deepestArray

namespace Blueprint

theorem excessDimensions?_eq_none_iff
    {column : Column} :
    excessDimensions? column = none ↔ column.Supported := by
  unfold excessDimensions? Column.Supported
  rw [Option.filter_eq_none_iff]
  simp

variable
  {blueprint : Blueprint}
  {dialect : Dialect}
  {sort : SchemaError → Prop}

/-- A blueprint without gaps and without excess is resolved in every dialect. -/
theorem failsOnly_resolve_of_supported
    (complete : ∀ draft ∈ blueprint.foreignKeys, draft.IsComplete)
    (supported : ∀ column ∈ blueprint.columns, column.Supported) :
    (blueprint.resolve dialect).FailsOnly sort := by
  have completes (draft : ForeignKeyDraft) (member : draft ∈ blueprint.foreignKeys) :
      (Traced.ofExcept (blueprint.completeForeignKey draft)).FailsOnly sort := by
    obtain ⟨key, isComplete⟩ := complete draft member
    rw [completeForeignKey, isComplete]
    exact nofun
  unfold resolve
  refine Traced.failsOnly_bind ?_ (fun _ _ => ?_)
  · refine Traced.failsOnly_each (fun column member => ?_)
    rw [resolveColumn, excessDimensions?_eq_none_iff.mpr (supported column member)]
    refine Traced.failsOnly_bind (Traced.failsOnly_tell _) (fun _ _ => ?_)
    refine Traced.failsOnly_bind ?_ (fun _ _ => Traced.failsOnly_pure _)
    exact Traced.failsOnly_each (fun draft isOn => completes draft (List.mem_of_mem_filter isOn))
  · refine Traced.failsOnly_bind ?_ (fun _ _ => Traced.failsOnly_pure _)
    exact Traced.failsOnly_each
      (fun draft isLoose => completes draft (List.mem_of_mem_filter isLoose))

/-- A blueprint with too deep an array is resolved in no dialect. -/
theorem resolve_fails_of_excess
    {column : Column}
    (member : column ∈ blueprint.columns)
    (excess : ¬column.Supported)
    (dialect : Dialect) :
    ∃ problem,
      (blueprint.resolve dialect).outcome = .error problem ∧ problem.IsDeclared := by
  cases resolution : (blueprint.resolve dialect).outcome with
  | error problem =>
      have declared : (blueprint.resolve dialect).FailsOnly SchemaError.IsDeclared :=
        failsOnly_resolve (fun _ _ _ => trivial) (fun _ _ _ => trivial)
      exact ⟨problem, rfl, declared problem resolution⟩
  | ok resolved =>
      obtain ⟨definition, _, isResolved⟩ :=
        Traced.value_of_mem_each (resolve_ok resolution).1 member
      cases deep : excessDimensions? column with
      | none => exact absurd (excessDimensions?_eq_none_iff.mp deep) excess
      | some depth =>
          rw [resolveColumn, deep] at isResolved
          cases isResolved

theorem admits_isMet
    (blueprint : Blueprint)
    (view : Introspection) :
    blueprint.Admits view SchemaError.IsMet where
  noTable := fun _ => id
  noColumns := id
  noKey := fun _ _ => id
  noKeyColumn := fun _ _ _ => id
  unread := fun _ _ => id

end Blueprint

/-! ## Stores -/

namespace Store

variable {store : Store σ}

theorem failsOnly_execute (statement : String) :
    (store.execute statement).FailsOnly SchemaError.IsMet := by
  rw [Action.failsOnly_iff_ends]
  intro state
  rw [ends_execute]
  cases store.backend.execute state statement with
  | ok _ => exact nofun
  | error reason =>
      rintro _ ⟨⟩
      exact id

theorem failsOnly_executeAll (statements : List Statement) :
    (store.executeAll statements).FailsOnly SchemaError.IsMet := by
  induction statements with
  | nil => exact Action.failsOnly_pure ()
  | cons statement rest inductionHypothesis =>
      exact Action.failsOnly_bind (failsOnly_execute _) (fun _ => inductionHypothesis)

theorem failsOnly_perform
    (notice : Notice)
    (statement : Statement) :
    (store.perform notice statement).FailsOnly SchemaError.IsMet :=
  Action.failsOnly_bind (Action.failsOnly_tell _) (fun _ => failsOnly_execute _)

/-- A blueprint that is resolved is not refused for what it declares. -/
theorem failsOnly_apply
    {blueprint : Blueprint}
    (resolves : (blueprint.resolve store.dialect).FailsOnly SchemaError.IsMet) :
    (store.apply blueprint).FailsOnly SchemaError.IsMet := by
  rw [apply_eq_carryOut]
  refine Action.failsOnly_bind ?_ failsOnly_executeAll
  refine Action.failsOnly_inspect (fun state => ?_)
  exact Blueprint.failsOnly_plan_of_resolve (blueprint.admits_isMet _) resolves

end Store

/-! ## Entries -/

namespace Blueprint

/-- What is declared besides keys, and what for. -/
def body (blueprint : Blueprint) : String × Purpose × List Column × List ForeignKeyDraft :=
  (blueprint.table, blueprint.purpose, blueprint.columns, blueprint.foreignKeys)

theorem body_foldl
    {step : Blueprint → α → Blueprint}
    (keeps : ∀ blueprint item, (step blueprint item).body = blueprint.body)
    (items : List α)
    (blueprint : Blueprint) :
    (items.foldl step blueprint).body = blueprint.body := by
  induction items generalizing blueprint with
  | nil => rfl
  | cons item rest inductionHypothesis =>
      rw [List.foldl_cons, inductionHypothesis, keeps]

theorem foldl_addColumn
    (columns : List Column)
    (blueprint : Blueprint) :
    columns.foldl addColumn blueprint =
      { blueprint with columns := blueprint.columns ++ columns } := by
  induction columns generalizing blueprint with
  | nil => rw [List.append_nil]; rfl
  | cons column rest inductionHypothesis =>
      rw [List.foldl_cons, inductionHypothesis]
      simp [addColumn]

theorem foldl_addForeignKey
    (drafts : List ForeignKeyDraft)
    (blueprint : Blueprint) :
    drafts.foldl addForeignKey blueprint =
      { blueprint with foreignKeys := blueprint.foreignKeys ++ drafts } := by
  induction drafts generalizing blueprint with
  | nil => rw [List.append_nil]; rfl
  | cons draft rest inductionHypothesis =>
      rw [List.foldl_cons, inductionHypothesis]
      simp [addForeignKey]

end Blueprint

namespace Migration

namespace ForeignKeyEntry

/-- An entry names what its foreign key refers to. -/
theorem isComplete_of_draft
    {entry : ForeignKeyEntry}
    {table : String}
    {draft : ForeignKeyDraft}
    (drafted : entry.draft table = .ok draft) :
    draft.IsComplete := by
  unfold ForeignKeyEntry.draft at drafted
  cases onDelete : entry.onDelete.mapM ReferentialAction.parse with
  | error problem =>
      rw [onDelete] at drafted
      cases drafted
  | ok deletion =>
      cases onUpdate : entry.onUpdate.mapM ReferentialAction.parse with
      | error problem =>
          rw [onDelete, onUpdate] at drafted
          cases drafted
      | ok update =>
          rw [onDelete, onUpdate] at drafted
          cases drafted
          exact ⟨_, rfl⟩

end ForeignKeyEntry

namespace TableEntry

variable
  (entry : TableEntry)
  {purpose : Blueprint.Purpose}
  {blueprint : Blueprint}

theorem body_dropAll (blueprint : Blueprint) :
    (entry.dropAll blueprint).body = blueprint.body := by
  have keeps (kind : KeyKind) (keys : List KeyEntry) (blueprint : Blueprint) :
      (dropKeys kind keys blueprint).body = blueprint.body := by
    apply Blueprint.body_foldl
    exact fun _ _ => rfl
  unfold dropAll
  rw [keeps, keeps, keeps, keeps]
  rfl

theorem body_declareColumnsAndKeys (blueprint : Blueprint) :
    (entry.declareColumnsAndKeys blueprint).body =
      (blueprint.table, blueprint.purpose, blueprint.columns ++ entry.columns,
        blueprint.foreignKeys) := by
  have keeps (kind : KeyKind) (keys : List KeyEntry) (blueprint : Blueprint) :
      (addKeys kind keys blueprint).body = blueprint.body := by
    apply Blueprint.body_foldl
    exact fun _ _ => rfl
  unfold declareColumnsAndKeys
  rw [keeps, keeps, keeps, Blueprint.foldl_addColumn]
  rfl

variable {entry}

/-- An entry describes a blueprint when its table has a good name and its actions are known. -/
theorem blueprint_eq_ok_iff :
    entry.blueprint purpose = .ok blueprint ↔
      tableNameFlaw? entry.table = none ∧
        ∃ drafts,
          entry.foreign.mapM (fun key => key.draft entry.table) = .ok drafts ∧
            entry.dropAll (drafts.foldl Blueprint.addForeignKey
              (entry.declareColumnsAndKeys
                ⟨entry.table, purpose, [], [], [], Dropped.none⟩)) = blueprint := by
  unfold TableEntry.blueprint Blueprint.start
  cases flaw : tableNameFlaw? entry.table with
  | some flaw => exact iff_of_false nofun (fun both => nomatch both.1)
  | none =>
      cases drafted : entry.foreign.mapM (fun key => key.draft entry.table) with
      | error problem =>
          refine iff_of_false nofun ?_
          rintro ⟨_, _, ⟨⟩, _⟩
      | ok drafts =>
          constructor
          · rintro ⟨⟩
            exact ⟨rfl, drafts, rfl, rfl⟩
          · rintro ⟨_, _, ⟨⟩, rfl⟩
            rfl

/-- An entry that describes a blueprint describes one for every purpose. -/
theorem blueprint_for
    (built : entry.blueprint purpose = .ok blueprint)
    (other : Blueprint.Purpose) :
    ∃ described, entry.blueprint other = .ok described := by
  obtain ⟨good, drafts, drafted, _⟩ := blueprint_eq_ok_iff.mp built
  exact ⟨_, blueprint_eq_ok_iff.mpr ⟨good, drafts, drafted, rfl⟩⟩

theorem body_of_blueprint
    (built : entry.blueprint purpose = .ok blueprint) :
    blueprint.table = entry.table ∧
      blueprint.purpose = purpose ∧
        blueprint.columns = entry.columns ∧
          ∀ draft ∈ blueprint.foreignKeys, draft.IsComplete := by
  obtain ⟨_, drafts, drafted, rfl⟩ := blueprint_eq_ok_iff.mp built
  have declared :=
    entry.body_declareColumnsAndKeys
      ⟨entry.table, purpose, [], [], [], Dropped.none⟩
  have whole :
      (entry.dropAll (drafts.foldl Blueprint.addForeignKey
        (entry.declareColumnsAndKeys ⟨entry.table, purpose, [], [], [], Dropped.none⟩))).body =
        (entry.table, purpose, entry.columns, drafts) := by
    rw [body_dropAll, Blueprint.foldl_addForeignKey]
    simp only [Blueprint.body, Prod.mk.injEq, List.nil_append] at declared ⊢
    obtain ⟨sameTable, samePurpose, sameColumns, noForeignKeys⟩ := declared
    rw [noForeignKeys]
    exact ⟨sameTable, samePurpose, sameColumns, rfl⟩
  simp only [Blueprint.body, Prod.mk.injEq] at whole
  obtain ⟨sameTable, samePurpose, sameColumns, sameForeignKeys⟩ := whole
  refine ⟨sameTable, samePurpose, sameColumns, ?_⟩
  intro draft member
  rw [sameForeignKeys] at member
  obtain ⟨key, _, isDrafted⟩ := Outcome.of_mem_mapM drafted member
  exact ForeignKeyEntry.isComplete_of_draft isDrafted

end TableEntry

/-! ## Operations -/

namespace Operation

/-- The columns that an operation declares. -/
def columns : Operation → List Column
  | .create entry | .alter entry => entry.columns
  | .rename _ _ | .drop _ | .dropIfExists _ => []

/-- Whether every array that an operation declares is supported. -/
def Supported (operation : Operation) : Prop :=
  ∀ column ∈ operation.columns, column.Supported

theorem built_of_check
    {entry : TableEntry}
    (accepted : (entry.blueprint .alter).map (fun _ => ()) = .ok ())
    (purpose : Blueprint.Purpose) :
    ∃ blueprint, entry.blueprint purpose = .ok blueprint := by
  cases built : entry.blueprint .alter with
  | error problem =>
      rw [built] at accepted
      cases accepted
  | ok _ => exact TableEntry.blueprint_for built purpose

section Entries

variable
  {entry : TableEntry}
  {purpose : Blueprint.Purpose}
  {blueprint : Blueprint}
  (built : entry.blueprint purpose = .ok blueprint)

include built

theorem ends_applyEntry
    {store : Store σ}
    {state : σ}
    {post : σ → Except SchemaError Unit → Prop} :
    (applyEntry store entry purpose).Ends state post ↔ (store.apply blueprint).Ends state post := by
  rw [applyEntry, Action.ends_bind, Action.ends_ofExcept, built]

theorem failsOnly_applyEntry
    (supported : ∀ column ∈ entry.columns, column.Supported)
    (store : Store σ) :
    (applyEntry store entry purpose).FailsOnly SchemaError.IsMet := by
  obtain ⟨_, _, sameColumns, complete⟩ := TableEntry.body_of_blueprint built
  rw [Action.failsOnly_iff_ends]
  intro state
  rw [ends_applyEntry built]
  apply Store.failsOnly_apply
  refine Blueprint.failsOnly_resolve_of_supported complete ?_
  rw [sameColumns]
  exact supported

end Entries

/-- An operation that was accepted is not refused for supported declarations. -/
theorem failsOnly_run
    {operation : Operation}
    (accepted : operation.check = .ok ())
    (supported : operation.Supported)
    (store : Store σ) :
    (operation.run store).FailsOnly SchemaError.IsMet := by
  cases operation with
  | create entry =>
      obtain ⟨blueprint, built⟩ := built_of_check accepted .create
      exact failsOnly_applyEntry built supported store
  | alter entry =>
      obtain ⟨blueprint, built⟩ := built_of_check accepted .alter
      exact failsOnly_applyEntry built supported store
  | rename source target => exact Store.failsOnly_perform _ _
  | drop table => exact Store.failsOnly_perform _ _
  | dropIfExists table => exact Store.failsOnly_perform _ _

theorem failsOnly_runAll
    {operations : List Operation}
    (accepted : ∀ operation ∈ operations, operation.check = .ok ())
    (supported : ∀ operation ∈ operations, operation.Supported)
    (store : Store σ) :
    (runAll store operations).FailsOnly SchemaError.IsMet := by
  induction operations with
  | nil => exact Action.failsOnly_pure ()
  | cons operation rest inductionHypothesis =>
      rw [List.forall_mem_cons] at accepted supported
      refine Action.failsOnly_bind ?_ (fun _ => ?_)
      · exact failsOnly_run accepted.1 supported.1 store
      · exact inductionHypothesis accepted.2 supported.2

/-! ### Excess -/

/-- A database with empty tables of some names, which takes every statement. -/
def holding (tables : List String) : Backend Unit where
  label := "empty"
  dialect := .sqlite
  introspect := fun _ =>
    { tableNames := pure tables
      columns := fun _ => pure []
      primaryKey := fun _ => pure []
      foreignKeys := fun _ => pure []
      indexes := fun _ => pure [] }
  execute := fun _ _ => .ok (0, ())
  countRows := fun _ _ => .ok 0

/-- The tables with which a change for a purpose gets as far as resolving. -/
def ready (table : String) : Blueprint.Purpose → List String
  | .create => []
  | .alter => [table]

/-- Where a table is as a change expects it, what resolving refuses stops the change. -/
theorem plan_of_unresolved
    {blueprint : Blueprint}
    {dialect : Dialect}
    {problem : SchemaError}
    (nonempty : blueprint.columns ≠ [])
    (unresolved : (blueprint.resolve dialect).outcome = .error problem) :
    (blueprint.plan dialect
      ((holding (ready blueprint.table blueprint.purpose)).introspect ())).outcome =
        .error problem := by
  unfold Blueprint.plan
  cases purpose : blueprint.purpose with
  | create =>
      simp [Blueprint.planCreate, Blueprint.asked, Introspection.hasTable, holding, ready,
        unresolved, Except.mapError]
  | alter =>
      have notEmpty : blueprint.isEmpty = false := by
        simp [Blueprint.isEmpty, nonempty]
      simp [Blueprint.planAlter, Blueprint.asked, Introspection.hasTable, holding, ready,
        unresolved, Except.mapError, notEmpty]

/-- Too deep an array stops a change of an accepted entry in a database that takes everything. -/
theorem not_failsOnly_applyEntry
    {entry : TableEntry}
    {purpose : Blueprint.Purpose}
    {blueprint : Blueprint}
    {column : Column}
    (built : entry.blueprint purpose = .ok blueprint)
    (member : column ∈ entry.columns)
    (excess : ¬column.Supported)
    (dialect : Dialect) :
    ¬(applyEntry ⟨holding (ready entry.table purpose), dialect⟩ entry purpose).FailsOnly
      SchemaError.IsMet := by
  obtain ⟨sameTable, samePurpose, sameColumns, _⟩ := TableEntry.body_of_blueprint built
  rw [← sameColumns] at member
  obtain ⟨problem, unresolved, declared⟩ :=
    Blueprint.resolve_fails_of_excess member excess dialect
  have unplanned := plan_of_unresolved (List.ne_nil_of_mem member) unresolved
  rw [sameTable, samePurpose] at unplanned
  intro fails
  have ending := Action.failsOnly_iff_ends.mp fails ()
  rw [ends_applyEntry built] at ending
  have stopped := Store.ends_apply.mp ending
  rw [unplanned] at stopped
  exact stopped problem rfl declared

/--
An accepted operation is refused for what it declares in some database exactly
when it declares an array that is nested too deeply.
-/
theorem failsOnly_run_iff
    {operation : Operation}
    (accepted : operation.check = .ok ())
    (dialect : Dialect) :
    (∀ (σ : Type) (backend : Backend σ),
        (operation.run ⟨backend, dialect⟩).FailsOnly SchemaError.IsMet) ↔
      operation.Supported := by
  constructor
  · intro fails
    by_contra unsupported
    unfold Supported at unsupported
    push Not at unsupported
    obtain ⟨column, member, excess⟩ := unsupported
    cases operation with
    | create entry =>
        obtain ⟨blueprint, built⟩ := built_of_check accepted .create
        exact not_failsOnly_applyEntry built member excess dialect (fails Unit _)
    | alter entry =>
        obtain ⟨blueprint, built⟩ := built_of_check accepted .alter
        exact not_failsOnly_applyEntry built member excess dialect (fails Unit _)
    | rename source target => cases member
    | drop table => cases member
    | dropIfExists table => cases member
  · intro supported σ backend
    exact failsOnly_run accepted supported ⟨backend, dialect⟩

end Operation

end Migration

/-! ## Files -/

namespace MigrationFile

/-- Every operation of a file that loads was accepted. -/
theorem accepted_of_load
    {files : FileTree}
    {place : Place}
    {file : MigrationFile}
    (loaded : (load files place).outcome = .ok file) :
    ∀ operation ∈ file.up ++ file.down, operation.check = .ok () := by
  obtain ⟨_, _, document, _, _, _, _, checked, shape⟩ := of_load loaded
  rw [shape]
  intro operation member
  exact Outcome.mapError_eq_ok.mp (Outcome.of_mem_forM checked operation member)

/-- Neither half of a loaded migration is refused for supported declarations. -/
theorem failsOnly_half
    {files : FileTree}
    {place : Place}
    {file : MigrationFile}
    (loaded : (load files place).outcome = .ok file)
    (supported : ∀ operation ∈ file.up ++ file.down, operation.Supported)
    (direction : Direction)
    (store : Store σ) :
    (file.migration.half direction store).FailsOnly SchemaError.IsMet := by
  have accepted := accepted_of_load loaded
  have halfFails
      {operations : List Migration.Operation}
      (within : operations ⊆ file.up ++ file.down) :
      (runHalf file.id direction operations store).FailsOnly SchemaError.IsMet := by
    have runs : (Migration.Operation.runAll store operations).FailsOnly SchemaError.IsMet :=
      Migration.Operation.failsOnly_runAll
        (fun operation member => accepted operation (within member))
        (fun operation member => supported operation (within member)) store
    unfold runHalf
    split
    · exact Action.failsOnly_bind (Action.failsOnly_tell _) (fun _ => runs)
    · exact runs
  cases direction with
  | up => exact halfFails (List.subset_append_left _ _)
  | down => exact halfFails (List.subset_append_right _ _)

end MigrationFile

/--
What the file alone decides is found when the file is loaded, apart from arrays
that are nested too deeply.

An operation that was accepted may fail for what it declares, in any dialect,
exactly when it declares such an array.  The halves of a migration that was
loaded never do when no operation of its file declares one.
-/
theorem declared_flaws_are_excess_iff (dialect : Dialect) :
    (∀ operation : Migration.Operation,
        operation.check = .ok () →
          ((∀ (σ : Type) (backend : Backend σ) (state : σ) (problem : SchemaError),
              (operation.run ⟨backend, dialect⟩ state).outcome = .error problem →
                ¬problem.IsDeclared) ↔
            operation.Supported)) ∧
      ∀ (files : FileTree) (place : Place) (file : MigrationFile),
        (MigrationFile.load files place).outcome = .ok file →
          (∀ operation ∈ file.up ++ file.down, operation.Supported) →
            ∀ (σ : Type) (backend : Backend σ) (direction : Direction) (state : σ)
                (problem : SchemaError),
              (file.migration.half direction ⟨backend, dialect⟩ state).outcome =
                  .error problem →
                ¬problem.IsDeclared := by
  constructor
  · intro operation accepted
    exact Migration.Operation.failsOnly_run_iff accepted dialect
  · intro files place file loaded supported σ backend direction
    exact MigrationFile.failsOnly_half loaded supported direction ⟨backend, dialect⟩

/-! ### Arrays -/

/-- An operation that makes a table with an array. -/
def makeGrid (depth : Nat) : Migration.Operation :=
  .create ⟨"grid", [.ofType "cell" .array { TypeParameters.none with dimensions := some depth }],
    none, [], [], [], [], none, [], [], []⟩

/-- A directory with one migration, which makes that table. -/
def gridFiles : FileTree :=
  ⟨[(["m"], .directory),
    (["m", "1_g.yml"],
      .file (.text ("migration: G\nup:\n- \x7bop: create, table: grid, columns: " ++
        "[\x7bname: cell, type: array, dimensions: 6\x7d]\x7d\ndown: []\n")))], []⟩

/-- The place of that migration. -/
def gridPlace : Place :=
  ⟨"m/1_g.yml", ["m", "1_g.yml"]⟩

theorem loaded_grid :
    ∃ file,
      (MigrationFile.load gridFiles gridPlace).outcome = .ok file ∧
        file.up = [makeGrid 6] ∧ file.down = [] := by
  have halves :
      (MigrationFile.load gridFiles gridPlace).outcome.map (fun file => (file.up, file.down)) =
        .ok ([makeGrid 6], []) := by
    decide +kernel
  cases loaded : (MigrationFile.load gridFiles gridPlace).outcome with
  | error problem =>
      rw [loaded] at halves
      cases halves
  | ok file =>
      rw [loaded] at halves
      have both : (file.up, file.down) = ([makeGrid 6], []) :=
        Except.ok.inj halves
      exact ⟨file, rfl, congrArg Prod.fst both, congrArg Prod.snd both⟩

theorem makeGrid_supported : (makeGrid 6).Supported := by
  intro column member
  cases List.mem_singleton.mp member
  rintro depth ⟨⟩
  exact Nat.le_refl 6

theorem grid_fails_only_in_database :
    (makeGrid 6).check = .ok () ∧
      (makeGrid 6).Supported ∧
        (∀ (backend : Backend Unit) (problem : SchemaError),
            ((makeGrid 6).run ⟨backend, .postgres⟩ ()).outcome = .error problem →
              ¬problem.IsDeclared) ∧
          ∃ file,
            (MigrationFile.load gridFiles gridPlace).outcome = .ok file ∧
              ∀ (backend : Backend Unit) (problem : SchemaError),
                (file.migration.half .up ⟨backend, .postgres⟩ ()).outcome = .error problem →
                  ¬problem.IsDeclared := by
  have accepted : (makeGrid 6).check = .ok () :=
    rfl
  obtain ⟨ofOperations, ofFiles⟩ := declared_flaws_are_excess_iff .postgres
  obtain ⟨file, loaded, up, down⟩ := loaded_grid
  have supported : ∀ operation ∈ file.up ++ file.down, operation.Supported := by
    rw [up, down]
    exact List.forall_mem_singleton.mpr makeGrid_supported
  refine ⟨accepted, makeGrid_supported, ?_, file, loaded, ?_⟩
  · intro backend
    exact (ofOperations _ accepted).mpr makeGrid_supported Unit backend ()
  · intro backend
    exact ofFiles _ _ file loaded supported Unit backend .up ()

/-- The operations of a migration that makes a plain table and then one with too deep an array. -/
def deepOperations : List Migration.Operation :=
  [.create ⟨"runs", [.ofType "id" .integer TypeParameters.none], none, [], [], [], [], none, [],
      [], []⟩,
    makeGrid 7]

/-- All operations are accepted, and yet the migration stops behind the first of them. -/
theorem deep_array_stops_half_way :
    MigrationFile.checkOperations ⟨"MakeGrid", none, deepOperations, []⟩ = .ok () ∧
      (MigrationFile.runHalf "1_make_grid" .up deepOperations
            (Store.recording ⟨Migration.Operation.holding [], .postgres⟩) ((), [])).outcome =
          .error (.tooManyDimensions "grid" "cell" 7 6) ∧
        (MigrationFile.runHalf "1_make_grid" .up deepOperations
              (Store.recording ⟨Migration.Operation.holding [], .postgres⟩) ((), [])).state.2 =
            ["CREATE TABLE \"runs\" (\"id\" INTEGER NOT NULL)"] := by
  refine ⟨rfl, rfl, ?_⟩
  decide

end SchemaMigration
