import SchemaMigration.Proofs.Application
import SchemaMigration.Proofs.Rebuild.DeclaredKey
import SchemaMigration.Proofs.Resolution.KeyOrder

namespace SchemaMigration

/-!
# The primary key of a new table

A table is created with a primary key over those columns of a declared one that
are declared as well.  Where none of them is, the key is added by a statement
of its own, which has all of its columns.  So a key that is declared only in
part gets narrower, without an error.
-/

namespace Blueprint

open Statement

/-! ## What is planned -/

/--
The statements that create a table: those that make it with its indexes, those
for the primary keys on no declared column, and those for the loose foreign keys.
-/
def creation (dialect : Dialect) (table : String) (resolved : Resolved) : List Statement :=
  createAll dialect table resolved.columns resolved.keys ++
    (strayPrimaryKeys resolved).map (addPrimary table) ++
      resolved.foreignKeys.map (.addForeignKey table)

theorem outcome_looseForeignKeyStatement
    (dialect : Dialect)
    (table : String)
    (key : ForeignKey) :
    (looseForeignKeyStatement dialect table key).outcome = .ok (.addForeignKey table key) := by
  simp [looseForeignKeyStatement, Alteration.announced]

/-- The plan for a table that is not there creates what the blueprint resolves to. -/
theorem planCreate_ok
    {blueprint : Blueprint}
    {dialect : Dialect}
    {view : Introspection}
    {planned : List Statement}
    (absent : (view.hasTable blueprint.table).outcome = .ok false)
    (succeeded : (blueprint.planCreate dialect view).outcome = .ok planned) :
    ∃ resolved,
      (blueprint.resolve dialect).outcome = .ok resolved ∧
        planned = creation dialect blueprint.table resolved := by
  have loose (keys : List ForeignKey) :=
    Traced.outcome_each_of_ok (outcome_looseForeignKeyStatement dialect blueprint.table) keys
  simp only [planCreate, createStatements, asked, Traced.outcome_bind_eq_ok,
    Traced.outcome_mapError, Outcome.mapError_eq_ok, absent, Except.ok.injEq, exists_eq_left',
    Bool.false_eq_true, if_false] at succeeded
  obtain ⟨resolved, isResolved, succeeded⟩ := succeeded
  refine ⟨resolved, isResolved, ?_⟩
  split at succeeded
  · simp at succeeded
  · simpa [Traced.outcome_bind_eq_ok, loose, creation, eq_comm] using succeeded

/-- The plan to create a table is empty when it is there, and else it is the creation. -/
theorem planned_of_planCreate
    {blueprint : Blueprint}
    {dialect : Dialect}
    {view : Introspection}
    {planned : List Statement}
    (succeeded : (blueprint.planCreate dialect view).outcome = .ok planned) :
    (view.hasTable blueprint.table).outcome = .ok true ∧ planned = [] ∨
      (view.hasTable blueprint.table).outcome = .ok false ∧
        ∃ resolved,
          (blueprint.resolve dialect).outcome = .ok resolved ∧
            planned = creation dialect blueprint.table resolved := by
  have whole := succeeded
  simp only [planCreate, asked, Traced.outcome_bind_eq_ok, Traced.outcome_mapError,
    Outcome.mapError_eq_ok] at succeeded
  obtain ⟨found, there, succeeded⟩ := succeeded
  cases found with
  | false => exact .inr ⟨there, planCreate_ok there whole⟩
  | true =>
      simp only [if_true, Traced.outcome_bind_eq_ok, Traced.outcome_tell, Traced.outcome_pure,
        Except.ok.injEq] at succeeded
      obtain ⟨_, _, nothing⟩ := succeeded
      exact .inl ⟨there, nothing.symm⟩

/-- Creating a table concerns primary keys by making it and by adding the stray ones. -/
theorem concerning_creation
    (dialect : Dialect)
    (table : String)
    (resolved : Resolved) :
    (creation dialect table resolved).filter concernsPrimary =
      .createTable ⟨table, resolved.columns,
          TableDefinition.primaryOf resolved.columns resolved.keys⟩ ::
        (strayPrimaryKeys resolved).map (addPrimary table) := by
  have strays :
      ((strayPrimaryKeys resolved).map (addPrimary table)).filter concernsPrimary =
        (strayPrimaryKeys resolved).map (addPrimary table) := by
    simp [List.filter_eq_self, addPrimary, concernsPrimary]
  have loose :
      (resolved.foreignKeys.map (Statement.addForeignKey table)).filter concernsPrimary = [] := by
    simp [List.filter_eq_nil_iff, concernsPrimary]
  rw [creation, List.filter_append, List.filter_append, filter_createAll, strays, loose,
    List.append_nil, List.singleton_append]

/-! ## The key that a table is created with -/

/-- The declared columns that a key covers. -/
def coveredColumns (blueprint : Blueprint) (key : Key) : List String :=
  (blueprint.columns.map Column.name).filter key.covers

/--
The columns of the primary key that creating the table gives it, where one key is
declared: those that are declared, or all of them where none is.
-/
def createdPrimary? (blueprint : Blueprint) (key : Key) : Option (List String) :=
  if blueprint.coveredColumns key = [] then
    if key ∈ blueprint.orderedKeys then some key.columns else none
  else
    some (blueprint.coveredColumns key)

/--
Whether creating the table keeps a primary key whole: all of its columns are
declared, or none is and no other declared key takes its name.
-/
def KeepsWhole (blueprint : Blueprint) (key : Key) : Prop :=
  (key.columns ≠ [] ∧ ∀ name ∈ key.columns, blueprint.declares name = true) ∨
    (∀ name ∈ key.columns, blueprint.declares name = false) ∧ key ∈ blueprint.orderedKeys

theorem mem_coveredColumns
    {blueprint : Blueprint}
    {key : Key}
    {name : String} :
    name ∈ blueprint.coveredColumns key ↔
      blueprint.declares name = true ∧ name ∈ key.columns := by
  simp [coveredColumns, declares, Key.covers]

theorem coveredColumns_eq_nil_iff
    {blueprint : Blueprint}
    {key : Key} :
    blueprint.coveredColumns key = [] ↔
      ∀ name ∈ key.columns, blueprint.declares name = false := by
  simp only [List.eq_nil_iff_forall_not_mem, mem_coveredColumns, not_and, Bool.eq_false_iff]
  exact forall_congr' fun _ => imp_not_comm

/-- The created key has the columns of the declared one exactly when it keeps the key whole. -/
theorem createdPrimary_whole_iff
    {blueprint : Blueprint}
    {key : Key} :
    (∃ kept,
      blueprint.createdPrimary? key = some kept ∧
        ∀ name, name ∈ kept ↔ name ∈ key.columns) ↔
      blueprint.KeepsWhole key := by
  unfold createdPrimary?
  split
  · rename_i uncovered
    have undeclared := coveredColumns_eq_nil_iff.mp uncovered
    by_cases first : key ∈ blueprint.orderedKeys
    · rw [if_pos first]
      exact iff_of_true ⟨_, rfl, fun _ => Iff.rfl⟩ (.inr ⟨undeclared, first⟩)
    · rw [if_neg first]
      refine iff_of_false (by simp) ?_
      rintro (⟨nonempty, declared⟩ | ⟨_, alsoFirst⟩)
      · obtain ⟨name, covered⟩ := List.exists_mem_of_ne_nil _ nonempty
        exact absurd (declared name covered) (by simp [undeclared name covered])
      · exact first alsoFirst
  · rename_i covered
    obtain ⟨first, isCovered⟩ := List.exists_mem_of_ne_nil _ covered
    obtain ⟨firstDeclared, inKey⟩ := mem_coveredColumns.mp isCovered
    simp only [Option.some.injEq, exists_eq_left', mem_coveredColumns, and_iff_right_iff_imp]
    constructor
    · exact fun declared => .inl ⟨List.ne_nil_of_mem inKey, declared⟩
    · rintro (⟨_, declared⟩ | ⟨undeclared, _⟩)
      · exact declared
      · rw [undeclared first inKey] at firstDeclared
        cases firstDeclared

section Sole

variable
  {blueprint : Blueprint}
  {key : Key}
  (sole : blueprint.keys.filter Key.isPrimary = [key])
  {dialect : Dialect}
  {resolved : Resolved}
  (isResolved : (blueprint.resolve dialect).outcome = .ok resolved)

include sole isResolved

/-- The columns that the table is made with as its primary key. -/
theorem primaryNames_of_sole :
    Rebuild.primaryNames resolved.columns = blueprint.coveredColumns key := by
  have marks :
      resolved.columns.filter ColumnDefinition.isPrimary =
        resolved.columns.filter (fun column => key.covers column.name) :=
    List.filter_congr fun _ => isPrimary_eq_covers_of_sole sole isResolved
  rw [Rebuild.primaryNames, marks, coveredColumns, ← names_of_resolve isResolved,
    List.filter_map]
  rfl

/-- The primary keys that are added by statements of their own. -/
theorem strayPrimaryKeys_of_sole :
    strayPrimaryKeys resolved =
      if blueprint.coveredColumns key = [] ∧ key ∈ blueprint.orderedKeys then [key] else [] := by
  have keys : resolved.keys = blueprint.orderedKeys := (resolve_ok isResolved).2.1
  have distinct : resolved.keys.Nodup :=
    List.Nodup.of_map Key.name (nodup_keyNames_of_resolve isResolved)
  have uncovered :
      (!resolved.columns.any (fun column => key.covers column.name)) =
        decide (blueprint.coveredColumns key = []) := by
    rw [coveredColumns, ← names_of_resolve isResolved, Bool.eq_iff_iff]
    simp [List.filter_map]
  have picks :
      ∀ other ∈ resolved.keys,
        (other.isPrimary &&
            !resolved.columns.any (fun column => other.covers column.name)) =
          (decide (blueprint.coveredColumns key = []) && other == key) := by
    intro other member
    by_cases same : other = key
    · subst same
      simp [isPrimary_of_sole sole, uncovered]
    · have notPrimary : ¬ other.isPrimary = true := fun isPrimary =>
        same ((primary_iff_eq_of_sole sole).mp
          ⟨mem_keys_of_resolve isResolved member, isPrimary⟩)
      simp [same, notPrimary]
  rw [strayPrimaryKeys, List.filter_congr picks, ← keys]
  by_cases empty : blueprint.coveredColumns key = []
  · by_cases first : key ∈ resolved.keys <;>
      simp [empty, first, List.filter_beq, distinct.count]
  · simp [empty]

/-- The primary key that creating a table gives it, whatever primary keys there were. -/
theorem primariesAfterAll_creation
    (primaries : PrimaryColumns) :
    ∃ after,
      primariesAfterAll primaries (creation dialect blueprint.table resolved) = some after ∧
        after blueprint.table = blueprint.createdPrimary? key := by
  have made :
      (TableDefinition.primaryOf resolved.columns resolved.keys).map PrimaryKey.columns =
        if blueprint.coveredColumns key = [] then none
        else some (blueprint.coveredColumns key) := by
    rw [Rebuild.columns_primaryOf, primaryNames_of_sole sole isResolved]
  rw [← primariesAfterAll_filter, concerning_creation, primariesAfterAll, primariesAfter,
    made, Option.bind_some, strayPrimaryKeys_of_sole sole isResolved, createdPrimary?]
  by_cases uncovered : blueprint.coveredColumns key = []
  · by_cases first : key ∈ blueprint.orderedKeys <;>
      simp [uncovered, first, primariesAfterAll, addPrimary, primariesAfter]
  · simp [uncovered, primariesAfterAll]

end Sole

/--
Creating a table with success leaves it with a primary key over those columns of
the declared one that are declared as well, or over all of them where none is.

So the key is kept whole exactly where all of its columns are declared, or none
is and no other declared key takes its name.  The statements are those that the
database took.
-/
theorem primary_key_created_whole_iff
    (store : Store σ)
    {state : σ}
    {blueprint : Blueprint}
    {key : Key}
    (sole : blueprint.keys.filter Key.isPrimary = [key])
    (absent :
      ((store.backend.introspect state).hasTable blueprint.table).outcome = .ok false)
    (created : (store.create blueprint state).outcome = .ok ()) :
    ∃ planned,
      (blueprint.planCreate store.dialect (store.backend.introspect state)).outcome =
          .ok planned ∧
        (store.recording.create blueprint (state, [])).state =
            ((store.create blueprint state).state,
              planned.map (Statement.render store.dialect)) ∧
          ∀ primaries,
            (∃ after,
              primariesAfterAll primaries planned = some after ∧
                after blueprint.table = blueprint.createdPrimary? key) ∧
              (LeavePrimary primaries blueprint.table key.columns planned ↔
                blueprint.KeepsWhole key) := by
  rw [Store.create_eq_carryOut] at created ⊢
  rw [Store.create_eq_carryOut]
  obtain ⟨planned, planning, executed⟩ := Store.executed_of_carryOut created
  obtain ⟨resolved, isResolved, rfl⟩ := planCreate_ok absent planning
  refine ⟨_, planning, executed, ?_⟩
  intro primaries
  obtain ⟨after, reached, isCreated⟩ := primariesAfterAll_creation sole isResolved primaries
  refine ⟨⟨after, reached, isCreated⟩, ?_⟩
  rw [← createdPrimary_whole_iff]
  constructor
  · rintro ⟨_, kept, alsoReached, left, same⟩
    cases reached.symm.trans alsoReached
    exact ⟨kept, isCreated.symm.trans left, same⟩
  · rintro ⟨kept, isKept, same⟩
    exact ⟨after, kept, reached, isCreated.trans isKept, same⟩

/-- What a database without tables reports. -/
def emptyView : Introspection where
  tableNames := pure []
  columns _ := pure []
  primaryKey _ := pure []
  foreignKeys _ := pure []
  indexes _ := pure []

/-- A store over a database without tables, which takes every statement. -/
def emptyStore : Store Unit where
  backend :=
    { label := "empty"
      dialect := .postgres
      introspect := fun _ => emptyView
      execute := fun _ _ => .ok (0, ())
      countRows := fun _ _ => .ok 0 }
  dialect := .postgres

/-- A table to create with a primary key over two columns, of which some are declared. -/
def pairedBlueprint (declared : List String) : Blueprint where
  table := "runs"
  purpose := .create
  columns := declared.map (fun name => .ofType name .integer .none)
  keys := [Key.declared "runs" ["host", "seed"] .primary none]
  foreignKeys := []
  dropped := Dropped.none

/-- The key is kept whole where both columns are declared. -/
theorem paired_key_created_whole :
    ∃ planned,
      (emptyStore.recording.create (pairedBlueprint ["host", "seed"]) ((), [])).state.2 =
          planned.map (Statement.render .postgres) ∧
        LeavePrimary (fun _ => none) "runs" ["host", "seed"] planned := by
  have sole :
      (pairedBlueprint ["host", "seed"]).keys.filter Key.isPrimary =
        [Key.declared "runs" ["host", "seed"] .primary none] :=
    rfl
  have absent : (emptyView.hasTable "runs").outcome = .ok false :=
    rfl
  have created :
      (emptyStore.create (pairedBlueprint ["host", "seed"]) ()).outcome = .ok () :=
    rfl
  obtain ⟨planned, _, executed, leaves⟩ :=
    primary_key_created_whole_iff emptyStore sole absent created
  refine ⟨planned, congrArg Prod.snd executed, (leaves (fun _ => none)).2.mpr (.inl ?_)⟩
  decide

/-- A table is created with a key over the one column of it that is declared. -/
theorem key_narrowed_to_declared_column :
    (emptyStore.create (pairedBlueprint ["host"]) ()).outcome = .ok () ∧
      ∃ planned,
        ((pairedBlueprint ["host"]).planCreate .postgres emptyView).outcome = .ok planned ∧
          primariesAfterAll (fun _ => none) planned =
              some (Function.update (fun _ => none) "runs" (some ["host"])) ∧
            ¬ LeavePrimary (fun _ => none) "runs" ["host", "seed"] planned := by
  have planning :
      ((pairedBlueprint ["host"]).planCreate .postgres emptyView).outcome = .ok _ :=
    rfl
  refine ⟨rfl, _, planning, rfl, ?_⟩
  rintro ⟨_, kept, reached, left, same⟩
  cases reached
  cases left
  exact absurd ((same "seed").mpr (by decide)) (by decide)

end Blueprint

end SchemaMigration
