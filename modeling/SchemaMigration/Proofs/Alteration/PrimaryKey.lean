import SchemaMigration.Proofs.Alteration.InPlace
import SchemaMigration.Proofs.Rebuild.DeclaredKey
import SchemaMigration.Proofs.Rebuild.Execution

namespace SchemaMigration

/-!
# Replacing a primary key

A blueprint that drops the live key and declares a new one has both kinds of
statements in place, and there the new key comes first, while the old one is
still on the table.  A rebuild makes the table once, with the new key alone.
-/

namespace Alteration

open Statement

/-! ## In place -/

/-- The statements for declared keys concern primary keys by adding the declared ones. -/
theorem concerning_keyStatements
    (table : String)
    (declared : List Key) :
    (declared.flatMap (keyStatements table)).filter concernsPrimary =
      (declared.filter Key.isPrimary).map (addPrimary table) := by
  induction declared with
  | nil =>
      rfl
  | cons key rest inductionHypothesis =>
      rw [List.flatMap_cons, List.filter_append, inductionHypothesis]
      cases kind : key.kind <;>
        simp [keyStatements, createIndex?, addPrimary, concernsPrimary, Key.isPrimary, kind,
          List.filter_cons]

/-- The drops of keys concern primary keys by dropping the dropped ones. -/
theorem concerning_keyDrops
    {dialect : Dialect}
    {table : String}
    {live : List LiveColumn}
    {drops : List Key}
    {keyDrops : List (List Statement)}
    (dropped :
      (Traced.each (dropKeyStatements dialect table live) drops).outcome = .ok keyDrops) :
    keyDrops.flatten.filter concernsPrimary =
      ((drops.filter Key.isPrimary).map Key.name).map (.dropPrimaryKey table) := by
  rw [Traced.outcome_each_eq_ok] at dropped
  induction dropped with
  | nil =>
      rfl
  | cons made _ inductionHypothesis =>
      rw [List.flatten_cons, List.filter_append, filter_dropKeyAll made, inductionHypothesis]
      split <;> simp [*]

/--
A plan concerns primary keys by adding the declared ones and then dropping the
dropped ones.
-/
theorem concerning_plan
    {dialect : Dialect}
    {table : String}
    {live : List LiveColumn}
    {resolved : Resolved}
    {dropped : Dropped}
    {planned : List Statement}
    (succeeded : (plan dialect table live resolved dropped).outcome = .ok planned) :
    planned.filter concernsPrimary =
      (resolved.keys.filter Key.isPrimary).map (addPrimary table) ++
        ((dropped.keys.filter Key.isPrimary).map Key.name).map (.dropPrimaryKey table) := by
  obtain ⟨keyDrops, keysDropped, rfl⟩ := plan_ok succeeded
  have columns (added : List ColumnDefinition) :
      (added.map (Statement.addColumn table)).filter concernsPrimary = [] := by
    simp [List.filter_eq_nil_iff, concernsPrimary]
  have columnDrops :
      ((liveDrops live dropped).map (Statement.dropColumn table)).filter concernsPrimary =
        [] := by
    simp [List.filter_eq_nil_iff, concernsPrimary]
  rw [List.filter_append, List.filter_append, filter_additions (fun _ => rfl) (fun _ _ => rfl),
    columns, concerning_keyStatements, concerning_keyDrops keysDropped, columnDrops,
    List.nil_append, List.append_nil]

/-- A key can be dropped where the first column of a primary key is live. -/
theorem exists_dropKeyStatements
    (dialect : Dialect)
    (table : String)
    {live : List LiveColumn}
    {drop : Key}
    {first : String}
    (starts : drop.columns.head? = some first)
    (isLive : first ∈ live.map LiveColumn.name) :
    ∃ statements,
      (dropKeyStatements dialect table live drop).outcome = .ok statements := by
  obtain ⟨column, member, named⟩ := List.mem_map.mp isLive
  have found :
      (live.find? (fun column => some column.name = drop.columns.head?)).isSome = true := by
    rw [List.find?_isSome]
    exact ⟨column, member, by simp [starts, named]⟩
  obtain ⟨_, found⟩ := Option.isSome_iff_exists.mp found
  simp only [dropKeyStatements, Traced.outcome_ofExcept, found, dropKeyAll]
  cases drop.kind <;> cases dialect <;> exact ⟨_, rfl⟩

/-- Keys can be replaced where the first columns of those to drop are live. -/
theorem plan_keys
    (dialect : Dialect)
    (table : String)
    {live : List LiveColumn}
    (declared : List Key)
    {drops : List Key}
    (startLive :
      ∀ drop ∈ drops,
        ∃ first, drop.columns.head? = some first ∧ first ∈ live.map LiveColumn.name) :
    ∃ planned,
      (plan dialect table live ⟨[], declared, []⟩ ⟨[], drops⟩).outcome = .ok planned := by
  obtain ⟨keyDrops, dropped⟩ :
      ∃ keyDrops,
        (Traced.each (dropKeyStatements dialect table live) drops).outcome = .ok keyDrops := by
    refine Traced.exists_each ?_
    intro drop member
    obtain ⟨first, starts, isLive⟩ := startLive drop member
    exact exists_dropKeyStatements dialect table starts isLive
  simp [plan, Traced.each, dropped]

/--
In place, no plan replaces a primary key: a new key is refused, and without one
the drops leave none.
-/
theorem not_leavePrimary_plan
    {dialect : Dialect}
    {table : String}
    {live : List LiveColumn}
    {resolved : Resolved}
    {dropped : Dropped}
    {planned : List Statement}
    (succeeded : (plan dialect table live resolved dropped).outcome = .ok planned)
    {drop : Key}
    (isDropped : drop ∈ dropped.keys)
    (isPrimary : drop.isPrimary = true)
    {primaries : PrimaryColumns}
    {columns : List String}
    (there : primaries table = some columns) :
    ((∃ key ∈ resolved.keys, key.isPrimary = true) →
        primariesAfterAll primaries planned = none) ∧
      ∀ covered, ¬ LeavePrimary primaries table covered planned := by
  have concerning := concerning_plan succeeded
  have drops : (dropped.keys.filter Key.isPrimary).map Key.name ≠ [] := by
    apply List.ne_nil_of_mem
    exact List.mem_map_of_mem (List.mem_filter.mpr ⟨isDropped, isPrimary⟩)
  unfold LeavePrimary
  rw [← primariesAfterAll_filter, concerning]
  cases added : resolved.keys.filter Key.isPrimary with
  | nil =>
      constructor
      · rintro ⟨key, member, isAdded⟩
        exact absurd isAdded (List.filter_eq_nil_iff.mp added key member)
      · rintro covered ⟨after, kept, reached, left, _⟩
        rw [List.map_nil, List.nil_append] at reached
        rw [primariesAfterAll_dropPrimaryKey there drops reached] at left
        cases left
  | cons key rest =>
      rw [List.map_cons, List.cons_append, primariesAfterAll_addPrimary there]
      simp

end Alteration

namespace Blueprint

/-! ## Either way -/

/--
Whether a blueprint drops the live primary key of a table and declares one
other, on live columns.
-/
structure ReplacesPrimary
    (blueprint : Blueprint)
    (view : Introspection)
    (live : List String)
    (key : Key) :
    Prop where
  there : (view.hasTable blueprint.table).outcome = .ok true
  reported : (view.primaryKey blueprint.table).outcome = .ok live
  keyed : live ≠ []
  drops :
    ∃ drop ∈ blueprint.dropped.keys,
      drop.isPrimary = true ∧ ∀ name, name ∈ drop.columns ↔ name ∈ live
  declares : blueprint.keys.filter Key.isPrimary = [key]
  covering : key.columns ≠ []
  onLive :
    ∃ columns,
      (view.columns blueprint.table).outcome = .ok columns ∧
        ∀ name,
          name ∈ live ∨ name ∈ key.columns → name ∈ columns.map LiveColumn.name

/--
Whether a declared key holds against the others in a rebuild: it is the first
one of its name, or all of its columns are made anew.
-/
def Prevails (blueprint : Blueprint) (key : Key) : Prop :=
  key ∈ blueprint.orderedKeys ∨
    ∀ name ∈ key.columns,
      name ∈ blueprint.dropped.columns ∧ blueprint.declares name = true

section Replaced

variable
  {blueprint : Blueprint}
  {view : Introspection}
  {live : List String}
  {key : Key}
  (replaces : blueprint.ReplacesPrimary view live key)

section Statements

include replaces

theorem ReplacesPrimary.key_isPrimary :
    key.isPrimary = true :=
  isPrimary_of_sole replaces.declares

theorem ReplacesPrimary.isEmpty_eq_false :
    blueprint.isEmpty = false := by
  simp [isEmpty, List.ne_nil_of_mem (mem_keys_of_sole replaces.declares)]

/-- No column of the live key stays in a primary key. -/
theorem ReplacesPrimary.released
    {snapshot : Snapshot}
    (loaded : (Snapshot.load view blueprint.table).outcome = .ok snapshot) :
    Rebuild.stayingPrimary snapshot blueprint.dropped = [] := by
  obtain ⟨columns, columnsRead, within⟩ := replaces.onLive
  obtain ⟨drop, isDropped, isPrimary, sameColumns⟩ := replaces.drops
  have coherent : snapshot.Coherent := by
    refine Snapshot.coherent_of_load loaded ?_
    intro primary reported primaryRead alsoRead name listed
    cases replaces.reported.symm.trans primaryRead
    cases columnsRead.symm.trans alsoRead
    exact within name (.inl listed)
  rw [List.eq_nil_iff_forall_not_mem]
  intro name stays
  obtain ⟨listed, _, unreleased⟩ := (Rebuild.mem_stayingPrimary coherent).mp stays
  rw [Snapshot.mem_primaryColumns_of_load loaded replaces.reported] at listed
  exact unreleased
    (Rebuild.mem_releasedColumns.mpr ⟨drop, isDropped, isPrimary, (sameColumns name).mpr listed⟩)

/-- The primary key that a rebuild makes. -/
theorem ReplacesPrimary.mem_primaryNames_rebuilt
    {dialect : Dialect}
    {resolved : Resolved}
    (isResolved : (blueprint.resolve dialect).outcome = .ok resolved)
    {snapshot : Snapshot}
    (loaded : (Snapshot.load view blueprint.table).outcome = .ok snapshot)
    {draft : Rebuild.Draft}
    (merged :
      (Rebuild.merge blueprint.table snapshot resolved blueprint.dropped).outcome = .ok draft)
    {name : String} :
    name ∈ Rebuild.primaryNames
        (Rebuild.finalDraft snapshot resolved blueprint.dropped).columns ↔
      name ∈ key.columns ∧
        (key ∈ blueprint.orderedKeys ∨
          name ∈ blueprint.dropped.columns ∧ blueprint.declares name = true) := by
  have keys : resolved.keys = blueprint.orderedKeys := (resolve_ok isResolved).2.1
  have sole : ∀ other ∈ resolved.keys, other.isPrimary = true → other = key := by
    intro other member isPrimary
    rw [keys] at member
    exact (primary_iff_eq_of_sole replaces.declares).mp
      ⟨mem_keys_of_mem_orderedKeys member, isPrimary⟩
  by_cases first : key ∈ blueprint.orderedKeys
  · rw [Rebuild.mem_primaryNames_keyed replaces.key_isPrimary merged sole (keys ▸ first),
      and_iff_left (.inl first)]
  · have noPrimaryKey : ∀ other ∈ resolved.keys, other.isPrimary = false := by
      intro other member
      by_contra isPrimary
      rw [Bool.not_eq_false] at isPrimary
      rw [sole other member isPrimary, keys] at member
      exact first member
    rw [Rebuild.mem_primaryNames_displaced noPrimaryKey (replaces.released loaded)
        (fun _ => isPrimary_eq_covers_of_sole replaces.declares isResolved),
      ← declares_iff_of_resolve isResolved, Rebuild.names_keptColumns]
    obtain ⟨columns, columnsRead, within⟩ := replaces.onLive
    rw [Snapshot.columnNames_of_load loaded columnsRead]
    have isLive := within name
    simp only [List.mem_filter, Bool.not_eq_true', List.contains_eq_mem, decide_eq_false_iff_not]
    tauto

/-- Where a rebuild leaves the new key: exactly where it holds against the others. -/
theorem ReplacesPrimary.leavePrimary_rebuilt_iff
    {dialect : Dialect}
    {resolved : Resolved}
    (isResolved : (blueprint.resolve dialect).outcome = .ok resolved)
    {snapshot : Snapshot}
    (loaded : (Snapshot.load view blueprint.table).outcome = .ok snapshot)
    {planned : List Statement}
    (succeeded :
      (Rebuild.plan dialect blueprint.table snapshot resolved blueprint.dropped).outcome =
        .ok planned)
    (primaries : PrimaryColumns) :
    Statement.LeavePrimary primaries blueprint.table key.columns planned ↔
      blueprint.Prevails key := by
  have merged := (Rebuild.plan_ok succeeded).1
  rw [Rebuild.leavePrimary_plan_iff succeeded primaries replaces.covering]
  simp only [replaces.mem_primaryNames_rebuilt isResolved loaded merged, and_iff_left_iff_imp]
  by_cases first : key ∈ blueprint.orderedKeys <;>
    simp [Prevails, first]

end Statements

/-! ### Blueprints that do nothing else -/

/-- A blueprint that declares one key and drops one. -/
structure OnlyKeys (blueprint : Blueprint) (key drop : Key) : Prop where
  columns : blueprint.columns = []
  keys : blueprint.keys = [key]
  foreignKeys : blueprint.foreignKeys = []
  dropped : blueprint.dropped = ⟨[], [drop]⟩

theorem OnlyKeys.orderedKeys
    {drop : Key}
    (only : blueprint.OnlyKeys key drop) :
    blueprint.orderedKeys = [key] := by
  simp [Blueprint.orderedKeys, Key.firstOfEachName, only.columns, only.keys]

theorem OnlyKeys.resolve
    {drop : Key}
    (only : blueprint.OnlyKeys key drop)
    (dialect : Dialect) :
    (blueprint.resolve dialect).outcome = .ok ⟨[], [key], []⟩ := by
  simp [Blueprint.resolve, looseForeignKeys, Traced.each, only.orderedKeys, only.columns,
    only.foreignKeys]

include replaces

theorem ReplacesPrimary.only_drop
    {drop : Key}
    (only : blueprint.OnlyKeys key drop) :
    (∀ name, name ∈ drop.columns ↔ name ∈ live) ∧ drop.isPrimary = true := by
  obtain ⟨other, member, isPrimary, sameColumns⟩ := replaces.drops
  rw [only.dropped] at member
  rw [← List.mem_singleton.mp member]
  exact ⟨sameColumns, isPrimary⟩

/-- In place, replacing the primary key alone can be planned. -/
theorem ReplacesPrimary.exists_plan
    {drop : Key}
    (only : blueprint.OnlyKeys key drop)
    {columns : List LiveColumn}
    (within :
      ∀ name, name ∈ live ∨ name ∈ key.columns → name ∈ columns.map LiveColumn.name)
    (dialect : Dialect) :
    ∃ planned,
      (Alteration.plan dialect blueprint.table columns ⟨[], [key], []⟩
        blueprint.dropped).outcome = .ok planned := by
  obtain ⟨name, covered⟩ := List.exists_mem_of_ne_nil live replaces.keyed
  obtain ⟨sameColumns, _⟩ := replaces.only_drop only
  have nonempty : drop.columns ≠ [] := List.ne_nil_of_mem ((sameColumns name).mpr covered)
  rw [only.dropped]
  refine Alteration.plan_keys _ _ _ ?_
  intro other member
  rw [List.mem_singleton.mp member]
  refine ⟨drop.columns.head nonempty, List.head?_eq_some_head nonempty, ?_⟩
  have isLive := (sameColumns _).mp (List.head_mem nonempty)
  exact within _ (.inl isLive)

/-- By a rebuild, replacing the primary key alone can be planned. -/
theorem ReplacesPrimary.exists_rebuild
    {drop : Key}
    (only : blueprint.OnlyKeys key drop)
    {snapshot : Snapshot}
    (loaded : (Snapshot.load view blueprint.table).outcome = .ok snapshot)
    (dialect : Dialect) :
    ∃ planned,
      (Rebuild.plan dialect blueprint.table snapshot ⟨[], [key], []⟩
        blueprint.dropped).outcome = .ok planned := by
  obtain ⟨columns, columnsRead, within⟩ := replaces.onLive
  obtain ⟨_, isPrimary⟩ := replaces.only_drop only
  have stays :
      ∀ name ∈ key.columns,
        name ∈ (Rebuild.keptColumns snapshot blueprint.dropped).map ColumnDefinition.name := by
    intro name covered
    rw [Rebuild.names_keptColumns, Snapshot.columnNames_of_load loaded columnsRead, only.dropped]
    simpa using within name (.inr covered)
  have found : Rebuild.hasKey snapshot drop = true := by
    obtain ⟨name, covered⟩ := List.exists_mem_of_ne_nil live replaces.keyed
    have listed := (Snapshot.mem_primaryColumns_of_load loaded replaces.reported).mpr covered
    obtain ⟨known, member, _⟩ := List.mem_flatMap.mp listed
    have kind : drop.kind = .primary := by simpa [Key.isPrimary] using isPrimary
    simp only [Rebuild.hasKey, kind, Bool.or_eq_true]
    exact .inr (List.any_eq_true.mpr ⟨known, List.mem_filter.mp member⟩)
  refine Rebuild.plan_keys _ _ ?_ ?_ ?_
  · simpa [only.dropped] using found
  · simpa using stays
  · obtain ⟨name, covered⟩ := List.exists_mem_of_ne_nil _ replaces.covering
    intro empty
    have none := stays name covered
    rw [empty] at none
    cases none

/-- A blueprint that replaces the primary key and does nothing else can be planned. -/
theorem ReplacesPrimary.exists_planAlter
    {drop : Key}
    (only : blueprint.OnlyKeys key drop)
    {foreignKeys : List LiveForeignKey}
    (foreignKeysRead : (view.foreignKeys blueprint.table).outcome = .ok foreignKeys)
    {indexes : List LiveIndex}
    (indexesRead : (view.indexes blueprint.table).outcome = .ok indexes)
    (dialect : Dialect) :
    ∃ planned, (blueprint.planAlter dialect view).outcome = .ok planned := by
  obtain ⟨columns, columnsRead, within⟩ := replaces.onLive
  obtain ⟨_, altered⟩ := replaces.exists_plan only within dialect
  obtain ⟨snapshot, loaded⟩ :
      ∃ snapshot, (Snapshot.load view blueprint.table).outcome = .ok snapshot := by
    simp [Snapshot.load, replaces.reported, foreignKeysRead, columnsRead, indexesRead,
      Except.mapError]
  obtain ⟨_, rebuilt⟩ := replaces.exists_rebuild only loaded dialect
  cases inPlace : dialect.capabilities.incrementalAlter <;>
    simp [planAlter, asked, replaces.there, replaces.isEmpty_eq_false, only.resolve dialect,
      inPlace, columnsRead, loaded, altered, rebuilt, Except.mapError]

/--
What becomes of a primary key that is to be replaced, where a table has one at
most.

The statements of a plan all go through and leave the new key exactly where the
dialect rebuilds tables and the key holds against the other declared ones.  In
place, the new key comes before the drop of the live one and is refused.  When
nothing else is declared or dropped, there is a plan in every dialect.
-/
theorem primary_key_replaced_iff_rebuilt
    (dialect : Dialect)
    {primaries : PrimaryColumns}
    (there : primaries blueprint.table = some live) :
    (∀ planned,
      (blueprint.planAlter dialect view).outcome = .ok planned →
        (Statement.LeavePrimary primaries blueprint.table key.columns planned ↔
            dialect.capabilities.incrementalAlter = false ∧ blueprint.Prevails key) ∧
          (dialect.capabilities.incrementalAlter = true →
            key ∈ blueprint.orderedKeys →
              Statement.primariesAfterAll primaries planned = none)) ∧
      ∀ drop,
        blueprint.OnlyKeys key drop →
          (∃ foreignKeys, (view.foreignKeys blueprint.table).outcome = .ok foreignKeys) →
            (∃ indexes, (view.indexes blueprint.table).outcome = .ok indexes) →
              blueprint.Prevails key ∧
                ∃ planned, (blueprint.planAlter dialect view).outcome = .ok planned := by
  constructor
  · intro planned succeeded
    obtain ⟨drop, isDropped, isPrimary, _⟩ := replaces.drops
    rcases planAlter_ok succeeded with ⟨empty, _⟩ | ⟨resolved, isResolved, inPlace | anew⟩
    · rw [replaces.isEmpty_eq_false] at empty
      cases empty
    · obtain ⟨incremental, columns, _, altered⟩ := inPlace
      obtain ⟨refused, never⟩ :=
        Alteration.not_leavePrimary_plan altered isDropped isPrimary there
      rw [(resolve_ok isResolved).2.1] at refused
      constructor
      · rw [incremental]
        exact iff_of_false (never key.columns) (fun anew => Bool.noConfusion anew.1)
      · intro _ first
        exact refused ⟨key, first, replaces.key_isPrimary⟩
    · obtain ⟨restricted, snapshot, loaded, rebuilt⟩ := anew
      constructor
      · rw [replaces.leavePrimary_rebuilt_iff isResolved loaded rebuilt primaries,
          and_iff_right restricted]
      · rw [restricted]
        exact nofun
  · rintro drop only ⟨_, foreignKeysRead⟩ ⟨_, indexesRead⟩
    have first : key ∈ blueprint.orderedKeys := by
      simp [only.orderedKeys]
    exact ⟨.inl first, replaces.exists_planAlter only foreignKeysRead indexesRead dialect⟩

end Replaced

/-- What a database reports of a table whose primary key is to be replaced. -/
def keyedView : Introspection where
  tableNames := pure ["runs"]
  columns _ := pure [⟨"id", "INTEGER", false, none⟩, ⟨"code", "VARCHAR", false, none⟩]
  primaryKey _ := pure ["id"]
  foreignKeys _ := pure []
  indexes _ := pure []

/-- An alter that drops the primary key of the table and declares one over another column. -/
def rekeyingBlueprint : Blueprint where
  table := "runs"
  purpose := .alter
  columns := []
  keys := [Key.declared "runs" ["code"] .primary none]
  foreignKeys := []
  dropped := ⟨[], [Key.declared "runs" ["id"] .primary none]⟩

/-- The primary key of the table before the alter. -/
def keyedByIds : PrimaryColumns :=
  Function.update (fun _ => none) "runs" (some ["id"])

theorem rekeyingBlueprint_replaces :
    rekeyingBlueprint.ReplacesPrimary keyedView ["id"]
      (Key.declared "runs" ["code"] .primary none) where
  there := rfl
  reported := rfl
  keyed := List.cons_ne_nil _ _
  drops := ⟨_, .head _, rfl, fun _ => Iff.rfl⟩
  declares := rfl
  covering := List.cons_ne_nil _ _
  onLive := ⟨_, rfl, by simp [Key.declared]⟩

/-- A rebuild leaves the new key. -/
theorem rebuild_leaves_new_key :
    ∃ planned,
      (rekeyingBlueprint.planAlter .duckdb keyedView).outcome = .ok planned ∧
        Statement.LeavePrimary keyedByIds "runs" ["code"] planned := by
  have there : keyedByIds rekeyingBlueprint.table = some ["id"] :=
    rfl
  obtain ⟨outcome, plans⟩ :=
    primary_key_replaced_iff_rebuilt rekeyingBlueprint_replaces .duckdb there
  obtain ⟨prevails, planned, succeeded⟩ := plans _ ⟨rfl, rfl, rfl, rfl⟩ ⟨_, rfl⟩ ⟨_, rfl⟩
  exact ⟨planned, succeeded, (outcome planned succeeded).1.mpr ⟨rfl, prevails⟩⟩

/-- In place, the new key is added while the old one is there, which is refused. -/
theorem new_key_refused_in_place :
    rekeyingBlueprint.ReplacesPrimary keyedView ["id"]
        (Key.declared "runs" ["code"] .primary none) ∧
      keyedByIds "runs" = some ["id"] ∧
        ∃ planned,
          (rekeyingBlueprint.planAlter .postgres keyedView).outcome = .ok planned ∧
            planned =
                [.addPrimaryKey "runs" ⟨some "runs_code_primary", ["code"]⟩,
                  .dropPrimaryKey "runs" "runs_id_primary"] ∧
              Statement.primariesAfterAll keyedByIds planned = none :=
  ⟨rekeyingBlueprint_replaces, rfl, _, rfl, rfl, rfl⟩

end Blueprint

end SchemaMigration