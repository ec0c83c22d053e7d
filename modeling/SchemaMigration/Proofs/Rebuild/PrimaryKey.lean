import SchemaMigration.Proofs.Rebuild.DroppedKeys
import SchemaMigration.Proofs.Rebuild.NewTable
import SchemaMigration.Proofs.Resolution
import SchemaMigration.Proofs.Snapshot

namespace SchemaMigration

/-!
# What becomes of the primary key

A snapshot has the primary key twice: each column says whether it belongs to
the key, and the key lists its columns.  The list goes as a whole when one of
its columns goes, but the new table reads the columns, and a column stops
belonging to the key only when a dropped primary key lists it.  So the key that
a rebuild makes covers the columns that are neither dropped nor listed by a
drop, which may be some of the columns of the live key and not others.
-/

/-- The columns of the primary key of a table to create. -/
def TableDefinition.primaryColumns (table : TableDefinition) : List String :=
  (table.primary.map PrimaryKey.columns).getD []

namespace Rebuild

/-- Whether the primary key is to go: by a drop of it, or with one of its columns. -/
def DropsPrimary (snapshot : Snapshot) (dropped : Dropped) : Prop :=
  (∃ drop ∈ dropped.keys, drop.isPrimary = true) ∨
    ∃ name ∈ dropped.columns, name ∈ snapshot.primaryColumns

theorem mem_releasedColumns
    {dropped : Dropped}
    {name : String} :
    name ∈ releasedColumns dropped ↔
      ∃ drop ∈ dropped.keys, drop.isPrimary = true ∧ name ∈ drop.columns := by
  simp [releasedColumns, and_assoc]

/-- The columns of a coherent key that stay are neither dropped nor released. -/
theorem mem_stayingPrimary
    {snapshot : Snapshot}
    (coherent : snapshot.Coherent)
    {dropped : Dropped}
    {name : String} :
    name ∈ stayingPrimary snapshot dropped ↔
      name ∈ snapshot.primaryColumns ∧
        name ∉ dropped.columns ∧
          name ∉ releasedColumns dropped := by
  -- What stays is told by the columns, so the list of the key is turned into them.
  rw [← coherent name]
  simp only [stayingPrimary, primaryNames, List.filter_filter, List.mem_map, List.mem_filter,
    Bool.and_eq_true, Bool.not_eq_true', List.contains_eq_mem, decide_eq_false_iff_not]
  constructor
  · rintro ⟨column, ⟨live, isPrimary, undropped, unreleased⟩, rfl⟩
    exact ⟨⟨column, live, rfl, isPrimary⟩, undropped, unreleased⟩
  · rintro ⟨⟨column, live, rfl, isPrimary⟩, undropped, unreleased⟩
    exact ⟨column, ⟨live, isPrimary, undropped, unreleased⟩, rfl⟩

/-- Where no primary key is declared, that of the new table has the columns that stay. -/
theorem primary_newTable
    (table : String)
    (snapshot : Snapshot)
    {resolved : Resolved}
    (dropped : Dropped)
    (noPrimaryKey : ∀ key ∈ resolved.keys, key.isPrimary = false)
    (noPrimaryColumn : ∀ column ∈ resolved.columns, column.isPrimary = false) :
    (newTable table snapshot resolved dropped).primary.map PrimaryKey.columns =
      if stayingPrimary snapshot dropped = [] then
        none
      else
        some (stayingPrimary snapshot dropped) := by
  rw [newTable, columns_primaryOf, primaryNames_finalDraft noPrimaryKey noPrimaryColumn]

/--
What a rebuild makes of the primary key, where none is declared.

The new key covers the columns of the live one that are neither dropped nor
listed by a dropped primary key.  When the key is to go, it is gone exactly
when these are all of its columns; when it is not, it has the same columns.
-/
theorem primary_key_gone_iff_all_released
    {dialect : Dialect}
    {blueprint : Blueprint}
    (noPrimary : ∀ key ∈ blueprint.keys, key.isPrimary = false)
    {resolved : Resolved}
    (isResolved : (blueprint.resolve dialect).outcome = .ok resolved)
    {snapshot : Snapshot}
    (coherent : snapshot.Coherent)
    {planned : List Statement}
    (succeeded :
      (plan dialect blueprint.table snapshot resolved blueprint.dropped).outcome =
        .ok planned) :
    ∃ made,
      madeTables blueprint.table planned = [made] ∧
        (DropsPrimary snapshot blueprint.dropped →
          (made.primary = none ↔
            ∀ name ∈ snapshot.primaryColumns,
              name ∈ blueprint.dropped.columns ∨
                name ∈ releasedColumns blueprint.dropped)) ∧
          (¬ DropsPrimary snapshot blueprint.dropped →
            ∀ name,
              name ∈ made.primaryColumns ↔ name ∈ snapshot.primaryColumns) ∧
            ∀ name,
              name ∈ made.primaryColumns ↔
                name ∈ snapshot.primaryColumns ∧
                  name ∉ blueprint.dropped.columns ∧
                    name ∉ releasedColumns blueprint.dropped := by
  obtain ⟨noPrimaryKey, noPrimaryColumn⟩ := Blueprint.no_primary_of_resolve isResolved noPrimary
  have primary :=
    primary_newTable blueprint.table snapshot blueprint.dropped noPrimaryKey noPrimaryColumn
  have covers :
      ∀ name,
        name ∈ (newTable blueprint.table snapshot resolved blueprint.dropped).primaryColumns ↔
          name ∈ snapshot.primaryColumns ∧
            name ∉ blueprint.dropped.columns ∧
              name ∉ releasedColumns blueprint.dropped := by
    intro name
    rw [← mem_stayingPrimary coherent, TableDefinition.primaryColumns, primary]
    split
    · rename_i none
      simp [none]
    · rfl
  refine ⟨_, madeTables_plan succeeded, ?_, ?_, covers⟩
  · intro _
    have gone :
        (newTable blueprint.table snapshot resolved blueprint.dropped).primary = none ↔
          stayingPrimary snapshot blueprint.dropped = [] := by
      rw [← Option.map_eq_none_iff, primary]
      split <;> simp_all
    rw [gone, List.eq_nil_iff_forall_not_mem]
    constructor
    · intro empty name listed
      by_contra stays
      rw [not_or] at stays
      exact empty name ((mem_stayingPrimary coherent).mpr ⟨listed, stays⟩)
    · intro released name member
      obtain ⟨listed, undropped, unreleased⟩ := (mem_stayingPrimary coherent).mp member
      exact (released name listed).elim undropped unreleased
  · intro stays name
    rw [covers name, and_iff_left_iff_imp]
    intro listed
    constructor
    · intro isDropped
      exact stays (.inr ⟨name, isDropped, listed⟩)
    · intro released
      obtain ⟨drop, member, isPrimary, _⟩ := mem_releasedColumns.mp released
      exact stays (.inl ⟨drop, member, isPrimary⟩)

/-- What a database reports of a table whose primary key has two columns. -/
def compositeView : Introspection where
  tableNames := pure ["runs"]
  columns _ := pure [⟨"a", "INTEGER", false, none⟩, ⟨"b", "INTEGER", false, none⟩]
  primaryKey _ := pure ["a", "b"]
  foreignKeys _ := pure []
  indexes _ := pure []

/-- The snapshot of the table. -/
def compositeSnapshot : Snapshot where
  columns :=
    [⟨"a", ⟨"INTEGER", []⟩, false, none, true, false, []⟩,
      ⟨"b", ⟨"INTEGER", []⟩, false, none, true, false, []⟩]
  keys := [Key.declared "runs" ["a", "b"] .primary none]

theorem compositeSnapshot_coherent : compositeSnapshot.Coherent := by
  have loaded : (Snapshot.load compositeView "runs").outcome = .ok compositeSnapshot :=
    rfl
  apply Snapshot.coherent_of_load loaded
  rintro _ _ ⟨⟩ ⟨⟩
  decide

/-- An alter that drops columns and keys and declares nothing. -/
def droppingBlueprint (columns : List String) (keys : List Key) : Blueprint where
  table := "runs"
  purpose := .alter
  columns := []
  keys := []
  foreignKeys := []
  dropped := ⟨columns, keys⟩

/-- A column of the key is dropped and a dropped primary key lists the other: the key is gone. -/
theorem primary_key_gone_with_all_columns :
    ∃ planned made,
      (plan .duckdb "runs" compositeSnapshot ⟨[], [], []⟩
          ⟨["a"], [Key.declared "runs" ["b"] .primary none]⟩).outcome = .ok planned ∧
        madeTables "runs" planned = [made] ∧
          made.primary = none := by
  have isResolved :
      ((droppingBlueprint ["a"] [Key.declared "runs" ["b"] .primary none]).resolve
        .duckdb).outcome = .ok ⟨[], [], []⟩ :=
    rfl
  have succeeded :
      (plan .duckdb "runs" compositeSnapshot ⟨[], [], []⟩
        ⟨["a"], [Key.declared "runs" ["b"] .primary none]⟩).outcome = .ok _ :=
    rfl
  obtain ⟨made, isMade, gone, _⟩ :=
    primary_key_gone_iff_all_released (by simp [droppingBlueprint]) isResolved
      compositeSnapshot_coherent succeeded
  exact ⟨_, made, succeeded, isMade, (gone (.inl ⟨_, .head _, rfl⟩)).mpr (by decide)⟩

/-- One column of the key is dropped: the key is made over the other one. -/
theorem dropped_column_narrows_primary_key :
    ∃ planned made,
      (Snapshot.load compositeView "runs").outcome = .ok compositeSnapshot ∧
        ((droppingBlueprint ["a"] []).resolve .duckdb).outcome = .ok ⟨[], [], []⟩ ∧
          (plan .duckdb "runs" compositeSnapshot ⟨[], [], []⟩ ⟨["a"], []⟩).outcome =
              .ok planned ∧
            madeTables "runs" planned = [made] ∧
              DropsPrimary compositeSnapshot ⟨["a"], []⟩ ∧
                made.primary = some ⟨none, ["b"]⟩ :=
  ⟨_, _, rfl, rfl, rfl, rfl, .inr ⟨"a", .head _, by decide⟩, rfl⟩

end Rebuild

end SchemaMigration
