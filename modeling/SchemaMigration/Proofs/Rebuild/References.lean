import SchemaMigration.Proofs.Rebuild.Frame
import SchemaMigration.Proofs.Rebuild.PrimaryKey
import SchemaMigration.Proofs.Resolution
import SchemaMigration.Schema.Declaration

namespace SchemaMigration

/-!
# What a new table refers to

The primary key and the indexes of a new table are over columns that it has: a
live index goes with any of its columns, and a declared key is merged only when
its columns are there.  A foreign key is asked for its own column only.  So one
that points at its own table may refer to a column that the table no longer has
or never had.
-/

/-- The columns of a table that a foreign key of the table names. -/
def ForeignKey.namesOn (table : String) (key : ForeignKey) : List String :=
  if key.refTable = table then [key.column, key.refColumn] else [key.column]

theorem ForeignKey.mem_namesOn
    {table : String}
    {key : ForeignKey}
    {name : String} :
    name ∈ key.namesOn table ↔
      name = key.column ∨ key.refTable = table ∧ name = key.refColumn := by
  unfold ForeignKey.namesOn
  split <;> simp_all

/-- Whether the keys of a live table name columns of it, where they name its own columns. -/
structure Snapshot.RefersWithin (table : String) (snapshot : Snapshot) : Prop where
  keys : ∀ key ∈ snapshot.keys, ∀ name ∈ key.columns, name ∈ snapshot.columnNames
  foreignKeys :
    ∀ column ∈ snapshot.columns,
      ∀ key ∈ column.foreignKeys,
        ∀ name ∈ key.namesOn table, name ∈ snapshot.columnNames

/-- Whether a foreign key is what a declaration of a blueprint completes to. -/
def Blueprint.DeclaresForeignKey (blueprint : Blueprint) (key : ForeignKey) : Prop :=
  ∃ draft ∈ blueprint.foreignKeys, draft.complete = .ok key

section Resolved

variable
  {blueprint : Blueprint}
  {dialect : Dialect}
  {resolved : Resolved}
  (isResolved : (blueprint.resolve dialect).outcome = .ok resolved)

include isResolved

theorem Blueprint.declaresForeignKey_of_held
    {column : ColumnDefinition}
    (member : column ∈ resolved.columns)
    {key : ForeignKey}
    (held : key ∈ column.foreignKeys) :
    blueprint.DeclaresForeignKey key := by
  obtain ⟨declared, _, columnResolved⟩ :=
    Traced.item_of_mem_each (resolve_ok isResolved).1 member
  obtain ⟨_, _, completed⟩ := resolveColumn_ok columnResolved
  obtain ⟨draft, onColumn, complete⟩ := Traced.item_of_mem_each completed held
  exact ⟨draft, List.mem_of_mem_filter onColumn, complete_of_completeForeignKey complete⟩

theorem Blueprint.declaresForeignKey_of_loose
    {key : ForeignKey}
    (loose : key ∈ resolved.foreignKeys) :
    blueprint.DeclaresForeignKey key := by
  obtain ⟨draft, member, complete⟩ :=
    Traced.item_of_mem_each (resolve_ok isResolved).2.2 loose
  exact ⟨draft, List.mem_of_mem_filter member, complete_of_completeForeignKey complete⟩

end Resolved

namespace Rebuild

open Statement

/-! ## Keys over columns -/

section Merged

variable
  {table : String}
  {snapshot : Snapshot}
  {resolved : Resolved}
  {dropped : Dropped}

/-- The declared keys of a merge that succeeds are over columns that it has. -/
theorem key_columns_there
    {draft : Draft}
    (merged : (merge table snapshot resolved dropped).outcome = .ok draft) :
    ∀ key ∈ resolved.keys,
      ∀ name ∈ key.columns,
        name ∈ (mergedColumns snapshot resolved dropped).map ColumnDefinition.name := by
  refine Traced.sweep_asks
    (fun draft : Draft =>
      draft.columns.map ColumnDefinition.name =
        (mergedColumns snapshot resolved dropped).map ColumnDefinition.name)
    _ ?_ rfl (merge_steps merged).2.1
  intro known key next same stepped
  have shape := eq_withKey stepped
  subst shape
  refine ⟨(map_columns_withKey keyBlind_name known key).trans same, ?_⟩
  unfold mergeKey at stepped
  split at stepped
  · cases stepped
  · rename_i noneMissing
    intro name covered
    have there := List.find?_eq_none.mp noneMissing name covered
    rw [← same]
    exact hasColumn_iff.mp (by simpa using there)

theorem names_newTable :
    (newTable table snapshot resolved dropped).columns.map ColumnDefinition.name =
      (mergedColumns snapshot resolved dropped).map ColumnDefinition.name := by
  rw [newTable, map_columns_finalDraft keyBlind_name, ← map_keptColumns keyBlind_name,
    ← List.map_append, mergedColumns, foldl_withColumn]

/-- A live key that stays is over columns that stay. -/
theorem names_there_of_keptKeys
    (within : snapshot.RefersWithin table)
    {key : Key}
    (stays : key ∈ keptKeys snapshot dropped)
    (resolved : Resolved) :
    ∀ name ∈ key.columns,
      name ∈ (newTable table snapshot resolved dropped).columns.map ColumnDefinition.name := by
  obtain ⟨live, kept⟩ := List.mem_filter.mp stays
  have uncut : ∀ name ∈ key.columns, name ∉ dropped.columns := by
    simp only [staysKey, Bool.and_eq_true, Bool.not_eq_true', List.any_eq_false,
      List.contains_eq_mem, decide_eq_true_eq] at kept
    exact kept.2
  intro name covered
  exact mem_names_newTable.mpr (.inl ⟨within.keys key live name covered, uncut name covered⟩)

/-- The keys of the new table are over columns that it has. -/
theorem names_there_of_finalDraft
    (within : snapshot.RefersWithin table)
    {draft : Draft}
    (merged : (merge table snapshot resolved dropped).outcome = .ok draft)
    {key : Key}
    (member : key ∈ (finalDraft snapshot resolved dropped).keys) :
    ∀ name ∈ key.columns,
      name ∈ (newTable table snapshot resolved dropped).columns.map ColumnDefinition.name := by
  rcases mem_keys_finalDraft member with stays | declared
  · exact names_there_of_keptKeys within stays resolved
  · intro name covered
    rw [names_newTable]
    exact key_columns_there merged key declared name covered

theorem mem_names_of_primaryColumns
    {name : String}
    (covered : name ∈ (newTable table snapshot resolved dropped).primaryColumns) :
    name ∈ (newTable table snapshot resolved dropped).columns.map ColumnDefinition.name := by
  simp only [TableDefinition.primaryColumns, newTable, TableDefinition.primaryOf] at covered ⊢
  split at covered
  · cases covered
  · obtain ⟨column, isPrimary, rfl⟩ := List.mem_map.mp covered
    exact List.mem_map_of_mem (List.mem_of_mem_filter isPrimary)

end Merged

/-- The indexes of a plan that succeeds are over columns of the new table. -/
theorem index_columns_there
    {dialect : Dialect}
    {table : String}
    {snapshot : Snapshot}
    (within : snapshot.RefersWithin table)
    {resolved : Resolved}
    {dropped : Dropped}
    {planned : List Statement}
    (succeeded : (plan dialect table snapshot resolved dropped).outcome = .ok planned)
    (index : String)
    (columns : List String)
    (unique : Bool)
    (member : .createIndex table index columns unique ∈ planned) :
    ∀ name ∈ columns,
      name ∈ (newTable table snapshot resolved dropped).columns.map ColumnDefinition.name := by
  obtain ⟨merged, rfl⟩ := plan_ok succeeded
  let key : Key := ⟨index, columns, if unique then .unique else .index⟩
  have isIndex : IsIndex key := by
    cases unique
    · exact .inr rfl
    · exact .inl rfl
  have made : indexOf table key = .createIndex table index columns unique := by
    cases unique <;> rfl
  rw [← made, indexOf_mem_statements_iff isIndex] at member
  exact names_there_of_finalDraft within merged member

/-! ## Foreign keys -/

/-- Whether a foreign key is on a live column that stays. -/
def OnStaying (snapshot : Snapshot) (dropped : Dropped) (key : ForeignKey) : Prop :=
  ∃ column ∈ snapshot.columns, column.name ∉ dropped.columns ∧ key ∈ column.foreignKeys

/-- A foreign key of the new table is on a live column that stays, or it is declared. -/
theorem origin_of_made
    {blueprint : Blueprint}
    {dialect : Dialect}
    {resolved : Resolved}
    (isResolved : (blueprint.resolve dialect).outcome = .ok resolved)
    {table : String}
    {snapshot : Snapshot}
    {dropped : Dropped}
    {draft : Draft}
    (merged : (merge table snapshot resolved dropped).outcome = .ok draft)
    {key : ForeignKey}
    (made : key ∈ (newTable table snapshot resolved dropped).foreignKeys) :
    OnStaying snapshot dropped key ∨
      blueprint.DeclaresForeignKey key ∧
        key.column ∈
          (newTable table snapshot resolved dropped).columns.map ColumnDefinition.name := by
  rcases mem_heldForeignKeys_finalDraft made with kept | added | loose
  · left
    obtain ⟨column, stays, held⟩ := List.mem_flatMap.mp kept
    obtain ⟨live, isLive, rfl⟩ := List.mem_map.mp stays
    obtain ⟨member, undropped⟩ := List.mem_filter.mp isLive
    exact ⟨live, member, by simpa using undropped, List.mem_of_mem_filter held⟩
  · right
    obtain ⟨column, isAdded, held⟩ := List.mem_flatMap.mp added
    have declared := mem_of_mem_addedColumns isAdded
    refine ⟨Blueprint.declaresForeignKey_of_held isResolved declared held, ?_⟩
    rw [Blueprint.column_of_resolve isResolved declared held]
    exact mem_names_newTable.mpr (.inr (List.mem_map_of_mem declared))
  · right
    refine ⟨Blueprint.declaresForeignKey_of_loose isResolved loose, ?_⟩
    rw [names_newTable]
    exact loose_columns_there merged key loose

/-- Whether a definition with its indexes names only columns that it has, on its own table. -/
structure RefersWithin (made : TableDefinition) (planned : List Statement) : Prop where
  primary :
    ∀ name ∈ made.primaryColumns, name ∈ made.columns.map ColumnDefinition.name
  indexes :
    ∀ index columns unique,
      .createIndex made.name index columns unique ∈ planned →
        ∀ name ∈ columns, name ∈ made.columns.map ColumnDefinition.name
  foreignKeys :
    ∀ key ∈ made.foreignKeys,
      ∀ name ∈ key.namesOn made.name, name ∈ made.columns.map ColumnDefinition.name

/--
What a new table and its indexes name on the table itself.

The columns of the primary key, of indexes and of declared foreign keys are
always there.  A foreign key refers to a missing column exactly when it was on
a live column that stays and names a column that is dropped and not declared
again, or when it is declared and points at a column that the new table lacks.
-/
theorem definition_refers_within_iff
    {blueprint : Blueprint}
    {dialect : Dialect}
    {resolved : Resolved}
    (isResolved : (blueprint.resolve dialect).outcome = .ok resolved)
    {table : String}
    {snapshot : Snapshot}
    (within : snapshot.RefersWithin table)
    {dropped : Dropped}
    {planned : List Statement}
    (succeeded : (plan dialect table snapshot resolved dropped).outcome = .ok planned) :
    ∃ made,
      madeTables table planned = [made] ∧
        (∀ name,
          name ∈ made.columns.map ColumnDefinition.name ↔
            name ∈ snapshot.columnNames ∧ name ∉ dropped.columns ∨
              blueprint.declares name = true) ∧
        (∀ name ∈ made.primaryColumns, name ∈ made.columns.map ColumnDefinition.name) ∧
        (∀ index columns unique,
          .createIndex table index columns unique ∈ planned →
            ∀ name ∈ columns, name ∈ made.columns.map ColumnDefinition.name) ∧
        (∀ key ∈ made.foreignKeys,
          OnStaying snapshot dropped key ∨
            blueprint.DeclaresForeignKey key ∧
              key.column ∈ made.columns.map ColumnDefinition.name) ∧
        (RefersWithin made planned ↔
          ∀ key ∈ made.foreignKeys,
            (OnStaying snapshot dropped key →
              ∀ name ∈ key.namesOn table,
                name ∈ dropped.columns → blueprint.declares name = true) ∧
              (blueprint.DeclaresForeignKey key →
                key.refTable = table →
                  key.refColumn ∈ made.columns.map ColumnDefinition.name)) := by
  have names
      (name : String) :
      name ∈ (newTable table snapshot resolved dropped).columns.map ColumnDefinition.name ↔
        name ∈ snapshot.columnNames ∧ name ∉ dropped.columns ∨
          blueprint.declares name = true := by
    rw [mem_names_newTable, Blueprint.declares_iff_of_resolve isResolved]
  have primary :
      ∀ name ∈ (newTable table snapshot resolved dropped).primaryColumns,
        name ∈ (newTable table snapshot resolved dropped).columns.map ColumnDefinition.name :=
    fun _ covered => mem_names_of_primaryColumns covered
  have indexes := index_columns_there within succeeded
  have origin := fun key (made : key ∈ (newTable table snapshot resolved dropped).foreignKeys) =>
    origin_of_made isResolved (plan_ok succeeded).1 made
  refine ⟨_, madeTables_plan succeeded, names, primary, indexes, origin, ?_⟩
  constructor
  · intro refers key made
    constructor
    · intro _ name named isDropped
      rcases (names name).mp (refers.foreignKeys key made name named) with stays | declared
      · exact absurd isDropped stays.2
      · exact declared
    · intro _ own
      exact refers.foreignKeys key made key.refColumn
        (ForeignKey.mem_namesOn.mpr (.inr ⟨own, rfl⟩))
  · intro reasons
    refine ⟨primary, indexes, ?_⟩
    intro key made name named
    obtain ⟨ofStaying, ofDeclared⟩ := reasons key made
    rcases origin key made with ⟨column, live, undropped, held⟩ | ⟨declared, there⟩
    · have staying : OnStaying snapshot dropped key := ⟨column, live, undropped, held⟩
      rw [names name]
      by_cases isDropped : name ∈ dropped.columns
      · exact .inr (ofStaying staying name named isDropped)
      · exact .inl ⟨within.foreignKeys column live key held name named, isDropped⟩
    · rcases ForeignKey.mem_namesOn.mp named with rfl | ⟨own, rfl⟩
      · exact there
      · exact ofDeclared declared own

/-- A live table whose runs refer to other runs. -/
def selfReferringSnapshot : Snapshot where
  columns :=
    [.plain "id" "INTEGER", .plain "note" "VARCHAR",
      { ColumnDefinition.plain "parent" "INTEGER" with
        foreignKeys := [⟨"by_parent", "parent", "runs", "id", none, none⟩] }]
  keys := [⟨"by_note", ["note"], .index⟩]

theorem selfReferringSnapshot_refersWithin :
    selfReferringSnapshot.RefersWithin "runs" := by
  constructor <;> decide

/-- The blueprint declares the column that it drops again, so the reference to it is kept. -/
def renewingBlueprint : Blueprint where
  table := "runs"
  purpose := .alter
  columns := [Column.simple "id" .bigInteger]
  keys := [Key.declared "runs" ["id", "parent"] .unique none]
  foreignKeys := []
  dropped := ⟨["id", "note"], []⟩

/-- What the blueprint declares, for a dialect. -/
def renewingResolved : Resolved :=
  ⟨[⟨"id", ⟨"BIGINT", []⟩, false, none, false, false, []⟩],
    [Key.declared "runs" ["id", "parent"] .unique none], []⟩

theorem definition_refers_within_after_renewal :
    ∃ planned made,
      (renewingBlueprint.resolve .duckdb).outcome = .ok renewingResolved ∧
        (plan .duckdb "runs" selfReferringSnapshot renewingResolved
            renewingBlueprint.dropped).outcome = .ok planned ∧
          madeTables "runs" planned = [made] ∧
            made.foreignKeys = [⟨"by_parent", "parent", "runs", "id", none, none⟩] ∧
              RefersWithin made planned := by
  have isResolved : (renewingBlueprint.resolve .duckdb).outcome = .ok renewingResolved :=
    rfl
  have succeeded :
      (plan .duckdb "runs" selfReferringSnapshot renewingResolved
        renewingBlueprint.dropped).outcome = .ok _ :=
    rfl
  obtain ⟨made, isMade, _, _, _, _, within⟩ :=
    definition_refers_within_iff isResolved selfReferringSnapshot_refersWithin succeeded
  have shape : made.foreignKeys = [⟨"by_parent", "parent", "runs", "id", none, none⟩] := by
    cases isMade
    rfl
  refine ⟨_, made, isResolved, succeeded, isMade, shape, within.mpr ?_⟩
  rw [shape]
  intro key isThis
  cases List.mem_singleton.mp isThis
  refine ⟨fun _ => by decide, ?_⟩
  rintro ⟨draft, declared, _⟩
  cases declared

/-- The column that other runs refer to is dropped, and the reference to it is made again. -/
theorem reference_to_dropped_column_made :
    selfReferringSnapshot.RefersWithin "runs" ∧
      ∃ planned made,
        (plan .duckdb "runs" selfReferringSnapshot ⟨[], [], []⟩ ⟨["id"], []⟩).outcome =
            .ok planned ∧
          madeTables "runs" planned = [made] ∧
            made.foreignKeys = [⟨"by_parent", "parent", "runs", "id", none, none⟩] ∧
              made.columns.map ColumnDefinition.name = ["note", "parent"] ∧
                ¬ RefersWithin made planned := by
  refine ⟨selfReferringSnapshot_refersWithin, _, _, rfl, rfl, rfl, rfl, ?_⟩
  intro refers
  exact absurd
    (refers.foreignKeys ⟨"by_parent", "parent", "runs", "id", none, none⟩ (by decide) "id"
      (by decide))
    (by decide)

end Rebuild

end SchemaMigration
