import SchemaMigration.Proofs.Alteration.InPlace
import SchemaMigration.Proofs.Rebuild.NewTable
import SchemaMigration.Proofs.Resolution
import SchemaMigration.Proofs.Snapshot
import SchemaMigration.Schema.Declaration

namespace SchemaMigration

/-!
# Where the two ways to alter a table agree

A blueprint is carried out in place or by a rebuild, as the dialect takes it.
In place, a column is added only when it was not live before, and drops come
last; a rebuild takes the dropped columns away first and then merges what is
declared into the rest.  So a live column that is dropped and declared at once
is lost in place and made anew by a rebuild.  A live column that is declared
again stays as it is both ways, but a rebuild passes over the foreign keys that
are declared on it, too.
-/

/-- Whether two foreign keys refer from one column to one place. -/
def ForeignKey.SameReference (first second : ForeignKey) : Prop :=
  first.column = second.column ∧
    first.refTable = second.refTable ∧
      first.refColumn = second.refColumn

namespace Alteration

open Statement

/-! ## Columns -/

/--
Both ways to alter a table leave the same columns exactly when no live column
is dropped and declared at once.

In place, those are left that were live or are declared, without the live ones
that are dropped.  A rebuild leaves the live ones that are not dropped, and all
that are declared.
-/
theorem same_columns_iff_none_replaced
    {blueprint : Blueprint}
    {inPlace anew : Dialect}
    {resolvedInPlace resolvedAnew : Resolved}
    (isResolvedInPlace : (blueprint.resolve inPlace).outcome = .ok resolvedInPlace)
    (isResolvedAnew : (blueprint.resolve anew).outcome = .ok resolvedAnew)
    {live : List LiveColumn}
    {snapshot : Snapshot}
    (described : snapshot.columnNames = live.map LiveColumn.name)
    {altered rebuilt : List Statement}
    (alters :
      (plan inPlace blueprint.table live resolvedInPlace blueprint.dropped).outcome =
        .ok altered)
    (rebuilds :
      (Rebuild.plan anew blueprint.table snapshot resolvedAnew blueprint.dropped).outcome =
        .ok rebuilt) :
    ∃ made,
      Rebuild.madeTables blueprint.table rebuilt = [made] ∧
        (∀ name,
          name ∈ columnNamesAfterAll blueprint.table (live.map LiveColumn.name) altered ↔
            (name ∈ live.map LiveColumn.name ∨ blueprint.declares name = true) ∧
              ¬ (name ∈ live.map LiveColumn.name ∧ name ∈ blueprint.dropped.columns)) ∧
        (∀ name,
          name ∈ made.columns.map ColumnDefinition.name ↔
            name ∈ live.map LiveColumn.name ∧ name ∉ blueprint.dropped.columns ∨
              blueprint.declares name = true) ∧
        ((∀ name,
            name ∈ columnNamesAfterAll blueprint.table (live.map LiveColumn.name) altered ↔
              name ∈ made.columns.map ColumnDefinition.name) ↔
          ∀ name ∈ live.map LiveColumn.name,
            blueprint.declares name = true → name ∉ blueprint.dropped.columns) := by
  have leftInPlace
      (name : String) :
      name ∈ columnNamesAfterAll blueprint.table (live.map LiveColumn.name) altered ↔
        (name ∈ live.map LiveColumn.name ∨ blueprint.declares name = true) ∧
          ¬ (name ∈ live.map LiveColumn.name ∧ name ∈ blueprint.dropped.columns) := by
    rw [mem_columnNamesAfterAll_plan alters,
      Blueprint.declares_iff_of_resolve isResolvedInPlace]
  have leftAnew
      (name : String) :
      name ∈
          (Rebuild.newTable blueprint.table snapshot resolvedAnew
            blueprint.dropped).columns.map ColumnDefinition.name ↔
        name ∈ live.map LiveColumn.name ∧ name ∉ blueprint.dropped.columns ∨
          blueprint.declares name = true := by
    rw [Rebuild.mem_names_newTable, described,
      Blueprint.declares_iff_of_resolve isResolvedAnew]
  refine ⟨_, Rebuild.madeTables_plan rebuilds, leftInPlace, leftAnew, ?_⟩
  constructor
  · intro same name isLive declared isDropped
    have stays := (leftAnew name).mpr (.inr declared)
    rw [← same name, leftInPlace name] at stays
    exact stays.2 ⟨isLive, isDropped⟩
  · intro noneReplaced name
    rw [leftInPlace name, leftAnew name]
    have notReplaced := noneReplaced name
    tauto

/-- An alter of one table that declares and drops columns. -/
def columnBlueprint (columns : List Column) (drops : List String) : Blueprint where
  table := "runs"
  purpose := .alter
  columns := columns
  keys := []
  foreignKeys := []
  dropped := ⟨drops, []⟩

/-- A live table with two columns. -/
def notedColumns : List LiveColumn :=
  [⟨"id", "INTEGER", false, none⟩, ⟨"note", "TEXT", true, none⟩]

/-- The snapshot of the table. -/
def notedSnapshot : Snapshot :=
  ⟨notedColumns.map (Snapshot.columnOf []), []⟩

/-- Two declared columns, one of which is live. -/
def overlappingColumns : Resolved :=
  ⟨[⟨"id", ⟨"INTEGER", []⟩, false, none, false, false, []⟩,
      ⟨"score", ⟨"INTEGER", []⟩, false, none, false, false, []⟩], [], []⟩

/--
A live column that is declared again, a new one, a dropped one and one that is
not there to be dropped: both ways leave the same columns.
-/
theorem same_columns_with_overlaps :
    ∃ altered rebuilt made,
      (plan .postgres "runs" notedColumns overlappingColumns
          ⟨["note", "score"], []⟩).outcome = .ok altered ∧
        (Rebuild.plan .duckdb "runs" notedSnapshot overlappingColumns
            ⟨["note", "score"], []⟩).outcome = .ok rebuilt ∧
          Rebuild.madeTables "runs" rebuilt = [made] ∧
            ∀ name,
              name ∈ columnNamesAfterAll "runs" (notedColumns.map LiveColumn.name) altered ↔
                name ∈ made.columns.map ColumnDefinition.name := by
  have isResolved
      (dialect : Dialect)
      (either : dialect = .postgres ∨ dialect = .duckdb) :
      ((columnBlueprint [.simple "id" .integer, .simple "score" .integer]
        ["note", "score"]).resolve dialect).outcome = .ok overlappingColumns := by
    rcases either with rfl | rfl <;> rfl
  have described : notedSnapshot.columnNames = notedColumns.map LiveColumn.name :=
    rfl
  have alters :
      (plan .postgres "runs" notedColumns overlappingColumns
        ⟨["note", "score"], []⟩).outcome = .ok _ :=
    rfl
  have rebuilds :
      (Rebuild.plan .duckdb "runs" notedSnapshot overlappingColumns
        ⟨["note", "score"], []⟩).outcome = .ok _ :=
    rfl
  obtain ⟨made, isMade, _, _, same⟩ :=
    same_columns_iff_none_replaced (isResolved .postgres (.inl rfl))
      (isResolved .duckdb (.inr rfl)) described alters rebuilds
  exact ⟨_, _, made, alters, rebuilds, isMade, same.mpr (by decide)⟩

/-- A live column that is dropped and declared anew is lost in place, and a rebuild makes it. -/
theorem replaced_column_lost_in_place :
    ∃ altered rebuilt made,
      let blueprint := columnBlueprint [.simple "note" .text] ["note"]
      (∃ resolved,
          (blueprint.resolve .postgres).outcome = .ok resolved ∧
            (plan .postgres "runs" notedColumns resolved blueprint.dropped).outcome =
              .ok altered) ∧
        (∃ resolved,
            (blueprint.resolve .duckdb).outcome = .ok resolved ∧
              (Rebuild.plan .duckdb "runs" notedSnapshot resolved
                blueprint.dropped).outcome = .ok rebuilt) ∧
          Rebuild.madeTables "runs" rebuilt = [made] ∧
            columnNamesAfterAll "runs" (notedColumns.map LiveColumn.name) altered = ["id"] ∧
              made.columns.map ColumnDefinition.name = ["id", "note"] :=
  ⟨_, _, _, ⟨_, rfl, rfl⟩, ⟨_, rfl, rfl⟩, rfl, rfl, rfl⟩

/-! ## Foreign keys -/

/-- In place, every declared foreign key is added. -/
theorem addForeignKey_mem_plan_of_declared
    {blueprint : Blueprint}
    {dialect : Dialect}
    {resolved : Resolved}
    (isResolved : (blueprint.resolve dialect).outcome = .ok resolved)
    {live : List LiveColumn}
    {altered : List Statement}
    (alters :
      (plan dialect blueprint.table live resolved blueprint.dropped).outcome = .ok altered)
    {draft : ForeignKeyDraft}
    (member : draft ∈ blueprint.foreignKeys)
    {key : ForeignKey}
    (complete : draft.complete = .ok key) :
    .addForeignKey blueprint.table key ∈ altered := by
  obtain ⟨same, alsoComplete, onColumns, loose⟩ :=
    Blueprint.complete_of_resolve isResolved member
  cases complete.symm.trans alsoComplete
  apply addForeignKey_mem_plan alters
  cases declared : blueprint.declares draft.column with
  | true =>
      obtain ⟨column, isColumn, named⟩ :=
        List.mem_map.mp ((Blueprint.declares_iff_of_resolve isResolved).mp declared)
      exact .inl ⟨column, isColumn, onColumns column isColumn named⟩
  | false =>
      exact .inr (loose declared)

section Rebuilt

variable
  {blueprint : Blueprint}
  {dialect : Dialect}
  {resolved : Resolved}
  (isResolved : (blueprint.resolve dialect).outcome = .ok resolved)
  {snapshot : Snapshot}
  {draft : ForeignKeyDraft}
  (member : draft ∈ blueprint.foreignKeys)
  {key : ForeignKey}
  (complete : draft.complete = .ok key)

include isResolved

/-- No loose foreign key is on a declared column. -/
theorem unreplaced_of_declared
    {name : String}
    (declared : blueprint.declares name = true)
    (taken : String) :
    ∀ loose ∈ resolved.foreignKeys, loose.column = name → loose.name ≠ taken := by
  rintro loose isLoose rfl
  rw [Blueprint.undeclared_of_resolve isResolved isLoose] at declared
  cases declared

include member complete

/-- A rebuild makes a declared foreign key, unless its column is live and declared. -/
theorem made_of_declared
    (distinct : (blueprint.foreignKeys.map ForeignKeyDraft.name).Nodup)
    {merged : Rebuild.Draft}
    (merges :
      (Rebuild.merge blueprint.table snapshot resolved Dropped.none).outcome = .ok merged)
    (apart :
      draft.column ∉ snapshot.columnNames ∨ blueprint.declares draft.column = false) :
    key ∈ (Rebuild.newTable blueprint.table snapshot resolved Dropped.none).foreignKeys := by
  obtain ⟨same, alsoComplete, onColumns, loose⟩ :=
    Blueprint.complete_of_resolve isResolved member
  cases complete.symm.trans alsoComplete
  cases declared : blueprint.declares draft.column with
  | true =>
      have new :
          draft.column ∉
            (Rebuild.keptColumns snapshot Dropped.none).map ColumnDefinition.name := by
        rw [Rebuild.keptColumns_none]
        exact apart.resolve_right (by simp [declared])
      exact Rebuild.made_of_added blueprint.table
        ((Blueprint.declares_iff_of_resolve isResolved).mp declared) new onColumns
        (unreplaced_of_declared isResolved declared key.name)
  | false =>
      exact Rebuild.made_of_loose merges
        (Blueprint.nodup_loose_of_resolve isResolved distinct) (loose declared)

omit member

/--
Where the column of a declared foreign key is live and declared, the new table
has such a foreign key exactly when the live one has.
-/
theorem made_iff_held
    (attached : Snapshot.Attached snapshot.columns)
    (live : draft.column ∈ snapshot.columnNames)
    (declared : blueprint.declares draft.column = true) :
    (∃ clause ∈
        (Rebuild.newTable blueprint.table snapshot resolved Dropped.none).foreignKeys,
      clause.SameReference key) ↔
        ∃ held ∈ Rebuild.heldForeignKeys snapshot.columns, held.SameReference key := by
  have column := (ForeignKeyDraft.complete_ok complete).2
  constructor
  · rintro ⟨clause, made, same⟩
    have sameColumn : clause.column = draft.column := same.1.trans column
    -- A clause on a column that is live and declared can only have been there before.
    rcases Rebuild.mem_heldForeignKeys_finalDraft made with kept | added | loose
    · rw [Rebuild.keptColumns_none] at kept
      exact ⟨clause, kept, same⟩
    · obtain ⟨definition, isAdded, held⟩ := List.mem_flatMap.mp added
      have named :=
        Blueprint.column_of_resolve isResolved (Rebuild.mem_of_mem_addedColumns isAdded) held
      have new := Rebuild.hasColumn_addedColumns isAdded
      rw [Rebuild.keptColumns_none, ← named, sameColumn, ← Bool.not_eq_true,
        Rebuild.hasColumn_iff] at new
      exact absurd live new
    · have undeclared := Blueprint.undeclared_of_resolve isResolved loose
      rw [sameColumn, declared] at undeclared
      cases undeclared
  · rintro ⟨held, isHeld, same⟩
    obtain ⟨definition, there, has⟩ := List.mem_flatMap.mp isHeld
    have named : definition.name = draft.column :=
      (attached definition there held has).symm.trans (same.1.trans column)
    have carried :
        Rebuild.Carries (Rebuild.keptColumns snapshot Dropped.none) draft.column held := by
      rw [Rebuild.keptColumns_none]
      exact ⟨definition, there, named, has⟩
    exact ⟨held, Rebuild.made_of_kept blueprint.table carried
      (unreplaced_of_declared isResolved declared held.name), same⟩

end Rebuilt

/--
What becomes of a declared foreign key, where nothing is dropped.

In place it is always added.  A rebuild makes it on a column that is new, or
live and not declared; on a column that is live and declared, the new table has
such a foreign key exactly when the live one has.
-/
theorem foreign_key_made_iff_column_merged
    {blueprint : Blueprint}
    (noDrops : blueprint.dropped = Dropped.none)
    (distinct : (blueprint.foreignKeys.map ForeignKeyDraft.name).Nodup)
    {inPlace anew : Dialect}
    {resolvedInPlace resolvedAnew : Resolved}
    (isResolvedInPlace : (blueprint.resolve inPlace).outcome = .ok resolvedInPlace)
    (isResolvedAnew : (blueprint.resolve anew).outcome = .ok resolvedAnew)
    {view : Introspection}
    {live : List LiveColumn}
    (reported : (view.columns blueprint.table).outcome = .ok live)
    {snapshot : Snapshot}
    (loaded : (Snapshot.load view blueprint.table).outcome = .ok snapshot)
    {altered rebuilt : List Statement}
    (alters :
      (plan inPlace blueprint.table live resolvedInPlace blueprint.dropped).outcome =
        .ok altered)
    (rebuilds :
      (Rebuild.plan anew blueprint.table snapshot resolvedAnew blueprint.dropped).outcome =
        .ok rebuilt) :
    ∃ made,
      Rebuild.madeTables blueprint.table rebuilt = [made] ∧
        ∀ draft ∈ blueprint.foreignKeys,
          ∃ key,
            draft.complete = .ok key ∧
              .addForeignKey blueprint.table key ∈ altered ∧
                (draft.column ∉ live.map LiveColumn.name ∨
                    blueprint.declares draft.column = false →
                  key ∈ made.foreignKeys) ∧
                  (draft.column ∈ live.map LiveColumn.name →
                    blueprint.declares draft.column = true →
                      ((∃ clause ∈ made.foreignKeys, clause.SameReference key) ↔
                        ∃ held ∈ Rebuild.heldForeignKeys snapshot.columns,
                          held.SameReference key)) := by
  rw [noDrops] at rebuilds
  have merges := (Rebuild.plan_ok rebuilds).1
  have names := Snapshot.columnNames_of_load loaded reported
  refine ⟨_, Rebuild.madeTables_plan rebuilds, ?_⟩
  intro draft member
  obtain ⟨key, complete, _⟩ := Blueprint.complete_of_resolve isResolvedAnew member
  rw [← names]
  exact ⟨key, complete,
    addForeignKey_mem_plan_of_declared isResolvedInPlace alters member complete,
    made_of_declared isResolvedAnew member complete distinct merges,
    made_iff_held isResolvedAnew complete (Snapshot.attached_of_load loaded)⟩

/-- What a database reports of the table with two columns. -/
def notedView : Introspection where
  tableNames := pure ["runs"]
  columns _ := pure notedColumns
  primaryKey _ := pure []
  foreignKeys _ := pure []
  indexes _ := pure []

/-- A foreign key of the table, from a column to the experiments. -/
def toExperiments (column : String) : ForeignKeyDraft :=
  { ForeignKeyDraft.onColumn "runs" column with
    refTable := some "experiments", refColumn := some "id" }

/-- An alter of the table that declares columns and foreign keys to the experiments. -/
def referringBlueprint (columns : List Column) (referring : List String) : Blueprint :=
  { columnBlueprint columns [] with foreignKeys := referring.map toExperiments }

/-- The complete foreign key from a column to the experiments. -/
def referringKey (column : String) : ForeignKey :=
  ⟨Key.defaultName "runs" [column] .foreign, column, "experiments", "id", none, none⟩

/-- A new column with a foreign key, and a foreign key on a column that is not declared. -/
def referringResolved : Resolved :=
  ⟨[⟨"experiment", ⟨"INTEGER", []⟩, false, none, false, false, [referringKey "experiment"]⟩],
    [], [referringKey "note"]⟩

/-- Foreign keys on a new column and on a live one that is not declared come both ways. -/
theorem foreign_keys_made_on_new_and_undeclared_columns :
    ∃ altered rebuilt made,
      (plan .postgres "runs" notedColumns referringResolved Dropped.none).outcome =
          .ok altered ∧
        (Rebuild.plan .duckdb "runs" notedSnapshot referringResolved
            Dropped.none).outcome = .ok rebuilt ∧
          Rebuild.madeTables "runs" rebuilt = [made] ∧
            ∀ draft ∈ ["experiment", "note"].map toExperiments,
              ∃ key,
                draft.complete = .ok key ∧
                  .addForeignKey "runs" key ∈ altered ∧
                    key ∈ made.foreignKeys := by
  have isResolved
      (dialect : Dialect)
      (either : dialect = .postgres ∨ dialect = .duckdb) :
      ((referringBlueprint [.simple "experiment" .integer]
        ["experiment", "note"]).resolve dialect).outcome = .ok referringResolved := by
    rcases either with rfl | rfl <;> rfl
  have reported : (notedView.columns "runs").outcome = .ok notedColumns :=
    rfl
  have loaded : (Snapshot.load notedView "runs").outcome = .ok notedSnapshot :=
    rfl
  have alters :
      (plan .postgres "runs" notedColumns referringResolved Dropped.none).outcome = .ok _ :=
    rfl
  have rebuilds :
      (Rebuild.plan .duckdb "runs" notedSnapshot referringResolved
        Dropped.none).outcome = .ok _ :=
    rfl
  obtain ⟨made, isMade, each⟩ :=
    foreign_key_made_iff_column_merged rfl (by decide) (isResolved .postgres (.inl rfl))
      (isResolved .duckdb (.inr rfl)) reported loaded alters rebuilds
  refine ⟨_, _, made, alters, rebuilds, isMade, ?_⟩
  intro draft member
  obtain ⟨key, complete, added, makes, _⟩ := each draft member
  have apart :
      ∀ draft ∈ ["experiment", "note"].map toExperiments,
        draft.column ∉ notedColumns.map LiveColumn.name ∨
          (referringBlueprint [.simple "experiment" .integer]
            ["experiment", "note"]).declares draft.column = false := by
    decide
  exact ⟨key, complete, added, makes (apart draft member)⟩

/--
A foreign key on a column that is live and declared again is added in place,
and the table that a rebuild makes has none.
-/
theorem foreign_key_on_merged_column_not_made :
    ∃ resolved altered rebuilt made,
      ((referringBlueprint [.simple "id" .integer] ["id"]).resolve .postgres).outcome =
          .ok resolved ∧
        ((referringBlueprint [.simple "id" .integer] ["id"]).resolve .duckdb).outcome =
            .ok resolved ∧
          (Snapshot.load notedView "runs").outcome = .ok notedSnapshot ∧
            (plan .postgres "runs" notedColumns resolved Dropped.none).outcome =
                .ok altered ∧
              (Rebuild.plan .duckdb "runs" notedSnapshot resolved
                  Dropped.none).outcome = .ok rebuilt ∧
                Rebuild.madeTables "runs" rebuilt = [made] ∧
                  altered = [.addForeignKey "runs" (referringKey "id")] ∧
                    made.foreignKeys = [] :=
  ⟨_, _, _, _, rfl, rfl, rfl, rfl, rfl, rfl, rfl, rfl⟩

end Alteration

end SchemaMigration
