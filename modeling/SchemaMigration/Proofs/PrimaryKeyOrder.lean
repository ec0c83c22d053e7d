import Mathlib.Data.List.Count
import SchemaMigration.Proofs.Creation
import SchemaMigration.Proofs.Rebuild.PrimaryKey
import SchemaMigration.Proofs.Sql.Identifier

namespace SchemaMigration

/-!
# The order of a primary key

A statement that adds a primary key has the columns in the order of the key.  A
table is made with the columns that are told to belong to its key, and these
are in the order of the table.  So a key that is made with its table keeps its
order exactly where the table has the columns in that order as well; a rebuild
makes a live key of another order over the same columns in the order of the
table.
-/

/-- Whether columns stand among the names of a table in their order, and no more often. -/
def InTableOrder (columns names : List String) : Prop :=
  columns.Sublist names ∧ ∀ name ∈ columns, names.count name = columns.count name

/-- The names that are among columns are the columns where these are in order. -/
theorem filter_contains_eq_iff
    {columns names : List String} :
    names.filter columns.contains = columns ↔ InTableOrder columns names := by
  have counted {name : String} (listed : name ∈ columns) :
      (names.filter columns.contains).count name = names.count name :=
    List.count_filter (by simpa using listed)
  constructor
  · intro same
    refine ⟨same ▸ List.filter_sublist, fun name listed => ?_⟩
    rw [← counted listed, same]
  · rintro ⟨inOrder, sameCounts⟩
    have kept : columns.Sublist (names.filter columns.contains) := by
      have filtered := inOrder.filter columns.contains
      rwa [List.filter_eq_self.mpr (by simp)] at filtered
    have sameItems : columns.Perm (names.filter columns.contains) := by
      rw [List.perm_iff_count]
      intro name
      by_cases listed : name ∈ columns
      · rw [counted listed, sameCounts name listed]
      · rw [List.count_eq_zero_of_not_mem listed,
          List.count_eq_zero_of_not_mem (by simp [listed])]
    exact (kept.eq_of_length sameItems.length_eq).symm

namespace Statement

open Sql Rebuild

/-! ## The clause of a primary key -/

/-- Whether the primary key of a table, if it has one, is written over columns in this order. -/
def WritesPrimary
    (dialect : Dialect)
    (table : TableDefinition)
    (columns : List String) :
    Prop :=
  ∀ key,
    table.primary = some key →
      primaryKeyText dialect key = primaryKeyText dialect ⟨key.name, columns⟩

theorem quoteList_inj
    {dialect : Dialect}
    {first second : List String}
    (firstNonempty : first ≠ [])
    (secondNonempty : second ≠ []) :
    quoteList dialect first = quoteList dialect second ↔ first = second := by
  constructor
  · intro same
    have sameText :
        (quoteList dialect first).toList ++ [] = (quoteList dialect second).toList ++ [] := by
      rw [same]
    exact (quoteList_append_inj (by simp) (by simp) firstNonempty secondNonempty (by simp)
      (by simp) sameText).1
  · exact fun same => same ▸ rfl

/-- What a clause has in front of its columns does not depend on them. -/
theorem primaryKeyText_shape
    (dialect : Dialect)
    (name : Option String) :
    ∃ opening,
      ∀ columns,
        (primaryKeyText dialect ⟨name, columns⟩).toList =
          opening ++ ((quoteList dialect columns).toList ++ [')']) := by
  have bare (columns : List String) :
      (s!"PRIMARY KEY ({quoteList dialect columns})").toList =
        "PRIMARY KEY (".toList ++ ((quoteList dialect columns).toList ++ [')']) := by
    simp [toString]
  cases name with
  | none =>
      refine ⟨"PRIMARY KEY (".toList, fun columns => ?_⟩
      rw [← bare]
      cases dialect <;> rfl
  | some name =>
      by_cases unnamed : dialect = .duckdb ∨ dialect = .mysql
      · refine ⟨"PRIMARY KEY (".toList, fun columns => ?_⟩
        rw [← bare]
        rcases unnamed with rfl | rfl <;> rfl
      · refine ⟨("CONSTRAINT " ++ quote dialect name ++ " ").toList ++ "PRIMARY KEY (".toList,
          fun columns => ?_⟩
        rw [List.append_assoc, ← bare, ← String.toList_append]
        cases dialect <;> simp_all [primaryKeyText]

/-- A clause tells the columns of its key, in their order. -/
theorem primaryKeyText_eq_iff
    (dialect : Dialect)
    (name : Option String)
    {first second : List String}
    (firstNonempty : first ≠ [])
    (secondNonempty : second ≠ []) :
    primaryKeyText dialect ⟨name, first⟩ = primaryKeyText dialect ⟨name, second⟩ ↔
      first = second := by
  obtain ⟨opening, shape⟩ := primaryKeyText_shape dialect name
  rw [← String.toList_inj, shape, shape, List.append_cancel_left_eq,
    List.append_cancel_right_eq, String.toList_inj, quoteList_inj firstNonempty secondNonempty]

/--
A table whose primary key has those of its columns that a key lists is written
with the key where the columns of the key stand in the order of the table.
-/
theorem writesPrimary_iff
    {dialect : Dialect}
    {made : TableDefinition}
    {columns names : List String}
    (there : ∀ name ∈ columns, name ∈ names)
    (covered :
      made.primary.map PrimaryKey.columns =
        if names.filter columns.contains = [] then none
        else some (names.filter columns.contains)) :
    WritesPrimary dialect made columns ↔ InTableOrder columns names := by
  rw [← filter_contains_eq_iff]
  cases columns with
  | nil =>
      have unkeyed : made.primary = none := by
        simpa using covered
      refine iff_of_true ?_ (by simp)
      intro key isPrimary
      rw [unkeyed] at isPrimary
      cases isPrimary
  | cons first rest =>
      have nonempty : names.filter (first :: rest).contains ≠ [] :=
        List.ne_nil_of_mem (a := first) (by simp [there])
      rw [if_neg nonempty, Option.map_eq_some_iff] at covered
      obtain ⟨⟨name, kept⟩, isPrimary, rfl⟩ := covered
      rw [← primaryKeyText_eq_iff dialect name nonempty (by simp)]
      simp [WritesPrimary, isPrimary]

end Statement

/-! ## Making tables -/

open Statement Rebuild

/-- The columns that are marked for a key belong to it in the order of the table. -/
theorem primaryNames_of_marked
    {key : Key}
    {columns : List ColumnDefinition}
    (marked : Marked key columns) :
    primaryNames columns =
      (columns.map ColumnDefinition.name).filter key.columns.contains := by
  rw [primaryNames, List.filter_congr marked, List.filter_map]
  rfl

/-- Making a table writes a key that its columns are marked for where it is in their order. -/
theorem createAll_writesPrimary_iff
    (dialect : Dialect)
    (table : String)
    {columns : List ColumnDefinition}
    (keys : List Key)
    {key : Key}
    (marked : Marked key columns)
    (there : ∀ name ∈ key.columns, name ∈ columns.map ColumnDefinition.name) :
    ∃ made,
      madeTables table (createAll dialect table columns keys) = [made] ∧
        (WritesPrimary dialect made key.columns ↔
          InTableOrder key.columns (columns.map ColumnDefinition.name)) := by
  refine ⟨_, by rw [madeTables_createAll, if_pos rfl], writesPrimary_iff there ?_⟩
  rw [columns_primaryOf, primaryNames_of_marked marked]

/-- Creating a table makes it once. -/
theorem madeTables_creation
    (dialect : Dialect)
    (table : String)
    (resolved : Resolved) :
    madeTables table (Blueprint.creation dialect table resolved) =
      madeTables table (createAll dialect table resolved.columns resolved.keys) := by
  have added :
      madeTables table ((Blueprint.strayPrimaryKeys resolved).map (addPrimary table)) = [] := by
    simp [madeTables, List.filterMap_eq_nil_iff, addPrimary, madeTable?]
  have loose : madeTables table (resolved.foreignKeys.map (.addForeignKey table)) = [] := by
    simp [madeTables, List.filterMap_eq_nil_iff, madeTable?]
  rw [madeTables] at added loose ⊢
  rw [Blueprint.creation, List.filterMap_append, List.filterMap_append, added, loose,
    List.append_nil, List.append_nil, madeTables]

/-- Where no other primary key has columns beside those of a key, the columns are marked for it. -/
theorem Blueprint.marked_of_resolve
    {blueprint : Blueprint}
    {dialect : Dialect}
    {resolved : Resolved}
    (isResolved : (blueprint.resolve dialect).outcome = .ok resolved)
    {key : Key}
    (declared : key ∈ blueprint.keys)
    (isPrimary : key.isPrimary = true)
    (widest :
      ∀ other ∈ blueprint.keys,
        other.isPrimary = true → ∀ name ∈ other.columns, name ∈ key.columns) :
    Marked key resolved.columns := by
  intro column member
  rw [Bool.eq_iff_iff, isPrimary_iff_of_resolve isResolved member, Key.covers,
    List.contains_iff_mem]
  constructor
  · rintro ⟨other, isDeclared, alsoPrimary, covered⟩
    exact widest other isDeclared alsoPrimary _ covered
  · exact fun covered => ⟨key, declared, isPrimary, covered⟩

/-! ## Live keys -/

section Loaded

variable
  {view : Introspection}
  {table : String}
  {snapshot : Snapshot}
  (loaded : (Snapshot.load view table).outcome = .ok snapshot)
  {primary : List String}
  (primaryReported : (view.primaryKey table).outcome = .ok primary)

include loaded primaryReported

/-- The columns of a snapshot belong to the key that the database reports. -/
theorem Snapshot.isPrimary_of_load
    {column : ColumnDefinition}
    (member : column ∈ snapshot.columns) :
    column.isPrimary = primary.contains column.name := by
  obtain ⟨listed, foreignKeys, columns, _, primaryRead, _, _, _, shape, _⟩ := load_ok loaded
  cases primaryReported.symm.trans primaryRead
  have read :
      (column.name, column.isPrimary) ∈
        (columns.map (columnOf primary)).map (fun column => (column.name, column.isPrimary)) := by
    rw [← map_foldl_attach (fun _ _ => rfl) (foreignKeys.filterMap (foreignKeyOf? table)), ← shape]
    exact List.mem_map_of_mem member
  simp only [List.map_map, List.mem_map, Function.comp_apply, columnOf, Prod.mk.injEq] at read
  obtain ⟨_, _, named, flagged⟩ := read
  rw [← flagged, named]

/-- A live key that a rebuild leaves alone has its columns in the order of the table. -/
theorem stayingPrimary_of_load
    {live : List LiveColumn}
    (columnsReported : (view.columns table).outcome = .ok live)
    {dropped : Dropped}
    (stays : ¬ DropsPrimary snapshot dropped) :
    stayingPrimary snapshot dropped =
      (live.map LiveColumn.name).filter primary.contains := by
  have undropped {name : String} (listed : name ∈ primary) : name ∉ dropped.columns := by
    intro isDropped
    exact stays (.inr ⟨name, isDropped,
      (Snapshot.mem_primaryColumns_of_load loaded primaryReported).mpr listed⟩)
  have released : releasedColumns dropped = [] := by
    rw [List.eq_nil_iff_forall_not_mem]
    intro name isReleased
    obtain ⟨drop, isDropped, isPrimary, _⟩ := mem_releasedColumns.mp isReleased
    exact stays (.inl ⟨drop, isDropped, isPrimary⟩)
  have picks :
      ∀ column ∈ snapshot.columns,
        (column.isPrimary &&
            (!dropped.columns.contains column.name &&
              !(releasedColumns dropped).contains column.name)) =
          primary.contains column.name := by
    intro column member
    rw [Snapshot.isPrimary_of_load loaded primaryReported member, released]
    by_cases listed : column.name ∈ primary
    · simp [listed, undropped listed]
    · simp [listed]
  rw [stayingPrimary, primaryNames, List.filter_filter, List.filter_congr picks,
    ← Snapshot.columnNames_of_load loaded columnsReported, Snapshot.columnNames, List.filter_map]
  rfl

end Loaded

/-! ## The order that is kept -/

/--
Adding a primary key keeps the order of its columns; a table is made with a key
in its order exactly where the table has the columns in that order.

This is so wherever a table is made whose columns are marked for the key.  It is
so for a declared key that covers those of all others, when its table is
created, and for the live key, when its table is rebuilt and it is left alone.
-/
theorem primary_key_order_kept_iff (dialect : Dialect) :
    (∀ table key,
      render dialect (addPrimary table key) =
        alterText dialect table ++ " ADD " ++
          primaryKeyText dialect ⟨some key.name, key.columns⟩) ∧
      (∀ table columns keys key,
        Marked key columns →
          (∀ name ∈ key.columns, name ∈ columns.map ColumnDefinition.name) →
            ∃ made,
              madeTables table (createAll dialect table columns keys) = [made] ∧
                (WritesPrimary dialect made key.columns ↔
                  InTableOrder key.columns (columns.map ColumnDefinition.name))) ∧
      (∀ (blueprint : Blueprint) view planned,
        (view.hasTable blueprint.table).outcome = .ok false →
          (blueprint.planCreate dialect view).outcome = .ok planned →
            ∃ made,
              madeTables blueprint.table planned = [made] ∧
                ∀ key ∈ blueprint.keys,
                  key.isPrimary = true →
                    (∀ other ∈ blueprint.keys,
                      other.isPrimary = true → ∀ name ∈ other.columns, name ∈ key.columns) →
                      (∀ name ∈ key.columns, blueprint.declares name = true) →
                        (WritesPrimary dialect made key.columns ↔
                          InTableOrder key.columns (blueprint.columns.map Column.name))) ∧
      ∀ (blueprint : Blueprint) view snapshot primary live resolved planned,
        (Snapshot.load view blueprint.table).outcome = .ok snapshot →
          (view.primaryKey blueprint.table).outcome = .ok primary →
            (view.columns blueprint.table).outcome = .ok live →
              (∀ name ∈ primary, name ∈ live.map LiveColumn.name) →
                (∀ key ∈ blueprint.keys, key.isPrimary = false) →
                  ¬ DropsPrimary snapshot blueprint.dropped →
                    (blueprint.resolve dialect).outcome = .ok resolved →
                      (Rebuild.plan dialect blueprint.table snapshot resolved
                          blueprint.dropped).outcome = .ok planned →
                        ∃ made,
                          madeTables blueprint.table planned = [made] ∧
                            (WritesPrimary dialect made primary ↔
                              InTableOrder primary (live.map LiveColumn.name)) := by
  refine ⟨fun _ _ => rfl, ?making, ?creating, ?rebuilding⟩
  case making =>
    intro table columns keys key marked there
    exact createAll_writesPrimary_iff dialect table keys marked there
  case creating =>
    intro blueprint view planned absent planning
    obtain ⟨resolved, isResolved, rfl⟩ := Blueprint.planCreate_ok absent planning
    rw [madeTables_creation]
    refine ⟨_, by rw [madeTables_createAll, if_pos rfl], ?_⟩
    intro key isDeclared isPrimary widest declared
    have marked := Blueprint.marked_of_resolve isResolved isDeclared isPrimary widest
    have there : ∀ name ∈ key.columns, name ∈ resolved.columns.map ColumnDefinition.name :=
      fun name covered =>
        (Blueprint.declares_iff_of_resolve isResolved).mp (declared name covered)
    obtain ⟨made, isMade, written⟩ :=
      createAll_writesPrimary_iff dialect blueprint.table resolved.keys marked there
    rw [madeTables_createAll, if_pos rfl, List.singleton_inj] at isMade
    rw [← Blueprint.names_of_resolve isResolved, isMade]
    exact written
  case rebuilding =>
    intro blueprint view snapshot primary live resolved planned loaded primaryReported
      columnsReported listed noPrimary stays isResolved succeeded
    obtain ⟨noPrimaryKey, noPrimaryColumn⟩ :=
      Blueprint.no_primary_of_resolve isResolved noPrimary
    refine ⟨_, madeTables_plan succeeded, writesPrimary_iff listed ?_⟩
    rw [primary_newTable _ _ _ noPrimaryKey noPrimaryColumn,
      stayingPrimary_of_load loaded primaryReported columnsReported stays]

/-- A table to create with a primary key over its two columns, in either order. -/
def orderedBlueprint (listed : List String) : Blueprint where
  table := "runs"
  purpose := .create
  columns := [.ofType "a" .integer .none, .ofType "b" .integer .none]
  keys := [Key.declared "runs" listed .primary none]
  foreignKeys := []
  dropped := Dropped.none

/-- What a database reports of the table, once it has the key. -/
def orderedView (listed : List String) : Introspection where
  tableNames := pure ["runs"]
  columns _ := pure [⟨"a", "INTEGER", false, none⟩, ⟨"b", "INTEGER", false, none⟩]
  primaryKey _ := pure listed
  foreignKeys _ := pure []
  indexes _ := pure []

/-- A key in the order of the columns is created and rebuilt in this order. -/
theorem key_in_table_order_kept :
    ∃ created rebuilt made again,
      ((orderedBlueprint ["a", "b"]).planCreate .duckdb Blueprint.emptyView).outcome =
          .ok created ∧
        madeTables "runs" created = [made] ∧
          WritesPrimary .duckdb made ["a", "b"] ∧
            (Rebuild.plan .duckdb "runs" compositeSnapshot ⟨[], [], []⟩ Dropped.none).outcome =
                .ok rebuilt ∧
              madeTables "runs" rebuilt = [again] ∧
                WritesPrimary .duckdb again ["a", "b"] := by
  obtain ⟨_, _, creating, rebuilding⟩ := primary_key_order_kept_iff .duckdb
  have created :
      ((orderedBlueprint ["a", "b"]).planCreate .duckdb Blueprint.emptyView).outcome = .ok _ :=
    rfl
  have rebuilt :
      (Rebuild.plan .duckdb "runs" compositeSnapshot ⟨[], [], []⟩ Dropped.none).outcome = .ok _ :=
    rfl
  have inOrder : InTableOrder ["a", "b"] ["a", "b"] :=
    filter_contains_eq_iff.mp rfl
  have stays : ¬ DropsPrimary compositeSnapshot Dropped.none := by
    rintro (⟨_, isDropped, _⟩ | ⟨_, isDropped, _⟩) <;> cases isDropped
  obtain ⟨made, isMade, kept⟩ :=
    creating (orderedBlueprint ["a", "b"]) Blueprint.emptyView _ rfl created
  obtain ⟨again, isMadeAgain, keptAgain⟩ :=
    rebuilding (droppingBlueprint [] []) compositeView compositeSnapshot _ _ _ _ rfl rfl rfl
      (by decide) (by simp [droppingBlueprint]) stays rfl rebuilt
  refine ⟨_, _, made, again, created, isMade, ?_, rebuilt, isMadeAgain, keptAgain.mpr inOrder⟩
  exact (kept (Key.declared "runs" ["a", "b"] .primary none) (.head _) rfl (by decide)
    (by decide)).mpr inOrder

/-- A key in the other order is created and rebuilt in the order of the columns. -/
theorem key_out_of_table_order_not_kept :
    ∃ created rebuilt made again snapshot,
      ((orderedBlueprint ["b", "a"]).planCreate .duckdb Blueprint.emptyView).outcome =
          .ok created ∧
        madeTables "runs" created = [made] ∧
          made.primary = some ⟨some "runs_b_a_primary", ["a", "b"]⟩ ∧
            ¬ WritesPrimary .duckdb made ["b", "a"] ∧
      (Snapshot.load (orderedView ["b", "a"]) "runs").outcome = .ok snapshot ∧
        (Rebuild.plan .duckdb "runs" snapshot ⟨[], [], []⟩ Dropped.none).outcome =
            .ok rebuilt ∧
          madeTables "runs" rebuilt = [again] ∧
            again.primary = some ⟨some "runs_b_a_primary", ["a", "b"]⟩ ∧
              ¬ WritesPrimary .duckdb again ["b", "a"] := by
  refine ⟨_, _, _, _, _, rfl, rfl, rfl, ?_, rfl, rfl, rfl, rfl, ?_⟩
  all_goals exact fun written => absurd (written _ rfl) (by decide)

end SchemaMigration
