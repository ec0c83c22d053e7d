import SchemaMigration.Proofs.Rebuild.Completion
import SchemaMigration.Schema.Declaration

namespace SchemaMigration

/-!
# Rebuilds that add columns

An alter that only adds columns keeps every row when each added column takes
nulls or is filled in.  Nothing else is checked when the rebuild is planned: a
column that takes no nulls and is not filled in is planned as well, and then
the rows do not fit into the new table, which has taken the place of the live
one by then.
-/

namespace InsertRules

/--
The rules that the definitions of columns state, for values that defaults and
generation give in a dialect.

A column that is not listed is generated where its text says so, and takes its
default otherwise; a row may stand in a table when it is not null in the
columns that take no nulls.
-/
def stated
    (dialect : Dialect)
    (table : String)
    (evaluate : DefaultValue → Nat → Option ν)
    (generate : ColumnDefinition → Nat → ν) :
    InsertRules ν where
  fill column number :=
    if column.autoincrement &&
        (Statement.generationClause? dialect table column.name).isSome then
      some (generate column number)
    else
      column.default.bind (fun value => evaluate value number)
  accepts columns row :=
    columns.all (fun column => column.nullable || (row column.name).isSome)

/-- Whether columns that are not listed take nulls or are filled in, row by row. -/
def Fits
    (rules : InsertRules ν)
    (added : List ColumnDefinition)
    (count : Nat) :
    Prop :=
  ∀ column ∈ added,
    ∀ number < count,
      column.nullable = true ∨ (rules.fill column number).isSome = true

/-- Rows are those from before in known columns, with the added columns filled in. -/
def Extend
    (rules : InsertRules ν)
    (known : List String)
    (added : List ColumnDefinition)
    (rows extended : List (Row ν)) :
    Prop :=
  extended.map (fun row => row.values known) =
      rows.map (fun row => row.values known) ∧
    ∀ column ∈ added,
      extended.map (fun row => row column.name) =
        (List.range rows.length).map (rules.fill column)

end InsertRules

namespace Rebuild

open Statement

/-! ## What only adds columns -/

/-- Declared columns without keys resolve to columns only. -/
theorem resolved_of_columns
    {blueprint : Blueprint}
    {dialect : Dialect}
    {resolved : Resolved}
    (isResolved : (blueprint.resolve dialect).outcome = .ok resolved)
    (noKeys : blueprint.keys = [])
    (noForeignKeys : blueprint.foreignKeys = []) :
    resolved.keys = [] ∧ resolved.foreignKeys = [] := by
  have onColumns :
      blueprint.columns.flatMap (fun column => blueprint.keysOn column.name) = [] := by
    rw [List.flatMap_eq_nil_iff]
    simp [Blueprint.keysOn, noKeys]
  have ordered : blueprint.orderedKeys = [] := by
    simp [Blueprint.orderedKeys, onColumns, noKeys, Key.firstOfEachName]
  have loose : blueprint.looseForeignKeys = [] := by
    simp [Blueprint.looseForeignKeys, noForeignKeys]
  simp only [Blueprint.resolve, loose, ordered, Traced.outcome_bind_eq_ok,
    Traced.outcome_each_eq_ok, List.forall₂_nil_left_iff, Traced.outcome_pure,
    Except.ok.injEq] at isResolved
  obtain ⟨_, _, _, rfl, rfl⟩ := isResolved
  exact ⟨rfl, rfl⟩

/-- Where columns are added only, the table to make has the live ones and then these. -/
theorem columns_finalDraft_of_columns
    (snapshot : Snapshot)
    {resolved : Resolved}
    (noKeys : resolved.keys = [])
    (noForeignKeys : resolved.foreignKeys = []) :
    (finalDraft snapshot resolved Dropped.none).columns =
      snapshot.columns ++ addedColumns snapshot.columns resolved.columns := by
  simp [finalDraft, keyedDraft, mergedColumns, noKeys, noForeignKeys,
    keptColumns_none, foldl_withColumn]

/-! ## What the new table takes -/

section Copied

variable
  {known declared : List ColumnDefinition}

/-- The value of a live column stays. -/
theorem complete_known
    (rules : InsertRules ν)
    {column : ColumnDefinition}
    (member : column ∈ known)
    (number : Nat)
    (row : Row ν) :
    rules.complete (known.map ColumnDefinition.name)
        (known ++ addedColumns known declared) number row column.name =
      row column.name := by
  have listed : column.name ∈ known.map ColumnDefinition.name :=
    List.mem_map_of_mem member
  simp [InsertRules.complete, listed]

/-- An added column is filled in. -/
theorem complete_added
    (rules : InsertRules ν)
    {column : ColumnDefinition}
    (member : column ∈ addedColumns known declared)
    (number : Nat)
    (row : Row ν) :
    rules.complete (known.map ColumnDefinition.name)
        (known ++ addedColumns known declared) number row column.name =
      rules.fill column number := by
  have unlisted :
      (known.map ColumnDefinition.name).contains column.name = false := by
    have unknown := hasColumn_addedColumns member
    simp only [hasColumn, List.any_eq_false, decide_eq_true_eq] at unknown
    rw [Bool.eq_false_iff]
    intro listed
    obtain ⟨other, live, same⟩ := List.mem_map.mp (List.contains_iff_mem.mp listed)
    exact unknown other live same
  rw [InsertRules.complete, unlisted, find_addedColumns member]
  rfl

/-- The new table takes a row exactly when the added columns do. -/
theorem accepts_complete_iff
    {dialect : Dialect}
    {table : String}
    {evaluate : DefaultValue → Nat → Option ν}
    {generate : ColumnDefinition → Nat → ν}
    {row : Row ν}
    (lawful : ∀ column ∈ known, column.nullable = true ∨ (row column.name).isSome = true)
    (number : Nat) :
    let rules := InsertRules.stated dialect table evaluate generate
    rules.accepts (known ++ addedColumns known declared)
        (rules.complete (known.map ColumnDefinition.name)
          (known ++ addedColumns known declared) number row) = true ↔
      ∀ column ∈ addedColumns known declared,
        column.nullable = true ∨ (rules.fill column number).isSome = true := by
  intro rules
  have accepted
      (columns : List ColumnDefinition)
      (completed : Row ν) :
      rules.accepts columns completed = true ↔
        ∀ column ∈ columns,
          column.nullable = true ∨ (completed column.name).isSome = true := by
    simp [rules, InsertRules.stated]
  rw [accepted]
  constructor
  · intro fits column member
    have fit := fits column (List.mem_append_right known member)
    rwa [complete_added rules member] at fit
  · intro fits column member
    rcases List.mem_append.mp member with live | added
    · rw [complete_known rules live]
      exact lawful column live
    · rw [complete_added rules added]
      exact fits column added

/-- The new table takes all rows exactly when the added columns fit. -/
theorem accepts_copied_iff
    {dialect : Dialect}
    {table : String}
    {evaluate : DefaultValue → Nat → Option ν}
    {generate : ColumnDefinition → Nat → ν}
    {rows : List (Row ν)}
    (lawful :
      ∀ row ∈ rows,
        ∀ column ∈ known,
          column.nullable = true ∨ (row column.name).isSome = true) :
    let rules := InsertRules.stated dialect table evaluate generate
    (rules.copied (known.map ColumnDefinition.name)
          (known ++ addedColumns known declared) rows).all
        (rules.accepts (known ++ addedColumns known declared)) = true ↔
      rules.Fits (addedColumns known declared) rows.length := by
  intro rules
  simp only [InsertRules.copied, List.all_eq_true, List.mem_mapIdx,
    InsertRules.Fits]
  constructor
  · intro taken column member number bound
    have fits :=
      (accepts_complete_iff (lawful _ (List.getElem_mem bound)) number).mp
        (taken _ ⟨number, bound, rfl⟩)
    exact fits column member
  · rintro fits _ ⟨number, bound, rfl⟩
    exact (accepts_complete_iff (lawful _ (List.getElem_mem bound)) number).mpr
      (fun column member => fits column member number bound)

end Copied

/-- The temporary table takes every row. -/
theorem accepts_copiedColumns
    (dialect : Dialect)
    (table : String)
    (evaluate : DefaultValue → Nat → Option ν)
    (generate : ColumnDefinition → Nat → ν)
    (snapshot : Snapshot)
    (copied : List String)
    (row : Row ν) :
    (InsertRules.stated dialect table evaluate generate).accepts
      (copiedColumns snapshot copied) row = true := by
  simp only [InsertRules.stated, copiedColumns, List.all_eq_true, List.mem_map]
  rintro _ ⟨column, _, rfl⟩
  rfl

/-- Copying extends the rows by the added columns. -/
theorem extend_copied
    (rules : InsertRules ν)
    (known declared : List ColumnDefinition)
    (rows : List (Row ν)) :
    rules.Extend (known.map ColumnDefinition.name) (addedColumns known declared) rows
      (rules.copied (known.map ColumnDefinition.name)
        (known ++ addedColumns known declared) rows) := by
  refine ⟨rules.values_copied _ _ rows, ?_⟩
  intro column member
  refine List.ext_getElem (by simp [InsertRules.copied]) ?_
  intro number _ _
  simp [InsertRules.copied, complete_added rules member]

/--
A rebuild that only adds columns keeps every row exactly when the added columns
fit; otherwise it fails, and not before the table was made anew without rows.

The rows were not null in the live columns that take no nulls, and no temporary
table was left over.
-/
theorem addition_completes_iff_fits
    {dialect : Dialect}
    {blueprint : Blueprint}
    (noKeys : blueprint.keys = [])
    (noForeignKeys : blueprint.foreignKeys = [])
    (noDrops : blueprint.dropped = Dropped.none)
    {resolved : Resolved}
    (isResolved : (blueprint.resolve dialect).outcome = .ok resolved)
    {snapshot : Snapshot}
    (nonempty : snapshot.columns ≠ [])
    {planned : List Statement}
    (succeeded :
      (plan dialect blueprint.table snapshot resolved blueprint.dropped).outcome =
        .ok planned)
    (evaluate : DefaultValue → Nat → Option ν)
    (generate : ColumnDefinition → Nat → ν)
    {tables : Tables ν}
    {live : StoredTable ν}
    (found : tables blueprint.table = some live)
    (described : live.columnNames = snapshot.columnNames)
    (spare : tables (temporaryName blueprint.table) = none)
    (lawful :
      ∀ row ∈ live.rows,
        ∀ column ∈ snapshot.columns,
          column.nullable = true ∨ (row column.name).isSome = true) :
    let rules := InsertRules.stated dialect blueprint.table evaluate generate
    let added := addedColumns snapshot.columns resolved.columns
    (rules.Fits added live.rows.length →
        ∃ extended,
          performAll rules tables planned =
              some (Function.update tables blueprint.table
                (some ⟨snapshot.columns ++ added, extended⟩)) ∧
            rules.Extend snapshot.columnNames added live.rows extended) ∧
      (¬ rules.Fits added live.rows.length →
        performAll rules tables planned = none ∧
          ∃ executed reached,
            executed <+: planned ∧
              performAll rules tables executed = some reached ∧
                reached blueprint.table = some ⟨snapshot.columns ++ added, []⟩) := by
  intro rules added
  obtain ⟨keysResolved, foreignKeysResolved⟩ :=
    resolved_of_columns isResolved noKeys noForeignKeys
  rw [noDrops] at succeeded
  obtain ⟨_, rfl⟩ := plan_ok succeeded
  have columns :=
    columns_finalDraft_of_columns snapshot keysResolved foreignKeysResolved
  rw [keptColumns_none]
  have kept : snapshot.columns.map ColumnDefinition.name ≠ [] := by
    simpa using nonempty
  have listed :
      live.hasColumns (snapshot.columns.map ColumnDefinition.name) = true := by
    simp only [StoredTable.hasColumns, described, List.all_eq_true, List.contains_iff_mem]
    exact fun _ => id
  have taken :
      (rules.copied snapshot.columnNames
          (copiedColumns snapshot snapshot.columnNames) live.rows).all
        (rules.accepts (copiedColumns snapshot snapshot.columnNames)) = true :=
    List.all_eq_true.mpr (fun row _ =>
      accepts_copiedColumns dialect blueprint.table evaluate generate snapshot _ row)
  have merged :
      ∀ name ∈ snapshot.columnNames,
        name ∈ (finalDraft snapshot resolved Dropped.none).columns.map
          ColumnDefinition.name := by
    rw [columns, List.map_append]
    exact fun _ => List.mem_append_left _
  have run :=
    performAll_statements dialect kept (fun _ => id) _ merged found listed spare taken
  rw [columns] at run
  constructor
  · intro fits
    rw [if_pos ((accepts_copied_iff lawful).mpr fits)] at run
    exact ⟨_, run, extend_copied rules snapshot.columns resolved.columns live.rows⟩
  · intro misfits
    rw [if_neg (fun accepted => misfits ((accepts_copied_iff lawful).mp accepted))] at run
    refine ⟨run, _, _, ?_,
      performAll_replacingStatements dialect (fun _ => id)
        (finalDraft snapshot resolved Dropped.none) found listed spare taken, ?_⟩
    · rw [statements_eq_replacing kept]
      exact List.prefix_append _ _
    · rw [replacedTables, Function.update_self, columns]

/-- An alter that adds a whole number to a table, with a default or without one. -/
def countingBlueprint (default : Option DefaultValue) : Blueprint where
  table := "runs"
  purpose := .alter
  columns := [{ Column.simple "attempts" .integer with default := default }]
  keys := []
  foreignKeys := []
  dropped := Dropped.none

/-- What the blueprint declares, for a dialect. -/
def countingResolved (default : Option DefaultValue) : Resolved :=
  ⟨[⟨"attempts", ⟨"INTEGER", []⟩, false, default, false, false, []⟩], [], []⟩

/-- The whole number that a default is. -/
def wholeNumber? : DefaultValue → Nat → Option Int
  | .integer number, _ => some number
  | _, _ => none

/-- The rules of an engine whose values are whole numbers. -/
def countingRules : InsertRules Int :=
  .stated .duckdb "runs" wholeNumber? (fun _ number => number)

/-- The stored table that the snapshot describes, with one row. -/
def countedTables : Tables Int :=
  fun name =>
    if name = "runs" then some ⟨runsSnapshot.columns, [fun _ => some 7]⟩ else none

/-- A number with a default is added, and the row takes the default. -/
theorem addition_completes_with_default :
    ∃ planned extended,
      ((countingBlueprint (some (.integer 3))).resolve .duckdb).outcome =
          .ok (countingResolved (some (.integer 3))) ∧
        (plan .duckdb "runs" runsSnapshot (countingResolved (some (.integer 3)))
            Dropped.none).outcome = .ok planned ∧
          performAll countingRules countedTables planned =
              some (Function.update countedTables "runs"
                (some ⟨runsSnapshot.columns ++
                    (countingResolved (some (.integer 3))).columns, extended⟩)) ∧
            extended.map (fun row => row "attempts") = [some 3] := by
  have isResolved :
      ((countingBlueprint (some (.integer 3))).resolve .duckdb).outcome =
        .ok (countingResolved (some (.integer 3))) :=
    rfl
  have succeeded :
      (plan .duckdb "runs" runsSnapshot (countingResolved (some (.integer 3)))
        Dropped.none).outcome = .ok _ :=
    rfl
  have found :
      countedTables "runs" = some ⟨runsSnapshot.columns, [fun _ => some 7]⟩ :=
    rfl
  have outcome :=
    addition_completes_iff_fits rfl rfl rfl isResolved (by decide) succeeded
      wholeNumber? (fun _ number => number) found rfl rfl (by simp)
  have fits :
      countingRules.Fits (countingResolved (some (.integer 3))).columns 1 := by
    simp [InsertRules.Fits, countingResolved, countingRules, InsertRules.stated, wholeNumber?]
  obtain ⟨extended, run, _, filled⟩ := outcome.1 fits
  exact ⟨_, extended, isResolved, succeeded, run, filled _ (.head _)⟩

/--
A number that takes no nulls and has no default is planned all the same: the
copy back fails, and the table was made anew without its row by then.
-/
theorem addition_fails_without_default :
    ∃ planned reached,
      ((countingBlueprint none).resolve .duckdb).outcome = .ok (countingResolved none) ∧
        (plan .duckdb "runs" runsSnapshot (countingResolved none)
            Dropped.none).outcome = .ok planned ∧
          performAll countingRules countedTables planned = none ∧
            performAll countingRules countedTables (planned.take 4) = some reached ∧
              reached "runs" =
                some ⟨runsSnapshot.columns ++ (countingResolved none).columns, []⟩ :=
  ⟨_, _, rfl, rfl, rfl, rfl, rfl⟩

end Rebuild

end SchemaMigration
