import SchemaMigration.Proofs.Outcomes
import SchemaMigration.Proofs.Storage
import SchemaMigration.Schema.Alteration

namespace SchemaMigration

/-!
# Altering in place

A plan in place adds columns and keys first and drops last, and all of it looks
at the columns that are live when it is made.  Its statements that change
columns add the declared columns of new names and then drop the live ones that
are dropped; each declared foreign key has a statement of its own.
-/

/-! ## Column names through statements -/

namespace Statement

/-- Whether a statement adds or drops a column. -/
def changesColumns : Statement → Bool
  | .addColumn .. | .dropColumn .. => true
  | _ => false

/-- The names of the columns of a table after a statement. -/
def columnNamesAfter (table : String) (names : List String) : Statement → List String
  | .addColumn changed column => if changed = table then names ++ [column.name] else names
  | .dropColumn changed column =>
      if changed = table then names.filter (fun name => name != column) else names
  | _ => names

/-- The names of the columns of a table after statements in order. -/
def columnNamesAfterAll
    (table : String)
    (names : List String)
    (statements : List Statement) :
    List String :=
  statements.foldl (columnNamesAfter table) names

theorem columnNamesAfter_of_spared
    {statement : Statement}
    (spared : statement.changesColumns = false)
    (table : String)
    (names : List String) :
    statement.columnNamesAfter table names = names := by
  cases statement with
  | addColumn | dropColumn =>
      cases spared
  | _ =>
      rfl

/-- Only statements that change columns count. -/
theorem columnNamesAfterAll_filter
    (table : String)
    (names : List String)
    (statements : List Statement) :
    columnNamesAfterAll table names (statements.filter changesColumns) =
      columnNamesAfterAll table names statements := by
  induction statements generalizing names with
  | nil =>
      rfl
  | cons statement rest inductionHypothesis =>
      cases changes : statement.changesColumns with
      | true =>
          simpa [columnNamesAfterAll, changes] using inductionHypothesis _
      | false =>
          simpa [columnNamesAfterAll, changes, columnNamesAfter_of_spared changes] using
            inductionHypothesis names

theorem columnNamesAfterAll_append
    (table : String)
    (names : List String)
    (first second : List Statement) :
    columnNamesAfterAll table names (first ++ second) =
      columnNamesAfterAll table (columnNamesAfterAll table names first) second :=
  List.foldl_append

theorem columnNamesAfterAll_addColumn
    (table : String)
    (names : List String)
    (added : List ColumnDefinition) :
    columnNamesAfterAll table names (added.map (.addColumn table)) =
      names ++ added.map ColumnDefinition.name := by
  induction added generalizing names with
  | nil =>
      simp [columnNamesAfterAll]
  | cons column rest inductionHypothesis =>
      have step := inductionHypothesis (names ++ [column.name])
      simpa [columnNamesAfterAll, columnNamesAfter] using step

theorem columnNamesAfterAll_dropColumn
    (table : String)
    (names gone : List String) :
    columnNamesAfterAll table names (gone.map (.dropColumn table)) =
      names.filter (fun name => !gone.contains name) := by
  induction gone generalizing names with
  | nil =>
      simp [columnNamesAfterAll]
  | cons column rest inductionHypothesis =>
      have step := inductionHypothesis (names.filter (fun name => name != column))
      rw [List.filter_filter] at step
      simp only [columnNamesAfterAll, List.map_cons, List.foldl_cons, columnNamesAfter,
        if_true] at step ⊢
      rw [step]
      apply List.filter_congr
      intro name _
      by_cases same : name = column <;> simp [same]

/-- Of the statements that add a column only the last one counts, where sequences do not. -/
theorem filter_addColumnAll
    {counts : Statement → Bool}
    (noSequence : ∀ name, counts (.createSequence name) = false)
    (dialect : Dialect)
    (table : String)
    (column : ColumnDefinition) :
    (addColumnAll dialect table column).filter counts =
      [.addColumn table column].filter counts := by
  rw [addColumnAll, List.filter_append, filter_preludeOf noSequence, List.nil_append]

theorem changesColumns_of_dropKeyAll
    {dialect : Dialect}
    {table : String}
    {column? : Option LiveColumn}
    {key : Key}
    {statements : List Statement}
    (dropped : dropKeyAll dialect table column? key = .ok statements) :
    ∀ statement ∈ statements, statement.changesColumns = false := by
  unfold dropKeyAll at dropped
  split at dropped <;> cases dropped <;> simp [changesColumns]

end Statement

namespace Alteration

open Statement

/-! ## The plan as a list -/

/-- The statements for a declared column, which never fail to be made. -/
def columnChanges
    (dialect : Dialect)
    (table : String)
    (live : List LiveColumn)
    (column : ColumnDefinition) :
    List Statement :=
  (if isLive live column.name then [] else addColumnAll dialect table column) ++
    column.foreignKeys.map (.addForeignKey table)

/-- The statements that add what is declared. -/
def additions
    (dialect : Dialect)
    (table : String)
    (live : List LiveColumn)
    (resolved : Resolved) :
    List Statement :=
  resolved.columns.flatMap (columnChanges dialect table live) ++
    resolved.keys.flatMap (keyStatements table) ++
      resolved.foreignKeys.map (.addForeignKey table)

/-- The dropped columns that are live. -/
def liveDrops (live : List LiveColumn) (dropped : Dropped) : List String :=
  dropped.columns.filter (isLive live)

theorem outcome_announced
    (dialect : Dialect)
    (statement : Statement) :
    (announced dialect statement).outcome = .ok statement :=
  rfl

theorem outcome_columnStatements
    (dialect : Dialect)
    (table : String)
    (live : List LiveColumn)
    (column : ColumnDefinition) :
    (columnStatements dialect table live column).outcome =
      .ok (columnChanges dialect table live column) := by
  have keys :=
    Traced.outcome_each_of_ok
      (fun key => outcome_announced dialect (.addForeignKey table key)) column.foreignKeys
  cases there : isLive live column.name <;>
    simp [columnStatements, columnChanges, there, keys]

theorem outcome_dropColumnStatements
    (table : String)
    (live : List LiveColumn)
    (name : String) :
    (dropColumnStatements table live name).outcome =
      .ok (if isLive live name then [.dropColumn table name] else []) := by
  cases there : isLive live name <;> simp [dropColumnStatements, there]

/-- A plan adds what is declared, then drops keys, then drops the live columns. -/
theorem plan_ok
    {dialect : Dialect}
    {table : String}
    {live : List LiveColumn}
    {resolved : Resolved}
    {dropped : Dropped}
    {planned : List Statement}
    (succeeded : (plan dialect table live resolved dropped).outcome = .ok planned) :
    ∃ keyDrops,
      (Traced.each (dropKeyStatements dialect table live) dropped.keys).outcome =
          .ok keyDrops ∧
        planned =
          additions dialect table live resolved ++ keyDrops.flatten ++
            (liveDrops live dropped).map (.dropColumn table) := by
  simp only [plan, Traced.outcome_bind_eq_ok, Traced.outcome_pure, Except.ok.injEq,
    Traced.outcome_each_of_ok (outcome_columnStatements dialect table live),
    Traced.outcome_each_of_ok (fun key => outcome_announced dialect (.addForeignKey table key)),
    Traced.outcome_each_of_ok (outcome_dropColumnStatements table live)] at succeeded
  obtain ⟨_, rfl, _, rfl, keyDrops, keysDropped, _, rfl, rfl⟩ := succeeded
  have drops
      (names : List String) :
      (names.map (fun name =>
        if isLive live name then [Statement.dropColumn table name] else [])).flatten =
          (names.filter (isLive live)).map (.dropColumn table) := by
    induction names with
    | nil =>
        rfl
    | cons name rest inductionHypothesis =>
        cases there : isLive live name <;> simp [there, inductionHypothesis]
  refine ⟨keyDrops, keysDropped, ?_⟩
  rw [drops, additions, liveDrops, List.flatMap_def, List.flatMap_def]

/-! ## Columns -/

theorem isLive_iff
    {live : List LiveColumn}
    {name : String} :
    isLive live name = true ↔ name ∈ live.map LiveColumn.name := by
  simp [isLive]

/--
Where sequences and foreign keys do not count, the additions are the columns of
new names, in order, and then the keys.
-/
theorem filter_additions
    {counts : Statement → Bool}
    (noSequence : ∀ name, counts (.createSequence name) = false)
    (noForeignKey : ∀ table key, counts (.addForeignKey table key) = false)
    (dialect : Dialect)
    (table : String)
    (live : List LiveColumn)
    (resolved : Resolved) :
    (additions dialect table live resolved).filter counts =
      ((resolved.columns.filter (fun column => !isLive live column.name)).map
          (.addColumn table)).filter counts ++
        (resolved.keys.flatMap (keyStatements table)).filter counts := by
  have foreignKeys
      (keys : List ForeignKey) :
      (keys.map (Statement.addForeignKey table)).filter counts = [] := by
    simp [List.filter_eq_nil_iff, noForeignKey]
  have columns
      (declared : List ColumnDefinition) :
      (declared.flatMap (columnChanges dialect table live)).filter counts =
        ((declared.filter (fun column => !isLive live column.name)).map
          (.addColumn table)).filter counts := by
    induction declared with
    | nil =>
        rfl
    | cons column rest inductionHypothesis =>
        rw [List.flatMap_cons, List.filter_append, inductionHypothesis, columnChanges,
          List.filter_append, foreignKeys, List.append_nil]
        cases there : isLive live column.name with
        | true =>
            simp [there]
        | false =>
            rw [if_neg Bool.false_ne_true, filter_addColumnAll noSequence, ← List.filter_append,
              List.filter_cons_of_pos (by simp [there]), List.map_cons, List.singleton_append]
  rw [additions, List.filter_append, List.filter_append, foreignKeys, columns, List.append_nil]

/--
A plan changes columns by adding the declared ones of new names and then
dropping the live ones that are dropped.
-/
theorem filter_plan
    {dialect : Dialect}
    {table : String}
    {live : List LiveColumn}
    {resolved : Resolved}
    {dropped : Dropped}
    {planned : List Statement}
    (succeeded : (plan dialect table live resolved dropped).outcome = .ok planned) :
    planned.filter changesColumns =
      (resolved.columns.filter (fun column => !isLive live column.name)).map
          (.addColumn table) ++
        (liveDrops live dropped).map (.dropColumn table) := by
  obtain ⟨keyDrops, keysDropped, rfl⟩ := plan_ok succeeded
  have fromKeys : keyDrops.flatten.filter changesColumns = [] := by
    rw [List.filter_eq_nil_iff]
    intro statement member
    obtain ⟨statements, isDrop, within⟩ := List.mem_flatten.mp member
    obtain ⟨key, _, made⟩ := Traced.item_of_mem_each keysDropped isDrop
    simp [changesColumns_of_dropKeyAll made statement within]
  have fromDrops :
      ((liveDrops live dropped).map (Statement.dropColumn table)).filter changesColumns =
        (liveDrops live dropped).map (.dropColumn table) := by
    simp [List.filter_eq_self, changesColumns]
  have keys : (resolved.keys.flatMap (keyStatements table)).filter changesColumns = [] := by
    rw [List.filter_eq_nil_iff]
    intro statement member
    obtain ⟨key, _, made⟩ := List.mem_flatMap.mp member
    cases kind : key.kind <;>
      simp_all [keyStatements, createIndex?, addPrimary, changesColumns]
  have columns (added : List ColumnDefinition) :
      (added.map (Statement.addColumn table)).filter changesColumns =
        added.map (.addColumn table) := by
    simp [List.filter_eq_self, changesColumns]
  rw [List.filter_append, List.filter_append,
    filter_additions (fun _ => rfl) (fun _ _ => rfl), columns, keys, fromKeys, fromDrops,
    List.append_nil, List.append_nil]

/-- With the columns that are added, those are there that were live or are declared. -/
theorem mem_names_added
    {live : List LiveColumn}
    {declared : List ColumnDefinition}
    {name : String} :
    name ∈ live.map LiveColumn.name ++
        (declared.filter (fun column => !isLive live column.name)).map
          ColumnDefinition.name ↔
      name ∈ live.map LiveColumn.name ∨
        name ∈ declared.map ColumnDefinition.name := by
  rw [List.mem_append]
  constructor
  · rintro (there | added)
    · exact .inl there
    · exact .inr ((List.filter_sublist.map _).subset added)
  · rintro (there | isDeclared)
    · exact .inl there
    · by_cases there : name ∈ live.map LiveColumn.name
      · exact .inl there
      · obtain ⟨column, member, rfl⟩ := List.mem_map.mp isDeclared
        have new : (!isLive live column.name) = true := by
          rwa [Bool.not_eq_true', ← Bool.not_eq_true, isLive_iff]
        exact .inr (List.mem_map_of_mem (List.mem_filter.mpr ⟨member, new⟩))

/--
The columns after a plan are those that were live or are declared, without those
that were live and are dropped.
-/
theorem mem_columnNamesAfterAll_plan
    {dialect : Dialect}
    {table : String}
    {live : List LiveColumn}
    {resolved : Resolved}
    {dropped : Dropped}
    {planned : List Statement}
    (succeeded : (plan dialect table live resolved dropped).outcome = .ok planned)
    (name : String) :
    name ∈ columnNamesAfterAll table (live.map LiveColumn.name) planned ↔
      (name ∈ live.map LiveColumn.name ∨
          name ∈ resolved.columns.map ColumnDefinition.name) ∧
        ¬ (name ∈ live.map LiveColumn.name ∧ name ∈ dropped.columns) := by
  have kept :
      (!(liveDrops live dropped).contains name) = true ↔
        ¬ (name ∈ live.map LiveColumn.name ∧ name ∈ dropped.columns) := by
    rw [Bool.not_eq_true', List.contains_eq_mem, decide_eq_false_iff_not, liveDrops,
      List.mem_filter, isLive_iff, and_comm]
  -- Which columns are dropped is told by the live ones, not by those that were added.
  rw [← columnNamesAfterAll_filter, filter_plan succeeded, columnNamesAfterAll_append,
    columnNamesAfterAll_addColumn, columnNamesAfterAll_dropColumn, List.mem_filter,
    mem_names_added, kept]

/-! ## Foreign keys -/

/-- Each foreign key that is resolved has its statement. -/
theorem addForeignKey_mem_plan
    {dialect : Dialect}
    {table : String}
    {live : List LiveColumn}
    {resolved : Resolved}
    {dropped : Dropped}
    {planned : List Statement}
    (succeeded : (plan dialect table live resolved dropped).outcome = .ok planned)
    {key : ForeignKey}
    (isResolved :
      (∃ column ∈ resolved.columns, key ∈ column.foreignKeys) ∨
        key ∈ resolved.foreignKeys) :
    .addForeignKey table key ∈ planned := by
  obtain ⟨_, _, rfl⟩ := plan_ok succeeded
  refine List.mem_append_left _ (List.mem_append_left _ ?_)
  rcases isResolved with ⟨column, member, held⟩ | loose
  · refine List.mem_append_left _ (List.mem_append_left _ ?_)
    exact List.mem_flatMap.mpr
      ⟨column, member, List.mem_append_right _ (List.mem_map_of_mem held)⟩
  · exact List.mem_append_right _ (List.mem_map_of_mem loose)

end Alteration

end SchemaMigration
