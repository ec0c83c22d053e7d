import Mathlib.Logic.Function.Basic
import SchemaMigration.Schema.Statement

namespace SchemaMigration

/-!
# Stored tables

Statements as changes of tables that hold rows.  An engine decides what a
column that an insertion does not list receives, and which rows may stand in a
table; both are parameters.  A statement either changes the tables or fails and
changes nothing.
-/

/-- A row: the value of each column, or nothing where it is null. -/
abbrev Row (ν : Type) : Type :=
  String → Option ν

/-- The values of a row in columns. -/
def Row.values (row : Row ν) (names : List String) : List (Option ν) :=
  names.map row

/-- A table as an engine stores it. -/
structure StoredTable (ν : Type) where
  columns : List ColumnDefinition
  rows : List (Row ν)

namespace StoredTable

/-- The names of the columns. -/
def columnNames (stored : StoredTable ν) : List String :=
  stored.columns.map ColumnDefinition.name

/-- Whether a table has all columns of a list. -/
def hasColumns (stored : StoredTable ν) (names : List String) : Bool :=
  names.all (fun name => stored.columnNames.contains name)

end StoredTable

/-- Stored tables by their names. -/
abbrev Tables (ν : Type) : Type :=
  String → Option (StoredTable ν)

/-- What an engine decides about rows that are inserted. -/
structure InsertRules (ν : Type) where
  /-- The value of a column that is not listed, in the inserted row of a number. -/
  fill : ColumnDefinition → Nat → Option ν
  /-- Whether a row may stand in a table of these columns. -/
  accepts : List ColumnDefinition → Row ν → Bool

namespace InsertRules

/-- A row for a table: the listed columns are copied and the others filled. -/
def complete
    (rules : InsertRules ν)
    (listed : List String)
    (columns : List ColumnDefinition)
    (number : Nat)
    (row : Row ν) :
    Row ν :=
  fun name =>
    if listed.contains name then
      row name
    else
      (columns.find? (fun column => column.name = name)).bind
        (fun column => rules.fill column number)

/-- The rows that copying listed columns adds to a table. -/
def copied
    (rules : InsertRules ν)
    (listed : List String)
    (columns : List ColumnDefinition)
    (rows : List (Row ν)) :
    List (Row ν) :=
  rows.mapIdx (fun number row => rules.complete listed columns number row)

/-- Copying keeps the values of the listed columns, row by row. -/
theorem values_copied
    (rules : InsertRules ν)
    (listed : List String)
    (columns : List ColumnDefinition)
    (rows : List (Row ν)) :
    (rules.copied listed columns rows).map (fun row => row.values listed) =
      rows.map (fun row => row.values listed) := by
  refine List.ext_getElem (by simp [copied]) ?_
  intro number _ _
  simp only [copied, List.getElem_map, List.getElem_mapIdx, Row.values]
  refine List.map_congr_left ?_
  intro name member
  simp [complete, member]

/-- Copying rows that were copied is like copying them at once. -/
theorem copied_copied
    (rules : InsertRules ν)
    (listed : List String)
    (between columns : List ColumnDefinition)
    (rows : List (Row ν)) :
    rules.copied listed columns (rules.copied listed between rows) =
      rules.copied listed columns rows := by
  refine List.ext_getElem (by simp [copied]) ?_
  intro number _ _
  simp only [copied, List.getElem_mapIdx]
  funext name
  by_cases member : listed.contains name = true <;>
    simp only [complete, member, if_true, Bool.false_eq_true, if_false]

end InsertRules

/-- Whether a table is there, has all columns of a list and holds the values of rows in them. -/
def Tables.Hold
    (tables : Tables ν)
    (name : String)
    (listed : List String)
    (rows : List (Row ν)) :
    Prop :=
  ∃ stored,
    tables name = some stored ∧
      stored.hasColumns listed = true ∧
        stored.rows.map (fun row => row.values listed) =
          rows.map (fun row => row.values listed)

namespace Statement

/-- The tables after a statement, unless it fails. -/
def perform
    (rules : InsertRules ν)
    (tables : Tables ν) :
    Statement → Option (Tables ν)
  | .createTable table =>
      match tables table.name with
      | some _ => none
      | none => some (Function.update tables table.name (some ⟨table.columns, []⟩))
  | .addColumn table column =>
      match tables table with
      | none => none
      | some stored =>
          if stored.hasColumns [column.name] then
            none
          else
            let columns := stored.columns ++ [column]
            let rows := rules.copied stored.columnNames columns stored.rows
            if rows.all (rules.accepts columns) then
              some (Function.update tables table (some ⟨columns, rows⟩))
            else
              none
  | .dropColumn table column =>
      match tables table with
      | none => none
      | some stored =>
          if stored.hasColumns [column] then
            let columns := stored.columns.filter (fun known => known.name != column)
            some (Function.update tables table (some ⟨columns, stored.rows⟩))
          else
            none
  | .renameTable source target =>
      match tables source, tables target with
      | some stored, none =>
          some (Function.update (Function.update tables source none) target (some stored))
      | _, _ => none
  | .dropTable table ifExists =>
      if (tables table).isSome || ifExists then
        some (Function.update tables table none)
      else
        none
  | .copyRows listed source target =>
      match tables source, tables target with
      | some given, some taking =>
          let added := rules.copied listed taking.columns given.rows
          if given.hasColumns listed && taking.hasColumns listed &&
              added.all (rules.accepts taking.columns) then
            some (Function.update tables target
              (some { taking with rows := taking.rows ++ added }))
          else
            none
      | _, _ => none
  | .createSequence _ | .createIndex .. | .addPrimaryKey .. | .addForeignKey ..
  | .stopGeneration .. | .dropPrimaryKey .. | .dropForeignKey .. | .dropIndex .. =>
      some tables

/-- The tables after statements in order, unless one of them fails. -/
def performAll
    (rules : InsertRules ν)
    (tables : Tables ν) :
    List Statement → Option (Tables ν)
  | [] => some tables
  | statement :: rest =>
      (perform rules tables statement).bind (fun next => performAll rules next rest)

/-- The tables that a statement may change. -/
def changedTables : Statement → List String
  | .createTable table => [table.name]
  | .addColumn table _ | .dropColumn table _ | .dropTable table _ => [table]
  | .renameTable source target => [source, target]
  | .copyRows _ _ target => [target]
  | .createSequence _ | .createIndex .. | .addPrimaryKey .. | .addForeignKey ..
  | .stopGeneration .. | .dropPrimaryKey .. | .dropForeignKey .. | .dropIndex .. => []

/-! ## Frames -/

variable {rules : InsertRules ν}

/-- A statement leaves the tables alone that it does not name. -/
theorem perform_frame
    {statement : Statement}
    {tables next : Tables ν}
    (performed : perform rules tables statement = some next)
    {name : String}
    (elsewhere : name ∉ statement.changedTables) :
    next name = tables name := by
  cases statement with
  | createTable table =>
      simp only [perform] at performed
      split at performed
      · cases performed
      · cases performed
        exact Function.update_of_ne (by simpa [changedTables] using elsewhere) _ _
  | addColumn table column =>
      simp only [perform] at performed
      split at performed
      · cases performed
      · split at performed
        · cases performed
        · split at performed
          · cases performed
            exact Function.update_of_ne (by simpa [changedTables] using elsewhere) _ _
          · cases performed
  | dropColumn table column =>
      simp only [perform] at performed
      split at performed
      · cases performed
      · split at performed
        · cases performed
          exact Function.update_of_ne (by simpa [changedTables] using elsewhere) _ _
        · cases performed
  | renameTable source target =>
      simp only [perform] at performed
      split at performed
      · cases performed
        simp only [changedTables, List.mem_cons, List.not_mem_nil, or_false,
          not_or] at elsewhere
        rw [Function.update_of_ne elsewhere.2, Function.update_of_ne elsewhere.1]
      · cases performed
  | dropTable table ifExists =>
      simp only [perform] at performed
      split at performed
      · cases performed
        exact Function.update_of_ne (by simpa [changedTables] using elsewhere) _ _
      · cases performed
  | copyRows listed source target =>
      simp only [perform] at performed
      split at performed
      · split at performed
        · cases performed
          exact Function.update_of_ne (by simpa [changedTables] using elsewhere) _ _
        · cases performed
      · cases performed
  | createSequence | createIndex | addPrimaryKey | addForeignKey | stopGeneration
  | dropPrimaryKey | dropForeignKey | dropIndex =>
      cases performed
      rfl

/-- A statement that names no table changes none. -/
theorem perform_of_changedTables_nil
    {statement : Statement}
    (unchanging : statement.changedTables = [])
    (tables : Tables ν) :
    perform rules tables statement = some tables := by
  cases statement <;> first | rfl | simp [changedTables] at unchanging

/-! ## Runs -/

/-- A run of a sequence is a run of its first part and then of the rest. -/
theorem performAll_append
    (tables : Tables ν)
    (first second : List Statement) :
    performAll rules tables (first ++ second) =
      (performAll rules tables first).bind
        (fun between => performAll rules between second) := by
  induction first generalizing tables with
  | nil =>
      rfl
  | cons statement rest inductionHypothesis =>
      simp only [List.cons_append, performAll]
      cases perform rules tables statement with
      | none =>
          rfl
      | some next =>
          simpa using inductionHypothesis next

/-- A run leaves the tables alone that none of its statements names. -/
theorem performAll_frame
    {statements : List Statement}
    {tables reached : Tables ν}
    (performed : performAll rules tables statements = some reached)
    {name : String}
    (elsewhere : ∀ statement ∈ statements, name ∉ statement.changedTables) :
    reached name = tables name := by
  induction statements generalizing tables with
  | nil =>
      cases performed
      rfl
  | cons statement rest inductionHypothesis =>
      obtain ⟨next, stepped, restPerformed⟩ :=
        Option.bind_eq_some_iff.mp performed
      have later : reached name = next name :=
        inductionHypothesis restPerformed
          (fun later member => elsewhere later (by simp [member]))
      rw [later]
      exact perform_frame stepped (elsewhere statement (by simp))

/-- Statements that name no table change none. -/
theorem performAll_of_changedTables_nil
    {statements : List Statement}
    (unchanging : ∀ statement ∈ statements, statement.changedTables = [])
    (tables : Tables ν) :
    performAll rules tables statements = some tables := by
  induction statements with
  | nil =>
      rfl
  | cons statement rest inductionHypothesis =>
      have first : perform rules tables statement = some tables :=
        perform_of_changedTables_nil (unchanging statement (by simp)) tables
      simp only [performAll, first, Option.bind_some]
      exact inductionHypothesis
        (fun later member => unchanging later (by simp [member]))

/--
A property of the tables holds before, between and after the statements of a
list, as far as these can be performed.
-/
def Throughout
    (rules : InsertRules ν)
    (good : Tables ν → Prop) :
    Tables ν → List Statement → Prop
  | tables, [] =>
      good tables
  | tables, statement :: rest =>
      good tables ∧
        ∀ next,
          perform rules tables statement = some next →
            Throughout rules good next rest

/-- What holds throughout a list holds after every prefix that was performed. -/
theorem Throughout.after_part
    {good : Tables ν → Prop}
    {tables reached : Tables ν}
    {statements executed : List Statement}
    (throughout : Throughout rules good tables statements)
    (isPrefix : executed <+: statements)
    (performed : performAll rules tables executed = some reached) :
    good reached := by
  induction statements generalizing tables executed with
  | nil =>
      rw [List.prefix_nil] at isPrefix
      subst isPrefix
      cases performed
      exact throughout
  | cons statement rest inductionHypothesis =>
      rcases List.prefix_cons_iff.mp isPrefix with rfl | ⟨later, rfl, restPrefix⟩
      · cases performed
        exact throughout.1
      · obtain ⟨next, stepped, restPerformed⟩ :=
          Option.bind_eq_some_iff.mp performed
        exact inductionHypothesis (throughout.2 next stepped) restPrefix restPerformed

/-- A property holds throughout two lists that it holds throughout in turn. -/
theorem Throughout.append
    {good : Tables ν → Prop}
    {tables : Tables ν}
    {first second : List Statement}
    (before : Throughout rules good tables first)
    (after :
      ∀ between,
        performAll rules tables first = some between →
          Throughout rules good between second) :
    Throughout rules good tables (first ++ second) := by
  induction first generalizing tables with
  | nil =>
      exact after tables rfl
  | cons statement rest inductionHypothesis =>
      refine ⟨before.1, ?_⟩
      intro next stepped
      refine inductionHypothesis (before.2 next stepped) ?_
      intro between performed
      exact after between (by simp [performAll, stepped, performed])

/-- What one table decides holds throughout statements that do not name it. -/
theorem Throughout.of_frame
    {good : Tables ν → Prop}
    {tables : Tables ν}
    {statements : List Statement}
    (name : String)
    (decided : ∀ reached : Tables ν, reached name = tables name → good reached)
    (elsewhere : ∀ statement ∈ statements, name ∉ statement.changedTables) :
    Throughout rules good tables statements := by
  induction statements generalizing tables with
  | nil =>
      exact decided tables rfl
  | cons statement rest inductionHypothesis =>
      refine ⟨decided tables rfl, ?_⟩
      intro next stepped
      have same : next name = tables name :=
        perform_frame stepped (elsewhere statement (by simp))
      exact inductionHypothesis
        (fun reached later => decided reached (later.trans same))
        (fun later member => elsewhere later (by simp [member]))

/-! ## Making and filling tables -/

/-- What comes before a table is made are sequences. -/
theorem eq_createSequence_of_mem_preludeOf
    {dialect : Dialect}
    {table : String}
    {columns : List ColumnDefinition}
    {statement : Statement}
    (member : statement ∈ preludeOf dialect table columns) :
    ∃ name, statement = .createSequence name := by
  cases dialect <;> simp only [preludeOf, List.not_mem_nil] at member
  obtain ⟨column, _, rfl⟩ := List.mem_map.mp member
  exact ⟨_, rfl⟩

/-- Where sequences do not count, nothing counts of what comes before a table is made. -/
theorem filter_preludeOf
    {counts : Statement → Bool}
    (noSequence : ∀ name, counts (.createSequence name) = false)
    (dialect : Dialect)
    (table : String)
    (columns : List ColumnDefinition) :
    (preludeOf dialect table columns).filter counts = [] := by
  rw [List.filter_eq_nil_iff]
  intro statement member
  obtain ⟨name, rfl⟩ := eq_createSequence_of_mem_preludeOf member
  simp [noSequence name]

theorem changedTables_preludeOf
    {dialect : Dialect}
    {table : String}
    {columns : List ColumnDefinition}
    {statement : Statement}
    (member : statement ∈ preludeOf dialect table columns) :
    statement.changedTables = [] := by
  obtain ⟨_, rfl⟩ := eq_createSequence_of_mem_preludeOf member
  rfl

/-- Making an index changes no table. -/
theorem changedTables_createIndex?
    {table : String}
    {key : Key}
    {statement : Statement}
    (made : createIndex? table key = some statement) :
    statement.changedTables = [] := by
  unfold createIndex? at made
  cases kind : key.kind <;> simp only [kind, Option.some.injEq, reduceCtorEq] at made
  all_goals
    subst made
    rfl

/-- Of the statements that make a table, one changes tables. -/
theorem performAll_createAll
    (dialect : Dialect)
    (table : String)
    (columns : List ColumnDefinition)
    (keys : List Key)
    (tables : Tables ν) :
    performAll rules tables (createAll dialect table columns keys) =
      perform rules tables
        (.createTable ⟨table, columns, TableDefinition.primaryOf columns keys⟩) := by
  have prelude :
      performAll rules tables (preludeOf dialect table columns) = some tables :=
    performAll_of_changedTables_nil (fun _ member => changedTables_preludeOf member) tables
  have indexes
      (made : Tables ν) :
      performAll rules made (keys.filterMap (createIndex? table)) = some made := by
    refine performAll_of_changedTables_nil ?_ made
    intro statement member
    obtain ⟨key, _, fromKey⟩ := List.mem_filterMap.mp member
    exact changedTables_createIndex? fromKey
  simp only [createAll, performAll_append, prelude, Option.bind_some, performAll, indexes]
  exact Option.bind_fun_some _

/-- Making a table changes no other one. -/
theorem changedTables_createAll
    {dialect : Dialect}
    {table : String}
    {columns : List ColumnDefinition}
    {keys : List Key}
    {statement : Statement}
    (member : statement ∈ createAll dialect table columns keys) :
    ∀ name ∈ statement.changedTables, name = table := by
  simp only [createAll, List.mem_append, List.mem_cons] at member
  rcases member with isPrelude | rfl | isIndex
  · simp [changedTables_preludeOf isPrelude]
  · simp [changedTables]
  · obtain ⟨key, _, fromKey⟩ := List.mem_filterMap.mp isIndex
    simp [changedTables_createIndex? fromKey]

/-- Making a table leaves it empty. -/
theorem stored_of_createAll
    {dialect : Dialect}
    {table : String}
    {columns : List ColumnDefinition}
    {keys : List Key}
    {tables made : Tables ν}
    (performed :
      performAll rules tables (createAll dialect table columns keys) = some made) :
    made table = some ⟨columns, []⟩ := by
  rw [performAll_createAll] at performed
  simp only [perform] at performed
  split at performed
  · cases performed
  · cases performed
    exact Function.update_self _ _ _

/-- Copying into an empty table succeeds when the engine accepts every row. -/
theorem perform_copyRows_into_empty
    (rules : InsertRules ν)
    {listed : List String}
    {source target : String}
    {tables : Tables ν}
    {given : StoredTable ν}
    {columns : List ColumnDefinition}
    (found : tables source = some given)
    (givenListed : given.hasColumns listed = true)
    (empty : tables target = some ⟨columns, []⟩)
    (takingListed : (⟨columns, []⟩ : StoredTable ν).hasColumns listed = true) :
    perform rules tables (.copyRows listed source target) =
      if (rules.copied listed columns given.rows).all (rules.accepts columns) then
        some (Function.update tables target
          (some ⟨columns, rules.copied listed columns given.rows⟩))
      else
        none := by
  simp [perform, found, empty, givenListed, takingListed]

/-- Copying from a table that holds rows into an empty one makes that one hold them. -/
theorem hold_of_copyRows
    {listed : List String}
    {source target : String}
    {tables next : Tables ν}
    {rows : List (Row ν)}
    {columns : List ColumnDefinition}
    (performed :
      perform rules tables (.copyRows listed source target) = some next)
    (holding : tables.Hold source listed rows)
    (empty : tables target = some ⟨columns, []⟩) :
    next.Hold target listed rows := by
  obtain ⟨given, found, _, sameValues⟩ := holding
  simp only [perform, found, empty, List.nil_append] at performed
  split at performed
  · rename_i accepted
    cases performed
    simp only [Bool.and_eq_true] at accepted
    refine ⟨_, Function.update_self _ _ _, accepted.1.2, ?_⟩
    rw [InsertRules.values_copied, sameValues]
  · cases performed

end Statement

end SchemaMigration
