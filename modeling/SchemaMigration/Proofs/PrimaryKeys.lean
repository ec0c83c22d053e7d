import SchemaMigration.Proofs.Rebuild.DroppedKeys

namespace SchemaMigration

/-!
# Primary keys through statements

A table has one primary key at most: adding another one is refused, and so is
dropping one that is not there.  Few statements concern primary keys at all,
and those alone tell what a list of statements does to them.
-/

/-- The columns of the primary keys of tables, by the names of the tables. -/
abbrev PrimaryColumns : Type :=
  String → Option (List String)

namespace Statement

/-- The primary keys after a statement, unless it is refused. -/
def primariesAfter (primaries : PrimaryColumns) : Statement → Option PrimaryColumns
  | .createTable made =>
      some (Function.update primaries made.name (made.primary.map PrimaryKey.columns))
  | .addPrimaryKey table key =>
      match primaries table with
      | some _ => none
      | none => some (Function.update primaries table (some key.columns))
  | .dropPrimaryKey table _ =>
      match primaries table with
      | some _ => some (Function.update primaries table none)
      | none => none
  | .dropTable table _ => some (Function.update primaries table none)
  | .renameTable source target =>
      some (Function.update (Function.update primaries source none) target (primaries source))
  | .createSequence _ | .createIndex .. | .addColumn .. | .addForeignKey ..
  | .stopGeneration .. | .dropForeignKey .. | .dropIndex .. | .dropColumn ..
  | .copyRows .. => some primaries

/-- The primary keys after statements in order, unless one of them is refused. -/
def primariesAfterAll (primaries : PrimaryColumns) : List Statement → Option PrimaryColumns
  | [] => some primaries
  | statement :: rest =>
      (statement.primariesAfter primaries).bind (fun next => primariesAfterAll next rest)

/-- Whether statements all go through and leave a table with a primary key over columns. -/
def LeavePrimary
    (primaries : PrimaryColumns)
    (table : String)
    (columns : List String)
    (statements : List Statement) :
    Prop :=
  ∃ after kept,
    primariesAfterAll primaries statements = some after ∧
      after table = some kept ∧
        ∀ name, name ∈ kept ↔ name ∈ columns

/-- Whether a statement may change primary keys. -/
def concernsPrimary : Statement → Bool
  | .createTable _ | .addPrimaryKey .. | .dropPrimaryKey .. | .dropTable ..
  | .renameTable .. => true
  | _ => false

theorem primariesAfter_of_spared
    {statement : Statement}
    (spared : statement.concernsPrimary = false)
    (primaries : PrimaryColumns) :
    statement.primariesAfter primaries = some primaries := by
  cases statement with
  | createTable | addPrimaryKey | dropPrimaryKey | dropTable | renameTable =>
      cases spared
  | _ =>
      rfl

/-- Only statements that concern primary keys count. -/
theorem primariesAfterAll_filter
    (primaries : PrimaryColumns)
    (statements : List Statement) :
    primariesAfterAll primaries (statements.filter concernsPrimary) =
      primariesAfterAll primaries statements := by
  induction statements generalizing primaries with
  | nil =>
      rfl
  | cons statement rest inductionHypothesis =>
      cases concerns : statement.concernsPrimary with
      | true =>
          rw [List.filter_cons_of_pos concerns, primariesAfterAll, primariesAfterAll,
            funext inductionHypothesis]
      | false =>
          rw [List.filter_cons_of_neg (by simp [concerns]), primariesAfterAll,
            primariesAfter_of_spared concerns, Option.bind_some, inductionHypothesis]

section Kept

variable
  {primaries : PrimaryColumns}
  {table : String}
  {columns : List String}
  (there : primaries table = some columns)

include there

/-- A key is refused where there is one. -/
theorem primariesAfterAll_addPrimary
    (key : Key)
    (later : List Statement) :
    primariesAfterAll primaries (addPrimary table key :: later) = none := by
  simp [primariesAfterAll, addPrimary, primariesAfter, there]

/-- After drops there is no key, or they are refused. -/
theorem primariesAfterAll_dropPrimaryKey
    {names : List String}
    (someDropped : names ≠ [])
    {after : PrimaryColumns}
    (reached :
      primariesAfterAll primaries (names.map (.dropPrimaryKey table)) = some after) :
    after table = none := by
  cases names with
  | nil =>
      exact absurd rfl someDropped
  | cons first others =>
      cases others with
      | nil =>
          simp only [List.map_cons, List.map_nil, primariesAfterAll, primariesAfter, there,
            Option.bind_some, Option.some.injEq] at reached
          rw [← reached, Function.update_self]
      | cons second rest =>
          -- The first drop took the key away, so the second one is refused.
          simp [primariesAfterAll, primariesAfter, there] at reached

end Kept

/-- Making a table with its keys and indexes concerns primary keys once. -/
theorem filter_createAll
    (dialect : Dialect)
    (table : String)
    (columns : List ColumnDefinition)
    (keys : List Key) :
    (createAll dialect table columns keys).filter concernsPrimary =
      [.createTable ⟨table, columns, TableDefinition.primaryOf columns keys⟩] := by
  have fromKeys :
      (keys.filterMap (createIndex? table)).filter concernsPrimary = [] := by
    rw [List.filter_eq_nil_iff]
    intro statement member
    obtain ⟨key, _, made⟩ := List.mem_filterMap.mp member
    obtain ⟨_, rfl⟩ := Rebuild.createIndex?_eq_some_iff.mp made
    simp [concernsPrimary, Rebuild.indexOf]
  rw [createAll, List.filter_append, filter_preludeOf (fun _ => rfl), List.nil_append,
    List.filter_cons_of_pos rfl, fromKeys]

theorem filter_dropKeyAll
    {dialect : Dialect}
    {table : String}
    {column? : Option LiveColumn}
    {key : Key}
    {statements : List Statement}
    (dropped : dropKeyAll dialect table column? key = .ok statements) :
    statements.filter concernsPrimary =
      if key.isPrimary then [.dropPrimaryKey table key.name] else [] := by
  unfold dropKeyAll at dropped
  split at dropped <;> cases dropped <;>
    simp [Key.isPrimary, concernsPrimary, List.filter_cons, *]

end Statement

end SchemaMigration
