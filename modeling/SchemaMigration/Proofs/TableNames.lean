import Mathlib.Data.Set.Insert
import SchemaMigration.Proofs.Alteration.InPlace
import SchemaMigration.Proofs.Creation
import SchemaMigration.Proofs.Rebuild.Completion
import SchemaMigration.Proofs.Rebuild.Execution

namespace SchemaMigration

/-!
# The names of the tables

Statements as changes of the set of table names, which is all that is left of
the stored tables when their columns and rows are forgotten.  A blueprint makes
no table but its own: a rebuild takes its temporary table away again.
-/

namespace Statement

/-- The names of the tables after a statement. -/
def namesAfter (names : Set String) : Statement → Set String
  | .createTable table => insert table.name names
  | .renameTable source target =>
      {name | name ∈ names ∧ name ≠ source ∨ name = target ∧ source ∈ names}
  | .dropTable table _ => {name | name ∈ names ∧ name ≠ table}
  | .createSequence _ | .createIndex .. | .addColumn .. | .addPrimaryKey .. | .addForeignKey ..
  | .stopGeneration .. | .dropPrimaryKey .. | .dropForeignKey .. | .dropIndex .. | .dropColumn ..
  | .copyRows .. => names

/-- The names of the tables after statements in order. -/
def namesAfterAll (names : Set String) (statements : List Statement) : Set String :=
  statements.foldl namesAfter names

/-! ## Stored tables -/

/-- The names under which tables are stored. -/
def storedNames (tables : Tables ν) : Set String :=
  {name | (tables name).isSome}

theorem storedNames_update_some
    (tables : Tables ν)
    (table : String)
    (stored : StoredTable ν) :
    storedNames (Function.update tables table (some stored)) =
      insert table (storedNames tables) := by
  ext name
  by_cases same : name = table <;> simp [storedNames, same]

theorem storedNames_update_none
    (tables : Tables ν)
    (table : String) :
    storedNames (Function.update tables table none) =
      {name | name ∈ storedNames tables ∧ name ≠ table} := by
  ext name
  by_cases same : name = table <;> simp [storedNames, same]

/-- Changing a table that is stored adds no name. -/
theorem storedNames_update_of_stored
    {tables : Tables ν}
    {table : String}
    {stored : StoredTable ν}
    (found : tables table = some stored)
    (changed : StoredTable ν) :
    storedNames (Function.update tables table (some changed)) = storedNames tables := by
  have there : table ∈ storedNames tables := by
    simp [storedNames, found]
  rw [storedNames_update_some, Set.insert_eq_of_mem there]

/-- A statement that can be performed on stored tables is followed by their names. -/
theorem namesAfter_of_perform
    {rules : InsertRules ν}
    {tables next : Tables ν}
    {statement : Statement}
    (performed : perform rules tables statement = some next) :
    namesAfter (storedNames tables) statement = storedNames next := by
  cases statement with
  | createTable table =>
      simp only [perform] at performed
      split at performed
      · cases performed
      · cases performed
        exact (storedNames_update_some tables table.name _).symm
  | renameTable source target =>
      simp only [perform] at performed
      split at performed
      · rename_i stored found _
        cases performed
        have there : source ∈ storedNames tables := by
          simp [storedNames, found]
        rw [storedNames_update_some, storedNames_update_none]
        ext name
        simp only [namesAfter, Set.mem_ofPred_eq, Set.mem_insert_iff, there, and_true]
        exact Or.comm
      · cases performed
  | dropTable table ifExists =>
      simp only [perform] at performed
      split at performed
      · cases performed
        exact (storedNames_update_none tables table).symm
      · cases performed
  | addColumn table column =>
      simp only [perform] at performed
      split at performed
      · cases performed
      · rename_i stored found
        split at performed
        · cases performed
        · split at performed
          · cases performed
            exact (storedNames_update_of_stored found _).symm
          · cases performed
  | dropColumn table column =>
      simp only [perform] at performed
      split at performed
      · cases performed
      · rename_i stored found
        split at performed
        · cases performed
          exact (storedNames_update_of_stored found _).symm
        · cases performed
  | copyRows listed source target =>
      simp only [perform] at performed
      split at performed
      · rename_i given taking _ found
        split at performed
        · cases performed
          exact (storedNames_update_of_stored found _).symm
        · cases performed
      · cases performed
  | createSequence | createIndex | addPrimaryKey | addForeignKey | stopGeneration
  | dropPrimaryKey | dropForeignKey | dropIndex =>
      cases performed
      rfl

/-- A run of statements on stored tables is followed by their names. -/
theorem namesAfterAll_of_performAll
    {rules : InsertRules ν}
    {statements : List Statement}
    {tables reached : Tables ν}
    (performed : performAll rules tables statements = some reached) :
    namesAfterAll (storedNames tables) statements = storedNames reached := by
  induction statements generalizing tables with
  | nil =>
      cases performed
      rfl
  | cons statement rest inductionHypothesis =>
      obtain ⟨next, stepped, restPerformed⟩ := Option.bind_eq_some_iff.mp performed
      rw [namesAfterAll, List.foldl_cons, namesAfter_of_perform stepped]
      exact inductionHypothesis restPerformed

/-! ## Frames -/

/-- A name that a statement does not mention stays or stays away. -/
theorem mem_namesAfter_frame
    {statement : Statement}
    {name : String}
    (elsewhere : name ∉ statement.changedTables)
    (names : Set String) :
    name ∈ namesAfter names statement ↔ name ∈ names := by
  cases statement with
  | createTable table =>
      have other : name ≠ table.name := by simpa [changedTables] using elsewhere
      simp [namesAfter, other]
  | renameTable source target =>
      have others : name ≠ source ∧ name ≠ target := by simpa [changedTables] using elsewhere
      simp [namesAfter, others]
  | dropTable table ifExists =>
      have other : name ≠ table := by simpa [changedTables] using elsewhere
      simp [namesAfter, other]
  | createSequence | createIndex | addColumn | addPrimaryKey | addForeignKey | stopGeneration
  | dropPrimaryKey | dropForeignKey | dropIndex | dropColumn | copyRows => rfl

theorem mem_namesAfterAll_frame
    {statements : List Statement}
    {name : String}
    (elsewhere : ∀ statement ∈ statements, name ∉ statement.changedTables)
    (names : Set String) :
    name ∈ namesAfterAll names statements ↔ name ∈ names := by
  induction statements generalizing names with
  | nil => rfl
  | cons statement rest inductionHypothesis =>
      obtain ⟨here, later⟩ := List.forall_mem_cons.mp elsewhere
      rw [namesAfterAll, List.foldl_cons, ← mem_namesAfter_frame here names]
      exact inductionHypothesis later _

end Statement

/-! ## Plans -/

open Statement

namespace Alteration

theorem changedTables_of_mem_columnChanges
    {dialect : Dialect}
    {table : String}
    {live : List LiveColumn}
    {column : ColumnDefinition}
    {statement : Statement}
    (member : statement ∈ columnChanges dialect table live column) :
    ∀ name ∈ statement.changedTables, name = table := by
  rw [columnChanges, List.mem_append, List.mem_map] at member
  rcases member with added | ⟨key, _, rfl⟩
  · split at added
    · cases added
    · rcases List.mem_append.mp added with isPrelude | isColumn
      · simp [changedTables_preludeOf isPrelude]
      · rw [List.mem_singleton.mp isColumn]
        simp [changedTables]
  · exact List.forall_mem_nil _

theorem changedTables_of_mem_keyStatements
    {table : String}
    {key : Key}
    {statement : Statement}
    (member : statement ∈ keyStatements table key) :
    ∀ name ∈ statement.changedTables, name = table := by
  unfold keyStatements at member
  split at member
  · rw [List.mem_singleton.mp member]
    exact List.forall_mem_nil _
  · simp [changedTables_createIndex? (Option.mem_toList.mp member)]

theorem changedTables_of_dropKeyAll
    {dialect : Dialect}
    {table : String}
    {column? : Option LiveColumn}
    {key : Key}
    {drops : List Statement}
    (dropped : dropKeyAll dialect table column? key = .ok drops)
    {statement : Statement}
    (member : statement ∈ drops) :
    ∀ name ∈ statement.changedTables, name = table := by
  unfold dropKeyAll at dropped
  split at dropped <;> cases dropped <;>
    simp only [List.mem_cons, List.not_mem_nil, or_false] at member
  · rcases member with rfl | rfl <;> exact List.forall_mem_nil _
  all_goals
    subst member
    exact List.forall_mem_nil _

/-- An alteration in place changes its own table only. -/
theorem changedTables_of_mem_plan
    {dialect : Dialect}
    {table : String}
    {live : List LiveColumn}
    {resolved : Resolved}
    {dropped : Dropped}
    {planned : List Statement}
    (succeeded : (plan dialect table live resolved dropped).outcome = .ok planned)
    {statement : Statement}
    (member : statement ∈ planned) :
    ∀ name ∈ statement.changedTables, name = table := by
  obtain ⟨keyDrops, keysDropped, rfl⟩ := plan_ok succeeded
  simp only [additions, List.mem_append, List.mem_flatMap, List.mem_map,
    List.mem_flatten] at member
  rcases member with
    (((⟨column, _, changed⟩ | ⟨key, _, made⟩) | ⟨key, _, rfl⟩) | ⟨drops, isDrop, dropping⟩) |
      ⟨name, _, rfl⟩
  · exact changedTables_of_mem_columnChanges changed
  · exact changedTables_of_mem_keyStatements made
  · exact List.forall_mem_nil _
  · obtain ⟨key, _, dropsKey⟩ := Traced.item_of_mem_each keysDropped isDrop
    exact changedTables_of_dropKeyAll dropsKey dropping
  · simp [changedTables]

end Alteration

/-- Creating a table changes no other one. -/
theorem Blueprint.changedTables_of_mem_creation
    {dialect : Dialect}
    {table : String}
    {resolved : Resolved}
    {statement : Statement}
    (member : statement ∈ creation dialect table resolved) :
    ∀ name ∈ statement.changedTables, name = table := by
  simp only [creation, List.mem_append, List.mem_map] at member
  rcases member with (making | ⟨key, _, rfl⟩) | ⟨key, _, rfl⟩
  · exact changedTables_createAll making
  · exact List.forall_mem_nil _
  · exact List.forall_mem_nil _

/-- After a rebuild the only table that may be new is the rebuilt one. -/
theorem Rebuild.mem_namesAfterAll_statements
    {dialect : Dialect}
    {table : String}
    {snapshot : Snapshot}
    {copied : List String}
    {draft : Draft}
    {names : Set String}
    {name : String}
    (there : name ∈ namesAfterAll names (statements dialect table snapshot copied draft)) :
    name = table ∨ name ∈ names := by
  by_cases own : name = table
  · exact .inl own
  · refine .inr ?_
    by_cases spare : name = temporaryName table
    · by_cases kept : copied = []
      · have elsewhere :
            ∀ statement ∈ statements dialect table snapshot copied draft,
              name ∉ statement.changedTables := by
          intro statement member changed
          have renewing : statement ∈ renewingStatements dialect table draft := by
            simpa [statements, renewingStatements, kept] using member
          exact own (changedTables_renewingStatements renewing name changed)
        exact (mem_namesAfterAll_frame elsewhere names).mp there
      · -- The last statement of the rebuild drops the temporary table.
        rw [statements_eq_replacing kept, namesAfterAll, List.foldl_append] at there
        exact absurd spare there.2
    · have elsewhere :
          ∀ statement ∈ statements dialect table snapshot copied draft,
            name ∉ statement.changedTables := by
        intro statement member changed
        rcases changedTables_statements member name changed with same | temporary
        · exact own same
        · exact spare temporary
      exact (mem_namesAfterAll_frame elsewhere names).mp there

/-- After a blueprint the only table that may be new is its own. -/
theorem Blueprint.mem_namesAfterAll_plan
    {blueprint : Blueprint}
    {dialect : Dialect}
    {view : Introspection}
    {planned : List Statement}
    (succeeded : (blueprint.plan dialect view).outcome = .ok planned)
    {names : Set String}
    {name : String}
    (there : name ∈ namesAfterAll names planned) :
    name = blueprint.table ∨ name ∈ names := by
  have ofFrame
      (changes : ∀ statement ∈ planned,
        ∀ changed ∈ statement.changedTables, changed = blueprint.table) :
      name = blueprint.table ∨ name ∈ names := by
    by_cases own : name = blueprint.table
    · exact .inl own
    · right
      rwa [← mem_namesAfterAll_frame (fun statement member changed =>
        own (changes statement member name changed)) names]
  unfold plan at succeeded
  cases purpose : blueprint.purpose with
  | create =>
      simp only [purpose] at succeeded
      rcases planned_of_planCreate succeeded with ⟨_, rfl⟩ | ⟨_, resolved, _, rfl⟩
      · exact .inr there
      · exact ofFrame (fun _ => changedTables_of_mem_creation)
  | alter =>
      simp only [purpose] at succeeded
      rcases planAlter_ok succeeded with
        ⟨_, rfl⟩ | ⟨resolved, _, ⟨_, live, _, altered⟩ | ⟨_, snapshot, _, rebuilt⟩⟩
      · exact .inr there
      · exact ofFrame (fun _ => Alteration.changedTables_of_mem_plan altered)
      · rw [(Rebuild.plan_ok rebuilt).2] at there
        exact Rebuild.mem_namesAfterAll_statements there

end SchemaMigration
