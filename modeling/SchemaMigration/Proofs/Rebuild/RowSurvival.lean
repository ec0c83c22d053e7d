import SchemaMigration.Proofs.Rebuild.Draft
import SchemaMigration.Proofs.Storage

namespace SchemaMigration.Rebuild

/-!
# Rows survive a rebuild

However far a rebuild gets, the live table or the temporary one holds the rows
of all columns that stay.  The rows are in the live table until they were
copied, in the temporary one until they were copied back, and in the new table
after that.  No other table changes.
-/

open Statement

/-- The temporary table is another one than the table. -/
theorem temporaryName_ne (table : String) : temporaryName table ≠ table := by
  intro same
  have lengths := congrArg String.length same
  simp [temporaryName, temporaryMark] at lengths

/-- The statements up to the copy that take the rows out of the live table. -/
def savingStatements
    (dialect : Dialect)
    (table : String)
    (snapshot : Snapshot)
    (copied : List String) :
    List Statement :=
  createAll dialect (temporaryName table) (copiedColumns snapshot copied) []

/-- The statements that put the new table in place of the live one. -/
def renewingStatements
    (dialect : Dialect)
    (table : String)
    (draft : Draft) :
    List Statement :=
  .dropTable table false :: createAll dialect table draft.columns draft.keys

/-- A rebuild that keeps columns saves the rows, renews the table and puts them back. -/
theorem statements_eq
    {copied : List String}
    (kept : copied ≠ [])
    (dialect : Dialect)
    (table : String)
    (snapshot : Snapshot)
    (draft : Draft) :
    statements dialect table snapshot copied draft =
      savingStatements dialect table snapshot copied ++
        (.copyRows copied table (temporaryName table) ::
          (renewingStatements dialect table draft ++
            [.copyRows copied (temporaryName table) table,
              .dropTable (temporaryName table) false])) := by
  simp [statements, savingStatements, renewingStatements, kept]

/-- Saving the rows does not change the live table. -/
theorem savingStatements_spare
    {dialect : Dialect}
    {table : String}
    {snapshot : Snapshot}
    {copied : List String}
    {statement : Statement}
    (member : statement ∈ savingStatements dialect table snapshot copied) :
    table ∉ statement.changedTables := by
  intro changed
  exact temporaryName_ne table (changedTables_createAll member table changed).symm

/-- Renewing the table changes that table only. -/
theorem changedTables_renewingStatements
    {dialect : Dialect}
    {table : String}
    {draft : Draft}
    {statement : Statement}
    (member : statement ∈ renewingStatements dialect table draft) :
    ∀ name ∈ statement.changedTables, name = table := by
  rcases List.mem_cons.mp member with rfl | made
  · simp [changedTables]
  · exact changedTables_createAll made

/-- A rebuild changes the table and the temporary one only. -/
theorem changedTables_statements
    {dialect : Dialect}
    {table : String}
    {snapshot : Snapshot}
    {copied : List String}
    {draft : Draft}
    {statement : Statement}
    (member : statement ∈ statements dialect table snapshot copied draft) :
    ∀ name ∈ statement.changedTables,
      name = table ∨ name = temporaryName table := by
  intro name changed
  by_cases kept : copied = []
  · have renewed : statement ∈ renewingStatements dialect table draft := by
      simpa [statements, renewingStatements, kept] using member
    exact .inl (changedTables_renewingStatements renewed name changed)
  · rw [statements_eq kept] at member
    simp only [List.mem_append, List.mem_cons, List.not_mem_nil, or_false] at member
    rcases member with saving | rfl | renewing | rfl | rfl
    · exact .inr (changedTables_createAll saving name changed)
    · exact .inr (by simpa [changedTables] using changed)
    · exact .inl (changedTables_renewingStatements renewing name changed)
    · exact .inl (by simpa [changedTables] using changed)
    · exact .inr (by simpa [changedTables] using changed)

/-- The rows are in the table or in the temporary one. -/
def RowsSafe
    (table : String)
    (listed : List String)
    (rows : List (Row ν))
    (tables : Tables ν) :
    Prop :=
  tables.Hold table listed rows ∨ tables.Hold (temporaryName table) listed rows

/--
The rows are safe throughout the statements of a rebuild.

Each stretch of statements spares one of the two tables, and that table holds
the rows when the stretch begins.
-/
theorem rowsSafe_throughout
    (rules : InsertRules ν)
    {copied : List String}
    (kept : copied ≠ [])
    (dialect : Dialect)
    {table : String}
    (snapshot : Snapshot)
    (draft : Draft)
    {tables : Tables ν}
    {rows : List (Row ν)}
    (holding : tables.Hold table copied rows) :
    Throughout rules (RowsSafe table copied rows) tables
      (statements dialect table snapshot copied draft) := by
  rw [statements_eq kept]
  refine Throughout.append
    (.of_frame table ?_ (fun _ => savingStatements_spare)) ?_
  · rintro reached same
    exact .inl (by simpa [Tables.Hold, same] using holding)
  intro saved savedBy
  have stillThere : saved.Hold table copied rows := by
    have same := performAll_frame savedBy (fun _ => savingStatements_spare)
    simpa [Tables.Hold, same] using holding
  refine ⟨.inl stillThere, ?_⟩
  intro secured copiedBy
  have inTemporary : secured.Hold (temporaryName table) copied rows :=
    hold_of_copyRows copiedBy stillThere (stored_of_createAll savedBy)
  have renewingSpares :
      ∀ statement ∈ renewingStatements dialect table draft,
        temporaryName table ∉ statement.changedTables := by
    intro statement member changed
    exact temporaryName_ne table
      (changedTables_renewingStatements member _ changed)
  refine Throughout.append
    (.of_frame (temporaryName table) ?_ renewingSpares) ?_
  · rintro reached same
    exact .inr (by simpa [Tables.Hold, same] using inTemporary)
  intro renewed renewedBy
  have stillInTemporary : renewed.Hold (temporaryName table) copied rows := by
    have same := performAll_frame renewedBy renewingSpares
    simpa [Tables.Hold, same] using inTemporary
  have madeEmpty : renewed table = some ⟨draft.columns, []⟩ := by
    obtain ⟨_, _, madeBy⟩ := Option.bind_eq_some_iff.mp renewedBy
    exact stored_of_createAll madeBy
  refine ⟨.inr stillInTemporary, ?_⟩
  intro restored restoredBy
  have back : restored.Hold table copied rows :=
    hold_of_copyRows restoredBy stillInTemporary madeEmpty
  refine ⟨.inl back, ?_⟩
  intro cleared clearedBy
  have same : cleared table = restored table :=
    perform_frame clearedBy
      (by simpa [changedTables] using (temporaryName_ne table).symm)
  exact .inl (by simpa [Tables.Hold, same] using back)

/-- The live table holds its own rows in all columns that stay. -/
theorem hold_keptColumns
    {table : String}
    {tables : Tables ν}
    {live : StoredTable ν}
    (found : tables table = some live)
    {snapshot : Snapshot}
    (described : live.columnNames = snapshot.columnNames)
    (dropped : Dropped) :
    tables.Hold table ((keptColumns snapshot dropped).map ColumnDefinition.name)
      live.rows := by
  have listed :
      live.hasColumns ((keptColumns snapshot dropped).map ColumnDefinition.name) = true := by
    simp only [StoredTable.hasColumns, described, List.all_eq_true, List.contains_iff_mem]
    exact keptColumns_names_subset snapshot dropped
  exact ⟨live, found, listed, rfl⟩

/--
However far the plan of a rebuild is executed, the table or the temporary one
holds the rows in all columns that stay, and no other table has changed.

Nothing is assumed of what the engine fills in, of the rows it refuses, or of
the tables besides the live one; a temporary table may be left over.
-/
theorem rows_survive_interruption
    {dialect : Dialect}
    {table : String}
    {snapshot : Snapshot}
    {resolved : Resolved}
    {dropped : Dropped}
    {planned : List Statement}
    (succeeded : (plan dialect table snapshot resolved dropped).outcome = .ok planned)
    (kept : keptColumns snapshot dropped ≠ [])
    (rules : InsertRules ν)
    {tables reached : Tables ν}
    {live : StoredTable ν}
    (found : tables table = some live)
    (described : live.columnNames = snapshot.columnNames)
    {executed : List Statement}
    (isPrefix : executed <+: planned)
    (performed : performAll rules tables executed = some reached) :
    RowsSafe table ((keptColumns snapshot dropped).map ColumnDefinition.name)
        live.rows reached ∧
      ∀ other,
        other ≠ table → other ≠ temporaryName table →
          reached other = tables other := by
  obtain ⟨_, rfl⟩ := plan_ok succeeded
  constructor
  · have throughout :=
      rowsSafe_throughout rules (by simpa using kept) dialect snapshot
        (finalDraft snapshot resolved dropped) (hold_keptColumns found described dropped)
    exact throughout.after_part isPrefix performed
  · intro other notTable notTemporary
    refine performAll_frame performed ?_
    intro statement member changed
    rcases changedTables_statements (isPrefix.subset member) other changed with same | same
    · exact notTable same
    · exact notTemporary same

/-- A live table with two columns. -/
def runsSnapshot : Snapshot :=
  ⟨[.plain "id" "INTEGER", .plain "note" "VARCHAR"], []⟩

/-- The stored table that the snapshot describes, with one row. -/
def runsTables : Tables Nat :=
  fun name =>
    if name = "runs" then some ⟨runsSnapshot.columns, [fun _ => some 7]⟩ else none

/-- An engine that fills in nulls and takes every row. -/
def lenientRules : InsertRules Nat :=
  ⟨fun _ _ => none, fun _ _ => true⟩

/--
A rebuild that takes one column away and adds another one, stopped where the
rows are in the temporary table only.
-/
theorem rows_survive_interruption_between_tables :
    ∃ planned reached,
      (plan .duckdb "runs" runsSnapshot
          ⟨[.plain "score" "DOUBLE"], [], []⟩ ⟨["note"], []⟩).outcome = .ok planned ∧
        performAll lenientRules runsTables (planned.take 3) = some reached ∧
          reached "runs" = none ∧
            RowsSafe "runs" ["id"] [fun _ => some 7] reached := by
  have succeeded :
      (plan .duckdb "runs" runsSnapshot
        ⟨[.plain "score" "DOUBLE"], [], []⟩ ⟨["note"], []⟩).outcome = .ok _ :=
    rfl
  have found :
      runsTables "runs" = some ⟨runsSnapshot.columns, [fun _ => some 7]⟩ :=
    rfl
  refine ⟨_, _, succeeded, rfl, rfl, ?_⟩
  exact (rows_survive_interruption succeeded (by decide) lenientRules found rfl
    (List.take_prefix 3 _) rfl).1

end SchemaMigration.Rebuild
