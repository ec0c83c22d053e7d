import SchemaMigration.Proofs.Rebuild.RowSurvival

namespace SchemaMigration.Rebuild

/-!
# Rebuilds that complete

What a whole rebuild makes of the tables when nothing stands in the way of the
temporary one.  Everything up to the copy back goes through; the copy back is
refused when the new table does not take the rows, and by then the live table
is gone.
-/

open Statement

/-- The statements of a rebuild up to the copy back. -/
def replacingStatements
    (dialect : Dialect)
    (table : String)
    (snapshot : Snapshot)
    (copied : List String)
    (draft : Draft) :
    List Statement :=
  savingStatements dialect table snapshot copied ++
    .copyRows copied table (temporaryName table) ::
      renewingStatements dialect table draft

/-- A rebuild that keeps columns replaces the table and then restores its rows. -/
theorem statements_eq_replacing
    {copied : List String}
    (kept : copied ≠ [])
    (dialect : Dialect)
    (table : String)
    (snapshot : Snapshot)
    (draft : Draft) :
    statements dialect table snapshot copied draft =
      replacingStatements dialect table snapshot copied draft ++
        [.copyRows copied (temporaryName table) table,
          .dropTable (temporaryName table) false] := by
  simp [statements_eq kept, replacingStatements]

/-- The temporary table has the live columns that are copied. -/
theorem hasColumns_copiedColumns
    {snapshot : Snapshot}
    {copied : List String}
    (known : ∀ name ∈ copied, name ∈ snapshot.columnNames)
    (rows : List (Row ν)) :
    (⟨copiedColumns snapshot copied, rows⟩ : StoredTable ν).hasColumns copied = true := by
  simp only [StoredTable.hasColumns, List.all_eq_true, List.contains_iff_mem]
  intro name member
  obtain ⟨column, live, rfl⟩ := List.mem_map.mp (known name member)
  refine List.mem_map.mpr ⟨.plain column.name column.type.name, ?_, rfl⟩
  exact List.mem_map.mpr ⟨column, by simp [live, member], rfl⟩

variable {rules : InsertRules ν}

/-- Saving makes an empty temporary table, where there is none. -/
theorem performAll_savingStatements
    {dialect : Dialect}
    {table : String}
    {snapshot : Snapshot}
    {copied : List String}
    {tables : Tables ν}
    (spare : tables (temporaryName table) = none) :
    performAll rules tables (savingStatements dialect table snapshot copied) =
      some (Function.update tables (temporaryName table)
        (some ⟨copiedColumns snapshot copied, []⟩)) := by
  simp [savingStatements, performAll_createAll, perform, spare]

/-- Renewing makes an empty new table in place of the live one. -/
theorem performAll_renewingStatements
    {dialect : Dialect}
    {table : String}
    {draft : Draft}
    {tables : Tables ν}
    {live : StoredTable ν}
    (found : tables table = some live) :
    performAll rules tables (renewingStatements dialect table draft) =
      some (Function.update tables table (some ⟨draft.columns, []⟩)) := by
  simp [renewingStatements, performAll, performAll_createAll, perform, found]

/-- The tables when the new table stands in place of the live one, still without rows. -/
def replacedTables
    (rules : InsertRules ν)
    (table : String)
    (snapshot : Snapshot)
    (copied : List String)
    (draft : Draft)
    (tables : Tables ν)
    (rows : List (Row ν)) :
    Tables ν :=
  Function.update
    (Function.update tables (temporaryName table)
      (some ⟨copiedColumns snapshot copied,
        rules.copied copied (copiedColumns snapshot copied) rows⟩))
    table (some ⟨draft.columns, []⟩)

/-- The table is replaced when the temporary one takes the rows. -/
theorem performAll_replacingStatements
    (dialect : Dialect)
    {table : String}
    {snapshot : Snapshot}
    {copied : List String}
    (known : ∀ name ∈ copied, name ∈ snapshot.columnNames)
    (draft : Draft)
    {tables : Tables ν}
    {live : StoredTable ν}
    (found : tables table = some live)
    (listed : live.hasColumns copied = true)
    (spare : tables (temporaryName table) = none)
    (taken :
      (rules.copied copied (copiedColumns snapshot copied) live.rows).all
        (rules.accepts (copiedColumns snapshot copied)) = true) :
    performAll rules tables
        (replacingStatements dialect table snapshot copied draft) =
      some (replacedTables rules table snapshot copied draft tables live.rows) := by
  have other := (temporaryName_ne table).symm
  have stillThere :
      Function.update tables (temporaryName table)
          (some ⟨copiedColumns snapshot copied, []⟩) table =
        some live := by
    rwa [Function.update_of_ne other]
  have secured :=
    perform_copyRows_into_empty rules stillThere listed
      (Function.update_self _ _ _) (hasColumns_copiedColumns known [])
  rw [taken, if_pos rfl, Function.update_idem] at secured
  rw [replacingStatements, performAll_append, performAll_savingStatements spare,
    Option.bind_some, performAll, secured, Option.bind_some]
  exact performAll_renewingStatements (by rwa [Function.update_of_ne other])

/-- A whole rebuild leaves the rows in the new table, or fails at the copy back. -/
theorem performAll_statements
    (dialect : Dialect)
    {table : String}
    {snapshot : Snapshot}
    {copied : List String}
    (kept : copied ≠ [])
    (known : ∀ name ∈ copied, name ∈ snapshot.columnNames)
    (draft : Draft)
    (merged : ∀ name ∈ copied, name ∈ draft.columns.map ColumnDefinition.name)
    {tables : Tables ν}
    {live : StoredTable ν}
    (found : tables table = some live)
    (listed : live.hasColumns copied = true)
    (spare : tables (temporaryName table) = none)
    (taken :
      (rules.copied copied (copiedColumns snapshot copied) live.rows).all
        (rules.accepts (copiedColumns snapshot copied)) = true) :
    performAll rules tables (statements dialect table snapshot copied draft) =
      if (rules.copied copied draft.columns live.rows).all
          (rules.accepts draft.columns) then
        some (Function.update tables table
          (some ⟨draft.columns, rules.copied copied draft.columns live.rows⟩))
      else
        none := by
  have other := temporaryName_ne table
  have inTemporary :
      replacedTables rules table snapshot copied draft tables live.rows
          (temporaryName table) =
        some ⟨copiedColumns snapshot copied,
          rules.copied copied (copiedColumns snapshot copied) live.rows⟩ := by
    rw [replacedTables, Function.update_of_ne other, Function.update_self]
  have restored :=
    perform_copyRows_into_empty rules inTemporary
      (hasColumns_copiedColumns known _) (Function.update_self _ _ _)
      (by simpa [StoredTable.hasColumns, StoredTable.columnNames] using merged)
  rw [InsertRules.copied_copied] at restored
  rw [statements_eq_replacing kept, performAll_append,
    performAll_replacingStatements dialect known draft found listed spare taken,
    Option.bind_some, performAll, restored]
  split
  · -- Dropping the temporary table leaves nothing of the detour.
    have cleared :
        Function.update
            (Function.update
              (replacedTables rules table snapshot copied draft tables live.rows)
              table (some ⟨draft.columns, rules.copied copied draft.columns live.rows⟩))
            (temporaryName table) none =
          Function.update tables table
            (some ⟨draft.columns, rules.copied copied draft.columns live.rows⟩) := by
      rw [replacedTables, Function.update_idem, Function.update_comm other.symm,
        Function.update_idem, ← spare, Function.update_eq_self]
    simp [performAll, perform, Function.update_of_ne other, inTemporary, cleared]
  · rfl

end SchemaMigration.Rebuild
