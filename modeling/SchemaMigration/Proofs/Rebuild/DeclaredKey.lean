import SchemaMigration.Proofs.PrimaryKeys
import SchemaMigration.Proofs.Rebuild.References

namespace SchemaMigration

/-!
# Primary keys that a rebuild declares

A rebuild takes a table away with its primary key and makes it once, so the
keys of the new table are all there are.  A declared primary key that is merged
covers its columns and no others; one that is not merged still marks those of
its columns that are added.
-/

namespace Rebuild

open Statement

/-- A rebuild takes the table away and makes the new one, with a table beside it or without. -/
theorem concerning_plan
    {dialect : Dialect}
    {table : String}
    {snapshot : Snapshot}
    {resolved : Resolved}
    {dropped : Dropped}
    {planned : List Statement}
    (succeeded : (plan dialect table snapshot resolved dropped).outcome = .ok planned) :
    let renewed :=
      [.dropTable table false, .createTable (newTable table snapshot resolved dropped)]
    planned.filter concernsPrimary = renewed ∨
      ∃ saving,
        planned.filter concernsPrimary =
          .createTable saving :: renewed ++ [.dropTable (temporaryName table) false] := by
  obtain ⟨_, rfl⟩ := plan_ok succeeded
  have renewing :
      (renewingStatements dialect table (finalDraft snapshot resolved dropped)).filter
          concernsPrimary =
        [.dropTable table false, .createTable (newTable table snapshot resolved dropped)] := by
    rw [renewingStatements, List.filter_cons_of_pos rfl, filter_createAll]
    rfl
  by_cases kept : (keptColumns snapshot dropped).map ColumnDefinition.name = []
  · left
    simpa [statements, kept, renewingStatements] using renewing
  · right
    rw [statements_eq kept, List.filter_append, savingStatements, filter_createAll,
      List.filter_cons_of_neg (by simp [concernsPrimary]), List.filter_append, renewing]
    exact ⟨_, rfl⟩

/-- After a rebuild the table has the primary key of the new one. -/
theorem primariesAfterAll_plan
    {dialect : Dialect}
    {table : String}
    {snapshot : Snapshot}
    {resolved : Resolved}
    {dropped : Dropped}
    {planned : List Statement}
    (succeeded : (plan dialect table snapshot resolved dropped).outcome = .ok planned)
    (primaries : PrimaryColumns) :
    ∃ after,
      primariesAfterAll primaries planned = some after ∧
        after table =
          (newTable table snapshot resolved dropped).primary.map PrimaryKey.columns := by
  rw [← primariesAfterAll_filter]
  rcases concerning_plan succeeded with renewed | ⟨saving, renewed⟩
  · rw [renewed]
    refine ⟨_, rfl, ?_⟩
    exact Function.update_self ..
  · rw [renewed]
    refine ⟨_, rfl, ?_⟩
    rw [Function.update_of_ne (temporaryName_ne table).symm]
    exact Function.update_self ..

/-- A rebuild leaves the primary key that it gives the new table, whatever was there. -/
theorem leavePrimary_plan_iff
    {dialect : Dialect}
    {table : String}
    {snapshot : Snapshot}
    {resolved : Resolved}
    {dropped : Dropped}
    {planned : List Statement}
    (succeeded : (plan dialect table snapshot resolved dropped).outcome = .ok planned)
    (primaries : PrimaryColumns)
    {columns : List String}
    (nonempty : columns ≠ []) :
    LeavePrimary primaries table columns planned ↔
      ∀ name,
        name ∈ primaryNames (finalDraft snapshot resolved dropped).columns ↔
          name ∈ columns := by
  obtain ⟨after, reached, made⟩ := primariesAfterAll_plan succeeded primaries
  rw [newTable, columns_primaryOf] at made
  constructor
  · rintro ⟨_, kept, alsoReached, left, same⟩
    cases reached.symm.trans alsoReached
    rw [left] at made
    split at made
    · cases made
    · cases made
      exact same
  · intro same
    obtain ⟨name, covered⟩ := List.exists_mem_of_ne_nil columns nonempty
    rw [if_neg (List.ne_nil_of_mem ((same name).mpr covered))] at made
    exact ⟨after, _, reached, made, same⟩

/-! ## Plans that change keys only -/

theorem outcome_mergeKey
    {table : String}
    {draft : Draft}
    {key : Key}
    (there : ∀ name ∈ key.columns, name ∈ draft.columns.map ColumnDefinition.name) :
    (mergeKey table draft key).outcome = .ok (withKey draft key) := by
  have noneMissing : key.columns.find? (fun name => !hasColumn draft.columns name) = none := by
    rw [List.find?_eq_none]
    intro name covered
    simp [hasColumn_iff.mpr (there name covered)]
  unfold mergeKey withKey
  rw [noneMissing]
  cases key.isPrimary <;> cases draft.columns.any ColumnDefinition.isPrimary <;> simp

/-- Declared keys are merged where their columns are there. -/
theorem outcome_mergeKeys
    {table : String}
    {declared : List Key}
    {draft : Draft}
    (there :
      ∀ key ∈ declared,
        ∀ name ∈ key.columns, name ∈ draft.columns.map ColumnDefinition.name) :
    (Traced.sweep (mergeKey table) draft declared).outcome =
      .ok (declared.foldl withKey draft) := by
  induction declared generalizing draft with
  | nil =>
      rfl
  | cons key rest inductionHypothesis =>
      obtain ⟨keyThere, restThere⟩ := List.forall_mem_cons.mp there
      have later :
          ∀ other ∈ rest,
            ∀ name ∈ other.columns,
              name ∈ (withKey draft key).columns.map ColumnDefinition.name := by
        rwa [map_columns_withKey keyBlind_name]
      rw [Traced.sweep, Traced.outcome_bind, outcome_mergeKey keyThere, Outcome.ok_bind,
        inductionHypothesis later, List.foldl_cons]

/-- Keys can be replaced where those to drop are found and the others are over columns that stay. -/
theorem plan_keys
    (dialect : Dialect)
    (table : String)
    {snapshot : Snapshot}
    {dropped : Dropped}
    (found : ∀ drop ∈ dropped.keys, hasKey snapshot drop = true)
    {declared : List Key}
    (there :
      ∀ key ∈ declared,
        ∀ name ∈ key.columns,
          name ∈ (keptColumns snapshot dropped).map ColumnDefinition.name)
    (nonempty : keptColumns snapshot dropped ≠ []) :
    ∃ planned,
      (plan dialect table snapshot ⟨[], declared, []⟩ dropped).outcome = .ok planned := by
  have noneMissing : missingKey? snapshot dropped = none := by
    rw [missingKey?, List.find?_eq_none]
    intro drop isDropped
    simp [found drop isDropped]
  have merges :
      (Traced.sweep (mergeKey table) ⟨keptColumns snapshot dropped, keptKeys snapshot dropped⟩
        declared).outcome = .ok (declared.foldl withKey _) :=
    outcome_mergeKeys there
  have names :
      (declared.foldl withKey
          ⟨keptColumns snapshot dropped, keptKeys snapshot dropped⟩).columns.map
          ColumnDefinition.name =
        (keptColumns snapshot dropped).map ColumnDefinition.name :=
    project_foldl withKey (fun draft => draft.columns.map ColumnDefinition.name)
      (fun draft key _ => map_columns_withKey keyBlind_name draft key) _
  have columns :
      (declared.foldl withKey
        ⟨keptColumns snapshot dropped, keptKeys snapshot dropped⟩).columns ≠ [] := by
    intro empty
    rw [empty] at names
    exact nonempty (List.map_eq_nil_iff.mp names.symm)
  simp [plan, merge, noneMissing, Traced.sweep, merges, columns]

/-! ## The columns of the new key -/

theorem mem_primaryNames
    {columns : List ColumnDefinition}
    {name : String} :
    name ∈ primaryNames columns ↔
      ∃ column ∈ columns, column.isPrimary = true ∧ column.name = name := by
  simp [primaryNames, and_assoc]

/-- Whether the columns that belong to the primary key are those that a key covers. -/
def Marked (key : Key) (columns : List ColumnDefinition) : Prop :=
  ∀ column ∈ columns, column.isPrimary = key.covers column.name

theorem mem_primaryNames_of_marked
    {key : Key}
    {columns : List ColumnDefinition}
    (marked : Marked key columns)
    {name : String} :
    name ∈ primaryNames columns ↔
      name ∈ columns.map ColumnDefinition.name ∧ name ∈ key.columns := by
  rw [mem_primaryNames]
  constructor
  · rintro ⟨column, member, isPrimary, rfl⟩
    rw [marked column member] at isPrimary
    exact ⟨List.mem_map_of_mem member, by simpa [Key.covers] using isPrimary⟩
  · rintro ⟨there, covered⟩
    obtain ⟨column, member, rfl⟩ := List.mem_map.mp there
    refine ⟨column, member, ?_, rfl⟩
    rw [marked column member]
    simpa [Key.covers] using covered

section Sole

variable
  {key : Key}
  (isPrimary : key.isPrimary = true)

include isPrimary

theorem marked_setPrimary
    (draft : Draft) :
    Marked key (withKey draft key).columns := by
  intro column member
  rw [withKey, columns_addKey, if_pos isPrimary] at member
  obtain ⟨_, _, rfl⟩ := List.mem_map.mp member
  rfl

/-- Merging keys leaves the columns marked by the only primary key among them. -/
theorem marked_foldl_withKey
    {declared : List Key}
    (sole : ∀ other ∈ declared, other.isPrimary = true → other = key)
    {draft : Draft}
    (marked : Marked key draft.columns ∨ key ∈ declared) :
    Marked key (declared.foldl withKey draft).columns := by
  induction declared generalizing draft with
  | nil =>
      exact marked.resolve_right (by simp)
  | cons first rest inductionHypothesis =>
      obtain ⟨firstSole, restSole⟩ := List.forall_mem_cons.mp sole
      refine inductionHypothesis restSole ?_
      by_cases same : first = key
      · subst same
        exact .inl (marked_setPrimary isPrimary draft)
      · rcases marked with already | later
        · left
          have notPrimary : ¬ first.isPrimary = true := fun other => same (firstSole other)
          rwa [withKey, columns_addKey, if_neg notPrimary]
        · exact .inr ((List.mem_cons.mp later).resolve_left (Ne.symm same))

/-- The primary key of the new table is the only one that is merged. -/
theorem mem_primaryNames_keyed
    {table : String}
    {snapshot : Snapshot}
    {resolved : Resolved}
    {dropped : Dropped}
    {draft : Draft}
    (merged : (merge table snapshot resolved dropped).outcome = .ok draft)
    (sole : ∀ other ∈ resolved.keys, other.isPrimary = true → other = key)
    (isMerged : key ∈ resolved.keys)
    {name : String} :
    name ∈ primaryNames (finalDraft snapshot resolved dropped).columns ↔
      name ∈ key.columns := by
  have marked : Marked key (keyedDraft snapshot resolved dropped).columns :=
    marked_foldl_withKey isPrimary sole (.inr isMerged)
  rw [primaryNames_keyedDraft, mem_primaryNames_of_marked marked,
    map_columns_keyedDraft keyBlind_name, and_iff_right_iff_imp]
  exact key_columns_there merged key isMerged name

end Sole

theorem mem_names_addedColumns
    {known declared : List ColumnDefinition}
    {name : String} :
    name ∈ (addedColumns known declared).map ColumnDefinition.name ↔
      name ∈ declared.map ColumnDefinition.name ∧
        name ∉ known.map ColumnDefinition.name := by
  constructor
  · intro added
    obtain ⟨column, member, rfl⟩ := List.mem_map.mp added
    refine ⟨List.mem_map_of_mem (mem_of_mem_addedColumns member), ?_⟩
    rw [← hasColumn_iff, hasColumn_addedColumns member]
    exact Bool.false_ne_true
  · rintro ⟨isDeclared, new⟩
    have merged := mem_names_merged.mpr (.inr isDeclared : name ∈ known.map _ ∨ _)
    rw [List.map_append, List.mem_append] at merged
    exact merged.resolve_left new

/--
Where the live key is released and none is merged, the new table has a primary
key over those columns of a declared one that are made anew.
-/
theorem mem_primaryNames_displaced
    {snapshot : Snapshot}
    {resolved : Resolved}
    {dropped : Dropped}
    (noPrimaryKey : ∀ key ∈ resolved.keys, key.isPrimary = false)
    (released : stayingPrimary snapshot dropped = [])
    {key : Key}
    (marked : Marked key resolved.columns)
    {name : String} :
    name ∈ primaryNames (finalDraft snapshot resolved dropped).columns ↔
      name ∈ key.columns ∧
        name ∈ resolved.columns.map ColumnDefinition.name ∧
          name ∉ (keptColumns snapshot dropped).map ColumnDefinition.name := by
  have addedMarked :
      Marked key (addedColumns (keptColumns snapshot dropped) resolved.columns) :=
    fun column member => marked column (mem_of_mem_addedColumns member)
  rw [primaryNames_unkeyed noPrimaryKey, released, List.nil_append,
    mem_primaryNames_of_marked addedMarked, mem_names_addedColumns, and_comm]

end Rebuild

end SchemaMigration
