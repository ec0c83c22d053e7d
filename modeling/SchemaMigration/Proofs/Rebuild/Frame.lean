import SchemaMigration.Proofs.Rebuild.DroppedKeys
import SchemaMigration.Proofs.Rebuild.NewTable

namespace SchemaMigration

/-!
# What a rebuild leaves alone

A rebuild changes what the blueprint names and nothing else.  Live columns that
are not dropped keep their definitions and their order, their foreign keys stay
on them, and their indexes are made again, each once.
-/

namespace Statement

/-- The name of the index that a statement makes. -/
def madeIndex? : Statement → Option String
  | .createIndex _ name _ _ => some name
  | _ => none

end Statement

/-- A column without its keys. -/
def ColumnDefinition.bare (column : ColumnDefinition) : ColumnDefinition :=
  { column with isPrimary := false, foreignKeys := [] }

namespace Rebuild

open Statement

instance : DecidablePred IsIndex :=
  fun key => inferInstanceAs (Decidable (key.kind = .unique ∨ key.kind = .index))

/-- The names of the unique and plain indexes among keys. -/
def indexNames (keys : List Key) : List String :=
  (keys.filter (fun key => IsIndex key)).map Key.name

/-- The names of the indexes that statements make, in order. -/
def madeIndexes (planned : List Statement) : List String :=
  planned.filterMap madeIndex?

/-! ## Indexes -/

theorem readsMaking_madeIndex : ReadsMaking madeIndex? :=
  ⟨fun _ => rfl, fun _ _ => rfl, fun _ _ _ => rfl⟩

theorem indexNames_append (first second : List Key) :
    indexNames (first ++ second) = indexNames first ++ indexNames second := by
  rw [indexNames, List.filter_append, List.map_append]
  rfl

theorem madeIndexes_createAll
    (dialect : Dialect)
    (table : String)
    (columns : List ColumnDefinition)
    (keys : List Key) :
    madeIndexes (createAll dialect table columns keys) = indexNames keys := by
  rw [madeIndexes, readsMaking_madeIndex.filterMap_createAll, indexNames,
    ← List.filterMap_eq_map, List.filterMap_filter]
  apply List.filterMap_congr
  intro key _
  cases kind : key.kind <;> simp [createIndex?, IsIndex, madeIndex?, kind]

theorem madeIndexes_statements
    (dialect : Dialect)
    (table : String)
    (snapshot : Snapshot)
    (copied : List String)
    (draft : Draft) :
    madeIndexes (statements dialect table snapshot copied draft) = indexNames draft.keys := by
  have saving :
      madeIndexes (savingStatements dialect table snapshot copied) = [] :=
    madeIndexes_createAll ..
  rw [madeIndexes, readsMaking_madeIndex.filterMap_statements, ← madeIndexes, ← madeIndexes,
    saving, madeIndexes_createAll, ite_self, List.nil_append]

theorem nodup_indexNames_withKey
    {draft : Draft}
    (distinct : (indexNames draft.keys).Nodup)
    (key : Key) :
    (indexNames (withKey draft key).keys).Nodup := by
  have added
      {known : Draft}
      (knownDistinct : (indexNames known.keys).Nodup) :
      (indexNames (addKey known key).keys).Nodup := by
    unfold addKey
    split
    · exact knownDistinct
    · rename_i unknown
      rw [indexNames_append, List.nodup_append_comm]
      by_cases isIndex : IsIndex key
      · have fresh : key.name ∉ indexNames known.keys := by
          intro taken
          obtain ⟨other, member, same⟩ := List.mem_map.mp taken
          exact unknown (List.any_eq_true.mpr
            ⟨other, List.mem_of_mem_filter member, decide_eq_true same⟩)
        have alone : indexNames [key] = [key.name] := by simp [indexNames, isIndex]
        rw [alone]
        exact List.nodup_cons.mpr ⟨fresh, knownDistinct⟩
      · have unnamed : indexNames [key] = [] := by simp [indexNames, isIndex]
        rw [unnamed]
        exact knownDistinct
  rw [withKey]
  -- A declared primary key takes the kept one away first, which leaves fewer names.
  apply added
  split
  · exact distinct.sublist ((List.filter_sublist.filter _).map _)
  · exact distinct

theorem nodup_indexNames_finalDraft
    {snapshot : Snapshot}
    (distinct : (indexNames snapshot.keys).Nodup)
    (resolved : Resolved)
    (dropped : Dropped) :
    (indexNames (finalDraft snapshot resolved dropped).keys).Nodup := by
  refine List.foldlRecOn (motive := fun draft : Draft => (indexNames draft.keys).Nodup)
    resolved.keys withKey ?_ (fun _ reached key _ => nodup_indexNames_withKey reached key)
  exact distinct.sublist ((List.filter_sublist.filter _).map _)

/-- What is read once from a list of items is there once. -/
theorem count_eq_one_of_nodup_filterMap
    {items : List Statement}
    {read : Statement → Option String}
    (distinct : (items.filterMap read).Nodup)
    {item : Statement}
    (member : item ∈ items)
    {value : String}
    (reads : read item = some value) :
    items.count item = 1 := by
  have atMostOnce := List.nodup_iff_count_le_one.mp distinct value
  rw [List.count_filterMap] at atMostOnce
  have fewer : items.count item ≤ items.countP (fun other => read other == some value) := by
    apply List.countP_mono_left
    intro other _ same
    simp [eq_of_beq same, reads]
  have atLeastOnce := List.count_pos_iff.mpr member
  omega

/-! ## Columns and their foreign keys -/

theorem keyBlind_bare : KeyBlind ColumnDefinition.bare :=
  fun _ _ _ => rfl

/-- A foreign key that no drop is found by stays on its column. -/
theorem carries_keptColumns
    {snapshot : Snapshot}
    {dropped : Dropped}
    {column : ColumnDefinition}
    (live : column ∈ snapshot.columns)
    (undropped : column.name ∉ dropped.columns)
    {key : ForeignKey}
    (held : key ∈ column.foreignKeys)
    (unmatched :
      ∀ drop ∈ dropped.keys,
        drop.kind = .foreign → dropsForeignKey drop key = false) :
    Carries (keptColumns snapshot dropped) column.name key := by
  refine ⟨releaseColumn dropped column, ?_, rfl, ?_⟩
  · exact List.mem_map_of_mem (List.mem_filter.mpr ⟨live, by simpa using undropped⟩)
  · refine List.mem_filter.mpr ⟨held, ?_⟩
    simp only [Bool.not_eq_true', List.any_eq_false, List.mem_filter, decide_eq_true_eq,
      Bool.not_eq_true]
    exact fun drop ⟨member, isForeign⟩ => unmatched drop member isForeign

/-- The tables of a rebuild have columns of different names when the live one has. -/
theorem nodup_names_of_createTable
    {dialect : Dialect}
    {table : String}
    {snapshot : Snapshot}
    (distinct : snapshot.columnNames.Nodup)
    {resolved : Resolved}
    {dropped : Dropped}
    {copied : List String}
    {made : TableDefinition}
    (member :
      .createTable made ∈
        statements dialect table snapshot copied (finalDraft snapshot resolved dropped)) :
    (made.columns.map ColumnDefinition.name).Nodup := by
  rcases eq_of_createTable_mem_statements member with rfl | rfl
  · have names :
        (copiedColumns snapshot copied).map ColumnDefinition.name =
          (snapshot.columns.filter (fun column => copied.contains column.name)).map
            ColumnDefinition.name := by
      rw [copiedColumns, List.map_map]
      rfl
    rw [names]
    exact distinct.sublist (List.filter_sublist.map _)
  · have staying : ((keptColumns snapshot dropped).map ColumnDefinition.name).Nodup := by
      rw [names_keptColumns]
      exact distinct.filter _
    rw [map_columns_finalDraft keyBlind_name, ← map_keptColumns keyBlind_name,
      ← List.map_append]
    exact nodup_names_merged staying resolved.columns

/-- The declared columns of names that do not stay, each name at its first declaration. -/
def newColumns
    (snapshot : Snapshot)
    (resolved : Resolved)
    (dropped : Dropped) :
    List ColumnDefinition :=
  (resolved.columns.filter (fun column =>
    !hasColumn (stayingColumns snapshot dropped) column.name)).eraseDupsBy
      (fun later first => later.name == first.name)

theorem addedColumns_eq_newColumns
    (snapshot : Snapshot)
    (resolved : Resolved)
    (dropped : Dropped) :
    addedColumns (keptColumns snapshot dropped) resolved.columns =
      newColumns snapshot resolved dropped := by
  have sameNames
      (name : String) :
      hasColumn (keptColumns snapshot dropped) name =
        hasColumn (stayingColumns snapshot dropped) name := by
    rw [Bool.eq_iff_iff, hasColumn_iff, hasColumn_iff, map_keptColumns keyBlind_name]
  simp only [addedColumns_eq, newColumns, sameNames]

/--
A rebuild changes what is named and nothing else.

The columns of the new table are the live ones that are not dropped, as they
are defined, and then the declared ones of new names.  A live foreign key stays
on its column unless a drop is found by it or a loose one replaces it.  A live
index none of whose columns is dropped, and whose name no drop has, is made
again once.  No column and no index is made twice under a name.
-/
theorem rebuild_changes_only_what_is_named
    {dialect : Dialect}
    {table : String}
    {snapshot : Snapshot}
    (distinctColumns : snapshot.columnNames.Nodup)
    (distinctIndexes : (indexNames snapshot.keys).Nodup)
    {resolved : Resolved}
    {dropped : Dropped}
    {planned : List Statement}
    (succeeded : (plan dialect table snapshot resolved dropped).outcome = .ok planned) :
    ∃ made,
      madeTables table planned = [made] ∧
        made.columns.map ColumnDefinition.bare =
            (stayingColumns snapshot dropped).map ColumnDefinition.bare ++
              (newColumns snapshot resolved dropped).map ColumnDefinition.bare ∧
        made.columns.map (columnText dialect table) =
            (stayingColumns snapshot dropped).map (columnText dialect table) ++
              (newColumns snapshot resolved dropped).map (columnText dialect table) ∧
        (∀ column ∈ snapshot.columns,
          column.name ∉ dropped.columns →
            ∀ key ∈ column.foreignKeys,
              (∀ drop ∈ dropped.keys,
                drop.kind = .foreign → dropsForeignKey drop key = false) →
                (∀ loose ∈ resolved.foreignKeys,
                  loose.column = column.name → loose.name ≠ key.name) →
                  Carries made.columns column.name key) ∧
        (∀ key ∈ snapshot.keys,
          IsIndex key →
            (∀ name ∈ key.columns, name ∉ dropped.columns) →
              (∀ drop ∈ dropped.keys, drop.name ≠ key.name) →
                planned.count (indexOf table key) = 1) ∧
        (∀ other, .createTable other ∈ planned →
          (other.columns.map ColumnDefinition.name).Nodup) ∧
        (madeIndexes planned).Nodup := by
  have madeOnce := madeTables_plan succeeded
  obtain ⟨_, rfl⟩ := plan_ok succeeded
  have indexesOnce :
      (madeIndexes
        (statements dialect table snapshot
          ((keptColumns snapshot dropped).map ColumnDefinition.name)
          (finalDraft snapshot resolved dropped))).Nodup := by
    rw [madeIndexes_statements]
    exact nodup_indexNames_finalDraft distinctIndexes resolved dropped
  rw [← addedColumns_eq_newColumns]
  refine ⟨_, madeOnce, map_columns_finalDraft keyBlind_bare snapshot resolved dropped,
    map_columns_finalDraft (keyBlind_columnText dialect table) snapshot resolved dropped,
    ?_, ?_, ?_, indexesOnce⟩
  · intro column live undropped key held unmatched unreplaced
    have kept := carries_keptColumns live undropped held unmatched
    exact carries_finalDraft_of_merged (carries_merged_of_kept kept resolved) unreplaced
  · intro key live isIndex uncut unnamed
    have stays : key ∈ keptKeys snapshot dropped :=
      (mem_keptKeys_iff live isIndex).mpr ⟨unnamed, uncut⟩
    refine count_eq_one_of_nodup_filterMap indexesOnce ?_ rfl
    rw [indexOf_mem_statements_iff isIndex]
    exact mem_finalDraft_of_keptKeys stays isIndex.isPrimary_eq_false resolved
  · exact fun other member => nodup_names_of_createTable distinctColumns member

/-- A live table with two indexes and a foreign key. -/
def framedSnapshot : Snapshot where
  columns :=
    [.plain "status" "VARCHAR", .plain "note" "VARCHAR",
      { ColumnDefinition.plain "experiment" "INTEGER" with
        foreignKeys := [⟨"by_experiment", "experiment", "experiments", "id", none, none⟩] }]
  keys := [⟨"by_status", ["status"], .index⟩, ⟨"by_note", ["note"], .unique⟩]

/-- Declarations that use names of the live table again, and one name twice. -/
def framedResolved : Resolved where
  columns :=
    [⟨"status", ⟨"INTEGER", []⟩, false, none, false, false, []⟩,
      .plain "score" "DOUBLE", .plain "score" "VARCHAR"]
  keys := [⟨"by_status", ["score"], .index⟩]
  foreignKeys := [⟨"by_origin", "experiment", "origins", "id", none, none⟩]

/--
A rebuild keeps a live column and a live index that are declared otherwise, and
the foreign key next to which another one is declared.
-/
theorem rebuild_keeps_what_is_declared_again :
    ∃ planned made,
      (plan .duckdb "runs" framedSnapshot framedResolved ⟨["note"], []⟩).outcome =
          .ok planned ∧
        madeTables "runs" planned = [made] ∧
        made.columns.map ColumnDefinition.bare =
          [.plain "status" "VARCHAR", .plain "experiment" "INTEGER", .plain "score" "DOUBLE"] ∧
        Carries made.columns "experiment"
          ⟨"by_experiment", "experiment", "experiments", "id", none, none⟩ ∧
        planned.count (indexOf "runs" ⟨"by_status", ["status"], .index⟩) = 1 := by
  have succeeded :
      (plan .duckdb "runs" framedSnapshot framedResolved ⟨["note"], []⟩).outcome = .ok _ :=
    rfl
  obtain ⟨made, isMade, columns, _, carries, indexes, _, _⟩ :=
    rebuild_changes_only_what_is_named (by decide) (by decide) succeeded
  refine ⟨_, made, succeeded, isMade, columns, ?_, ?_⟩
  · exact carries _ (.tail _ (.tail _ (.head _))) (by decide) _ (.head _) (by simp)
      (by simp [framedResolved])
  · exact indexes _ (.head _) (.inr rfl) (by decide) (by simp)

end Rebuild

end SchemaMigration
