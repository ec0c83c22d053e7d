import Mathlib.Data.List.Nodup
import SchemaMigration.Proofs.Rebuild.RowSurvival

namespace SchemaMigration

/-!
# The new table

A rebuild makes one table in place of the live one.  Its columns are the live
ones that stay and then the declared ones whose names are new; merging keys
changes nothing about a column but its keys.  A foreign key that is on a column
of the merge is on the column of that name in the new table, unless a loose
foreign key replaces it there.
-/

namespace Statement

/-- The definition of the table that a statement makes under a name. -/
def madeTable? (table : String) : Statement → Option TableDefinition
  | .createTable made => if made.name = table then some made else none
  | _ => none

end Statement

namespace Rebuild

open Statement

/-! ## What the statements define -/

/-- A reading of statements that sees tables and indexes being made, and nothing else. -/
structure ReadsMaking (read : Statement → Option β) : Prop where
  createSequence : ∀ name, read (.createSequence name) = none
  dropTable : ∀ table ifExists, read (.dropTable table ifExists) = none
  copyRows : ∀ columns source target, read (.copyRows columns source target) = none

section ReadsMaking

variable
  {read : Statement → Option β}
  (reads : ReadsMaking read)

include reads

/-- What making a table defines: the table and then its indexes. -/
theorem ReadsMaking.filterMap_createAll
    (dialect : Dialect)
    (table : String)
    (columns : List ColumnDefinition)
    (keys : List Key) :
    (createAll dialect table columns keys).filterMap read =
      (read (.createTable ⟨table, columns, TableDefinition.primaryOf columns keys⟩)).toList ++
        keys.filterMap (fun key => (createIndex? table key).bind read) := by
  have fromPrelude :
      (preludeOf dialect table columns).filterMap read = [] := by
    rw [List.filterMap_eq_nil_iff]
    intro statement member
    obtain ⟨name, rfl⟩ := eq_createSequence_of_mem_preludeOf member
    exact reads.createSequence name
  rw [createAll, List.filterMap_append, fromPrelude, List.filterMap_cons,
    List.filterMap_filterMap]
  cases read (.createTable ⟨table, columns, TableDefinition.primaryOf columns keys⟩) <;> rfl

/-- What a rebuild defines: the temporary table, if there is one, and then the new one. -/
theorem ReadsMaking.filterMap_statements
    (dialect : Dialect)
    (table : String)
    (snapshot : Snapshot)
    (copied : List String)
    (draft : Draft) :
    (statements dialect table snapshot copied draft).filterMap read =
      (if copied = [] then
        []
      else
        (savingStatements dialect table snapshot copied).filterMap read) ++
        (createAll dialect table draft.columns draft.keys).filterMap read := by
  by_cases kept : copied = []
  · simp [statements, kept, reads.dropTable]
  · rw [statements_eq kept, if_neg kept]
    simp [renewingStatements, reads.dropTable, reads.copyRows]

end ReadsMaking

/-! ## The one table -/

/-- The definitions of the tables that statements make under a name, in order. -/
def madeTables (table : String) (planned : List Statement) : List TableDefinition :=
  planned.filterMap (madeTable? table)

theorem readsMaking_madeTable (table : String) : ReadsMaking (madeTable? table) :=
  ⟨fun _ => rfl, fun _ _ => rfl, fun _ _ _ => rfl⟩

/-- The table that a rebuild makes in place of the live one. -/
def newTable
    (table : String)
    (snapshot : Snapshot)
    (resolved : Resolved)
    (dropped : Dropped) :
    TableDefinition :=
  let draft := finalDraft snapshot resolved dropped
  ⟨table, draft.columns, TableDefinition.primaryOf draft.columns draft.keys⟩

theorem madeTables_createAll
    (dialect : Dialect)
    (table name : String)
    (columns : List ColumnDefinition)
    (keys : List Key) :
    madeTables table (createAll dialect name columns keys) =
      if name = table then
        [⟨name, columns, TableDefinition.primaryOf columns keys⟩]
      else
        [] := by
  have fromKeys :
      keys.filterMap (fun key => (createIndex? name key).bind (madeTable? table)) = [] := by
    rw [List.filterMap_eq_nil_iff]
    intro key _
    cases kind : key.kind <;> simp [createIndex?, kind, madeTable?]
  rw [madeTables, (readsMaking_madeTable table).filterMap_createAll, fromKeys, List.append_nil]
  by_cases named : name = table <;> simp [madeTable?, named]

/-- A plan that succeeds makes the new table under the name of the live one, once. -/
theorem madeTables_plan
    {dialect : Dialect}
    {table : String}
    {snapshot : Snapshot}
    {resolved : Resolved}
    {dropped : Dropped}
    {planned : List Statement}
    (succeeded : (plan dialect table snapshot resolved dropped).outcome = .ok planned) :
    madeTables table planned = [newTable table snapshot resolved dropped] := by
  obtain ⟨_, rfl⟩ := plan_ok succeeded
  have saving
      (copied : List String) :
      madeTables table (savingStatements dialect table snapshot copied) = [] := by
    rw [savingStatements, madeTables_createAll, if_neg (temporaryName_ne table)]
  have renewing
      (draft : Draft) :
      madeTables table (createAll dialect table draft.columns draft.keys) =
        [⟨table, draft.columns, TableDefinition.primaryOf draft.columns draft.keys⟩] := by
    rw [madeTables_createAll, if_pos rfl]
  rw [madeTables, (readsMaking_madeTable table).filterMap_statements, ← madeTables,
    ← madeTables, saving, renewing, ite_self]
  rfl

/-! ## Columns, whatever their keys -/

/-- A reading of columns that keys do not enter. -/
def KeyBlind (read : ColumnDefinition → β) : Prop :=
  ∀ column isPrimary foreignKeys,
    read { column with isPrimary := isPrimary, foreignKeys := foreignKeys } = read column

theorem keyBlind_name : KeyBlind ColumnDefinition.name :=
  fun _ _ _ => rfl

theorem keyBlind_columnText
    (dialect : Dialect)
    (table : String) :
    KeyBlind (columnText dialect table) :=
  fun _ _ _ => rfl

/-- The live columns that are not dropped, as they are. -/
def stayingColumns (snapshot : Snapshot) (dropped : Dropped) : List ColumnDefinition :=
  snapshot.columns.filter (fun column => !dropped.columns.contains column.name)

section KeyBlind

variable
  {read : ColumnDefinition → β}
  (blind : KeyBlind read)

include blind

theorem map_keptColumns
    (snapshot : Snapshot)
    (dropped : Dropped) :
    (keptColumns snapshot dropped).map read =
      (stayingColumns snapshot dropped).map read := by
  rw [keptColumns, List.map_map]
  exact List.map_congr_left (fun column _ => blind column _ _)

theorem map_columns_withKey
    (draft : Draft)
    (key : Key) :
    (withKey draft key).columns.map read = draft.columns.map read := by
  rw [withKey, columns_addKey]
  split
  · rw [setPrimary, List.map_map]
    exact List.map_congr_left (fun column _ => blind column _ column.foreignKeys)
  · rfl

theorem map_withForeignKey
    (columns : List ColumnDefinition)
    (key : ForeignKey) :
    (withForeignKey columns key).map read = columns.map read := by
  induction columns with
  | nil =>
      rfl
  | cons column rest inductionHypothesis =>
      simp only [withForeignKey, putForeignKey] at inductionHypothesis ⊢
      split
      · exact congrArg (· :: _) (blind column column.isPrimary _)
      · rw [List.map_cons, inductionHypothesis, List.map_cons]

theorem map_columns_keyedDraft
    (snapshot : Snapshot)
    (resolved : Resolved)
    (dropped : Dropped) :
    (keyedDraft snapshot resolved dropped).columns.map read =
      (mergedColumns snapshot resolved dropped).map read :=
  project_foldl withKey (fun draft => draft.columns.map read)
    (fun draft key _ => map_columns_withKey blind draft key) _

/--
The columns of the new table are the live ones that stay and then the added
ones, but for their keys.
-/
theorem map_columns_finalDraft
    (snapshot : Snapshot)
    (resolved : Resolved)
    (dropped : Dropped) :
    (finalDraft snapshot resolved dropped).columns.map read =
      (stayingColumns snapshot dropped).map read ++
        (addedColumns (keptColumns snapshot dropped) resolved.columns).map read := by
  have loose :
      (finalDraft snapshot resolved dropped).columns.map read =
        (keyedDraft snapshot resolved dropped).columns.map read :=
    project_foldl withForeignKey (fun columns => columns.map read)
      (fun columns key _ => map_withForeignKey blind columns key) _
  rw [loose, map_columns_keyedDraft blind, mergedColumns, foldl_withColumn,
    List.map_append, map_keptColumns blind]

end KeyBlind

/-! ## Names -/

theorem hasColumn_iff
    {columns : List ColumnDefinition}
    {name : String} :
    hasColumn columns name = true ↔ name ∈ columns.map ColumnDefinition.name := by
  simp [hasColumn]

/-- The added columns are the declared ones of new names, each name at its first declaration. -/
theorem addedColumns_eq (known declared : List ColumnDefinition) :
    addedColumns known declared =
      (declared.filter (fun column => !hasColumn known column.name)).eraseDupsBy
        (fun later first => later.name == first.name) := by
  induction declared generalizing known with
  | nil =>
      rfl
  | cons column rest inductionHypothesis =>
      by_cases taken : hasColumn known column.name = true
      · simp [addedColumns, taken, inductionHypothesis]
      · have others :
            rest.filter (fun later => !hasColumn (known ++ [column]) later.name) =
              (rest.filter (fun later => !hasColumn known later.name)).filter
                (fun later => (later.name == column.name) = false) := by
          rw [List.filter_filter]
          apply List.filter_congr
          intro later _
          by_cases same : later.name = column.name
          · simp [hasColumn, same]
          · simp [hasColumn, same, Ne.symm same]
        simp [addedColumns, taken, inductionHypothesis, others, List.eraseDupsBy_cons]

theorem mem_names_merged
    {known declared : List ColumnDefinition}
    {name : String} :
    name ∈ (known ++ addedColumns known declared).map ColumnDefinition.name ↔
      name ∈ known.map ColumnDefinition.name ∨
        name ∈ declared.map ColumnDefinition.name := by
  induction declared generalizing known with
  | nil =>
      simp [addedColumns]
  | cons column rest inductionHypothesis =>
      by_cases taken : hasColumn known column.name = true
      · have known := hasColumn_iff.mp taken
        simp only [addedColumns, taken, if_true, inductionHypothesis, List.map_cons,
          List.mem_cons]
        constructor
        · rintro (there | later)
          · exact .inl there
          · exact .inr (.inr later)
        · rintro (there | rfl | later)
          · exact .inl there
          · exact .inl known
          · exact .inr later
      · have step :
            known ++ addedColumns known (column :: rest) =
              (known ++ [column]) ++ addedColumns (known ++ [column]) rest := by
          simp [addedColumns, taken]
        rw [step, inductionHypothesis]
        simp [or_assoc]

theorem nodup_names_merged
    {known : List ColumnDefinition}
    (distinct : (known.map ColumnDefinition.name).Nodup)
    (declared : List ColumnDefinition) :
    ((known ++ addedColumns known declared).map ColumnDefinition.name).Nodup := by
  induction declared generalizing known with
  | nil =>
      simpa [addedColumns] using distinct
  | cons column rest inductionHypothesis =>
      by_cases taken : hasColumn known column.name = true
      · simpa [addedColumns, taken] using inductionHypothesis distinct
      · have wider : ((known ++ [column]).map ColumnDefinition.name).Nodup := by
          rw [List.map_append, List.nodup_append_comm]
          exact List.nodup_cons.mpr ⟨fun there => taken (hasColumn_iff.mpr there), distinct⟩
        simpa [addedColumns, taken] using inductionHypothesis wider

theorem mem_names_newTable
    {table : String}
    {snapshot : Snapshot}
    {resolved : Resolved}
    {dropped : Dropped}
    {name : String} :
    name ∈ (newTable table snapshot resolved dropped).columns.map ColumnDefinition.name ↔
      name ∈ snapshot.columnNames ∧ name ∉ dropped.columns ∨
        name ∈ resolved.columns.map ColumnDefinition.name := by
  rw [newTable, map_columns_finalDraft keyBlind_name, ← map_keptColumns keyBlind_name,
    ← List.map_append, mem_names_merged, names_keptColumns]
  simp

/-- The loose foreign keys of a merge that succeeds are on columns that it has. -/
theorem loose_columns_there
    {table : String}
    {snapshot : Snapshot}
    {resolved : Resolved}
    {dropped : Dropped}
    {draft : Draft}
    (merged : (merge table snapshot resolved dropped).outcome = .ok draft) :
    ∀ key ∈ resolved.foreignKeys,
      key.column ∈
        (mergedColumns snapshot resolved dropped).map ColumnDefinition.name := by
  have names := map_columns_keyedDraft keyBlind_name snapshot resolved dropped
  refine Traced.sweep_asks
    (fun columns : List ColumnDefinition =>
      columns.map ColumnDefinition.name =
        (mergedColumns snapshot resolved dropped).map ColumnDefinition.name)
    _ ?_ names (merge_steps merged).2.2.1
  intro columns key next same stepped
  have shape := eq_withForeignKey stepped
  subst shape
  refine ⟨(map_withForeignKey keyBlind_name columns key).trans same, ?_⟩
  unfold mergeForeignKey at stepped
  split at stepped
  · rename_i there
    rwa [hasColumn_iff, same] at there
  · cases stepped

/-! ## Foreign keys on their columns -/

/-- Whether a column of a name has a foreign key. -/
def Carries
    (columns : List ColumnDefinition)
    (name : String)
    (key : ForeignKey) :
    Prop :=
  ∃ column ∈ columns, column.name = name ∧ key ∈ column.foreignKeys

theorem Carries.held
    {columns : List ColumnDefinition}
    {name : String}
    {key : ForeignKey}
    (carried : Carries columns name key) :
    key ∈ heldForeignKeys columns := by
  obtain ⟨column, member, _, held⟩ := carried
  exact List.mem_flatMap.mpr ⟨column, member, held⟩

theorem carries_withKey
    {draft : Draft}
    {name : String}
    {key : ForeignKey}
    (carried : Carries draft.columns name key)
    (declared : Key) :
    Carries (withKey draft declared).columns name key := by
  rw [withKey, columns_addKey]
  split
  · obtain ⟨column, member, named, held⟩ := carried
    exact ⟨_, List.mem_map_of_mem member, named, held⟩
  · exact carried

/-- A foreign key stays on its column, unless a namesake is put there. -/
theorem carries_withForeignKey_other
    {columns : List ColumnDefinition}
    {name : String}
    {key : ForeignKey}
    (carried : Carries columns name key)
    {loose : ForeignKey}
    (other : loose.column = name → loose.name ≠ key.name) :
    Carries (withForeignKey columns loose) name key := by
  obtain ⟨column, member, named, held⟩ := carried
  induction columns with
  | nil =>
      cases member
  | cons first rest inductionHypothesis =>
      simp only [withForeignKey, putForeignKey] at inductionHypothesis ⊢
      rcases List.mem_cons.mp member with rfl | later
      · split
        · rename_i here
          refine ⟨_, .head _, named, List.mem_append_left _ ?_⟩
          have different : key.name ≠ loose.name :=
            (other (here.symm.trans named)).symm
          simpa using ⟨held, different⟩
        · exact ⟨column, .head _, named, held⟩
      · split
        · exact ⟨column, .tail _ later, named, held⟩
        · obtain ⟨reached, there, same, has⟩ := inductionHypothesis later
          exact ⟨reached, .tail _ there, same, has⟩

theorem carries_withForeignKey_self
    {columns : List ColumnDefinition}
    {key : ForeignKey}
    (there : key.column ∈ columns.map ColumnDefinition.name) :
    Carries (withForeignKey columns key) key.column key := by
  induction columns with
  | nil =>
      cases there
  | cons first rest inductionHypothesis =>
      simp only [withForeignKey, putForeignKey] at inductionHypothesis ⊢
      split
      · rename_i here
        exact ⟨_, .head _, here, by simp⟩
      · rename_i elsewhere
        have later : key.column ∈ rest.map ColumnDefinition.name := by
          simpa [Ne.symm elsewhere] using there
        obtain ⟨reached, member, named, held⟩ := inductionHypothesis later
        exact ⟨reached, .tail _ member, named, held⟩

theorem carries_foldl_withForeignKey
    {columns : List ColumnDefinition}
    {name : String}
    {key : ForeignKey}
    (carried : Carries columns name key)
    {declared : List ForeignKey}
    (others : ∀ loose ∈ declared, loose.column = name → loose.name ≠ key.name) :
    Carries (declared.foldl withForeignKey columns) name key :=
  List.foldlRecOn (motive := fun columns => Carries columns name key) declared _ carried
    (fun _ reached loose member =>
      carries_withForeignKey_other reached (others loose member))

section NewTable

variable
  {snapshot : Snapshot}
  {resolved : Resolved}
  {dropped : Dropped}
  {key : ForeignKey}

theorem carries_merged_of_kept
    {name : String}
    (carried : Carries (keptColumns snapshot dropped) name key)
    (resolved : Resolved) :
    Carries (mergedColumns snapshot resolved dropped) name key := by
  obtain ⟨column, member, named, held⟩ := carried
  rw [mergedColumns, foldl_withColumn]
  exact ⟨column, List.mem_append_left _ member, named, held⟩

/--
A foreign key on a merged column is on the column of that name in the new
table, unless a loose foreign key replaces it.
-/
theorem carries_finalDraft_of_merged
    {name : String}
    (carried : Carries (mergedColumns snapshot resolved dropped) name key)
    (unreplaced :
      ∀ loose ∈ resolved.foreignKeys,
        loose.column = name → loose.name ≠ key.name) :
    Carries (finalDraft snapshot resolved dropped).columns name key := by
  have keyed : Carries (keyedDraft snapshot resolved dropped).columns name key :=
    List.foldlRecOn (motive := fun draft : Draft => Carries draft.columns name key)
      resolved.keys _ carried (fun _ reached declared _ => carries_withKey reached declared)
  exact carries_foldl_withForeignKey keyed unreplaced

/-- A loose foreign key is on its column in the new table, when its name is its own. -/
theorem carries_finalDraft_of_loose
    (distinct : (resolved.foreignKeys.map ForeignKey.name).Nodup)
    (member : key ∈ resolved.foreignKeys)
    (there :
      key.column ∈
        (mergedColumns snapshot resolved dropped).map ColumnDefinition.name) :
    Carries (finalDraft snapshot resolved dropped).columns key.column key := by
  -- Those before it leave the columns there, and those after it have other names.
  obtain ⟨before, after, shape⟩ := List.mem_iff_append.mp member
  rw [← map_columns_keyedDraft keyBlind_name] at there
  have stillThere :
      key.column ∈
        (before.foldl withForeignKey
          (keyedDraft snapshot resolved dropped).columns).map ColumnDefinition.name := by
    rwa [project_foldl withForeignKey (fun columns => columns.map ColumnDefinition.name)
      (fun columns loose _ => map_withForeignKey keyBlind_name columns loose)]
  have later : ∀ loose ∈ after, loose.name ≠ key.name := by
    rw [shape, List.map_append, List.map_cons] at distinct
    have others := (List.nodup_cons.mp (List.nodup_append.mp distinct).2.1).1
    intro loose isLater same
    exact others (same ▸ List.mem_map_of_mem isLater)
  simp only [finalDraft, shape, List.foldl_append, List.foldl_cons]
  exact carries_foldl_withForeignKey (carries_withForeignKey_self stillThere)
    (fun loose isLater _ => later loose isLater)

/-- A loose foreign key of a merge that succeeds is made, when its name is its own. -/
theorem made_of_loose
    {table : String}
    {draft : Draft}
    (merged : (merge table snapshot resolved dropped).outcome = .ok draft)
    (distinct : (resolved.foreignKeys.map ForeignKey.name).Nodup)
    (member : key ∈ resolved.foreignKeys) :
    key ∈ (newTable table snapshot resolved dropped).foreignKeys :=
  (carries_finalDraft_of_loose distinct member (loose_columns_there merged key member)).held

/--
A foreign key that is on every declared column of a new name is made, unless a
loose foreign key replaces it.
-/
theorem made_of_added
    (table : String)
    {name : String}
    (declared : name ∈ resolved.columns.map ColumnDefinition.name)
    (new : name ∉ (keptColumns snapshot dropped).map ColumnDefinition.name)
    (held : ∀ column ∈ resolved.columns, column.name = name → key ∈ column.foreignKeys)
    (unreplaced :
      ∀ loose ∈ resolved.foreignKeys,
        loose.column = name → loose.name ≠ key.name) :
    key ∈ (newTable table snapshot resolved dropped).foreignKeys := by
  have added : Carries (mergedColumns snapshot resolved dropped) name key := by
    rw [mergedColumns, foldl_withColumn]
    obtain ⟨column, member, rfl⟩ := List.mem_map.mp (mem_names_merged.mpr (.inr declared))
    rcases List.mem_append.mp member with kept | isAdded
    · exact absurd (List.mem_map_of_mem kept) new
    · exact ⟨column, member, rfl, held column (mem_of_mem_addedColumns isAdded) rfl⟩
  exact (carries_finalDraft_of_merged added unreplaced).held

/-- A foreign key of a column that stays is made, unless a loose foreign key replaces it. -/
theorem made_of_kept
    (table : String)
    {name : String}
    (carried : Carries (keptColumns snapshot dropped) name key)
    (unreplaced :
      ∀ loose ∈ resolved.foreignKeys,
        loose.column = name → loose.name ≠ key.name) :
    key ∈ (newTable table snapshot resolved dropped).foreignKeys :=
  (carries_finalDraft_of_merged (carries_merged_of_kept carried resolved) unreplaced).held

end NewTable

end Rebuild

end SchemaMigration
