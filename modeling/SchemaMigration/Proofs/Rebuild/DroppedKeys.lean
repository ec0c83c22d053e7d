import SchemaMigration.Proofs.Rebuild.RowSurvival

namespace SchemaMigration.Rebuild

/-!
# Keys that a rebuild drops

A key to drop has to be there, and what counts as there is not what is taken
away.  Foreign keys are found and taken away by one rule, so they are gone.
An index is found by its name or by its kind and columns but taken away by its
name only, so one of another name is made again.  A primary key may be found by
the name of a dropped index; then its name goes and the key stays.
-/

open Statement

/-! ## What the statements make -/

/-- The index that a key makes in a table. -/
def indexOf (table : String) (key : Key) : Statement :=
  .createIndex table key.name key.columns (key.kind = .unique)

/-- Whether a key is made by a statement of its own. -/
def IsIndex (key : Key) : Prop :=
  key.kind = .unique ∨ key.kind = .index

theorem IsIndex.isPrimary_eq_false
    {key : Key}
    (isIndex : IsIndex key) :
    key.isPrimary = false := by
  rcases isIndex with kind | kind <;> simp [Key.isPrimary, kind]

theorem createIndex?_eq_some_iff
    {table : String}
    {made : Statement}
    {key : Key} :
    createIndex? table key = some made ↔
      IsIndex key ∧ made = indexOf table key := by
  cases kind : key.kind <;>
    simp [createIndex?, IsIndex, indexOf, kind, eq_comm]

/-- Keys that make the same index are the same. -/
theorem eq_of_indexOf_eq
    {table : String}
    {first second : Key}
    (firstIndex : IsIndex first)
    (secondIndex : IsIndex second)
    (same : indexOf table first = indexOf table second) :
    first = second := by
  simp only [indexOf, Statement.createIndex.injEq, true_and, decide_eq_decide] at same
  obtain ⟨names, columns, unique⟩ := same
  have kinds : first.kind = second.kind := by
    rcases firstIndex with isUnique | isPlain
    · rw [isUnique, unique.mp isUnique]
    · rcases secondIndex with isUnique | alsoPlain
      · rw [isUnique, unique.mpr isUnique]
      · rw [isPlain, alsoPlain]
  cases first
  cases second
  simp_all

theorem indexOf_mem_createAll_iff
    {dialect : Dialect}
    {table made : String}
    {columns : List ColumnDefinition}
    {keys : List Key}
    {key : Key}
    (isIndex : IsIndex key) :
    indexOf table key ∈ createAll dialect made columns keys ↔
      table = made ∧ key ∈ keys := by
  simp only [createAll, List.mem_append, List.mem_cons, List.mem_filterMap,
    createIndex?_eq_some_iff]
  constructor
  · rintro (isPrelude | isTable | ⟨other, member, otherIndex, same⟩)
    · obtain ⟨_, isSequence⟩ := eq_createSequence_of_mem_preludeOf isPrelude
      cases isSequence
    · cases isTable
    · have tables : table = made := by
        simp only [indexOf, Statement.createIndex.injEq] at same
        exact same.1
      subst tables
      rw [eq_of_indexOf_eq isIndex otherIndex same]
      exact ⟨rfl, member⟩
  · rintro ⟨rfl, member⟩
    exact .inr (.inr ⟨key, member, isIndex, rfl⟩)

theorem createTable_mem_createAll_iff
    {dialect : Dialect}
    {table : String}
    {columns : List ColumnDefinition}
    {keys : List Key}
    {made : TableDefinition} :
    .createTable made ∈ createAll dialect table columns keys ↔
      made = ⟨table, columns, TableDefinition.primaryOf columns keys⟩ := by
  simp only [createAll, List.mem_append, List.mem_cons, List.mem_filterMap,
    createIndex?_eq_some_iff, Statement.createTable.injEq]
  constructor
  · rintro (isPrelude | isTable | ⟨_, _, _, isIndex⟩)
    · obtain ⟨_, isSequence⟩ := eq_createSequence_of_mem_preludeOf isPrelude
      cases isSequence
    · exact isTable
    · cases isIndex
  · exact fun isTable => .inr (.inl isTable)

/-- The indexes of a rebuild are those of the draft. -/
theorem indexOf_mem_statements_iff
    {dialect : Dialect}
    {table : String}
    {snapshot : Snapshot}
    {copied : List String}
    {draft : Draft}
    {key : Key}
    (isIndex : IsIndex key) :
    indexOf table key ∈ statements dialect table snapshot copied draft ↔
      key ∈ draft.keys := by
  have renewed :
      indexOf table key ∈ renewingStatements dialect table draft ↔ key ∈ draft.keys := by
    rw [renewingStatements, List.mem_cons, indexOf_mem_createAll_iff isIndex]
    simp [indexOf]
  by_cases kept : copied = []
  · simpa [statements, kept, renewingStatements] using renewed
  · rw [statements_eq kept, List.mem_append, List.mem_cons, List.mem_append, renewed,
      savingStatements, indexOf_mem_createAll_iff isIndex]
    simp [indexOf]

/-- The tables of a rebuild are the temporary one and that of the draft. -/
theorem eq_of_createTable_mem_statements
    {dialect : Dialect}
    {table : String}
    {snapshot : Snapshot}
    {copied : List String}
    {draft : Draft}
    {made : TableDefinition}
    (member : .createTable made ∈ statements dialect table snapshot copied draft) :
    made = ⟨temporaryName table, copiedColumns snapshot copied, none⟩ ∨
      made = ⟨table, draft.columns, TableDefinition.primaryOf draft.columns draft.keys⟩ := by
  have renewed
      (isRenewing : .createTable made ∈ renewingStatements dialect table draft) :
      made = ⟨table, draft.columns, TableDefinition.primaryOf draft.columns draft.keys⟩ := by
    simpa [renewingStatements, createTable_mem_createAll_iff] using isRenewing
  by_cases kept : copied = []
  · refine .inr (renewed ?_)
    simpa [statements, kept, renewingStatements] using member
  · rw [statements_eq kept] at member
    simp only [savingStatements, List.mem_append, List.mem_cons, List.not_mem_nil,
      createTable_mem_createAll_iff, reduceCtorEq, false_or, or_false] at member
    rcases member with isTemporary | isRenewing
    · have unflagged :
          (copiedColumns snapshot copied).filter ColumnDefinition.isPrimary = [] := by
        simp [copiedColumns, ColumnDefinition.plain, List.filter_map, Function.comp_def]
      left
      rw [isTemporary, TableDefinition.primaryOf, unflagged]
      rfl
    · exact .inr (renewed isRenewing)

theorem createTable_mem_statements
    (dialect : Dialect)
    (table : String)
    (snapshot : Snapshot)
    (copied : List String)
    (draft : Draft) :
    .createTable ⟨table, draft.columns,
        TableDefinition.primaryOf draft.columns draft.keys⟩ ∈
      statements dialect table snapshot copied draft := by
  have renewing :
      .createTable ⟨table, draft.columns,
          TableDefinition.primaryOf draft.columns draft.keys⟩ ∈
        renewingStatements dialect table draft :=
    List.mem_cons_of_mem _ (createTable_mem_createAll_iff.mpr rfl)
  by_cases kept : copied = []
  · simpa [statements, kept, renewingStatements] using renewing
  · simp [statements_eq kept, renewing]

/-! ## Indexes -/

/-- An index stays when no drop has its name and all of its columns stay. -/
theorem mem_keptKeys_iff
    {snapshot : Snapshot}
    {dropped : Dropped}
    {key : Key}
    (live : key ∈ snapshot.keys)
    (isIndex : IsIndex key) :
    key ∈ keptKeys snapshot dropped ↔
      (∀ drop ∈ dropped.keys, drop.name ≠ key.name) ∧
        ∀ name ∈ key.columns, name ∉ dropped.columns := by
  simp [keptKeys, staysKey, live, isIndex.isPrimary_eq_false]

/-- An index that is not declared is made again exactly when it stays. -/
theorem indexOf_mem_plan_iff
    {dialect : Dialect}
    {table : String}
    {snapshot : Snapshot}
    {resolved : Resolved}
    {dropped : Dropped}
    {planned : List Statement}
    (succeeded : (plan dialect table snapshot resolved dropped).outcome = .ok planned)
    {key : Key}
    (live : key ∈ snapshot.keys)
    (isIndex : IsIndex key)
    (undeclared : ∀ declared ∈ resolved.keys, declared.name ≠ key.name) :
    indexOf table key ∈ planned ↔
      (∀ drop ∈ dropped.keys, drop.name ≠ key.name) ∧
        ∀ name ∈ key.columns, name ∉ dropped.columns := by
  obtain ⟨_, rfl⟩ := plan_ok succeeded
  rw [indexOf_mem_statements_iff isIndex, ← mem_keptKeys_iff live isIndex]
  constructor
  · intro made
    rcases mem_keys_finalDraft made with kept | declared
    · exact kept
    · exact absurd rfl (undeclared key declared)
  · intro kept
    exact mem_finalDraft_of_keptKeys kept isIndex.isPrimary_eq_false resolved

/-! ## Foreign keys -/

/-- No foreign key stays that a drop is found by. -/
theorem not_dropsForeignKey_of_kept
    {snapshot : Snapshot}
    {dropped : Dropped}
    {key : ForeignKey}
    (kept : key ∈ heldForeignKeys (keptColumns snapshot dropped))
    {drop : Key}
    (member : drop ∈ dropped.keys)
    (isForeign : drop.kind = .foreign) :
    dropsForeignKey drop key = false := by
  simp only [heldForeignKeys, keptColumns, List.mem_flatMap, List.mem_map] at kept
  obtain ⟨_, ⟨column, _, rfl⟩, held⟩ := kept
  simp only [releaseColumn, List.mem_filter, Bool.not_eq_true', List.any_eq_false,
    decide_eq_true_eq, and_imp] at held
  simpa using held.2 drop member isForeign

/-- Whether statements make a foreign key. -/
def MakesForeignKey (planned : List Statement) (key : ForeignKey) : Prop :=
  ∃ made, .createTable made ∈ planned ∧ key ∈ made.foreignKeys

/-- A foreign key that a drop is found by is made again only when it is declared. -/
theorem declared_of_makesForeignKey
    {dialect : Dialect}
    {table : String}
    {snapshot : Snapshot}
    {resolved : Resolved}
    {dropped : Dropped}
    {planned : List Statement}
    (succeeded : (plan dialect table snapshot resolved dropped).outcome = .ok planned)
    {drop : Key}
    (member : drop ∈ dropped.keys)
    (isForeign : drop.kind = .foreign)
    {key : ForeignKey}
    (found : dropsForeignKey drop key = true)
    (again : MakesForeignKey planned key) :
    key ∈ heldForeignKeys resolved.columns ++ resolved.foreignKeys := by
  obtain ⟨_, rfl⟩ := plan_ok succeeded
  obtain ⟨made, makes, held⟩ := again
  rcases eq_of_createTable_mem_statements makes with rfl | rfl
  · simp [TableDefinition.foreignKeys, copiedColumns, ColumnDefinition.plain] at held
  · rcases mem_heldForeignKeys_finalDraft held with kept | added | loose
    · rw [not_dropsForeignKey_of_kept kept member isForeign] at found
      cases found
    · obtain ⟨column, isAdded, onColumn⟩ := List.mem_flatMap.mp added
      exact List.mem_append_left _
        (List.mem_flatMap.mpr ⟨column, mem_of_mem_addedColumns isAdded, onColumn⟩)
    · exact List.mem_append_right _ loose

/-! ## The primary key -/

/-- The names of the columns that belong to the primary key. -/
def primaryNames (columns : List ColumnDefinition) : List String :=
  (columns.filter ColumnDefinition.isPrimary).map ColumnDefinition.name

/-- The live columns that belong to the primary key and are neither dropped nor released. -/
def stayingPrimary (snapshot : Snapshot) (dropped : Dropped) : List String :=
  primaryNames (snapshot.columns.filter (fun column =>
    !dropped.columns.contains column.name &&
      !(releasedColumns dropped).contains column.name))

theorem primaryNames_keptColumns
    (snapshot : Snapshot)
    (dropped : Dropped) :
    primaryNames (keptColumns snapshot dropped) = stayingPrimary snapshot dropped := by
  have names :
      ColumnDefinition.name ∘ releaseColumn dropped = ColumnDefinition.name :=
    rfl
  simp only [primaryNames, stayingPrimary, keptColumns, List.filter_map, List.map_map, names,
    List.filter_filter]
  congr 2
  funext column
  simp only [Function.comp_apply, releaseColumn]
  cases column.isPrimary <;> cases (releasedColumns dropped).contains column.name <;> simp

theorem primaryNames_withForeignKey
    (columns : List ColumnDefinition)
    (key : ForeignKey) :
    primaryNames (withForeignKey columns key) = primaryNames columns := by
  induction columns with
  | nil =>
      rfl
  | cons column rest inductionHypothesis =>
      simp only [withForeignKey, putForeignKey]
      split
      · cases flag : column.isPrimary <;> simp [primaryNames, flag]
      · simp only [primaryNames, withForeignKey, List.filter_cons] at inductionHypothesis ⊢
        split <;> simp [inductionHypothesis]

/-- Loose foreign keys change nothing about the primary key. -/
theorem primaryNames_keyedDraft
    (snapshot : Snapshot)
    (resolved : Resolved)
    (dropped : Dropped) :
    primaryNames (finalDraft snapshot resolved dropped).columns =
      primaryNames (keyedDraft snapshot resolved dropped).columns :=
  project_foldl withForeignKey primaryNames
    (fun columns key _ => primaryNames_withForeignKey columns key) _

/--
Where no primary key is merged, the columns of the live one stay, and the added
ones come after them that are told to belong to it.
-/
theorem primaryNames_unkeyed
    {snapshot : Snapshot}
    {resolved : Resolved}
    {dropped : Dropped}
    (noPrimaryKey : ∀ key ∈ resolved.keys, key.isPrimary = false) :
    primaryNames (finalDraft snapshot resolved dropped).columns =
      stayingPrimary snapshot dropped ++
        primaryNames (addedColumns (keptColumns snapshot dropped) resolved.columns) := by
  have keyed
      (draft : Draft) :
      (resolved.keys.foldl withKey draft).columns = draft.columns := by
    refine project_foldl withKey Draft.columns ?_ draft
    intro state key member
    simp [withKey, noPrimaryKey key member]
  rw [primaryNames_keyedDraft, keyedDraft, keyed, mergedColumns, foldl_withColumn,
    primaryNames, List.filter_append, List.map_append, ← primaryNames, ← primaryNames,
    primaryNames_keptColumns]

/-- Where no primary key is declared, the columns of the live one stay. -/
theorem primaryNames_finalDraft
    {snapshot : Snapshot}
    {resolved : Resolved}
    {dropped : Dropped}
    (noPrimaryKey : ∀ key ∈ resolved.keys, key.isPrimary = false)
    (noPrimaryColumn : ∀ column ∈ resolved.columns, column.isPrimary = false) :
    primaryNames (finalDraft snapshot resolved dropped).columns =
      stayingPrimary snapshot dropped := by
  have added :
      (addedColumns (keptColumns snapshot dropped) resolved.columns).filter
          ColumnDefinition.isPrimary = [] := by
    rw [List.filter_eq_nil_iff]
    intro column member
    simp [noPrimaryColumn column (mem_of_mem_addedColumns member)]
  rw [primaryNames_unkeyed noPrimaryKey, primaryNames, added, List.map_nil, List.append_nil]

/-- Whether statements make a table with a primary key over columns. -/
def MakesPrimary (table : String) (planned : List Statement) (columns : List String) : Prop :=
  ∃ made,
    .createTable made ∈ planned ∧
      made.name = table ∧
        made.primary.map PrimaryKey.columns = some columns

theorem columns_primaryOf
    (columns : List ColumnDefinition)
    (keys : List Key) :
    (TableDefinition.primaryOf columns keys).map PrimaryKey.columns =
      if primaryNames columns = [] then none else some (primaryNames columns) := by
  simp only [TableDefinition.primaryOf, List.isEmpty_iff]
  change Option.map _ (if primaryNames columns = [] then _ else _) = _
  split <;> rfl

/--
Where no primary key is declared, one is made over the columns of the live one
that stay.
-/
theorem makesPrimary_iff
    {dialect : Dialect}
    {table : String}
    {snapshot : Snapshot}
    {resolved : Resolved}
    {dropped : Dropped}
    {planned : List Statement}
    (succeeded : (plan dialect table snapshot resolved dropped).outcome = .ok planned)
    (noPrimaryKey : ∀ key ∈ resolved.keys, key.isPrimary = false)
    (noPrimaryColumn : ∀ column ∈ resolved.columns, column.isPrimary = false)
    (columns : List String) :
    MakesPrimary table planned columns ↔
      columns ≠ [] ∧ columns = stayingPrimary snapshot dropped := by
  obtain ⟨_, rfl⟩ := plan_ok succeeded
  rw [← primaryNames_finalDraft noPrimaryKey noPrimaryColumn]
  constructor
  · rintro ⟨made, makes, named, covers⟩
    rcases eq_of_createTable_mem_statements makes with rfl | rfl
    · exact absurd named (temporaryName_ne table)
    · rw [columns_primaryOf] at covers
      split at covers
      · cases covers
      · rename_i nonempty
        cases covers
        exact ⟨nonempty, rfl⟩
  · rintro ⟨nonempty, rfl⟩
    refine ⟨_, createTable_mem_statements .., rfl, ?_⟩
    rw [columns_primaryOf, if_neg nonempty]

/-! ## All keys -/

/--
What a plan makes again of the keys that it is asked to drop, where they are
not declared.

A foreign key is not made again.  An index that the drop was found by is made
again exactly when no drop has its name and all of its columns stay.  A primary
key that the drop of an index was found by is made again when its columns are
those that would have stayed anyhow.
-/
theorem dropped_keys_made_again_iff
    {dialect : Dialect}
    {table : String}
    {snapshot : Snapshot}
    {resolved : Resolved}
    {dropped : Dropped}
    {planned : List Statement}
    (succeeded : (plan dialect table snapshot resolved dropped).outcome = .ok planned)
    {drop : Key}
    (member : drop ∈ dropped.keys) :
    (drop.kind = .foreign →
      ∀ key ∈ heldForeignKeys snapshot.columns,
        dropsForeignKey drop key = true →
          (∀ declared ∈ heldForeignKeys resolved.columns ++ resolved.foreignKeys,
            declared.name ≠ key.name) →
            ¬ MakesForeignKey planned key) ∧
      (IsIndex drop →
        ∀ key ∈ snapshot.keys,
          (key.name = drop.name ∨ key.kind = drop.kind ∧ key.columns = drop.columns) →
            (∀ declared ∈ resolved.keys, declared.name ≠ key.name) →
              (IsIndex key →
                (indexOf table key ∈ planned ↔
                  (∀ other ∈ dropped.keys, other.name ≠ key.name) ∧
                    ∀ name ∈ key.columns, name ∉ dropped.columns)) ∧
              (key.isPrimary = true →
                (∀ declared ∈ resolved.keys, declared.isPrimary = false) →
                  (∀ column ∈ resolved.columns, column.isPrimary = false) →
                    (MakesPrimary table planned key.columns ↔
                      key.columns ≠ [] ∧
                        key.columns = stayingPrimary snapshot dropped))) := by
  constructor
  · intro isForeign key _ found undeclared again
    have declared := declared_of_makesForeignKey succeeded member isForeign found again
    exact undeclared key declared rfl
  · intro _ key live _ undeclared
    refine ⟨fun isIndex => indexOf_mem_plan_iff succeeded live isIndex undeclared, ?_⟩
    intro _ noPrimaryKey noPrimaryColumn
    exact makesPrimary_iff succeeded noPrimaryKey noPrimaryColumn key.columns

/-- A live table with an index of a name of its own. -/
def indexedSnapshot : Snapshot :=
  ⟨[.plain "status" "VARCHAR"], [⟨"by_status", ["status"], .index⟩]⟩

/-- A drop by the name of the index takes the index away. -/
theorem dropped_by_name_not_made_again :
    ∃ planned,
      (plan .duckdb "runs" indexedSnapshot ⟨[], [], []⟩
          ⟨[], [⟨"by_status", ["status"], .index⟩]⟩).outcome = .ok planned ∧
        indexOf "runs" ⟨"by_status", ["status"], .index⟩ ∉ planned := by
  have succeeded :
      (plan .duckdb "runs" indexedSnapshot ⟨[], [], []⟩
        ⟨[], [⟨"by_status", ["status"], .index⟩]⟩).outcome = .ok _ :=
    rfl
  refine ⟨_, succeeded, ?_⟩
  have outcome := (dropped_keys_made_again_iff succeeded (.head _)).2 (.inr rfl)
    ⟨"by_status", ["status"], .index⟩ (.head _) (.inl rfl) (by simp)
  intro again
  exact ((outcome.1 (.inr rfl)).mp again).1 _ (.head _) rfl

/-- A drop by the columns of the index is planned, and the index is made again. -/
theorem dropped_by_columns_made_again :
    ∃ planned,
      (plan .duckdb "runs" indexedSnapshot ⟨[], [], []⟩
          ⟨[], [Key.declared "runs" ["status"] .index none]⟩).outcome = .ok planned ∧
        indexOf "runs" ⟨"by_status", ["status"], .index⟩ ∈ planned :=
  ⟨_, rfl, by decide⟩

end SchemaMigration.Rebuild
