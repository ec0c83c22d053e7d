import SchemaMigration.Proofs.Rebuild.DeclaredIndexes
import SchemaMigration.Proofs.Rebuild.DeclaredKey
import SchemaMigration.Proofs.Rebuild.Frame

namespace SchemaMigration

/-!
# Planning a rebuild once more

A rebuild that has nothing to drop is planned for a blueprint, and then once
more for the table that it makes.  All declared columns are there by then, the
foreign keys are where they are put, and the columns are marked for the declared
primary key, so the table is the same.  Indexes are only added, and one is
added where its name was taken by the live primary key and is not any more.
-/

/-- Whether a statement makes a table, an index of it, or a source of generated values. -/
def Statement.builds (table : String) : Statement → Bool
  | .createTable made => made.name = table
  | .createIndex indexed .. => indexed = table
  | .createSequence _ => true
  | _ => false

namespace Rebuild

open Statement

/-! ## Merges that succeed -/

theorem keptKeys_none (snapshot : Snapshot) :
    keptKeys snapshot Dropped.none = snapshot.keys := by
  simp [keptKeys, staysKey, releasedColumns, Dropped.none, List.filter_eq_self]

theorem outcome_mergeColumn
    (table : String)
    (columns : List ColumnDefinition)
    (column : ColumnDefinition) :
    (mergeColumn table columns column).outcome = .ok (withColumn columns column) := by
  unfold mergeColumn withColumn
  split <;> simp

/-- Declared columns are always merged. -/
theorem outcome_mergeColumns
    (table : String)
    (declared known : List ColumnDefinition) :
    (Traced.sweep (mergeColumn table) known declared).outcome =
      .ok (declared.foldl withColumn known) := by
  induction declared generalizing known with
  | nil =>
      rfl
  | cons column rest inductionHypothesis =>
      rw [Traced.sweep, Traced.outcome_bind, outcome_mergeColumn, Outcome.ok_bind,
        inductionHypothesis, List.foldl_cons]

/-- Foreign keys are merged where their columns are there. -/
theorem outcome_mergeForeignKeys
    {table : String}
    {declared : List ForeignKey}
    {columns : List ColumnDefinition}
    (there : ∀ key ∈ declared, key.column ∈ columns.map ColumnDefinition.name) :
    (Traced.sweep (mergeForeignKey table) columns declared).outcome =
      .ok (declared.foldl withForeignKey columns) := by
  induction declared generalizing columns with
  | nil =>
      rfl
  | cons key rest inductionHypothesis =>
      obtain ⟨keyThere, restThere⟩ := List.forall_mem_cons.mp there
      have merges :
          (mergeForeignKey table columns key).outcome = .ok (withForeignKey columns key) := by
        simp [mergeForeignKey, hasColumn_iff.mpr keyThere, withForeignKey]
      have later :
          ∀ other ∈ rest,
            other.column ∈ (withForeignKey columns key).map ColumnDefinition.name := by
        rwa [map_withForeignKey keyBlind_name]
      rw [Traced.sweep, Traced.outcome_bind, merges, Outcome.ok_bind,
        inductionHypothesis later, List.foldl_cons]

/--
A rebuild is planned where the drops are found, all declared keys are over
columns of the merge, and there is a column.
-/
theorem outcome_plan
    (dialect : Dialect)
    (table : String)
    {snapshot : Snapshot}
    {resolved : Resolved}
    {dropped : Dropped}
    (found : missingKey? snapshot dropped = none)
    (keysThere :
      ∀ key ∈ resolved.keys,
        ∀ name ∈ key.columns,
          name ∈ (mergedColumns snapshot resolved dropped).map ColumnDefinition.name)
    (looseThere :
      ∀ key ∈ resolved.foreignKeys,
        key.column ∈ (mergedColumns snapshot resolved dropped).map ColumnDefinition.name)
    (nonempty : (finalDraft snapshot resolved dropped).columns ≠ []) :
    (plan dialect table snapshot resolved dropped).outcome =
      .ok (statements dialect table snapshot
        ((keptColumns snapshot dropped).map ColumnDefinition.name)
        (finalDraft snapshot resolved dropped)) := by
  have columns := outcome_mergeColumns table resolved.columns (keptColumns snapshot dropped)
  have keys :
      (Traced.sweep (mergeKey table)
          ⟨mergedColumns snapshot resolved dropped, keptKeys snapshot dropped⟩
          resolved.keys).outcome = .ok (keyedDraft snapshot resolved dropped) :=
    outcome_mergeKeys keysThere
  have loose :
      (Traced.sweep (mergeForeignKey table) (keyedDraft snapshot resolved dropped).columns
          resolved.foreignKeys).outcome = .ok (finalDraft snapshot resolved dropped).columns := by
    apply outcome_mergeForeignKeys
    rwa [map_columns_keyedDraft keyBlind_name]
  rw [← mergedColumns] at columns
  simp [plan, merge, found, columns, keys, loose, nonempty]
  rfl

/-! ## Putting foreign keys once more -/

/-- A foreign key among others, in place of its namesakes. -/
def putAmong (known : List ForeignKey) (key : ForeignKey) : List ForeignKey :=
  known.filter (fun other => other.name != key.name) ++ [key]

/-- Foreign keys that are put among others stand behind those of other names. -/
theorem foldl_putAmong
    (keys known : List ForeignKey) :
    keys.foldl putAmong known =
      known.filter (fun other => !(keys.map ForeignKey.name).contains other.name) ++
        keys.foldl putAmong [] := by
  induction keys generalizing known with
  | nil =>
      simp
  | cons key rest inductionHypothesis =>
      rw [List.foldl_cons, List.foldl_cons, inductionHypothesis (putAmong known key),
        inductionHypothesis (putAmong [] key), putAmong, putAmong, List.filter_append,
        List.filter_filter, List.append_assoc]
      congr 1
      apply List.filter_congr
      intro other _
      rw [Bool.eq_iff_iff]
      simp [and_comm]

theorem foldl_putAmong_again
    (keys known : List ForeignKey) :
    keys.foldl putAmong (keys.foldl putAmong known) = keys.foldl putAmong known := by
  have replaced :
      (keys.foldl putAmong []).filter
          (fun other => !(keys.map ForeignKey.name).contains other.name) = [] := by
    rw [List.filter_eq_nil_iff]
    intro key put
    have given :=
      mem_foldl_of_step putAmong id (fun added => [added])
        (fun _ _ _ member => (List.mem_append.mp member).imp_left List.mem_of_mem_filter) put
    have isPut : key ∈ keys := by
      simpa using given
    simpa using ⟨key, isPut, rfl⟩
  rw [foldl_putAmong keys (keys.foldl putAmong known), foldl_putAmong keys known,
    List.filter_append, replaced, List.append_nil, List.filter_filter]
  simp

/-- The first column takes the foreign keys on columns of its name, and the rest the others. -/
theorem foldl_withForeignKey_cons
    (keys : List ForeignKey)
    (column : ColumnDefinition)
    (rest : List ColumnDefinition) :
    keys.foldl withForeignKey (column :: rest) =
      { column with
        foreignKeys :=
          (keys.filter (fun key => column.name = key.column)).foldl putAmong
            column.foreignKeys } ::
        (keys.filter (fun key => column.name ≠ key.column)).foldl withForeignKey rest := by
  induction keys generalizing column rest with
  | nil =>
      rfl
  | cons key later inductionHypothesis =>
      by_cases here : column.name = key.column
      · have put :
            withForeignKey (column :: rest) key =
              { column with foreignKeys := putAmong column.foreignKeys key } :: rest := by
          simp [withForeignKey, putForeignKey, here, putAmong]
        rw [List.foldl_cons, put, inductionHypothesis]
        simp [here]
      · have passed :
            withForeignKey (column :: rest) key = column :: withForeignKey rest key := by
          simp [withForeignKey, putForeignKey, here]
        rw [List.foldl_cons, passed, inductionHypothesis]
        simp [here]

/-- Foreign keys that are put already are where they are put again. -/
theorem foldl_withForeignKey_again
    (keys : List ForeignKey)
    (columns : List ColumnDefinition) :
    keys.foldl withForeignKey (keys.foldl withForeignKey columns) =
      keys.foldl withForeignKey columns := by
  induction columns generalizing keys with
  | nil =>
      have unchanged : keys.foldl withForeignKey [] = [] :=
        List.foldl_fixed' (fun _ => rfl) keys
      rw [unchanged, unchanged]
  | cons column rest inductionHypothesis =>
      rw [foldl_withForeignKey_cons, foldl_withForeignKey_cons, foldl_putAmong_again,
        inductionHypothesis]

/-! ## Marking columns once more -/

/-- A column that belongs to the primary key exactly when a key covers it. -/
def markFor (key : Key) (column : ColumnDefinition) : ColumnDefinition :=
  { column with isPrimary := key.covers column.name }

theorem columns_withKey_of_primary
    {key : Key}
    (isPrimary : key.isPrimary = true)
    (draft : Draft) :
    (withKey draft key).columns = draft.columns.map (markFor key) := by
  rw [withKey, columns_addKey, if_pos isPrimary]
  rfl

theorem columns_withKey_of_other
    {key : Key}
    (notPrimary : key.isPrimary = false)
    (draft : Draft) :
    (withKey draft key).columns = draft.columns := by
  rw [withKey, columns_addKey, if_neg (by simp [notPrimary])]

/-- Either no key of a list is a primary key, or one of them is the last one. -/
theorem last_primary (keys : List Key) :
    (∀ key ∈ keys, key.isPrimary = false) ∨
      ∃ before last after,
        keys = before ++ last :: after ∧
          last.isPrimary = true ∧
            ∀ key ∈ after, key.isPrimary = false := by
  induction keys with
  | nil =>
      exact .inl nofun
  | cons key rest inductionHypothesis =>
      rcases inductionHypothesis with none | ⟨before, last, after, rfl, isPrimary, others⟩
      · cases isPrimary : key.isPrimary with
        | true => exact .inr ⟨[], key, rest, rfl, isPrimary, none⟩
        | false => exact .inl (List.forall_mem_cons.mpr ⟨isPrimary, none⟩)
      · exact .inr ⟨key :: before, last, after, rfl, isPrimary, others⟩

/-- Keys none of which is a primary key leave the columns as they are. -/
theorem columns_foldl_withKey_of_others
    {declared : List Key}
    (others : ∀ key ∈ declared, key.isPrimary = false)
    (draft : Draft) :
    (declared.foldl withKey draft).columns = draft.columns :=
  project_foldl withKey Draft.columns
    (fun state key member => columns_withKey_of_other (others key member) state) draft

/-- The last primary key of those that are merged marks the columns. -/
theorem columns_foldl_withKey_of_last
    {before after : List Key}
    {last : Key}
    (isPrimary : last.isPrimary = true)
    (others : ∀ key ∈ after, key.isPrimary = false)
    (draft : Draft) :
    ((before ++ last :: after).foldl withKey draft).columns =
      draft.columns.map (markFor last) := by
  have remarked : ∀ state, ∀ key ∈ before,
      (withKey state key).columns.map (markFor last) = state.columns.map (markFor last) := by
    intro state key _
    cases primary : key.isPrimary with
    | true => rw [columns_withKey_of_primary primary, List.map_map]; rfl
    | false => rw [columns_withKey_of_other primary]
  rw [List.foldl_append, List.foldl_cons, columns_foldl_withKey_of_others others,
    columns_withKey_of_primary isPrimary,
    project_foldl withKey (fun state => state.columns.map (markFor last)) remarked]

theorem map_markFor_withForeignKey
    (marking : Key)
    (columns : List ColumnDefinition)
    (key : ForeignKey) :
    (withForeignKey columns key).map (markFor marking) =
      withForeignKey (columns.map (markFor marking)) key := by
  induction columns with
  | nil =>
      rfl
  | cons column rest inductionHypothesis =>
      simp only [withForeignKey, putForeignKey, List.map_cons] at inductionHypothesis ⊢
      by_cases here : column.name = key.column
      · simp [here, markFor]
      · simp [here, markFor, inductionHypothesis]

/-! ## The table that is made -/

/-- The table that a rebuild without drops makes, as a snapshot. -/
def rebuilt (snapshot : Snapshot) (resolved : Resolved) : Snapshot :=
  ⟨(finalDraft snapshot resolved Dropped.none).columns,
    (finalDraft snapshot resolved Dropped.none).keys⟩

section Rebuilt

variable
  (snapshot : Snapshot)
  (resolved : Resolved)

theorem columnNames_rebuilt :
    (rebuilt snapshot resolved).columnNames =
      (mergedColumns snapshot resolved Dropped.none).map ColumnDefinition.name := by
  rw [Snapshot.columnNames, rebuilt, map_columns_finalDraft keyBlind_name, mergedColumns,
    foldl_withColumn, List.map_append, map_keptColumns keyBlind_name]

/-- All declared columns are there, so none is added. -/
theorem mergedColumns_rebuilt :
    mergedColumns (rebuilt snapshot resolved) resolved Dropped.none =
      (rebuilt snapshot resolved).columns := by
  have there :
      ∀ column ∈ resolved.columns,
        hasColumn (rebuilt snapshot resolved).columns column.name = true := by
    intro column member
    rw [hasColumn_iff, ← Snapshot.columnNames, columnNames_rebuilt, mergedColumns,
      foldl_withColumn, mem_names_merged]
    exact .inr (List.mem_map_of_mem member)
  have noneAdded : addedColumns (rebuilt snapshot resolved).columns resolved.columns = [] := by
    rw [addedColumns_eq, List.filter_eq_nil_iff.mpr]
    · rfl
    · intro column member
      simp [there column member]
  rw [mergedColumns, keptColumns_none, foldl_withColumn, noneAdded, List.append_nil]

/-- The columns of the table are marked for the last declared primary key already. -/
theorem columns_keyed_rebuilt
    (keys : List Key) :
    (resolved.keys.foldl withKey ⟨(rebuilt snapshot resolved).columns, keys⟩).columns =
      (rebuilt snapshot resolved).columns := by
  rcases last_primary resolved.keys with others | ⟨before, last, after, split, isPrimary, others⟩
  · exact columns_foldl_withKey_of_others others _
  · have marked :
        (keyedDraft snapshot resolved Dropped.none).columns =
          (mergedColumns snapshot resolved Dropped.none).map (markFor last) := by
      rw [keyedDraft, split, columns_foldl_withKey_of_last isPrimary others]
    have markedTwice (columns : List ColumnDefinition) :
        (columns.map (markFor last)).map (markFor last) = columns.map (markFor last) := by
      rw [List.map_map]
      rfl
    rw [split, columns_foldl_withKey_of_last isPrimary others, rebuilt, finalDraft,
      ← List.foldl_hom _ (fun columns key => (map_markFor_withForeignKey last columns key).symm),
      marked, markedTwice]

/-- Merging the same blueprint again changes no column. -/
theorem columns_finalDraft_rebuilt :
    (finalDraft (rebuilt snapshot resolved) resolved Dropped.none).columns =
      (rebuilt snapshot resolved).columns := by
  rw [finalDraft, keyedDraft, mergedColumns_rebuilt, columns_keyed_rebuilt]
  exact foldl_withForeignKey_again resolved.foreignKeys
    (keyedDraft snapshot resolved Dropped.none).columns

end Rebuilt

/-- The same blueprint can be planned again for the table that a rebuild makes. -/
theorem plan_rebuilt
    {dialect : Dialect}
    {table : String}
    {snapshot : Snapshot}
    {resolved : Resolved}
    {planned : List Statement}
    (succeeded :
      (plan dialect table snapshot resolved Dropped.none).outcome = .ok planned) :
    ∃ again,
      (plan dialect table (rebuilt snapshot resolved) resolved Dropped.none).outcome =
        .ok again := by
  obtain ⟨merged, _⟩ := plan_ok succeeded
  have names :
      (mergedColumns (rebuilt snapshot resolved) resolved Dropped.none).map
          ColumnDefinition.name =
        (mergedColumns snapshot resolved Dropped.none).map ColumnDefinition.name := by
    rw [mergedColumns_rebuilt, ← Snapshot.columnNames, columnNames_rebuilt]
  refine ⟨_, outcome_plan dialect table rfl ?keys ?loose ?nonempty⟩
  case keys =>
    rw [names]
    exact key_columns_there merged
  case loose =>
    rw [names]
    exact loose_columns_there merged
  case nonempty =>
    rw [columns_finalDraft_rebuilt]
    exact (merge_ok merged).2.2

/-! ## Statements that build the table -/

/-- Whatever makes a table with its keys builds it. -/
theorem filter_builds_createAll
    (dialect : Dialect)
    (table : String)
    (columns : List ColumnDefinition)
    (keys : List Key) :
    (createAll dialect table columns keys).filter (builds table) =
      createAll dialect table columns keys := by
  rw [List.filter_eq_self]
  intro statement member
  simp only [createAll, List.mem_append, List.mem_cons, List.mem_filterMap,
    createIndex?_eq_some_iff] at member
  rcases member with isPrelude | rfl | ⟨key, _, _, rfl⟩
  · obtain ⟨_, rfl⟩ := eq_createSequence_of_mem_preludeOf isPrelude
    rfl
  · simp [builds]
  · simp [builds, indexOf]

/-- Nothing that saves rows builds the table. -/
theorem filter_builds_saving
    (dialect : Dialect)
    (table : String)
    (snapshot : Snapshot)
    (copied : List String) :
    (savingStatements dialect table snapshot copied).filter (builds table) = [] := by
  have noSequence :
      preludeOf dialect (temporaryName table) (copiedColumns snapshot copied) = [] := by
    have plain :
        (copiedColumns snapshot copied).filter ColumnDefinition.autoincrement = [] := by
      simp [copiedColumns, ColumnDefinition.plain, List.filter_map, Function.comp_def]
    cases dialect <;> simp [preludeOf, plain]
  simp [savingStatements, createAll, noSequence, builds, temporaryName_ne]

/-- The statements of a rebuild that build the table are those that make the draft. -/
theorem filter_builds_statements
    (dialect : Dialect)
    (table : String)
    (snapshot : Snapshot)
    (copied : List String)
    (draft : Draft) :
    (statements dialect table snapshot copied draft).filter (builds table) =
      createAll dialect table draft.columns draft.keys := by
  have renewed :
      (renewingStatements dialect table draft).filter (builds table) =
        createAll dialect table draft.columns draft.keys := by
    rw [renewingStatements, List.filter_cons_of_neg (by simp [builds]), filter_builds_createAll]
  by_cases kept : copied = []
  · simpa [statements, kept, renewingStatements] using renewed
  · rw [statements_eq kept, List.filter_append, filter_builds_saving, List.nil_append,
      List.filter_cons_of_neg (by simp [builds]), List.filter_append, renewed]
    simp [builds]

/-! ## Primary keys -/

theorem primaries_withKey_of_other
    {key : Key}
    (notPrimary : key.isPrimary = false)
    (draft : Draft) :
    (withKey draft key).keys.filter Key.isPrimary = draft.keys.filter Key.isPrimary := by
  rw [withKey, if_neg (by simp [notPrimary]), addKey]
  split <;> simp [notPrimary]

/-- A primary key that is merged is the only one, or there is none where its name is taken. -/
theorem primaries_withKey_of_primary
    {key : Key}
    (isPrimary : key.isPrimary = true)
    (draft : Draft) :
    (withKey draft key).keys.filter Key.isPrimary =
      if ∃ known ∈ draft.keys, known.isPrimary = false ∧ known.name = key.name then
        []
      else
        [key] := by
  have unkeyed :
      (setPrimary draft key).keys.filter Key.isPrimary = [] := by
    simp [setPrimary]
  have taken :
      (setPrimary draft key).keys.any (fun known => known.name = key.name) = true ↔
        ∃ known ∈ draft.keys, known.isPrimary = false ∧ known.name = key.name := by
    simp [setPrimary]
  rw [withKey, if_pos isPrimary, addKey]
  by_cases there : ∃ known ∈ draft.keys, known.isPrimary = false ∧ known.name = key.name
  · rw [if_pos (taken.mpr there), if_pos there, unkeyed]
  · rw [if_neg (fun any => there (taken.mp any)), if_neg there, List.filter_append, unkeyed]
    simp [isPrimary]

/-- The last primary key of those that are merged is the only one, unless an index has its name. -/
theorem primaries_foldl_withKey_of_last
    {before after : List Key}
    {last : Key}
    (distinct : ((before ++ last :: after).map Key.name).Nodup)
    (isPrimary : last.isPrimary = true)
    (others : ∀ key ∈ after, key.isPrimary = false)
    (draft : Draft) :
    ((before ++ last :: after).foldl withKey draft).keys.filter Key.isPrimary =
      if ∃ known ∈ draft.keys, known.isPrimary = false ∧ known.name = last.name then
        []
      else
        [last] := by
  rw [List.map_append, List.map_cons] at distinct
  have otherBefore : ∀ other ∈ before, other.name ≠ last.name := fun other member =>
    (List.nodup_append.mp distinct).2.2 _ (List.mem_map_of_mem member) _ List.mem_cons_self
  have taken :
      (∃ known ∈ (before.foldl withKey draft).keys,
          known.isPrimary = false ∧ known.name = last.name) ↔
        ∃ known ∈ draft.keys, known.isPrimary = false ∧ known.name = last.name := by
    refine exists_congr fun known => ?_
    constructor
    · rintro ⟨member, notPrimary, named⟩
      have otherNames : ∀ other ∈ before, other.name ≠ known.name := by rwa [named]
      exact ⟨((mem_keys_foldl_withKey_iff otherNames).mp member).1, notPrimary, named⟩
    · rintro ⟨member, notPrimary, named⟩
      have otherNames : ∀ other ∈ before, other.name ≠ known.name := by rwa [named]
      exact ⟨(mem_keys_foldl_withKey_iff otherNames).mpr ⟨member, by simp [notPrimary]⟩,
        notPrimary, named⟩
  rw [List.foldl_append, List.foldl_cons,
    project_foldl withKey (fun state => state.keys.filter Key.isPrimary)
      (fun state key member => primaries_withKey_of_other (others key member) state),
    primaries_withKey_of_primary isPrimary]
  simp only [taken]

/-- Merging the same blueprint again leaves the primary key. -/
theorem primaries_finalDraft_rebuilt
    (snapshot : Snapshot)
    {resolved : Resolved}
    (distinct : (resolved.keys.map Key.name).Nodup) :
    (finalDraft (rebuilt snapshot resolved) resolved Dropped.none).keys.filter Key.isPrimary =
      (rebuilt snapshot resolved).keys.filter Key.isPrimary := by
  have merging (start : Snapshot) :
      (finalDraft start resolved Dropped.none).keys =
        (resolved.keys.foldl withKey
          ⟨mergedColumns start resolved Dropped.none, start.keys⟩).keys := by
    rw [finalDraft, keyedDraft, keptKeys_none]
  rcases last_primary resolved.keys with others | ⟨before, last, after, split, isPrimary, others⟩
  · rw [merging]
    exact project_foldl withKey (fun state => state.keys.filter Key.isPrimary)
      (fun state key member => primaries_withKey_of_other (others key member) state) _
  · have taken :
        (∃ known ∈ (rebuilt snapshot resolved).keys,
            known.isPrimary = false ∧ known.name = last.name) ↔
          ∃ known ∈ snapshot.keys, known.isPrimary = false ∧ known.name = last.name := by
      refine exists_congr fun known => ?_
      constructor
      · rintro ⟨member, notPrimary, named⟩
        rcases mem_keys_finalDraft member with stays | declared
        · rw [keptKeys_none] at stays
          exact ⟨stays, notPrimary, named⟩
        · have isLast : last ∈ resolved.keys := by simp [split]
          rw [List.inj_on_of_nodup_map distinct declared isLast named, isPrimary] at notPrimary
          cases notPrimary
      · rintro ⟨member, notPrimary, named⟩
        rw [← keptKeys_none] at member
        exact ⟨mem_finalDraft_of_keptKeys member notPrimary resolved, notPrimary, named⟩
    have sole (start : Snapshot) :
        (finalDraft start resolved Dropped.none).keys.filter Key.isPrimary =
          if ∃ known ∈ start.keys, known.isPrimary = false ∧ known.name = last.name then
            []
          else
            [last] := by
      rw [merging, split]
      exact primaries_foldl_withKey_of_last (split ▸ distinct) isPrimary others _
    rw [sole, rebuilt, sole]
    simp only [← taken, rebuilt]

/-! ## Indexes -/

/-- The keys that are no primary keys. -/
def lesserKeys (keys : List Key) : List Key :=
  keys.filter (fun key => !key.isPrimary)

theorem lesserKeys_addKey
    (draft : Draft)
    (key : Key) :
    ∃ added, lesserKeys (addKey draft key).keys = lesserKeys draft.keys ++ added := by
  unfold addKey
  split
  · exact ⟨[], (List.append_nil _).symm⟩
  · exact ⟨_, List.filter_append ..⟩

/-- Merging keys adds some to those that are no primary keys, and takes none of them away. -/
theorem lesserKeys_foldl_withKey
    (declared : List Key)
    (draft : Draft) :
    ∃ added,
      lesserKeys (declared.foldl withKey draft).keys = lesserKeys draft.keys ++ added := by
  induction declared generalizing draft with
  | nil =>
      exact ⟨[], (List.append_nil _).symm⟩
  | cons key rest inductionHypothesis =>
      have start :
          lesserKeys (if key.isPrimary then setPrimary draft key else draft).keys =
            lesserKeys draft.keys := by
        split <;> simp [setPrimary, lesserKeys]
      obtain ⟨added, first⟩ :=
        lesserKeys_addKey (if key.isPrimary then setPrimary draft key else draft) key
      obtain ⟨later, grows⟩ := inductionHypothesis (withKey draft key)
      refine ⟨added ++ later, ?_⟩
      rw [List.foldl_cons, grows, withKey, first, start, List.append_assoc]

/-- Primary keys make no index. -/
theorem filterMap_createIndex?_lesserKeys
    (table : String)
    (keys : List Key) :
    (lesserKeys keys).filterMap (createIndex? table) =
      keys.filterMap (createIndex? table) := by
  rw [lesserKeys, List.filterMap_filter]
  apply List.filterMap_congr
  intro key _
  cases kind : key.kind <;> simp [createIndex?, Key.isPrimary, kind]

theorem indexNames_lesserKeys (keys : List Key) :
    indexNames (lesserKeys keys) = indexNames keys := by
  have others :
      ∀ key ∈ keys, (decide (IsIndex key) && !key.isPrimary) = decide (IsIndex key) := by
    intro key _
    cases kind : key.kind <;> simp [IsIndex, Key.isPrimary, kind]
  rw [indexNames, lesserKeys, List.filter_filter, List.filter_congr others, indexNames]

theorem indexOf_mem_filterMap_iff
    (table : String)
    {keys : List Key}
    {key : Key}
    (isIndex : IsIndex key) :
    indexOf table key ∈ keys.filterMap (createIndex? table) ↔ key ∈ keys := by
  simp only [List.mem_filterMap, createIndex?_eq_some_iff]
  constructor
  · rintro ⟨other, member, otherIndex, same⟩
    rwa [eq_of_indexOf_eq isIndex otherIndex same]
  · exact fun member => ⟨key, member, isIndex, rfl⟩

/--
Merging keys into keys whose indexes have different names leaves the indexes as
they are exactly when no index comes new.
-/
theorem filterMap_createIndex?_finalDraft_iff
    (table : String)
    {snapshot : Snapshot}
    (distinct : (indexNames snapshot.keys).Nodup)
    (resolved : Resolved) :
    (finalDraft snapshot resolved Dropped.none).keys.filterMap (createIndex? table) =
        snapshot.keys.filterMap (createIndex? table) ↔
      ∀ key ∈ (finalDraft snapshot resolved Dropped.none).keys,
        IsIndex key → key ∈ snapshot.keys := by
  constructor
  · intro same key member isIndex
    rw [← indexOf_mem_filterMap_iff table isIndex] at member ⊢
    rwa [← same]
  · intro known
    obtain ⟨added, grows⟩ :=
      lesserKeys_foldl_withKey resolved.keys
        ⟨mergedColumns snapshot resolved Dropped.none, keptKeys snapshot Dropped.none⟩
    change lesserKeys (finalDraft snapshot resolved Dropped.none).keys = _ at grows
    rw [keptKeys_none] at grows
    have apart : (indexNames (lesserKeys snapshot.keys ++ added)).Nodup := by
      rw [← grows, indexNames_lesserKeys]
      exact nodup_indexNames_finalDraft distinct resolved Dropped.none
    rw [indexNames_append, indexNames_lesserKeys] at apart
    have noneNew : added.filterMap (createIndex? table) = [] := by
      rw [List.filterMap_eq_nil_iff]
      intro key isAdded
      by_contra makes
      obtain ⟨made, isMade⟩ := Option.ne_none_iff_exists'.mp makes
      obtain ⟨isIndex, _⟩ := createIndex?_eq_some_iff.mp isMade
      have named {keys : List Key} (member : key ∈ keys) : key.name ∈ indexNames keys :=
        List.mem_map_of_mem (List.mem_filter.mpr ⟨member, decide_eq_true isIndex⟩)
      have final : key ∈ (finalDraft snapshot resolved Dropped.none).keys := by
        refine List.mem_of_mem_filter (p := fun key => !key.isPrimary) ?_
        rw [← lesserKeys, grows]
        exact List.mem_append_right _ isAdded
      exact (List.nodup_append.mp apart).2.2 _ (named (known key final isIndex)) _
        (named isAdded) rfl
    rw [← filterMap_createIndex?_lesserKeys, grows, List.filterMap_append, noneNew,
      List.append_nil, filterMap_createIndex?_lesserKeys]

/-! ## Names that a primary key takes -/

/-- A live primary key stays where no declared key is a primary key. -/
theorem primary_mem_foldl_withKey_iff
    {known : Key}
    (isPrimary : known.isPrimary = true)
    {declared : List Key}
    (otherNames : ∀ other ∈ declared, other.isPrimary = true → other.name ≠ known.name)
    {draft : Draft} :
    known ∈ (declared.foldl withKey draft).keys ↔
      known ∈ draft.keys ∧ ∀ other ∈ declared, other.isPrimary = false := by
  induction declared generalizing draft with
  | nil =>
      simp
  | cons first rest inductionHypothesis =>
      obtain ⟨firstOther, restOther⟩ := List.forall_mem_cons.mp otherNames
      rw [List.foldl_cons, inductionHypothesis restOther, List.forall_mem_cons, ← and_assoc]
      refine and_congr_left fun _ => ?_
      cases firstPrimary : first.isPrimary with
      | true =>
          rw [mem_keys_withKey_iff (firstOther firstPrimary)]
          simp [firstPrimary, isPrimary]
      | false =>
          rw [withKey, if_neg (by simp [firstPrimary]), and_iff_left rfl]
          refine ⟨fun member => ?_, mem_addKey_of_mem⟩
          refine (mem_keys_addKey member).resolve_right ?_
          intro isFirst
          rw [List.mem_singleton.mp isFirst, firstPrimary] at isPrimary
          cases isPrimary

/--
Whether a declared index gives way to a live primary key of its name that is
itself replaced, by a declared primary key that comes only after the index.
-/
def YieldsToReplaced (snapshot : Snapshot) (resolved : Resolved) : Prop :=
  ∃ known ∈ snapshot.keys,
    known.isPrimary = true ∧
      ∃ index primary,
        [index, primary].Sublist resolved.keys ∧
          IsIndex index ∧
            index.name = known.name ∧
              primary.isPrimary = true ∧ ¬ GivesUpName resolved known index

/-- Of two different items of a list one comes before the other. -/
theorem pair_sublist_or
    {items : List α}
    {first second : α}
    (firstMember : first ∈ items)
    (secondMember : second ∈ items)
    (different : first ≠ second) :
    [first, second].Sublist items ∨ [second, first].Sublist items := by
  obtain ⟨before, after, rfl⟩ := List.mem_iff_append.mp firstMember
  rcases List.mem_append.mp secondMember with earlier | later
  · exact .inr ((List.singleton_sublist.mpr earlier).append
      (List.singleton_sublist.mpr List.mem_cons_self))
  · have behind := (List.mem_cons.mp later).resolve_left different.symm
    exact .inl (((List.singleton_sublist.mpr behind).cons_cons first).trans
      (List.sublist_append_right before _))

section Names

variable
  {snapshot : Snapshot}
  {resolved : Resolved}
  (declaredOnce : (resolved.keys.map Key.name).Nodup)

include declaredOnce

/-- The key of an index's name stays unless it is a primary key and another one is declared. -/
theorem primary_mem_rebuilt_iff
    {known index : Key}
    (live : known ∈ snapshot.keys)
    (isPrimary : known.isPrimary = true)
    (declared : index ∈ resolved.keys)
    (isIndex : IsIndex index)
    (named : known.name = index.name) :
    known ∈ (rebuilt snapshot resolved).keys ↔
      ∀ other ∈ resolved.keys, other.isPrimary = false := by
  have otherNames : ∀ other ∈ resolved.keys, other.isPrimary = true → other.name ≠ known.name := by
    intro other isDeclared otherPrimary sameName
    rw [List.inj_on_of_nodup_map declaredOnce isDeclared declared (sameName.trans named),
      isIndex.isPrimary_eq_false] at otherPrimary
    cases otherPrimary
  rw [rebuilt, finalDraft, keyedDraft, primary_mem_foldl_withKey_iff isPrimary otherNames,
    keptKeys_none, and_iff_right live]

/--
Merging the same blueprint again makes an index anew exactly when one gave way
to a primary key that was replaced.
-/
theorem new_index_iff
    (liveOnce : (snapshot.keys.map Key.name).Nodup) :
    (∃ key ∈ (finalDraft (rebuilt snapshot resolved) resolved Dropped.none).keys,
        IsIndex key ∧ key ∉ (rebuilt snapshot resolved).keys) ↔
      YieldsToReplaced snapshot resolved := by
  constructor
  · rintro ⟨key, member, isIndex, new⟩
    have declared : key ∈ resolved.keys := by
      refine (mem_keys_finalDraft member).resolve_left ?_
      rwa [keptKeys_none]
    have free : NameIsFree (rebuilt snapshot resolved) resolved Dropped.none key := by
      refine ((mem_keys_finalDraft_iff declaredOnce declared isIndex).mp member).resolve_left ?_
      rwa [keptKeys_none]
    have taken : ¬ NameIsFree snapshot resolved Dropped.none key := fun isFree =>
      new ((mem_keys_finalDraft_iff declaredOnce declared isIndex).mpr (.inr isFree))
    simp only [NameIsFree, keptKeys_none, not_forall] at free taken
    obtain ⟨known, live, named, keeps⟩ := taken
    -- The live key of the name is gone by then, since it would not give the name up.
    have gone : known ∉ (rebuilt snapshot resolved).keys := fun there =>
      keeps (free known there named)
    have isPrimary : known.isPrimary = true := by
      by_contra notPrimary
      rw [← keptKeys_none] at live
      exact gone (mem_finalDraft_of_keptKeys live (by simpa using notPrimary) resolved)
    rw [primary_mem_rebuilt_iff declaredOnce live isPrimary declared isIndex named] at gone
    simp only [not_forall, Bool.not_eq_false] at gone
    obtain ⟨primary, primaryDeclared, replaces⟩ := gone
    have different : key ≠ primary := by
      rintro rfl
      rw [isIndex.isPrimary_eq_false] at replaces
      cases replaces
    refine ⟨known, live, isPrimary, key, primary, ?_, isIndex, named.symm, replaces, keeps⟩
    refine (pair_sublist_or declared primaryDeclared different).resolve_right ?_
    exact fun earlier => keeps ⟨isPrimary, primary, earlier, replaces⟩
  · rintro ⟨known, live, isPrimary, index, primary, ordered, isIndex, named, replaces, keeps⟩
    have declared : index ∈ resolved.keys := ordered.subset List.mem_cons_self
    have primaryDeclared : primary ∈ resolved.keys := ordered.subset (.tail _ (.head _))
    have new : index ∉ (rebuilt snapshot resolved).keys := by
      rw [rebuilt, mem_keys_finalDraft_iff declaredOnce declared isIndex, keptKeys_none]
      rintro (alsoLive | free)
      · rw [← List.inj_on_of_nodup_map liveOnce alsoLive live named,
          isIndex.isPrimary_eq_false] at isPrimary
        cases isPrimary
      · exact keeps (free known (by rwa [keptKeys_none]) named.symm)
    refine ⟨index, ?_, isIndex, new⟩
    rw [mem_keys_finalDraft_iff declaredOnce declared isIndex]
    right
    intro other stays sameName
    rw [keptKeys_none] at stays
    rcases mem_keys_finalDraft stays with alsoLive | alsoDeclared
    · rw [keptKeys_none] at alsoLive
      rw [List.inj_on_of_nodup_map liveOnce alsoLive live (sameName.trans named),
        primary_mem_rebuilt_iff declaredOnce live isPrimary declared isIndex named.symm] at stays
      rw [stays primary primaryDeclared] at replaces
      cases replaces
    · rw [List.inj_on_of_nodup_map declaredOnce alsoDeclared declared sameName] at stays
      exact absurd stays new

end Names

/--
Planning the same blueprint for the table that a rebuild makes succeeds, and
makes the table and its indexes by the same statements exactly when no declared
index gave way to a live primary key of its name that the rebuild replaced.
-/
theorem replanned_alike_iff
    {blueprint : Blueprint}
    {dialect : Dialect}
    {resolved : Resolved}
    (isResolved : (blueprint.resolve dialect).outcome = .ok resolved)
    {snapshot : Snapshot}
    (liveOnce : (snapshot.keys.map Key.name).Nodup)
    {table : String}
    {planned : List Statement}
    (succeeded :
      (plan dialect table snapshot resolved Dropped.none).outcome = .ok planned) :
    planned.filter (builds table) =
        createAll dialect table (rebuilt snapshot resolved).columns
          (rebuilt snapshot resolved).keys ∧
      ∃ again,
        (plan dialect table (rebuilt snapshot resolved) resolved Dropped.none).outcome =
            .ok again ∧
          (again.filter (builds table) = planned.filter (builds table) ↔
            ¬ YieldsToReplaced snapshot resolved) := by
  have declaredOnce := Blueprint.nodup_keyNames_of_resolve isResolved
  obtain ⟨again, succeededAgain⟩ := plan_rebuilt succeeded
  have built :
      planned.filter (builds table) =
        createAll dialect table (rebuilt snapshot resolved).columns
          (rebuilt snapshot resolved).keys := by
    rw [(plan_ok succeeded).2, filter_builds_statements]
    rfl
  have builtAgain :
      again.filter (builds table) =
        createAll dialect table (rebuilt snapshot resolved).columns
          (finalDraft (rebuilt snapshot resolved) resolved Dropped.none).keys := by
    rw [(plan_ok succeededAgain).2, filter_builds_statements, columns_finalDraft_rebuilt]
  refine ⟨built, again, succeededAgain, ?_⟩
  have samePrimary :
      (finalDraft (rebuilt snapshot resolved) resolved Dropped.none).keys.find? Key.isPrimary =
        (rebuilt snapshot resolved).keys.find? Key.isPrimary := by
    rw [← List.head?_filter, primaries_finalDraft_rebuilt snapshot declaredOnce,
      List.head?_filter]
  have namedOnce : (indexNames (rebuilt snapshot resolved).keys).Nodup :=
    nodup_indexNames_finalDraft (liveOnce.sublist (List.filter_sublist.map _)) resolved
      Dropped.none
  rw [built, builtAgain, createAll, createAll, TableDefinition.primaryOf, samePrimary,
    ← TableDefinition.primaryOf, List.append_cancel_left_eq, List.cons.injEq, and_iff_right rfl,
    filterMap_createIndex?_finalDraft_iff table namedOnce, ← new_index_iff declaredOnce liveOnce]
  simp only [not_exists, not_and, not_not]

/-- An index by the name of the live primary key does not give way, since a new key comes first. -/
theorem replanned_alike_after_given_up_name :
    ∃ planned again,
      (plan .duckdb "runs" numberedSnapshot ⟨[], renumberingBlueprint.keys, []⟩
          Dropped.none).outcome = .ok planned ∧
        (plan .duckdb "runs"
            (rebuilt numberedSnapshot ⟨[], renumberingBlueprint.keys, []⟩)
            ⟨[], renumberingBlueprint.keys, []⟩ Dropped.none).outcome = .ok again ∧
          again.filter (builds "runs") = planned.filter (builds "runs") := by
  have isResolved :
      (renumberingBlueprint.resolve .duckdb).outcome =
        .ok ⟨[], renumberingBlueprint.keys, []⟩ :=
    rfl
  have liveOnce : (numberedSnapshot.keys.map Key.name).Nodup := by
    decide
  have succeeded :
      (plan .duckdb "runs" numberedSnapshot ⟨[], renumberingBlueprint.keys, []⟩
        Dropped.none).outcome = .ok _ :=
    rfl
  obtain ⟨_, again, succeededAgain, alike⟩ := replanned_alike_iff isResolved liveOnce succeeded
  refine ⟨_, again, succeeded, succeededAgain, alike.mpr ?_⟩
  rintro ⟨known, _, _, index, primary, ordered, isIndex, _, replaces, _⟩
  -- Only the first of the two declared keys is a primary key, and only the second an index.
  have isPair : [index, primary] = renumberingBlueprint.keys := ordered.eq_of_length rfl
  cases isPair
  cases replaces

/-- An alter that declares an index by the name of the live primary key, and then another key. -/
def indexedRenumbering : Blueprint where
  table := "runs"
  purpose := .alter
  columns := []
  keys := [⟨"numbers", ["id"], .index⟩, ⟨"states", ["status"], .primary⟩]
  foreignKeys := []
  dropped := Dropped.none

/-- The index is made by the second plan only. -/
theorem yielding_index_made_by_second_plan :
    ∃ planned again,
      (indexedRenumbering.resolve .duckdb).outcome = .ok ⟨[], indexedRenumbering.keys, []⟩ ∧
        (numberedSnapshot.keys.map Key.name).Nodup ∧
          (plan .duckdb "runs" numberedSnapshot ⟨[], indexedRenumbering.keys, []⟩
              Dropped.none).outcome = .ok planned ∧
            (plan .duckdb "runs"
                (rebuilt numberedSnapshot ⟨[], indexedRenumbering.keys, []⟩)
                ⟨[], indexedRenumbering.keys, []⟩ Dropped.none).outcome = .ok again ∧
              indexOf "runs" ⟨"numbers", ["id"], .index⟩ ∉ planned ∧
                indexOf "runs" ⟨"numbers", ["id"], .index⟩ ∈ again ∧
                  again.filter (builds "runs") ≠ planned.filter (builds "runs") :=
  ⟨_, _, rfl, by decide, rfl, rfl, by decide, by decide, by decide⟩

end Rebuild

end SchemaMigration
