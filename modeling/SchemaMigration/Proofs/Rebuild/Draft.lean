import SchemaMigration.Proofs.Outcomes
import SchemaMigration.Schema.Rebuild

namespace SchemaMigration

/-!
# The table a rebuild makes

A rebuild that is planned merges what stays of a live table with what is
declared.  The merge is a fold without failures here, and the facts that later
modules need are read off the fold: which columns there are and in which order,
and where every key and foreign key comes from.
-/

namespace Rebuild

/-! ## What stays -/

/-- The names of the columns that stay are those that are not dropped, in order. -/
theorem names_keptColumns (snapshot : Snapshot) (dropped : Dropped) :
    (keptColumns snapshot dropped).map ColumnDefinition.name =
      snapshot.columnNames.filter (fun name => !dropped.columns.contains name) := by
  simp only [keptColumns, Snapshot.columnNames, List.map_map, List.filter_map]
  rfl

/-- Every column that stays is a live one. -/
theorem keptColumns_names_subset (snapshot : Snapshot) (dropped : Dropped) :
    ∀ name ∈ (keptColumns snapshot dropped).map ColumnDefinition.name,
      name ∈ snapshot.columnNames := by
  intro name member
  rw [names_keptColumns] at member
  exact List.mem_of_mem_filter member

/-- Where nothing is dropped, every live column stays as it is. -/
theorem keptColumns_none (snapshot : Snapshot) :
    keptColumns snapshot Dropped.none = snapshot.columns := by
  have released : releaseColumn Dropped.none = id := by
    funext column
    simp [releaseColumn, releasedColumns, Dropped.none]
  have undropped : Dropped.none.columns = [] := rfl
  simp [keptColumns, released, undropped]

/-! ## The merge as a fold -/

/-- A declared column after known ones, unless there is one of its name. -/
def withColumn
    (columns : List ColumnDefinition)
    (column : ColumnDefinition) :
    List ColumnDefinition :=
  if hasColumn columns column.name then columns else columns ++ [column]

/-- A declared key put into a draft. -/
def withKey (draft : Draft) (key : Key) : Draft :=
  addKey (if key.isPrimary then setPrimary draft key else draft) key

/-- A foreign key put on the column of its name. -/
def withForeignKey
    (columns : List ColumnDefinition)
    (key : ForeignKey) :
    List ColumnDefinition :=
  putForeignKey key columns

/-- The kept columns and the declared ones after them. -/
def mergedColumns
    (snapshot : Snapshot)
    (resolved : Resolved)
    (dropped : Dropped) :
    List ColumnDefinition :=
  resolved.columns.foldl withColumn (keptColumns snapshot dropped)

/-- The merged columns with the declared keys merged in. -/
def keyedDraft
    (snapshot : Snapshot)
    (resolved : Resolved)
    (dropped : Dropped) :
    Draft :=
  resolved.keys.foldl withKey
    ⟨mergedColumns snapshot resolved dropped, keptKeys snapshot dropped⟩

/-- The whole draft, with the loose foreign keys on their columns. -/
def finalDraft
    (snapshot : Snapshot)
    (resolved : Resolved)
    (dropped : Dropped) :
    Draft :=
  let draft := keyedDraft snapshot resolved dropped
  { draft with columns := resolved.foreignKeys.foldl withForeignKey draft.columns }

/-- A column that is merged comes as the fold says. -/
theorem eq_withColumn
    {table : String}
    {columns next : List ColumnDefinition}
    {column : ColumnDefinition}
    (merged : (mergeColumn table columns column).outcome = .ok next) :
    next = withColumn columns column := by
  unfold mergeColumn at merged
  split at merged
  · rename_i known
    simp only [Traced.outcome_bind_eq_ok, Traced.outcome_tell, Traced.outcome_pure,
      Except.ok.injEq] at merged
    obtain ⟨_, _, rfl⟩ := merged
    simp [withColumn, known]
  · rename_i unknown
    simp only [Traced.outcome_pure, Except.ok.injEq] at merged
    subst merged
    simp [withColumn, unknown]

/-- A key that is merged comes as the fold says. -/
theorem eq_withKey
    {table : String}
    {draft next : Draft}
    {key : Key}
    (merged : (mergeKey table draft key).outcome = .ok next) :
    next = withKey draft key := by
  unfold mergeKey at merged
  split at merged
  · simp at merged
  · split at merged
    · rename_i isPrimary
      have returned :
          addKey (setPrimary draft key) key = next := by
        split at merged <;>
          simpa using merged
      simp [withKey, isPrimary, returned]
    · rename_i notPrimary
      simp only [Traced.outcome_pure, Except.ok.injEq] at merged
      subst merged
      simp [withKey, notPrimary]

/-- A foreign key that is merged comes as the fold says. -/
theorem eq_withForeignKey
    {table : String}
    {columns next : List ColumnDefinition}
    {key : ForeignKey}
    (merged : (mergeForeignKey table columns key).outcome = .ok next) :
    next = withForeignKey columns key := by
  unfold mergeForeignKey at merged
  split at merged
  · simp only [Traced.outcome_pure, Except.ok.injEq] at merged
    exact merged.symm
  · simp at merged

/--
A merge that succeeds found every key that is dropped, merged the declared keys
into the keyed draft, put the loose foreign keys on its columns, and has columns.
-/
theorem merge_steps
    {table : String}
    {snapshot : Snapshot}
    {resolved : Resolved}
    {dropped : Dropped}
    {draft : Draft}
    (merged : (merge table snapshot resolved dropped).outcome = .ok draft) :
    (∀ drop ∈ dropped.keys, hasKey snapshot drop = true) ∧
      (Traced.sweep (mergeKey table)
          ⟨mergedColumns snapshot resolved dropped, keptKeys snapshot dropped⟩
          resolved.keys).outcome = .ok (keyedDraft snapshot resolved dropped) ∧
        (Traced.sweep (mergeForeignKey table) (keyedDraft snapshot resolved dropped).columns
            resolved.foreignKeys).outcome = .ok draft.columns ∧
          draft.keys = (keyedDraft snapshot resolved dropped).keys ∧
            draft.columns ≠ [] := by
  unfold merge at merged
  cases missing : missingKey? snapshot dropped with
  | some drop =>
      simp [missing] at merged
  | none =>
      simp only [missing, Traced.outcome_bind_eq_ok] at merged
      obtain ⟨columns, columnsMerged, keyed, keysMerged, final, foreignMerged,
        finished⟩ := merged
      have columnsShape := Traced.sweep_eq_foldl (fun _ _ _ => eq_withColumn) columnsMerged
      subst columnsShape
      have keyedShape := Traced.sweep_eq_foldl (fun _ _ _ => eq_withKey) keysMerged
      subst keyedShape
      split at finished
      · simp at finished
      · rename_i nonempty
        simp only [Traced.outcome_pure, Except.ok.injEq] at finished
        subst finished
        exact ⟨by simpa [missingKey?] using missing, keysMerged, foreignMerged, rfl,
          by simpa using nonempty⟩

/--
A merge that succeeds makes the final draft, which has columns, and found every
key that is dropped.
-/
theorem merge_ok
    {table : String}
    {snapshot : Snapshot}
    {resolved : Resolved}
    {dropped : Dropped}
    {draft : Draft}
    (merged : (merge table snapshot resolved dropped).outcome = .ok draft) :
    draft = finalDraft snapshot resolved dropped ∧
      (∀ drop ∈ dropped.keys, hasKey snapshot drop = true) ∧
        draft.columns ≠ [] := by
  obtain ⟨found, _, foreignMerged, keys, nonempty⟩ := merge_steps merged
  have columns := Traced.sweep_eq_foldl (fun _ _ _ => eq_withForeignKey) foreignMerged
  refine ⟨?_, found, nonempty⟩
  cases draft
  simp only at columns keys
  rw [columns, keys]
  rfl

/-- A plan that succeeds writes the statements for the final draft. -/
theorem plan_ok
    {dialect : Dialect}
    {table : String}
    {snapshot : Snapshot}
    {resolved : Resolved}
    {dropped : Dropped}
    {planned : List Statement}
    (succeeded : (plan dialect table snapshot resolved dropped).outcome = .ok planned) :
    (merge table snapshot resolved dropped).outcome =
        .ok (finalDraft snapshot resolved dropped) ∧
      planned =
        statements dialect table snapshot
          ((keptColumns snapshot dropped).map ColumnDefinition.name)
          (finalDraft snapshot resolved dropped) := by
  unfold plan at succeeded
  simp only [Traced.outcome_bind_eq_ok, Traced.outcome_tell, Traced.outcome_pure,
    Except.ok.injEq] at succeeded
  obtain ⟨draft, merged, _, _, rfl⟩ := succeeded
  have shape := (merge_ok merged).1
  subst shape
  exact ⟨merged, rfl⟩

/-! ## Columns that are added -/

/-- The declared columns that are added to known ones: the first of each new name. -/
def addedColumns
    (known : List ColumnDefinition) :
    List ColumnDefinition → List ColumnDefinition
  | [] => []
  | column :: rest =>
      if hasColumn known column.name then
        addedColumns known rest
      else
        column :: addedColumns (known ++ [column]) rest

/-- Declared columns come after the known ones. -/
theorem foldl_withColumn (known declared : List ColumnDefinition) :
    declared.foldl withColumn known = known ++ addedColumns known declared := by
  induction declared generalizing known with
  | nil =>
      simp [addedColumns]
  | cons column rest inductionHypothesis =>
      rw [List.foldl_cons, inductionHypothesis]
      by_cases taken : hasColumn known column.name = true <;>
        simp [withColumn, addedColumns, taken]

theorem mem_of_mem_addedColumns
    {known declared : List ColumnDefinition}
    {column : ColumnDefinition}
    (member : column ∈ addedColumns known declared) :
    column ∈ declared := by
  induction declared generalizing known with
  | nil =>
      simp [addedColumns] at member
  | cons first rest inductionHypothesis =>
      unfold addedColumns at member
      split at member
      · exact List.mem_cons_of_mem _ (inductionHypothesis member)
      · rcases List.mem_cons.mp member with rfl | later
        · exact List.mem_cons_self
        · exact List.mem_cons_of_mem _ (inductionHypothesis later)

/-- A column that is added has a new name. -/
theorem hasColumn_addedColumns
    {known declared : List ColumnDefinition}
    {column : ColumnDefinition}
    (member : column ∈ addedColumns known declared) :
    hasColumn known column.name = false := by
  induction declared generalizing known with
  | nil =>
      simp [addedColumns] at member
  | cons first rest inductionHypothesis =>
      by_cases taken : hasColumn known first.name = true
      · exact inductionHypothesis (by simpa [addedColumns, taken] using member)
      · simp only [addedColumns, taken, Bool.false_eq_true, if_false,
          List.mem_cons] at member
        rcases member with rfl | later
        · simpa using taken
        · have unknown := inductionHypothesis later
          simp only [hasColumn, List.any_append, Bool.or_eq_false_iff] at unknown
          exact unknown.1

/-- A column that is added is the first of its name. -/
theorem find_addedColumns
    {known declared : List ColumnDefinition}
    {column : ColumnDefinition}
    (member : column ∈ addedColumns known declared) :
    (known ++ addedColumns known declared).find?
        (fun other => other.name = column.name) =
      some column := by
  induction declared generalizing known with
  | nil =>
      simp [addedColumns] at member
  | cons first rest inductionHypothesis =>
      by_cases taken : hasColumn known first.name = true
      · simp only [addedColumns, taken, if_true] at member ⊢
        exact inductionHypothesis member
      · simp only [addedColumns, taken, Bool.false_eq_true, if_false,
          List.mem_cons] at member ⊢
        rcases member with rfl | later
        · have unknown :
              known.find? (fun other => other.name = column.name) = none := by
            simpa [hasColumn] using taken
          simp [List.find?_append, unknown]
        · simpa using inductionHypothesis later

/-! ## Where keys come from -/

/-- What a fold ends up with was there or came with an item, when each step adds no more. -/
theorem mem_foldl_of_step
    (step : β → α → β)
    (held : β → List γ)
    (given : α → List γ)
    (adds :
      ∀ state item,
        ∀ entry ∈ held (step state item),
          entry ∈ held state ∨ entry ∈ given item)
    {items : List α}
    {start : β}
    {entry : γ}
    (member : entry ∈ held (items.foldl step start)) :
    entry ∈ held start ∨ entry ∈ items.flatMap given := by
  induction items generalizing start with
  | nil =>
      exact .inl member
  | cons item rest inductionHypothesis =>
      rw [List.flatMap_cons, List.mem_append]
      rcases inductionHypothesis member with stepped | later
      · exact (adds start item entry stepped).imp_right .inl
      · exact .inr (.inr later)

/-- What every step of a fold leaves alone is as it was at the start. -/
theorem project_foldl
    (step : β → α → β)
    (project : β → γ)
    {items : List α}
    (keeps : ∀ state, ∀ item ∈ items, project (step state item) = project state)
    (start : β) :
    project (items.foldl step start) = project start := by
  induction items generalizing start with
  | nil =>
      rfl
  | cons item rest inductionHypothesis =>
      rw [List.foldl_cons,
        inductionHypothesis (fun state later member =>
          keeps state later (List.mem_cons_of_mem _ member))]
      exact keeps start item List.mem_cons_self

theorem mem_keys_addKey
    {draft : Draft}
    {declared key : Key}
    (member : key ∈ (addKey draft declared).keys) :
    key ∈ draft.keys ∨ key ∈ [declared] := by
  unfold addKey at member
  split at member
  · exact .inl member
  · exact List.mem_append.mp member

theorem mem_addKey_of_mem
    {draft : Draft}
    {declared key : Key}
    (member : key ∈ draft.keys) :
    key ∈ (addKey draft declared).keys := by
  unfold addKey
  split
  · exact member
  · exact List.mem_append_left _ member

@[simp] theorem columns_addKey
    (draft : Draft)
    (key : Key) :
    (addKey draft key).columns = draft.columns := by
  unfold addKey
  split <;> rfl

theorem mem_keys_withKey
    {draft : Draft}
    {declared key : Key}
    (member : key ∈ (withKey draft declared).keys) :
    key ∈ draft.keys ∨ key ∈ [declared] := by
  rcases mem_keys_addKey member with known | added
  · split at known
    · exact .inl (List.mem_of_mem_filter known)
    · exact .inl known
  · exact .inr added

theorem mem_withKey_of_mem
    {draft : Draft}
    {key : Key}
    (member : key ∈ draft.keys)
    (notPrimary : key.isPrimary = false)
    (declared : Key) :
    key ∈ (withKey draft declared).keys := by
  refine mem_addKey_of_mem ?_
  split
  · simp [setPrimary, member, notPrimary]
  · exact member

/-- A key of the table to make stayed or is declared. -/
theorem mem_keys_finalDraft
    {snapshot : Snapshot}
    {resolved : Resolved}
    {dropped : Dropped}
    {key : Key}
    (member : key ∈ (finalDraft snapshot resolved dropped).keys) :
    key ∈ keptKeys snapshot dropped ∨ key ∈ resolved.keys := by
  have origin :=
    mem_foldl_of_step withKey Draft.keys (fun declared => [declared])
      (fun _ _ _ => mem_keys_withKey) member
  simpa using origin

/-- A key that stays is one of the table to make, unless it is a primary key. -/
theorem mem_finalDraft_of_keptKeys
    {snapshot : Snapshot}
    {dropped : Dropped}
    {key : Key}
    (member : key ∈ keptKeys snapshot dropped)
    (notPrimary : key.isPrimary = false)
    (resolved : Resolved) :
    key ∈ (finalDraft snapshot resolved dropped).keys := by
  have kept
      (declared : List Key)
      (draft : Draft)
      (there : key ∈ draft.keys) :
      key ∈ (declared.foldl withKey draft).keys := by
    induction declared generalizing draft with
    | nil =>
        exact there
    | cons first rest inductionHypothesis =>
        exact inductionHypothesis _ (mem_withKey_of_mem there notPrimary first)
  exact kept resolved.keys _ member

/-! ## Where foreign keys come from -/

/-- The foreign keys on columns. -/
def heldForeignKeys (columns : List ColumnDefinition) : List ForeignKey :=
  columns.flatMap ColumnDefinition.foreignKeys

theorem heldForeignKeys_withKey
    (draft : Draft)
    (key : Key) :
    heldForeignKeys (withKey draft key).columns =
      heldForeignKeys draft.columns := by
  rw [withKey, columns_addKey]
  split
  · simp [setPrimary, heldForeignKeys, List.flatMap_map]
  · rfl

theorem heldForeignKeys_withForeignKey
    {columns : List ColumnDefinition}
    {declared key : ForeignKey}
    (member : key ∈ heldForeignKeys (withForeignKey columns declared)) :
    key ∈ heldForeignKeys columns ∨ key ∈ [declared] := by
  induction columns with
  | nil =>
      simp [withForeignKey, putForeignKey, heldForeignKeys] at member
  | cons column rest inductionHypothesis =>
      simp only [withForeignKey, putForeignKey, heldForeignKeys] at member ⊢
      split at member
      · simp only [List.flatMap_cons, List.mem_append, List.mem_filter] at member ⊢
        rcases member with (⟨known, _⟩ | added) | later
        · exact .inl (.inl known)
        · exact .inr added
        · exact .inl (.inr later)
      · simp only [List.flatMap_cons, List.mem_append] at member ⊢
        rcases member with known | later
        · exact .inl (.inl known)
        · exact (inductionHypothesis later).imp_left .inr

/-- A foreign key of the table to make stayed, came with an added column, or is loose. -/
theorem mem_heldForeignKeys_finalDraft
    {snapshot : Snapshot}
    {resolved : Resolved}
    {dropped : Dropped}
    {key : ForeignKey}
    (member : key ∈ heldForeignKeys (finalDraft snapshot resolved dropped).columns) :
    key ∈ heldForeignKeys (keptColumns snapshot dropped) ∨
      key ∈ heldForeignKeys (addedColumns (keptColumns snapshot dropped) resolved.columns) ∨
        key ∈ resolved.foreignKeys := by
  have onKeyed :
      key ∈ heldForeignKeys (keyedDraft snapshot resolved dropped).columns ∨
        key ∈ resolved.foreignKeys := by
    have origin :=
      mem_foldl_of_step withForeignKey heldForeignKeys (fun declared => [declared])
        (fun _ _ _ => heldForeignKeys_withForeignKey) member
    simpa using origin
  rcases onKeyed with keyed | loose
  · have unchanged :
        heldForeignKeys (keyedDraft snapshot resolved dropped).columns =
          heldForeignKeys (mergedColumns snapshot resolved dropped) :=
      project_foldl withKey (fun draft => heldForeignKeys draft.columns)
        (fun draft declared _ => heldForeignKeys_withKey draft declared) _
    rw [unchanged, mergedColumns, foldl_withColumn, heldForeignKeys,
      List.flatMap_append, List.mem_append] at keyed
    exact keyed.imp_right .inl
  · exact .inr (.inr loose)

end Rebuild

end SchemaMigration
