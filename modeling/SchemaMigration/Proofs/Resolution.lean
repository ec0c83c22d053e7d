import SchemaMigration.Proofs.Outcomes
import SchemaMigration.Schema.Definition

namespace SchemaMigration

/-!
# What resolving keeps

A blueprint that resolves keeps the names of its columns and each of its
foreign keys: one on a declared column is on every column of that name, and any
other is loose.  Nothing of this depends on the dialect.
-/

/-- A complete foreign key has the name and the column that were declared. -/
theorem ForeignKeyDraft.complete_ok
    {draft : ForeignKeyDraft}
    {key : ForeignKey}
    (completed : draft.complete = .ok key) :
    key.name = draft.name ∧ key.column = draft.column := by
  unfold ForeignKeyDraft.complete at completed
  split at completed
  · cases completed
  · cases completed
  · cases completed
    exact ⟨rfl, rfl⟩

namespace Blueprint

theorem complete_of_completeForeignKey
    {blueprint : Blueprint}
    {draft : ForeignKeyDraft}
    {key : ForeignKey}
    (completed : blueprint.completeForeignKey draft = .ok key) :
    draft.complete = .ok key :=
  Outcome.mapError_eq_ok.mp completed

/-- Completing declared foreign keys one by one. -/
def completing (blueprint : Blueprint) (draft : ForeignKeyDraft) :
    Traced SchemaError ForeignKey :=
  Traced.ofExcept (blueprint.completeForeignKey draft)

/-- A column that resolves keeps its name and takes the keys declared on it. -/
theorem resolveColumn_ok
    {blueprint : Blueprint}
    {dialect : Dialect}
    {column : Column}
    {definition : ColumnDefinition}
    (isResolved : (blueprint.resolveColumn dialect column).outcome = .ok definition) :
    definition.name = column.name ∧
      definition.isPrimary = (blueprint.keysOn column.name).any Key.isPrimary ∧
        (Traced.each blueprint.completing (blueprint.foreignKeysOn column.name)).outcome =
          .ok definition.foreignKeys := by
  unfold resolveColumn at isResolved
  cases excess : excessDimensions? column with
  | some depth =>
      simp [excess] at isResolved
  | none =>
      simp only [excess, Traced.outcome_bind_eq_ok, Traced.outcome_pure,
        Except.ok.injEq] at isResolved
      obtain ⟨_, _, foreignKeys, completed, rfl⟩ := isResolved
      exact ⟨rfl, rfl, completed⟩

theorem resolve_ok
    {blueprint : Blueprint}
    {dialect : Dialect}
    {resolved : Resolved}
    (isResolved : (blueprint.resolve dialect).outcome = .ok resolved) :
    (Traced.each (blueprint.resolveColumn dialect) blueprint.columns).outcome =
        .ok resolved.columns ∧
      resolved.keys = blueprint.orderedKeys ∧
        (Traced.each blueprint.completing blueprint.looseForeignKeys).outcome =
          .ok resolved.foreignKeys := by
  simp only [resolve, Traced.outcome_bind_eq_ok, Traced.outcome_pure,
    Except.ok.injEq] at isResolved
  obtain ⟨columns, columnsResolved, foreignKeys, completed, rfl⟩ := isResolved
  exact ⟨columnsResolved, rfl, completed⟩

theorem mem_of_mem_firstOfEachName
    {keys : List Key}
    {key : Key}
    (member : key ∈ Key.firstOfEachName keys) :
    key ∈ keys := by
  induction keys with
  | nil =>
      cases member
  | cons first rest inductionHypothesis =>
      rcases List.mem_cons.mp member with rfl | later
      · exact .head _
      · exact .tail _ (inductionHypothesis (List.mem_of_mem_filter later))

theorem mem_keys_of_mem_orderedKeys
    {blueprint : Blueprint}
    {key : Key}
    (member : key ∈ blueprint.orderedKeys) :
    key ∈ blueprint.keys := by
  rcases List.mem_append.mp (mem_of_mem_firstOfEachName member) with onColumns | declared
  · obtain ⟨_, _, onColumn⟩ := List.mem_flatMap.mp onColumns
    exact List.mem_of_mem_filter onColumn
  · exact declared

section Resolved

variable
  {blueprint : Blueprint}
  {dialect : Dialect}
  {resolved : Resolved}
  (isResolved : (blueprint.resolve dialect).outcome = .ok resolved)

include isResolved

theorem names_of_resolve :
    resolved.columns.map ColumnDefinition.name = blueprint.columns.map Column.name :=
  Traced.map_each (resolve_ok isResolved).1
    (fun _ _ columnResolved => (resolveColumn_ok columnResolved).1.symm)

/-- Foreign keys on columns are on the columns that they name. -/
theorem column_of_resolve
    {column : ColumnDefinition}
    (member : column ∈ resolved.columns)
    {key : ForeignKey}
    (held : key ∈ column.foreignKeys) :
    key.column = column.name := by
  obtain ⟨declared, _, columnResolved⟩ :=
    Traced.item_of_mem_each (resolve_ok isResolved).1 member
  obtain ⟨named, _, completed⟩ := resolveColumn_ok columnResolved
  obtain ⟨draft, onColumn, complete⟩ := Traced.item_of_mem_each completed held
  have sameColumn :=
    (ForeignKeyDraft.complete_ok (complete_of_completeForeignKey complete)).2
  have declaredOn : draft.column = declared.name := by
    simpa using (List.mem_filter.mp onColumn).2
  rw [sameColumn, declaredOn, named]

/-- Loose foreign keys are on columns that are not declared. -/
theorem undeclared_of_resolve
    {key : ForeignKey}
    (member : key ∈ resolved.foreignKeys) :
    blueprint.declares key.column = false := by
  obtain ⟨draft, loose, complete⟩ :=
    Traced.item_of_mem_each (resolve_ok isResolved).2.2 member
  rw [(ForeignKeyDraft.complete_ok (complete_of_completeForeignKey complete)).2]
  simpa using (List.mem_filter.mp loose).2

/-- Loose foreign keys have different names when all declared ones have. -/
theorem nodup_loose_of_resolve
    (distinct : (blueprint.foreignKeys.map ForeignKeyDraft.name).Nodup) :
    (resolved.foreignKeys.map ForeignKey.name).Nodup := by
  have names :
      resolved.foreignKeys.map ForeignKey.name =
        blueprint.looseForeignKeys.map ForeignKeyDraft.name :=
    Traced.map_each (resolve_ok isResolved).2.2 (fun _ _ complete =>
      (ForeignKeyDraft.complete_ok (complete_of_completeForeignKey complete)).1.symm)
  rw [names]
  exact distinct.sublist (List.filter_sublist.map _)

/-- A declared foreign key is on every column of its name. -/
theorem held_of_resolve
    {draft : ForeignKeyDraft}
    (member : draft ∈ blueprint.foreignKeys)
    {column : ColumnDefinition}
    (isColumn : column ∈ resolved.columns)
    (named : column.name = draft.column) :
    ∃ key ∈ column.foreignKeys, draft.complete = .ok key := by
  obtain ⟨declared, _, columnResolved⟩ :=
    Traced.item_of_mem_each (resolve_ok isResolved).1 isColumn
  obtain ⟨sameName, _, completed⟩ := resolveColumn_ok columnResolved
  have onColumn : draft ∈ blueprint.foreignKeysOn declared.name :=
    List.mem_filter.mpr ⟨member, by simp [← sameName, named]⟩
  obtain ⟨key, held, complete⟩ := Traced.value_of_mem_each completed onColumn
  exact ⟨key, held, complete_of_completeForeignKey complete⟩

theorem declares_iff_of_resolve {name : String} :
    blueprint.declares name = true ↔
      name ∈ resolved.columns.map ColumnDefinition.name := by
  simp [names_of_resolve isResolved, declares]

/--
Each declared foreign key is complete: it is on all columns of its name where
these are declared, and loose where they are not.
-/
theorem complete_of_resolve
    {draft : ForeignKeyDraft}
    (member : draft ∈ blueprint.foreignKeys) :
    ∃ key,
      draft.complete = .ok key ∧
        (∀ column ∈ resolved.columns,
          column.name = draft.column → key ∈ column.foreignKeys) ∧
          (blueprint.declares draft.column = false → key ∈ resolved.foreignKeys) := by
  cases declared : blueprint.declares draft.column with
  | true =>
      obtain ⟨column, isColumn, named⟩ :=
        List.mem_map.mp ((declares_iff_of_resolve isResolved).mp declared)
      obtain ⟨key, _, complete⟩ := held_of_resolve isResolved member isColumn named
      refine ⟨key, complete, ?_, fun undeclared => nomatch undeclared⟩
      intro other isOther sameName
      obtain ⟨same, held, alsoComplete⟩ := held_of_resolve isResolved member isOther sameName
      rw [complete] at alsoComplete
      cases alsoComplete
      exact held
  | false =>
      have loose : draft ∈ blueprint.looseForeignKeys :=
        List.mem_filter.mpr ⟨member, by simp [declared]⟩
      obtain ⟨key, held, complete⟩ :=
        Traced.value_of_mem_each (resolve_ok isResolved).2.2 loose
      refine ⟨key, complete_of_completeForeignKey complete, ?_, fun _ => held⟩
      intro column isColumn named
      have there : draft.column ∈ resolved.columns.map ColumnDefinition.name :=
        named ▸ List.mem_map_of_mem isColumn
      rw [← declares_iff_of_resolve isResolved, declared] at there
      cases there

/-- A column belongs to a primary key when a declared one covers it. -/
theorem isPrimary_of_resolve
    {column : ColumnDefinition}
    (member : column ∈ resolved.columns) :
    column.isPrimary = (blueprint.keysOn column.name).any Key.isPrimary := by
  obtain ⟨declared, _, columnResolved⟩ :=
    Traced.item_of_mem_each (resolve_ok isResolved).1 member
  obtain ⟨named, isPrimary, _⟩ := resolveColumn_ok columnResolved
  rw [named, isPrimary]

/-- Where no primary key is declared, none is resolved, and no column belongs to one. -/
theorem no_primary_of_resolve
    (noPrimary : ∀ key ∈ blueprint.keys, key.isPrimary = false) :
    (∀ key ∈ resolved.keys, key.isPrimary = false) ∧
      ∀ column ∈ resolved.columns, column.isPrimary = false := by
  constructor
  · intro key member
    rw [(resolve_ok isResolved).2.1] at member
    exact noPrimary key (mem_keys_of_mem_orderedKeys member)
  · intro column member
    rw [isPrimary_of_resolve isResolved member, List.any_eq_false]
    intro key onColumn
    simp [noPrimary key (List.mem_of_mem_filter onColumn)]

end Resolved

/-! ## One primary key -/

section Sole

variable
  {blueprint : Blueprint}
  {key : Key}
  (sole : blueprint.keys.filter Key.isPrimary = [key])

include sole

/-- Primary keys among the declared keys are the only one. -/
theorem primary_iff_eq_of_sole {other : Key} :
    other ∈ blueprint.keys ∧ other.isPrimary = true ↔ other = key := by
  rw [← List.mem_filter, sole, List.mem_singleton]

theorem mem_keys_of_sole :
    key ∈ blueprint.keys :=
  ((primary_iff_eq_of_sole sole).mpr rfl).1

theorem isPrimary_of_sole :
    key.isPrimary = true :=
  ((primary_iff_eq_of_sole sole).mpr rfl).2

/-- The columns that the key covers are those that are told to belong to one. -/
theorem isPrimary_eq_covers_of_sole
    {dialect : Dialect}
    {resolved : Resolved}
    (isResolved : (blueprint.resolve dialect).outcome = .ok resolved)
    {column : ColumnDefinition}
    (member : column ∈ resolved.columns) :
    column.isPrimary = key.covers column.name := by
  rw [isPrimary_of_resolve isResolved member, Bool.eq_iff_iff, List.any_eq_true]
  constructor
  · rintro ⟨other, onColumn, isPrimary⟩
    obtain ⟨isDeclared, covers⟩ := List.mem_filter.mp onColumn
    rwa [(primary_iff_eq_of_sole sole).mp ⟨isDeclared, isPrimary⟩] at covers
  · intro covers
    exact ⟨key, List.mem_filter.mpr ⟨mem_keys_of_sole sole, covers⟩, isPrimary_of_sole sole⟩

end Sole

end Blueprint

end SchemaMigration
