import SchemaMigration.Proofs.Outcomes
import SchemaMigration.Schema.Snapshot

namespace SchemaMigration.Snapshot

/-!
# What a snapshot holds

A snapshot that is loaded has the columns that the database reports, in order.
The columns that belong to the primary key are those that the key lists, and
each foreign key is on the column that it names.
-/

/-- The columns that the primary key lists. -/
def primaryColumns (snapshot : Snapshot) : List String :=
  (snapshot.keys.filter Key.isPrimary).flatMap Key.columns

/-- Whether the columns that belong to the primary key are those that it lists. -/
def Coherent (snapshot : Snapshot) : Prop :=
  ∀ name,
    (∃ column ∈ snapshot.columns, column.name = name ∧ column.isPrimary = true) ↔
      name ∈ snapshot.primaryColumns

/-- Whether each foreign key is on the column that it names. -/
def Attached (columns : List ColumnDefinition) : Prop :=
  ∀ column ∈ columns, ∀ key ∈ column.foreignKeys, key.column = column.name

/-! ## Attaching foreign keys -/

/-- Attaching a foreign key changes nothing else about a column. -/
theorem map_attach
    {read : ColumnDefinition → β}
    (blind :
      ∀ column foreignKeys,
        read { column with foreignKeys := foreignKeys } = read column)
    (columns : List ColumnDefinition)
    (key : ForeignKey) :
    (attach key columns).map read = columns.map read := by
  induction columns with
  | nil =>
      rfl
  | cons column rest inductionHypothesis =>
      unfold attach
      split
      · exact congrArg (· :: _) (blind column _)
      · rw [List.map_cons, inductionHypothesis, List.map_cons]

theorem map_foldl_attach
    {read : ColumnDefinition → β}
    (blind :
      ∀ column foreignKeys,
        read { column with foreignKeys := foreignKeys } = read column)
    (keys : List ForeignKey)
    (columns : List ColumnDefinition) :
    (keys.foldl (fun known key => attach key known) columns).map read =
      columns.map read :=
  List.foldlRecOn
    (motive := fun known => known.map read = columns.map read)
    keys _ rfl (fun known same key _ => (map_attach blind known key).trans same)

theorem attached_attach
    {columns : List ColumnDefinition}
    (attached : Attached columns)
    (added : ForeignKey) :
    Attached (attach added columns) := by
  induction columns with
  | nil =>
      exact attached
  | cons first rest inductionHypothesis =>
      obtain ⟨firstAttached, restAttached⟩ := List.forall_mem_cons.mp attached
      unfold attach
      split
      · rename_i here
        refine List.forall_mem_cons.mpr ⟨?_, restAttached⟩
        intro key held
        rcases List.mem_append.mp held with known | isAdded
        · exact firstAttached key known
        · rw [List.mem_singleton.mp isAdded]
          exact here.symm
      · exact List.forall_mem_cons.mpr ⟨firstAttached, inductionHypothesis restAttached⟩

/-! ## Loading -/

theorem load_ok
    {view : Introspection}
    {table : String}
    {snapshot : Snapshot}
    (loaded : (load view table).outcome = .ok snapshot) :
    ∃ primary foreignKeys columns indexes,
      (view.primaryKey table).outcome = .ok primary ∧
        (view.foreignKeys table).outcome = .ok foreignKeys ∧
          (view.columns table).outcome = .ok columns ∧
            (view.indexes table).outcome = .ok indexes ∧
              snapshot.columns =
                  (foreignKeys.filterMap (foreignKeyOf? table)).foldl
                    (fun known key => attach key known) (columns.map (columnOf primary)) ∧
                snapshot.keys = primaryOf table primary ++ indexes.map indexOf := by
  simp only [load, Traced.outcome_mapError, Outcome.mapError_eq_ok,
    Traced.outcome_bind_eq_ok, Traced.outcome_pure, Except.ok.injEq] at loaded
  obtain ⟨primary, primaryRead, foreignKeys, foreignKeysRead, columns, columnsRead, _, _,
    indexes, indexesRead, rfl⟩ := loaded
  exact ⟨primary, foreignKeys, columns, indexes, primaryRead, foreignKeysRead,
    columnsRead, indexesRead, rfl, rfl⟩

section Loaded

variable
  {view : Introspection}
  {table : String}
  {snapshot : Snapshot}
  (loaded : (load view table).outcome = .ok snapshot)

include loaded

theorem columnNames_of_load
    {live : List LiveColumn}
    (reported : (view.columns table).outcome = .ok live) :
    snapshot.columnNames = live.map LiveColumn.name := by
  obtain ⟨primary, _, columns, _, _, _, columnsRead, _, shape, _⟩ := load_ok loaded
  cases reported.symm.trans columnsRead
  rw [columnNames, shape, map_foldl_attach (fun _ _ => rfl), List.map_map]
  rfl

theorem attached_of_load : Attached snapshot.columns := by
  obtain ⟨primary, _, columns, _, _, _, _, _, shape, _⟩ := load_ok loaded
  rw [shape]
  refine List.foldlRecOn (motive := Attached) _ _ ?_
    (fun _ attached key _ => attached_attach attached key)
  intro column member key held
  obtain ⟨_, _, rfl⟩ := List.mem_map.mp member
  cases held

/-- The primary key lists what the database reports. -/
theorem mem_primaryColumns_of_load
    {primary : List String}
    (reported : (view.primaryKey table).outcome = .ok primary)
    {name : String} :
    name ∈ snapshot.primaryColumns ↔ name ∈ primary := by
  obtain ⟨listed, _, _, indexes, primaryRead, _, _, _, _, keys⟩ := load_ok loaded
  cases reported.symm.trans primaryRead
  have unkeyed : (indexes.map indexOf).filter Key.isPrimary = [] := by
    rw [List.filter_eq_nil_iff]
    intro key member
    obtain ⟨index, _, rfl⟩ := List.mem_map.mp member
    cases unique : index.unique <;> simp [indexOf, Key.isPrimary, unique]
  rw [primaryColumns, keys, List.filter_append, unkeyed, List.append_nil, primaryOf]
  cases primary <;> simp [Key.isPrimary, Key.declared]

/-- The primary key is coherent when the database lists no other columns in it. -/
theorem coherent_of_load
    (listed :
      ∀ primary live,
        (view.primaryKey table).outcome = .ok primary →
          (view.columns table).outcome = .ok live →
            ∀ name ∈ primary, name ∈ live.map LiveColumn.name) :
    snapshot.Coherent := by
  obtain ⟨primary, _, columns, _, primaryRead, _, columnsRead, _, shape, _⟩ :=
    load_ok loaded
  intro name
  have flagged :
      (∃ column ∈ snapshot.columns, column.name = name ∧ column.isPrimary = true) ↔
        (name, true) ∈
          (columns.map (columnOf primary)).map (fun column => (column.name, column.isPrimary)) := by
    rw [← map_foldl_attach (fun _ _ => rfl), ← shape]
    simp
  rw [flagged, mem_primaryColumns_of_load loaded primaryRead]
  constructor
  · intro member
    simp only [List.map_map, List.mem_map, Function.comp_apply, columnOf, Prod.mk.injEq,
      List.contains_iff_mem] at member
    obtain ⟨column, _, rfl, isPrimary⟩ := member
    exact isPrimary
  · intro isPrimary
    obtain ⟨column, live, rfl⟩ :=
      List.mem_map.mp (listed primary columns primaryRead columnsRead name isPrimary)
    rw [List.map_map, List.mem_map]
    exact ⟨column, live, by simp [columnOf, isPrimary]⟩

end Loaded

end SchemaMigration.Snapshot
