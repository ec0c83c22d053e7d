import SchemaMigration.Proofs.Resolution

namespace SchemaMigration

/-!
# What resolving makes of columns and keys

A blueprint that resolves keeps its columns in order, and one key of every
declared name.  A key stands where the first column that it covers is declared,
keys at one column stand in the order of declaration, and so do the keys that
cover no declared column, which come last.
-/

/-! ## First occurrences -/

/-- What comes first among some items of a list comes first in the list. -/
theorem idxOf_lt_of_filter
    [DecidableEq α]
    {keeps : α → Bool}
    {items : List α}
    {first second : α}
    (secondKept : keeps second = true)
    (before : (items.filter keeps).idxOf first < (items.filter keeps).idxOf second) :
    items.idxOf first < items.idxOf second := by
  induction items with
  | nil =>
      exact before
  | cons item rest inductionHypothesis =>
      by_cases isFirst : item = first
      · have notSecond : item ≠ second := by
          rintro rfl
          rw [isFirst] at before
          exact absurd before (Nat.lt_irrefl _)
        rw [List.idxOf_cons_eq rest isFirst, List.idxOf_cons_ne rest notSecond]
        exact Nat.succ_pos _
      · by_cases isSecond : item = second
        · subst isSecond
          rw [List.filter_cons_of_pos secondKept, List.idxOf_cons_self] at before
          exact absurd before (Nat.not_lt_zero _)
        · rw [List.idxOf_cons_ne rest isFirst, List.idxOf_cons_ne rest isSecond]
          refine Nat.succ_lt_succ (inductionHypothesis ?_)
          by_cases kept : keeps item = true
          · rw [List.filter_cons_of_pos kept, List.idxOf_cons_ne _ isFirst,
              List.idxOf_cons_ne _ isSecond] at before
            exact Nat.lt_of_succ_lt_succ before
          · rwa [List.filter_cons_of_neg kept] at before

namespace Key

/-- The first keys of all names stand in the order in which they first occur. -/
theorem pairwise_firstOfEachName (keys : List Key) :
    (firstOfEachName keys).Pairwise (fun earlier later =>
      earlier.name ≠ later.name ∧ keys.idxOf earlier < keys.idxOf later) := by
  induction keys with
  | nil =>
      exact .nil
  | cons key rest inductionHypothesis =>
      have others :
          ∀ later ∈ (firstOfEachName rest).filter (fun later => later.name != key.name),
            key.name ≠ later.name := by
        intro later member
        have different := (List.mem_filter.mp member).2
        exact (bne_iff_ne.mp different).symm
      have unequal {later : Key} (different : key.name ≠ later.name) : key ≠ later :=
        fun same => different (congrArg Key.name same)
      unfold firstOfEachName
      rw [List.pairwise_cons]
      constructor
      · intro later member
        refine ⟨others later member, ?_⟩
        rw [List.idxOf_cons_self, List.idxOf_cons_ne rest (unequal (others later member))]
        exact Nat.succ_pos _
      · refine (inductionHypothesis.filter _).imp_of_mem ?_
        intro earlier later earlierMember laterMember apart
        rw [List.idxOf_cons_ne rest (unequal (others earlier earlierMember)),
          List.idxOf_cons_ne rest (unequal (others later laterMember))]
        exact ⟨apart.1, Nat.succ_lt_succ apart.2⟩

/-- No name is lost. -/
theorem mem_names_firstOfEachName (keys : List Key) {name : String} :
    name ∈ (firstOfEachName keys).map Key.name ↔ name ∈ keys.map Key.name := by
  induction keys with
  | nil =>
      exact Iff.rfl
  | cons key rest inductionHypothesis =>
      unfold firstOfEachName
      rw [List.map_cons, List.map_cons, List.mem_cons, List.mem_cons,
        ← inductionHypothesis]
      by_cases isName : name = key.name
      · exact iff_of_true (.inl isName) (.inl isName)
      · have kept :
            name ∈ ((firstOfEachName rest).filter
                (fun later => later.name != key.name)).map Key.name ↔
              name ∈ (firstOfEachName rest).map Key.name := by
          simp only [List.mem_map, List.mem_filter, bne_iff_ne]
          constructor
          · rintro ⟨later, ⟨member, _⟩, named⟩
            exact ⟨later, member, named⟩
          · rintro ⟨later, member, named⟩
            exact ⟨later, ⟨member, named ▸ isName⟩, named⟩
        rw [kept]

end Key

namespace Blueprint

/-! ## The order of keys -/

/--
The position of the first declared column that a key covers; behind all columns
when the key covers none.
-/
def firstCovered (columns : List Column) (key : Key) : Nat :=
  columns.findIdx (fun column => key.covers column.name)

/-- The keys of each column in turn, and then all keys. -/
def keysInTurn (keys : List Key) (columns : List Column) : List Key :=
  columns.flatMap (fun column => keys.filter (fun key => key.covers column.name)) ++ keys

/-- What comes first in turn is at an earlier column, or at the same one and declared earlier. -/
theorem precedes_of_idxOf_lt
    {keys : List Key}
    {columns : List Column}
    {first second : Key}
    (firstDeclared : first ∈ keys)
    (secondDeclared : second ∈ keys)
    (before :
      (keysInTurn keys columns).idxOf first < (keysInTurn keys columns).idxOf second) :
    firstCovered columns first < firstCovered columns second ∨
      firstCovered columns first = firstCovered columns second ∧
        keys.idxOf first < keys.idxOf second := by
  induction columns with
  | nil =>
      exact .inr ⟨rfl, before⟩
  | cons column rest inductionHypothesis =>
      let here := keys.filter (fun key => key.covers column.name)
      have inTurn : keysInTurn keys (column :: rest) = here ++ keysInTurn keys rest := by
        simp [keysInTurn, here]
      have covered (key : Key) (isHere : key.covers column.name = true) :
          firstCovered (column :: rest) key = 0 := by
        simp [firstCovered, List.findIdx_cons, isHere]
      have uncovered (key : Key) (notHere : ¬ key.covers column.name = true) :
          firstCovered (column :: rest) key = firstCovered rest key + 1 := by
        simp [firstCovered, List.findIdx_cons, notHere]
      have stands (key : Key) (declared : key ∈ keys) (isHere : key.covers column.name = true) :
          key ∈ here :=
        List.mem_filter.mpr ⟨declared, isHere⟩
      have absent (key : Key) (notHere : ¬ key.covers column.name = true) : key ∉ here :=
        fun member => notHere (List.mem_filter.mp member).2
      rw [inTurn] at before
      by_cases firstHere : first.covers column.name = true
      · by_cases secondHere : second.covers column.name = true
        · right
          rw [List.idxOf_append_of_mem (stands first firstDeclared firstHere),
            List.idxOf_append_of_mem (stands second secondDeclared secondHere)] at before
          rw [covered first firstHere, covered second secondHere]
          exact ⟨rfl, idxOf_lt_of_filter secondHere before⟩
        · left
          rw [covered first firstHere, uncovered second secondHere]
          exact Nat.succ_pos _
      · rw [List.idxOf_append_of_notMem (absent first firstHere)] at before
        by_cases secondHere : second.covers column.name = true
        · have isHere := stands second secondDeclared secondHere
          rw [List.idxOf_append_of_mem isHere] at before
          have within := List.idxOf_lt_length_of_mem isHere
          omega
        · rw [List.idxOf_append_of_notMem (absent second secondHere)] at before
          rw [uncovered first firstHere, uncovered second secondHere]
          have later := inductionHypothesis (Nat.lt_of_add_lt_add_left before)
          omega

section Resolved

variable
  {blueprint : Blueprint}
  {dialect : Dialect}
  {resolved : Resolved}
  (isResolved : (blueprint.resolve dialect).outcome = .ok resolved)

include isResolved

theorem isPrimary_iff_of_resolve
    {column : ColumnDefinition}
    (member : column ∈ resolved.columns) :
    column.isPrimary = true ↔
      ∃ key ∈ blueprint.keys, key.isPrimary = true ∧ column.name ∈ key.columns := by
  obtain ⟨declared, _, columnResolved⟩ :=
    Traced.item_of_mem_each (resolve_ok isResolved).1 member
  obtain ⟨named, primary, _⟩ := resolveColumn_ok columnResolved
  rw [primary, named, List.any_eq_true]
  constructor
  · rintro ⟨key, onColumn, isPrimary⟩
    obtain ⟨isDeclared, covers⟩ := List.mem_filter.mp onColumn
    exact ⟨key, isDeclared, isPrimary, List.contains_iff_mem.mp covers⟩
  · rintro ⟨key, isDeclared, isPrimary, covers⟩
    exact ⟨key, List.mem_filter.mpr ⟨isDeclared, List.contains_iff_mem.mpr covers⟩, isPrimary⟩

theorem keys_of_resolve :
    resolved.keys = Key.firstOfEachName (keysInTurn blueprint.keys blueprint.columns) :=
  (resolve_ok isResolved).2.1

theorem mem_keys_of_resolve
    {key : Key}
    (member : key ∈ resolved.keys) :
    key ∈ blueprint.keys := by
  rw [(resolve_ok isResolved).2.1] at member
  exact mem_keys_of_mem_orderedKeys member

theorem mem_keyNames_of_resolve {name : String} :
    name ∈ resolved.keys.map Key.name ↔ name ∈ blueprint.keys.map Key.name := by
  rw [keys_of_resolve isResolved, Key.mem_names_firstOfEachName, keysInTurn, List.map_append,
    List.mem_append]
  refine ⟨?_, .inr⟩
  rintro (onColumn | declared)
  · obtain ⟨key, member, rfl⟩ := List.mem_map.mp onColumn
    obtain ⟨_, _, kept⟩ := List.mem_flatMap.mp member
    exact List.mem_map_of_mem (List.mem_of_mem_filter kept)
  · exact declared

theorem nodup_keyNames_of_resolve :
    (resolved.keys.map Key.name).Nodup := by
  rw [keys_of_resolve isResolved]
  exact List.pairwise_map.mpr ((Key.pairwise_firstOfEachName _).imp And.left)

end Resolved

/--
A blueprint that resolves keeps its columns in the order of declaration, each
in the primary key exactly when a declared primary key covers it, and one of
the declared keys of every name.

Keys stand in the order of the first columns that they cover, those without a
declared column last, and otherwise in the order of declaration.
-/
theorem resolve_keeps_columns_and_keys
    {blueprint : Blueprint}
    {dialect : Dialect}
    {resolved : Resolved}
    (isResolved : (blueprint.resolve dialect).outcome = .ok resolved) :
    resolved.columns.map ColumnDefinition.name = blueprint.columns.map Column.name ∧
      (∀ column ∈ resolved.columns,
        column.isPrimary = true ↔
          ∃ key ∈ blueprint.keys, key.isPrimary = true ∧ column.name ∈ key.columns) ∧
      (resolved.keys.map Key.name).Nodup ∧
      (∀ name, name ∈ resolved.keys.map Key.name ↔ name ∈ blueprint.keys.map Key.name) ∧
      (∀ key ∈ resolved.keys, key ∈ blueprint.keys) ∧
      resolved.keys.Pairwise (fun earlier later =>
        firstCovered blueprint.columns earlier < firstCovered blueprint.columns later ∨
          firstCovered blueprint.columns earlier = firstCovered blueprint.columns later ∧
            blueprint.keys.idxOf earlier < blueprint.keys.idxOf later) := by
  have inTurn :=
    Key.pairwise_firstOfEachName (keysInTurn blueprint.keys blueprint.columns)
  rw [← keys_of_resolve isResolved] at inTurn
  refine ⟨names_of_resolve isResolved, fun _ => isPrimary_iff_of_resolve isResolved, ?_,
    fun _ => mem_keyNames_of_resolve isResolved, fun _ => mem_keys_of_resolve isResolved, ?_⟩
  · exact List.pairwise_map.mpr (inTurn.imp And.left)
  · refine inTurn.imp_of_mem ?_
    intro earlier later earlierMember laterMember apart
    exact precedes_of_idxOf_lt (mem_keys_of_resolve isResolved earlierMember)
      (mem_keys_of_resolve isResolved laterMember) apart.2

/--
A table whose keys overlap: one is declared first but covers no declared column,
and two of different columns share a name.
-/
def overlappingKeys : Blueprint where
  table := "runs"
  purpose := .create
  columns := [
    .ofType "host" .string .none,
    .ofType "seed" .integer .none,
    .ofType "started" .timestamp .none]
  keys := [
    ⟨"by_note", ["note"], .index⟩,
    ⟨"by_time", ["started"], .index⟩,
    ⟨"by_time", ["seed", "started"], .index⟩,
    ⟨"seeds", ["seed"], .unique⟩,
    ⟨"runs_primary", ["host", "seed"], .primary⟩]
  foreignKeys := []
  dropped := .none

/-- The primary key comes first, and of the keys that share a name the one at the earlier column. -/
theorem resolve_keeps_overlapping_keys :
    ∃ resolved,
      (overlappingKeys.resolve .duckdb).outcome = .ok resolved ∧
        resolved.columns.map ColumnDefinition.name = ["host", "seed", "started"] ∧
          resolved.keys =
            [⟨"runs_primary", ["host", "seed"], .primary⟩,
              ⟨"by_time", ["seed", "started"], .index⟩,
              ⟨"seeds", ["seed"], .unique⟩,
              ⟨"by_note", ["note"], .index⟩] ∧
            (resolved.keys.map Key.name).Nodup := by
  cases isResolved : (overlappingKeys.resolve .duckdb).outcome with
  | error problem =>
      have succeeds : (overlappingKeys.resolve .duckdb).outcome.isOk = true := by
        rfl
      rw [isResolved] at succeeds
      cases succeeds
  | ok resolved =>
      obtain ⟨columns, _, distinct, _⟩ := resolve_keeps_columns_and_keys isResolved
      refine ⟨resolved, rfl, columns, ?_, distinct⟩
      rw [keys_of_resolve isResolved]
      decide

end Blueprint

end SchemaMigration
