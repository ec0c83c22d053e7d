import Mathlib.Data.List.Nodup
import Mathlib.Data.List.Perm.Basic
import SchemaMigration.Proofs.Alteration.InPlace
import SchemaMigration.Proofs.Rebuild.Draft
import SchemaMigration.Proofs.Resolution

namespace SchemaMigration

/-!
# Names of foreign keys

Keys are resolved once for every name, and foreign keys are not: one is made
for every declaration on every declared column of its name, and one where no
such column is declared.  In place each of them has a statement of its own, so a
name comes as often as it is made.
-/

namespace Resolved

/-- The names of all foreign keys, those on columns first. -/
def foreignKeyNames (resolved : Resolved) : List String :=
  (Rebuild.heldForeignKeys resolved.columns ++ resolved.foreignKeys).map ForeignKey.name

end Resolved

namespace Blueprint

/-! ## How often a name is made -/

/-- How often a foreign key is made: once on each column of its name, or once without one. -/
def copies (blueprint : Blueprint) (draft : ForeignKeyDraft) : Nat :=
  max 1 ((blueprint.columns.map Column.name).count draft.column)

/--
Whether a blueprint declares foreign keys of different names, none on a column
that it declares more than once.
-/
structure NamesForeignKeysOnce (blueprint : Blueprint) : Prop where
  names : (blueprint.foreignKeys.map ForeignKeyDraft.name).Nodup
  columns :
    ∀ draft ∈ blueprint.foreignKeys,
      (blueprint.columns.map Column.name).count draft.column ≤ 1

/-- What is kept of a list comes from its items one by one. -/
theorem map_filter_eq_flatMap
    (keeps : α → Bool)
    (value : α → β)
    (items : List α) :
    (items.filter keeps).map value =
      items.flatMap (fun item => if keeps item then [value item] else []) := by
  induction items with
  | nil =>
      rfl
  | cons item rest inductionHypothesis =>
      cases kept : keeps item <;> simp [kept, inductionHypothesis]

/-- A declaration is met once in every column of its name. -/
theorem perm_names_onColumns
    (columns : List String)
    (drafts : List ForeignKeyDraft) :
    (columns.flatMap (fun column =>
        (drafts.filter (fun draft => draft.column = column)).map ForeignKeyDraft.name)).Perm
      (drafts.flatMap (fun draft =>
        List.replicate (columns.count draft.column) draft.name)) := by
  induction columns with
  | nil =>
      simp
  | cons column rest inductionHypothesis =>
      have counted
          (draft : ForeignKeyDraft) :
          List.replicate ((column :: rest).count draft.column) draft.name =
            (if decide (draft.column = column) then [draft.name] else []) ++
              List.replicate (rest.count draft.column) draft.name := by
        by_cases same : draft.column = column
        · rw [same, List.count_cons_self, List.replicate_succ]
          simp
        · rw [List.count_cons_of_ne (Ne.symm same)]
          simp [same]
      rw [List.flatMap_cons, map_filter_eq_flatMap]
      simp only [counted]
      exact (inductionHypothesis.append_left _).trans (List.flatMap_append_perm ..)

/-- A declaration is made as often as columns of its name are declared, or once where none is. -/
theorem replicate_copies
    (blueprint : Blueprint)
    (draft : ForeignKeyDraft) :
    List.replicate (blueprint.copies draft) draft.name =
      List.replicate ((blueprint.columns.map Column.name).count draft.column) draft.name ++
        if !blueprint.declares draft.column then [draft.name] else [] := by
  have declared :
      blueprint.declares draft.column = true ↔
        0 < (blueprint.columns.map Column.name).count draft.column := by
    simp [declares, List.count_pos_iff]
  cases isDeclared : blueprint.declares draft.column with
  | true =>
      have atLeastOnce := declared.mp isDeclared
      simp [copies, Nat.max_eq_right atLeastOnce]
  | false =>
      have never : (blueprint.columns.map Column.name).count draft.column = 0 := by
        rw [isDeclared, Nat.pos_iff_ne_zero] at declared
        exact Decidable.of_not_not (fun declaredThere =>
          Bool.false_ne_true (declared.mpr declaredThere))
      simp [copies, never]

theorem name_of_completing
    {blueprint : Blueprint}
    {draft : ForeignKeyDraft}
    {key : ForeignKey}
    (completed : (blueprint.completing draft).outcome = .ok key) :
    draft.name = key.name :=
  (ForeignKeyDraft.complete_ok (complete_of_completeForeignKey completed)).1.symm

section Resolved

variable
  {blueprint : Blueprint}
  {dialect : Dialect}
  {resolved : Resolved}
  (isResolved : (blueprint.resolve dialect).outcome = .ok resolved)

include isResolved

/-- The foreign keys on columns have the names that are declared for each column in turn. -/
theorem names_held_of_resolve :
    (Rebuild.heldForeignKeys resolved.columns).map ForeignKey.name =
      (blueprint.columns.map Column.name).flatMap (fun column =>
        (blueprint.foreignKeys.filter (fun draft => draft.column = column)).map
          ForeignKeyDraft.name) := by
  have perColumn :
      resolved.columns.map (fun column => column.foreignKeys.map ForeignKey.name) =
        blueprint.columns.map (fun column =>
          (blueprint.foreignKeysOn column.name).map ForeignKeyDraft.name) := by
    refine Traced.map_each (resolve_ok isResolved).1 ?_
    intro column definition columnResolved
    obtain ⟨_, _, completed⟩ := resolveColumn_ok columnResolved
    symm
    exact Traced.map_each completed (fun _ _ => name_of_completing)
  rw [Rebuild.heldForeignKeys, List.map_flatMap, List.flatMap_def, perColumn, List.flatMap_map,
    List.flatMap_def]
  rfl

theorem names_loose_of_resolve :
    resolved.foreignKeys.map ForeignKey.name =
      (blueprint.foreignKeys.filter (fun draft => !blueprint.declares draft.column)).map
        ForeignKeyDraft.name :=
  Traced.map_each (resolve_ok isResolved).2.2 (fun _ _ => name_of_completing)

/-- Every declaration gives its name as often as it is made. -/
theorem perm_foreignKeyNames :
    resolved.foreignKeyNames.Perm
      (blueprint.foreignKeys.flatMap (fun draft =>
        List.replicate (blueprint.copies draft) draft.name)) := by
  rw [Resolved.foreignKeyNames, List.map_append, names_held_of_resolve isResolved,
    names_loose_of_resolve isResolved, map_filter_eq_flatMap]
  simp only [replicate_copies]
  exact ((perm_names_onColumns _ _).append_right _).trans (List.flatMap_append_perm ..)

end Resolved

/-- A declaration is made once at least. -/
theorem mem_replicate_copies
    {blueprint : Blueprint}
    {draft : ForeignKeyDraft}
    {name : String} :
    name ∈ List.replicate (blueprint.copies draft) draft.name ↔ name = draft.name := by
  have atLeastOnce : blueprint.copies draft ≠ 0 := by
    rw [copies]
    omega
  rw [List.mem_replicate, and_iff_right atLeastOnce]

/-- Names that are made as often as declared come once where each declaration is made once. -/
theorem nodup_copies_iff
    (blueprint : Blueprint) :
    (blueprint.foreignKeys.flatMap (fun draft =>
        List.replicate (blueprint.copies draft) draft.name)).Nodup ↔
      blueprint.NamesForeignKeysOnce := by
  have once
      (draft : ForeignKeyDraft) :
      (List.replicate (blueprint.copies draft) draft.name).Nodup ↔
        (blueprint.columns.map Column.name).count draft.column ≤ 1 := by
    rw [List.nodup_replicate, copies]
    omega
  have apart
      (first second : ForeignKeyDraft) :
      (List.replicate (blueprint.copies first) first.name).Disjoint
          (List.replicate (blueprint.copies second) second.name) ↔
        first.name ≠ second.name := by
    simp only [List.Disjoint, mem_replicate_copies]
    grind
  rw [List.nodup_flatMap]
  constructor
  · rintro ⟨each, disjoint⟩
    exact ⟨List.pairwise_map.mpr (disjoint.imp (apart _ _).mp),
      fun draft member => (once draft).mp (each draft member)⟩
  · rintro ⟨names, columns⟩
    exact ⟨fun draft member => (once draft).mpr (columns draft member),
      (List.pairwise_map.mp names).imp (apart _ _).mpr⟩

end Blueprint

namespace Statement

/-- The name of the foreign key that a statement adds. -/
def addedForeignKey? : Statement → Option String
  | .addForeignKey _ key => some key.name
  | _ => none

theorem addedForeignKey?_of_dropKeyAll
    {dialect : Dialect}
    {table : String}
    {column? : Option LiveColumn}
    {key : Key}
    {statements : List Statement}
    (dropped : dropKeyAll dialect table column? key = .ok statements) :
    ∀ statement ∈ statements, statement.addedForeignKey? = none := by
  unfold dropKeyAll at dropped
  split at dropped <;> cases dropped <;> simp [addedForeignKey?]

end Statement

namespace Alteration

open Statement

/-! ## Statements in place -/

/-- The names of the foreign keys that statements add, in order. -/
def addedForeignKeys (planned : List Statement) : List String :=
  planned.filterMap addedForeignKey?

theorem addedForeignKeys_append (first second : List Statement) :
    addedForeignKeys (first ++ second) = addedForeignKeys first ++ addedForeignKeys second :=
  List.filterMap_append

theorem addedForeignKeys_of_none
    {planned : List Statement}
    (adding : ∀ statement ∈ planned, statement.addedForeignKey? = none) :
    addedForeignKeys planned = [] :=
  List.filterMap_eq_nil_iff.mpr adding

theorem addedForeignKeys_map
    (table : String)
    (keys : List ForeignKey) :
    addedForeignKeys (keys.map (.addForeignKey table)) = keys.map ForeignKey.name := by
  rw [addedForeignKeys, List.filterMap_map, ← List.filterMap_eq_map]
  rfl

theorem addedForeignKeys_columnChanges
    (dialect : Dialect)
    (table : String)
    (live : List LiveColumn)
    (column : ColumnDefinition) :
    addedForeignKeys (columnChanges dialect table live column) =
      column.foreignKeys.map ForeignKey.name := by
  have fromAdding : addedForeignKeys (addColumnAll dialect table column) = [] := by
    apply addedForeignKeys_of_none
    intro statement member
    rcases List.mem_append.mp member with isPrelude | isAdding
    · obtain ⟨_, rfl⟩ := eq_createSequence_of_mem_preludeOf isPrelude
      rfl
    · rw [List.mem_singleton.mp isAdding]
      rfl
  rw [columnChanges, addedForeignKeys_append, addedForeignKeys_map]
  split
  · rfl
  · rw [fromAdding, List.nil_append]

/-- A plan adds the foreign keys that are resolved and no others, in order. -/
theorem addedForeignKeys_plan
    {dialect : Dialect}
    {table : String}
    {live : List LiveColumn}
    {resolved : Resolved}
    {dropped : Dropped}
    {planned : List Statement}
    (succeeded : (plan dialect table live resolved dropped).outcome = .ok planned) :
    addedForeignKeys planned = resolved.foreignKeyNames := by
  obtain ⟨keyDrops, keysDropped, rfl⟩ := plan_ok succeeded
  have fromKeys : addedForeignKeys (resolved.keys.flatMap (keyStatements table)) = [] := by
    apply addedForeignKeys_of_none
    intro statement member
    obtain ⟨key, _, made⟩ := List.mem_flatMap.mp member
    cases kind : key.kind <;>
      simp_all [keyStatements, createIndex?, addPrimary, addedForeignKey?]
  have fromKeyDrops : addedForeignKeys keyDrops.flatten = [] := by
    apply addedForeignKeys_of_none
    intro statement member
    obtain ⟨statements, isDrop, within⟩ := List.mem_flatten.mp member
    obtain ⟨key, _, made⟩ := Traced.item_of_mem_each keysDropped isDrop
    exact addedForeignKey?_of_dropKeyAll made statement within
  have fromColumnDrops :
      addedForeignKeys ((liveDrops live dropped).map (.dropColumn table)) = [] := by
    apply addedForeignKeys_of_none
    simp [addedForeignKey?]
  have fromColumns :
      addedForeignKeys (resolved.columns.flatMap (columnChanges dialect table live)) =
        (Rebuild.heldForeignKeys resolved.columns).map ForeignKey.name := by
    rw [addedForeignKeys, List.filterMap_flatMap, Rebuild.heldForeignKeys, List.map_flatMap]
    congr 1
    funext column
    exact addedForeignKeys_columnChanges dialect table live column
  rw [additions]
  simp only [addedForeignKeys_append, fromColumns, fromKeys, fromKeyDrops, fromColumnDrops,
    addedForeignKeys_map, List.append_nil, Resolved.foreignKeyNames, List.map_append]

end Alteration

namespace Blueprint

open Alteration

/--
Where the names of foreign keys come once.

Among the foreign keys that a blueprint resolves to, and among those that a plan
in place adds, each name comes once exactly when all declared ones have
different names and none is on a column that is declared more than once.  Every
declared name comes, and no other.
-/
theorem foreign_key_names_once_iff
    {dialect : Dialect}
    {blueprint : Blueprint}
    {resolved : Resolved}
    (isResolved : (blueprint.resolve dialect).outcome = .ok resolved) :
    (resolved.foreignKeyNames.Nodup ↔ blueprint.NamesForeignKeysOnce) ∧
      (∀ name,
        name ∈ resolved.foreignKeyNames ↔
          name ∈ blueprint.foreignKeys.map ForeignKeyDraft.name) ∧
        ∀ live dropped planned,
          (plan dialect blueprint.table live resolved dropped).outcome = .ok planned →
            ((addedForeignKeys planned).Nodup ↔ blueprint.NamesForeignKeysOnce) := by
  have made := perm_foreignKeyNames isResolved
  have once : resolved.foreignKeyNames.Nodup ↔ blueprint.NamesForeignKeysOnce :=
    made.nodup_iff.trans (nodup_copies_iff blueprint)
  refine ⟨once, ?_, ?_⟩
  · intro name
    rw [made.mem_iff, List.mem_flatMap, List.mem_map]
    simp only [mem_replicate_copies, eq_comm]
  · intro live dropped planned succeeded
    rwa [addedForeignKeys_plan succeeded]

/-- A foreign key to another table. -/
def toPeople : ForeignKeyDraft :=
  { ForeignKeyDraft.onColumn "runs" "owner" with refTable := "people", refColumn := "id" }

/-- A foreign key of the table to itself, with a name of its own. -/
def toParent : ForeignKeyDraft :=
  ⟨"by_parent", "parent", "runs", "id", none, none⟩

/-- An alter that declares one column and foreign keys. -/
def referringBlueprint (foreignKeys : List ForeignKeyDraft) : Blueprint where
  table := "runs"
  purpose := .alter
  columns := [.ofType "owner" .integer .none]
  keys := []
  foreignKeys := foreignKeys
  dropped := .none

/-- Of two foreign keys one is on the declared column and one is not, and each is added once. -/
theorem different_foreign_keys_added_once :
    ∃ resolved planned,
      ((referringBlueprint [toPeople, toParent]).resolve .postgres).outcome = .ok resolved ∧
        (plan .postgres "runs" [] resolved .none).outcome = .ok planned ∧
          resolved.foreignKeyNames.Nodup ∧
            (addedForeignKeys planned).Nodup ∧
              "by_parent" ∈ resolved.foreignKeyNames := by
  have declaredOnce : (referringBlueprint [toPeople, toParent]).NamesForeignKeysOnce :=
    ⟨by decide, by decide⟩
  have outcome
      {resolved : Resolved}
      (isResolved :
        ((referringBlueprint [toPeople, toParent]).resolve .postgres).outcome = .ok resolved) :=
    foreign_key_names_once_iff isResolved
  refine ⟨_, _, rfl, rfl, (outcome rfl).1.mpr declaredOnce, ?_, ?_⟩
  · exact ((outcome rfl).2.2 [] .none _ rfl).mpr declaredOnce
  · exact ((outcome rfl).2.1 "by_parent").mpr (by decide)

/-- A foreign key that is declared twice is added twice under one name. -/
theorem repeated_foreign_key_added_twice :
    ∃ resolved planned,
      ((referringBlueprint [toPeople, toPeople]).resolve .postgres).outcome = .ok resolved ∧
        (plan .postgres "runs" [⟨"owner", "INTEGER", true, none⟩] resolved .none).outcome =
            .ok planned ∧
          ¬ resolved.foreignKeyNames.Nodup ∧
            addedForeignKeys planned = ["runs_owner_foreign", "runs_owner_foreign"] :=
  ⟨_, _, rfl, rfl, by decide, rfl⟩

end Blueprint

end SchemaMigration
