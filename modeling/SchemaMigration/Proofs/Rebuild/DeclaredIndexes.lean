import Mathlib.Data.List.Nodup
import SchemaMigration.Proofs.Rebuild.DroppedKeys
import SchemaMigration.Proofs.Resolution.KeyOrder

namespace SchemaMigration

/-!
# Indexes that a rebuild makes

A rebuild merges the declared keys into those that stay, and looks at nothing
but names when it does.  A declared index whose name is free is made.  Where a
key that stays has the name, that key is kept in its place, whatever it is over
and of whichever kind it is; only a primary key gives its name up again, to an
index that comes after the declared primary key.
-/

namespace Rebuild

open Statement

/-! ## Merging keys -/

/-- A key of another name takes a key away exactly when both are primary keys. -/
theorem mem_keys_withKey_iff
    {draft : Draft}
    {declared known : Key}
    (otherName : declared.name ≠ known.name) :
    known ∈ (withKey draft declared).keys ↔
      known ∈ draft.keys ∧ ¬ (declared.isPrimary = true ∧ known.isPrimary = true) := by
  have added (start : Draft) :
      known ∈ (addKey start declared).keys ↔ known ∈ start.keys := by
    refine ⟨fun member => ?_, mem_addKey_of_mem⟩
    refine (mem_keys_addKey member).resolve_right ?_
    intro isDeclared
    exact otherName (congrArg Key.name (List.mem_singleton.mp isDeclared)).symm
  rw [withKey, added]
  by_cases isPrimary : declared.isPrimary = true
  · simp [isPrimary, setPrimary]
  · simp [isPrimary]

/-- Keys of other names take a key away exactly when it and one of them are primary keys. -/
theorem mem_keys_foldl_withKey_iff
    {declared : List Key}
    {draft : Draft}
    {known : Key}
    (otherNames : ∀ other ∈ declared, other.name ≠ known.name) :
    known ∈ (declared.foldl withKey draft).keys ↔
      known ∈ draft.keys ∧
        ¬ (known.isPrimary = true ∧ ∃ other ∈ declared, other.isPrimary = true) := by
  induction declared generalizing draft with
  | nil =>
      simp
  | cons first rest inductionHypothesis =>
      obtain ⟨firstOther, restOther⟩ := List.forall_mem_cons.mp otherNames
      rw [List.foldl_cons, inductionHypothesis restOther, mem_keys_withKey_iff firstOther,
        List.exists_mem_cons_iff, and_assoc, ← not_or, and_comm (a := first.isPrimary = true),
        ← and_or_left]

/-- Keys of other names leave a name free where each key of that name is taken away. -/
theorem name_free_foldl_withKey_iff
    {declared : List Key}
    {draft : Draft}
    {name : String}
    (otherNames : ∀ other ∈ declared, other.name ≠ name) :
    (∀ known ∈ (declared.foldl withKey draft).keys, known.name ≠ name) ↔
      ∀ known ∈ draft.keys,
        known.name = name →
          known.isPrimary = true ∧ ∃ other ∈ declared, other.isPrimary = true := by
  constructor
  · intro free known member named
    by_contra stays
    refine free known ((mem_keys_foldl_withKey_iff ?_).mpr ⟨member, stays⟩) named
    exact fun other isDeclared => named ▸ otherNames other isDeclared
  · intro taken known there named
    have otherThanKnown : ∀ other ∈ declared, other.name ≠ known.name :=
      fun other isDeclared => named ▸ otherNames other isDeclared
    obtain ⟨member, stays⟩ := (mem_keys_foldl_withKey_iff otherThanKnown).mp there
    exact stays (taken known member named)

/-- A declared index is there once it is merged, unless another key has its name. -/
theorem mem_keys_withKey_self_iff
    {draft : Draft}
    {key : Key}
    (isIndex : IsIndex key) :
    key ∈ (withKey draft key).keys ↔
      key ∈ draft.keys ∨ ∀ known ∈ draft.keys, known.name ≠ key.name := by
  rw [withKey, if_neg (by simp [isIndex.isPrimary_eq_false]), addKey]
  split
  · rename_i taken
    obtain ⟨known, member, sameName⟩ := List.any_eq_true.mp taken
    refine ⟨.inl, fun there => there.resolve_right ?_⟩
    intro free
    exact free known member (of_decide_eq_true sameName)
  · rename_i free
    refine iff_of_true (List.mem_append_right _ List.mem_cons_self) (.inr ?_)
    intro known member sameName
    exact free (List.any_eq_true.mpr ⟨known, member, decide_eq_true sameName⟩)

/--
A declared index is there after all keys are merged when it was there before, or
when its name is free by the time that it is merged.
-/
theorem mem_keys_foldl_withKey_self_iff
    {before after : List Key}
    {draft : Draft}
    {key : Key}
    (distinct : ((before ++ key :: after).map Key.name).Nodup)
    (isIndex : IsIndex key) :
    key ∈ ((before ++ key :: after).foldl withKey draft).keys ↔
      key ∈ draft.keys ∨
        ∀ known ∈ draft.keys,
          known.name = key.name →
            known.isPrimary = true ∧ ∃ other ∈ before, other.isPrimary = true := by
  rw [List.map_append, List.map_cons] at distinct
  obtain ⟨_, fromKey, apart⟩ := List.nodup_append.mp distinct
  have otherBefore : ∀ other ∈ before, other.name ≠ key.name := fun other member =>
    apart _ (List.mem_map_of_mem member) _ List.mem_cons_self
  have otherAfter : ∀ other ∈ after, other.name ≠ key.name := by
    intro other member sameName
    exact (List.nodup_cons.mp fromKey).1 (sameName ▸ List.mem_map_of_mem member)
  have notPrimary : ¬ key.isPrimary = true := by
    simp [isIndex.isPrimary_eq_false]
  rw [List.foldl_append, List.foldl_cons, mem_keys_foldl_withKey_iff otherAfter,
    mem_keys_withKey_self_iff isIndex, name_free_foldl_withKey_iff otherBefore,
    mem_keys_foldl_withKey_iff otherBefore]
  simp [notPrimary]

/-- In a list of different items, those before an item are those that come first. -/
theorem pair_sublist_iff
    {before after : List α}
    {first item : α}
    (distinct : (before ++ item :: after).Nodup) :
    [first, item].Sublist (before ++ item :: after) ↔ first ∈ before := by
  constructor
  · intro ordered
    obtain ⟨earlier, later, parts, inBefore, inAfter⟩ := List.sublist_append_iff.mp ordered
    cases earlier with
    | nil =>
        -- The item would stand behind itself.
        cases parts
        have again : item ∈ after := List.singleton_sublist.mp inAfter.tail
        exact absurd again (List.nodup_cons.mp (List.nodup_append.mp distinct).2.1).1
    | cons head rest =>
        rw [(List.cons.inj parts).1]
        exact inBefore.subset List.mem_cons_self
  · intro comesFirst
    exact (List.singleton_sublist.mpr comesFirst).append
      (List.singleton_sublist.mpr List.mem_cons_self)

/-! ## Declared indexes -/

/--
Whether a live key gives its name up to a declared one: it is a primary key, and
another one is declared that comes first.
-/
def GivesUpName (resolved : Resolved) (known key : Key) : Prop :=
  known.isPrimary = true ∧
    ∃ primary, [primary, key].Sublist resolved.keys ∧ primary.isPrimary = true

/-- Whether the name of a declared key is free when the key is merged. -/
def NameIsFree
    (snapshot : Snapshot)
    (resolved : Resolved)
    (dropped : Dropped)
    (key : Key) :
    Prop :=
  ∀ known ∈ keptKeys snapshot dropped,
    known.name = key.name → GivesUpName resolved known key

/-- A declared index is among the keys of the new table when it stays or its name is free. -/
theorem mem_keys_finalDraft_iff
    {snapshot : Snapshot}
    {resolved : Resolved}
    {dropped : Dropped}
    {key : Key}
    (distinct : (resolved.keys.map Key.name).Nodup)
    (declared : key ∈ resolved.keys)
    (isIndex : IsIndex key) :
    key ∈ (finalDraft snapshot resolved dropped).keys ↔
      key ∈ keptKeys snapshot dropped ∨ NameIsFree snapshot resolved dropped key := by
  obtain ⟨before, after, split⟩ := List.mem_iff_append.mp declared
  rw [split] at distinct
  have comesFirst (primary : Key) :
      [primary, key].Sublist resolved.keys ↔ primary ∈ before := by
    rw [split]
    exact pair_sublist_iff (List.Nodup.of_map Key.name distinct)
  have free :
      NameIsFree snapshot resolved dropped key ↔
        ∀ known ∈ keptKeys snapshot dropped,
          known.name = key.name →
            known.isPrimary = true ∧ ∃ other ∈ before, other.isPrimary = true := by
    simp only [NameIsFree, GivesUpName, comesFirst]
  rw [free, finalDraft, keyedDraft, split]
  exact mem_keys_foldl_withKey_self_iff distinct isIndex

/--
A rebuild makes a declared index exactly when the index stays as it is or its
name is free; otherwise a live key stays under the name, and is made in its
place when it is an index.
-/
theorem declared_index_made_iff
    {blueprint : Blueprint}
    {dialect : Dialect}
    {resolved : Resolved}
    (isResolved : (blueprint.resolve dialect).outcome = .ok resolved)
    {table : String}
    {snapshot : Snapshot}
    {dropped : Dropped}
    {planned : List Statement}
    (succeeded : (plan dialect table snapshot resolved dropped).outcome = .ok planned)
    {key : Key}
    (declared : key ∈ resolved.keys)
    (isIndex : IsIndex key) :
    (indexOf table key ∈ planned ↔
        key ∈ keptKeys snapshot dropped ∨ NameIsFree snapshot resolved dropped key) ∧
      (indexOf table key ∉ planned →
        ∃ known ∈ keptKeys snapshot dropped,
          known ≠ key ∧
            known.name = key.name ∧
              (IsIndex known → indexOf table known ∈ planned)) := by
  obtain ⟨_, rfl⟩ := plan_ok succeeded
  have distinct := Blueprint.nodup_keyNames_of_resolve isResolved
  have made :
      indexOf table key ∈
          statements dialect table snapshot
            ((keptColumns snapshot dropped).map ColumnDefinition.name)
            (finalDraft snapshot resolved dropped) ↔
        key ∈ keptKeys snapshot dropped ∨ NameIsFree snapshot resolved dropped key := by
    rw [indexOf_mem_statements_iff isIndex]
    exact mem_keys_finalDraft_iff distinct declared isIndex
  refine ⟨made, ?_⟩
  intro notMade
  obtain ⟨gone, taken⟩ := not_or.mp (fun either => notMade (made.mpr either))
  simp only [NameIsFree, not_forall] at taken
  obtain ⟨known, stays, sameName, _⟩ := taken
  refine ⟨known, stays, fun same => gone (same ▸ stays), sameName, ?_⟩
  intro alsoIndex
  rw [indexOf_mem_statements_iff alsoIndex]
  exact mem_finalDraft_of_keptKeys stays alsoIndex.isPrimary_eq_false resolved

/-- A live table with a primary key and an index. -/
def numberedSnapshot : Snapshot where
  columns :=
    [{ ColumnDefinition.plain "id" "INTEGER" with isPrimary := true },
      .plain "status" "VARCHAR"]
  keys := [⟨"numbers", ["id"], .primary⟩, ⟨"by_status", ["status"], .index⟩]

/-- An alter that declares another primary key, and an index by the name of the live one. -/
def renumberingBlueprint : Blueprint where
  table := "runs"
  purpose := .alter
  columns := []
  keys := [⟨"states", ["status"], .primary⟩, ⟨"numbers", ["id"], .unique⟩]
  foreignKeys := []
  dropped := Dropped.none

/-- The live primary key gives its name up, since another one is declared first. -/
theorem index_made_by_given_up_name :
    ∃ planned,
      (renumberingBlueprint.resolve .duckdb).outcome =
          .ok ⟨[], renumberingBlueprint.keys, []⟩ ∧
        (plan .duckdb "runs" numberedSnapshot ⟨[], renumberingBlueprint.keys, []⟩
            Dropped.none).outcome = .ok planned ∧
          indexOf "runs" ⟨"numbers", ["id"], .unique⟩ ∈ planned := by
  have isResolved :
      (renumberingBlueprint.resolve .duckdb).outcome =
        .ok ⟨[], renumberingBlueprint.keys, []⟩ :=
    rfl
  have succeeded :
      (plan .duckdb "runs" numberedSnapshot ⟨[], renumberingBlueprint.keys, []⟩
        Dropped.none).outcome = .ok _ :=
    rfl
  have declared : (⟨"numbers", ["id"], .unique⟩ : Key) ∈ renumberingBlueprint.keys :=
    .tail _ (.head _)
  refine ⟨_, isResolved, succeeded, ?_⟩
  refine (declared_index_made_iff isResolved succeeded declared (.inl rfl)).1.mpr (.inr ?_)
  intro known stays sameName
  have isLive : known = ⟨"numbers", ["id"], .primary⟩ := by
    have live : known ∈ numberedSnapshot.keys := List.mem_of_mem_filter stays
    simp only [numberedSnapshot, List.mem_cons, List.not_mem_nil, or_false] at live
    rcases live with rfl | rfl
    · rfl
    · simp at sameName
  subst isLive
  exact ⟨rfl, ⟨"states", ["status"], .primary⟩, List.Sublist.refl _, rfl⟩

/-- An alter that declares a unique index by the name of a live one that is not unique. -/
def uniqueStatusBlueprint : Blueprint where
  table := "runs"
  purpose := .alter
  columns := []
  keys := [⟨"by_status", ["status"], .unique⟩]
  foreignKeys := []
  dropped := Dropped.none

/-- The unique index is passed over, and the rebuild is planned without it. -/
theorem index_named_as_live_one_not_made :
    ∃ planned,
      (uniqueStatusBlueprint.resolve .duckdb).outcome =
          .ok ⟨[], uniqueStatusBlueprint.keys, []⟩ ∧
        (plan .duckdb "runs" indexedSnapshot ⟨[], uniqueStatusBlueprint.keys, []⟩
            Dropped.none).outcome = .ok planned ∧
          ⟨"by_status", ["status"], .unique⟩ ∈ uniqueStatusBlueprint.keys ∧
            indexOf "runs" ⟨"by_status", ["status"], .unique⟩ ∉ planned :=
  ⟨_, rfl, rfl, .head _, by decide⟩

end Rebuild

end SchemaMigration
