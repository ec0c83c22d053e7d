import SchemaMigration.Proofs.Ledger.Codec
import SchemaMigration.Proofs.Rebuild.DroppedKeys
import SchemaMigration.Proofs.Resolution.KeyOrder
import SchemaMigration.Proofs.Sql.Identifier

namespace SchemaMigration

/-!
# Names by the rule

A key that is not given a name gets one from its table, its columns and its
kind.  The name tells the kind and the text that the columns join to, but it
tells where one column ends and the next begins only where the columns have no
underscores.  Keys of one kind whose columns join to one text share a name:
a blueprint resolves to one of them, and a drop by the name means all of them.

The drop of a primary key means more.  A rebuild takes away the primary key that
has a column in common with it, and in MySQL the statement names no key at all.
-/

namespace KeyKind

theorem suffix_ne_nil (kind : KeyKind) : kind.suffix.toList ≠ [] := by
  cases kind <;> decide

/-- The last parts of names end with different characters. -/
theorem eq_of_getLast?_suffix_eq
    {first second : KeyKind}
    (same : first.suffix.toList.getLast? = second.suffix.toList.getLast?) :
    first = second := by
  revert same
  cases first <;> cases second <;> decide

end KeyKind

namespace Key

/-- Whether a key has the name that the rule gives it. -/
def NamedByRule (table : String) (key : Key) : Prop :=
  key.name = defaultName table key.columns key.kind

/-- Whether two keys have one kind and columns that join to one text. -/
def SoundsLike (key other : Key) : Prop :=
  key.kind = other.kind ∧ Text.join "_" key.columns = Text.join "_" other.columns

instance (table : String) : DecidablePred (NamedByRule table) :=
  fun key => inferInstanceAs (Decidable (key.name = defaultName table key.columns key.kind))

instance : DecidableRel SoundsLike :=
  fun key other => inferInstanceAs (Decidable
    (key.kind = other.kind ∧ Text.join "_" key.columns = Text.join "_" other.columns))

/-- A name by the rule tells the kind and the text that the columns join to. -/
theorem defaultName_eq_iff
    {table : String}
    {first second : List String}
    {firstKind secondKind : KeyKind} :
    defaultName table first firstKind = defaultName table second secondKind ↔
      firstKind = secondKind ∧ Text.join "_" first = Text.join "_" second := by
  constructor
  · intro same
    have text :
        (Text.join "_" first).toList ++ ['_'] ++ firstKind.suffix.toList =
          (Text.join "_" second).toList ++ ['_'] ++ secondKind.suffix.toList := by
      have whole := congrArg String.toList same
      simpa [defaultName] using whole
    have kinds : firstKind = secondKind := by
      apply KeyKind.eq_of_getLast?_suffix_eq
      have ends := congrArg List.getLast? text
      rwa [List.getLast?_append_of_ne_nil _ firstKind.suffix_ne_nil,
        List.getLast?_append_of_ne_nil _ secondKind.suffix_ne_nil] at ends
    subst kinds
    have joined := List.append_cancel_right (List.append_cancel_right text)
    exact ⟨rfl, String.toList_inj.mp joined⟩
  · rintro ⟨rfl, same⟩
    rw [defaultName, defaultName, same]

/-- Keys that are named by the rule share a name where they sound alike. -/
theorem name_eq_iff
    {table : String}
    {key other : Key}
    (named : key.NamedByRule table)
    (otherNamed : other.NamedByRule table) :
    key.name = other.name ↔ key.SoundsLike other := by
  rw [named, otherNamed]
  exact defaultName_eq_iff

theorem eq_of_soundsLike
    {table : String}
    {key other : Key}
    (named : key.NamedByRule table)
    (otherNamed : other.NamedByRule table)
    (soundsLike : key.SoundsLike other)
    (sameColumns : key.columns = other.columns) :
    key = other := by
  have sameName := (name_eq_iff named otherNamed).mpr soundsLike
  cases key
  cases other
  simp_all [SoundsLike]

/-- Columns without underscores are told by the text that they join to. -/
theorem join_eq_iff
    {first second : List String}
    (firstNonempty : first ≠ [])
    (secondNonempty : second ≠ [])
    (firstFree : ∀ name ∈ first, '_' ∉ name.toList)
    (secondFree : ∀ name ∈ second, '_' ∉ name.toList) :
    Text.join "_" first = Text.join "_" second ↔ first = second := by
  constructor
  · intro same
    have parts := congrArg (Text.splitAt '_') same
    rwa [show "_" = String.singleton '_' from rfl, Text.splitAt_join firstNonempty firstFree,
      Text.splitAt_join secondNonempty secondFree] at parts
  · exact congrArg (Text.join "_")

end Key

/-! ## Declared keys -/

section Resolved

variable
  {blueprint : Blueprint}
  {dialect : Dialect}
  {resolved : Resolved}
  (isResolved : (blueprint.resolve dialect).outcome = .ok resolved)
  (named : ∀ key ∈ blueprint.keys, key.NamedByRule blueprint.table)

include isResolved named

/-- A declared key or one that sounds like it is among the resolved ones. -/
theorem exists_soundsLike_of_resolve
    {key : Key}
    (declared : key ∈ blueprint.keys) :
    ∃ made ∈ resolved.keys, made.SoundsLike key := by
  have there :=
    (Blueprint.mem_keyNames_of_resolve isResolved).mpr (List.mem_map_of_mem declared)
  obtain ⟨made, member, sameName⟩ := List.mem_map.mp there
  have isDeclared := Blueprint.mem_keys_of_resolve isResolved member
  exact ⟨made, member,
    (Key.name_eq_iff (named made isDeclared) (named key declared)).mp sameName⟩

/-- All declared keys are resolved exactly where those that sound alike have the same columns. -/
theorem all_keys_resolved_iff :
    (∀ key ∈ blueprint.keys, key ∈ resolved.keys) ↔
      ∀ key ∈ blueprint.keys,
        ∀ other ∈ blueprint.keys, key.SoundsLike other → key.columns = other.columns := by
  constructor
  · intro allResolved key declared other otherDeclared soundsLike
    have sameName :=
      (Key.name_eq_iff (named key declared) (named other otherDeclared)).mpr soundsLike
    have same :=
      List.inj_on_of_nodup_map (Blueprint.nodup_keyNames_of_resolve isResolved)
        (allResolved key declared) (allResolved other otherDeclared) sameName
    exact congrArg Key.columns same
  · intro apart key declared
    obtain ⟨made, member, soundsLike⟩ := exists_soundsLike_of_resolve isResolved named declared
    have isDeclared := Blueprint.mem_keys_of_resolve isResolved member
    have same :=
      Key.eq_of_soundsLike (named made isDeclared) (named key declared) soundsLike
        (apart made isDeclared key declared soundsLike)
    exact same ▸ member

end Resolved

/-! ## Statements that drop keys -/

namespace Statement

/-- The statement that drops a key, which is no foreign key, by its name. -/
def dropByName (table : String) (key : Key) : Statement :=
  if key.isPrimary then .dropPrimaryKey table key.name else .dropIndex table key.name

theorem render_dropIndex_eq_iff
    {dialect : Dialect}
    {table first second : String} :
    (dropIndex table first).render dialect = (dropIndex table second).render dialect ↔
      first = second := by
  unfold render
  cases dialect <;>
    simp only [String.append_left_inj, String.append_right_inj, Sql.quote_inj]

/-- MySQL's statement does not name the primary key. -/
theorem render_dropPrimaryKey_eq_iff
    {dialect : Dialect}
    {table first second : String} :
    (dropPrimaryKey table first).render dialect =
        (dropPrimaryKey table second).render dialect ↔
      first = second ∨ dialect = .mysql := by
  unfold render
  cases dialect <;>
    simp only [String.append_right_inj, Sql.quote_inj, reduceCtorEq, or_false, or_true]

/-- The words of the two statements differ, whatever is dropped. -/
theorem render_dropPrimaryKey_ne_dropIndex
    (dialect : Dialect)
    (table first second : String) :
    (dropPrimaryKey table first).render dialect ≠ (dropIndex table second).render dialect := by
  unfold render
  intro same
  cases dialect with
  | mysql =>
      simp only [String.append_assoc, String.append_right_inj] at same
      have words := congrArg (fun text => text.toList.take 7) same
      simp at words
  | duckdb | sqlite | postgres | mssql =>
      have firstLetters := congrArg (fun text => text.toList.head?) same
      simp [alterText] at firstLetters

/-- Redefining a column is no drop of a key. -/
theorem render_stopGeneration_ne_dropByName
    (table column type : String)
    (key : Key) :
    (stopGeneration table column type).render .mysql ≠ (dropByName table key).render .mysql := by
  unfold dropByName render
  intro same
  cases isPrimary : key.isPrimary <;>
    simp only [isPrimary, if_true, if_false, Bool.false_eq_true, String.append_assoc,
      String.append_right_inj] at same
  all_goals
    have words := congrArg (fun text => text.toList.take 2) same
    simp [toString] at words

theorem render_dropByName_eq_iff
    {dialect : Dialect}
    {table : String}
    {drop key : Key} :
    (dropByName table drop).render dialect = (dropByName table key).render dialect ↔
      drop.isPrimary = key.isPrimary ∧
        (drop.name = key.name ∨ dialect = .mysql ∧ drop.isPrimary = true) := by
  unfold dropByName
  cases drop.isPrimary <;> cases key.isPrimary
  · simp [render_dropIndex_eq_iff]
  · have apart := render_dropPrimaryKey_ne_dropIndex dialect table key.name drop.name
    simp [apart.symm]
  · have apart := render_dropPrimaryKey_ne_dropIndex dialect table drop.name key.name
    simp [apart]
  · simp [render_dropPrimaryKey_eq_iff]

/-- Of the statements that drop a key, one is the drop by its name. -/
theorem exists_render_dropKeyAll_iff
    {dialect : Dialect}
    {table : String}
    {column? : Option LiveColumn}
    {drop : Key}
    (noForeign : drop.kind ≠ .foreign)
    {statements : List Statement}
    (dropped : dropKeyAll dialect table column? drop = .ok statements)
    (key : Key) :
    (∃ statement ∈ statements,
        statement.render dialect = (dropByName table key).render dialect) ↔
      (dropByName table drop).render dialect = (dropByName table key).render dialect := by
  have byName (isPrimary : drop.isPrimary = true) :
      dropByName table drop = .dropPrimaryKey table drop.name :=
    if_pos isPrimary
  have byIndex (notPrimary : drop.isPrimary = false) :
      dropByName table drop = .dropIndex table drop.name :=
    if_neg (by simp [notPrimary])
  unfold dropKeyAll at dropped
  split at dropped <;> cases dropped
  case h_2 column kind =>
    have redefines := render_stopGeneration_ne_dropByName table column.name column.type key
    simp [byName, Key.isPrimary, kind, redefines]
  case h_3 kind _ _ =>
    simp [byName, Key.isPrimary, kind]
  case h_4 kind =>
    exact absurd kind noForeign
  all_goals
    rename_i kind
    simp [byIndex, Key.isPrimary, kind]

end Statement

/-! ## Dropped keys -/

open Statement Rebuild

/-- A rebuild unmarks the columns of a dropped primary key. -/
theorem isPrimary_releaseColumn_iff
    (drop : Key)
    (column : ColumnDefinition) :
    (releaseColumn ⟨[], [drop]⟩ column).isPrimary = true ↔
      column.isPrimary = true ∧ (drop.isPrimary = true → column.name ∉ drop.columns) := by
  cases isPrimary : drop.isPrimary <;> simp [releaseColumn, releasedColumns, isPrimary]

section Dropped

variable
  {table : String}
  {drop key : Key}
  (dropNamed : drop.NamedByRule table)
  (named : key.NamedByRule table)

include dropNamed named

/-- A rebuild takes away what sounds like the dropped key, or shares columns of primary keys. -/
theorem mem_keptKeys_of_drop_iff
    {snapshot : Snapshot}
    (live : key ∈ snapshot.keys) :
    key ∈ keptKeys snapshot ⟨[], [drop]⟩ ↔
      ¬ drop.SoundsLike key ∧
        (drop.isPrimary = true →
          key.isPrimary = true → ∀ name ∈ key.columns, name ∉ drop.columns) := by
  rw [← Key.name_eq_iff dropNamed named]
  cases isPrimary : drop.isPrimary with
  | true =>
      cases alsoPrimary : key.isPrimary <;>
        simp [keptKeys, staysKey, releasedColumns, live, isPrimary, alsoPrimary]
  | false =>
      simp [keptKeys, staysKey, releasedColumns, live, isPrimary]

/-- In place, a statement drops what sounds like the dropped key, and in MySQL any primary key. -/
theorem drops_in_place_iff
    (dropNoForeign : drop.kind ≠ .foreign)
    {dialect : Dialect}
    {column? : Option LiveColumn}
    {statements : List Statement}
    (dropped : dropKeyAll dialect table column? drop = .ok statements) :
    (∃ statement ∈ statements,
        statement.render dialect = (dropByName table key).render dialect) ↔
      drop.SoundsLike key ∨
        dialect = .mysql ∧ drop.isPrimary = true ∧ key.isPrimary = true := by
  rw [exists_render_dropKeyAll_iff dropNoForeign dropped, render_dropByName_eq_iff,
    Key.name_eq_iff dropNamed named]
  constructor
  · rintro ⟨sameKind, soundsLike | ⟨isMySql, isPrimary⟩⟩
    · exact .inl soundsLike
    · exact .inr ⟨isMySql, isPrimary, sameKind ▸ isPrimary⟩
  · rintro (soundsLike | ⟨isMySql, isPrimary, alsoPrimary⟩)
    · exact ⟨by rw [Key.isPrimary, Key.isPrimary, soundsLike.1], .inl soundsLike⟩
    · exact ⟨isPrimary.trans alsoPrimary.symm, .inr ⟨isMySql, isPrimary⟩⟩

end Dropped

/-! ## Names that are shared -/

/--
Names by the rule are shared exactly by keys of one kind whose columns join to
one text, so never by different lists of columns without underscores.

Where all declared keys are named by the rule, each of them or one that shares
its name is resolved, and all of them are exactly where no two over different
columns share a name.  A drop by such a name takes those keys away that share it,
whether the table is changed in place or rebuilt.

The drop of a primary key takes more away.  A rebuild also takes the primary key
that has one of its columns, and unmarks these columns; in MySQL the statement
is that for any primary key.
-/
theorem default_names_shared_iff :
    (∀ table first second firstKind secondKind,
      (Key.defaultName table first firstKind = Key.defaultName table second secondKind ↔
        firstKind = secondKind ∧ Text.join "_" first = Text.join "_" second) ∧
      (first ≠ [] →
        second ≠ [] →
          (∀ name ∈ first ++ second, '_' ∉ name.toList) →
            (Key.defaultName table first firstKind = Key.defaultName table second secondKind ↔
              firstKind = secondKind ∧ first = second))) ∧
    (∀ (blueprint : Blueprint) dialect resolved,
      (blueprint.resolve dialect).outcome = .ok resolved →
        (∀ key ∈ blueprint.keys, key.NamedByRule blueprint.table) →
          (∀ key ∈ blueprint.keys, ∃ made ∈ resolved.keys, made.SoundsLike key) ∧
          ((∀ key ∈ blueprint.keys, key ∈ resolved.keys) ↔
            ∀ key ∈ blueprint.keys,
              ∀ other ∈ blueprint.keys, key.SoundsLike other → key.columns = other.columns)) ∧
    ∀ (table : String) (drop key : Key),
      drop.NamedByRule table →
        key.NamedByRule table →
          (drop.name = key.name ↔ drop.SoundsLike key) ∧
          (∀ snapshot : Snapshot,
            key ∈ snapshot.keys →
              (key ∈ keptKeys snapshot ⟨[], [drop]⟩ ↔
                ¬ drop.SoundsLike key ∧
                  (drop.isPrimary = true →
                    key.isPrimary = true → ∀ name ∈ key.columns, name ∉ drop.columns))) ∧
          (∀ column : ColumnDefinition,
            (releaseColumn ⟨[], [drop]⟩ column).isPrimary = true ↔
              column.isPrimary = true ∧
                (drop.isPrimary = true → column.name ∉ drop.columns)) ∧
          (drop.kind ≠ .foreign →
            ∀ dialect column? statements,
              dropKeyAll dialect table column? drop = .ok statements →
                ((∃ statement ∈ statements,
                    statement.render dialect = (dropByName table key).render dialect) ↔
                  drop.SoundsLike key ∨
                    dialect = .mysql ∧ drop.isPrimary = true ∧ key.isPrimary = true)) := by
  refine ⟨?names, ?declared, ?dropped⟩
  case names =>
    intro table first second firstKind secondKind
    refine ⟨Key.defaultName_eq_iff, fun firstNonempty secondNonempty free => ?_⟩
    obtain ⟨firstFree, secondFree⟩ := List.forall_mem_append.mp free
    rw [Key.defaultName_eq_iff,
      Key.join_eq_iff firstNonempty secondNonempty firstFree secondFree]
  case declared =>
    intro blueprint dialect resolved isResolved named
    exact ⟨fun _ declared => exists_soundsLike_of_resolve isResolved named declared,
      all_keys_resolved_iff isResolved named⟩
  case dropped =>
    intro table drop key dropNamed named
    exact ⟨Key.name_eq_iff dropNamed named,
      fun _ live => mem_keptKeys_of_drop_iff dropNamed named live,
      isPrimary_releaseColumn_iff drop,
      fun noForeign _ _ _ dropped => drops_in_place_iff dropNamed named noForeign dropped⟩

/-- A table over whose columns keys are declared without names. -/
def unnamedKeys (declared : List (List String × KeyKind)) : Blueprint where
  table := "runs"
  purpose := .create
  columns := ["a", "b", "a_b"].map (fun name => .ofType name .integer .none)
  keys := declared.map (fun (columns, kind) => Key.declared "runs" columns kind none)
  foreignKeys := []
  dropped := Dropped.none

/--
Keys over the same columns in another order, or of another kind, are all resolved
and told apart by drops; the drop of a primary key reaches one that is longer.
-/
theorem keys_apart_all_resolved :
    ∃ resolved,
      ((unnamedKeys [(["a", "b"], .index), (["b", "a"], .index), (["a", "b"], .unique)]).resolve
          .duckdb).outcome = .ok resolved ∧
        (∀ key ∈
            (unnamedKeys
              [(["a", "b"], .index), (["b", "a"], .index), (["a", "b"], .unique)]).keys,
          key ∈ resolved.keys) ∧
          Key.declared "runs" ["b", "a"] .index none ∈
              keptKeys ⟨[], resolved.keys⟩ ⟨[], [Key.declared "runs" ["a", "b"] .index none]⟩ ∧
            Key.declared "runs" ["a", "b"] .primary none ∉
              keptKeys ⟨[], [Key.declared "runs" ["a", "b"] .primary none]⟩
                ⟨[], [Key.declared "runs" ["a"] .primary none]⟩ := by
  obtain ⟨_, resolving, dropping⟩ := default_names_shared_iff
  have isResolved :
      ((unnamedKeys [(["a", "b"], .index), (["b", "a"], .index), (["a", "b"], .unique)]).resolve
        .duckdb).outcome = .ok _ :=
    rfl
  have allResolved := (resolving _ _ _ isResolved (by decide)).2.mpr (by decide)
  have live := allResolved (Key.declared "runs" ["b", "a"] .index none) (by decide)
  obtain ⟨_, rebuilding, _⟩ :=
    dropping "runs" (Key.declared "runs" ["a", "b"] .index none)
      (Key.declared "runs" ["b", "a"] .index none) rfl rfl
  obtain ⟨_, shortening, _⟩ :=
    dropping "runs" (Key.declared "runs" ["a"] .primary none)
      (Key.declared "runs" ["a", "b"] .primary none) rfl rfl
  refine ⟨_, isResolved, allResolved, (rebuilding ⟨[], _⟩ live).mpr ⟨by decide, nofun⟩, ?_⟩
  intro kept
  obtain ⟨_, apart⟩ := (shortening ⟨[], _⟩ List.mem_cons_self).mp kept
  exact apart rfl rfl "a" List.mem_cons_self List.mem_cons_self

/-- One column and two others share a name, so one of the keys is not resolved. -/
theorem joined_columns_share_name :
    ∃ resolved,
      Key.defaultName "runs" ["a", "b"] .index = Key.defaultName "runs" ["a_b"] .index ∧
        ((unnamedKeys [(["a", "b"], .index), (["a_b"], .index)]).resolve .duckdb).outcome =
            .ok resolved ∧
          Key.declared "runs" ["a_b"] .index none ∈
              (unnamedKeys [(["a", "b"], .index), (["a_b"], .index)]).keys ∧
            (∀ key ∈ resolved.keys, key.columns ≠ ["a_b"]) ∧
              Key.declared "runs" ["a_b"] .index none ∉
                keptKeys ⟨[], [Key.declared "runs" ["a_b"] .index none]⟩
                  ⟨[], [Key.declared "runs" ["a", "b"] .index none]⟩ :=
  ⟨_, by decide, rfl, by decide, by decide, by decide⟩

end SchemaMigration
