import SchemaMigration.Proofs.Creation
import SchemaMigration.Proofs.Rebuild.Draft
import SchemaMigration.Proofs.Rebuild.Execution

namespace SchemaMigration

/-!
# Changes in place

Where a dialect does not change keys in place, an alteration rebuilds the table,
and a rebuild only makes, fills and drops tables.  Creating a table does not ask
what the dialect takes: a key on columns that are not declared is added in place
after the table is made, in every dialect.
-/

/-- Whether a text changes a table in place. -/
def AltersInPlace (text : String) : Prop :=
  "ALTER TABLE ".toList <+: text.toList

/-! ## Statements that change a table in place -/

namespace Statement

/-- The words that a statement starts with, in the dialects that rebuild tables. -/
def openingWords : Statement → String
  | .createSequence _ => "CREATE SEQUENCE IF NOT EXISTS "
  | .createTable _ => "CREATE TABLE "
  | .createIndex .. => "CREATE "
  | .dropIndex .. => "DROP INDEX "
  | .dropTable _ false => "DROP TABLE "
  | .dropTable _ true => "DROP TABLE IF EXISTS "
  | .copyRows .. => "INSERT INTO "
  | .addColumn .. | .addPrimaryKey .. | .addForeignKey .. | .stopGeneration ..
  | .dropPrimaryKey .. | .dropForeignKey .. | .dropColumn .. | .renameTable .. => "ALTER TABLE "

/-- Whether a statement changes a table in place. -/
def changesInPlace (statement : Statement) : Bool :=
  statement.openingWords = "ALTER TABLE "

theorem openingWords_start
    {dialect : Dialect}
    (restricted : dialect.capabilities.incrementalAlter = false)
    (statement : Statement) :
    statement.openingWords.toList <+: (statement.render dialect).toList := by
  cases statement with
  | createSequence | createTable | createIndex | copyRows | addColumn | addPrimaryKey
  | addForeignKey | stopGeneration | dropColumn =>
      unfold render
      simp only [alterText, openingWords, String.toList_append, List.append_assoc,
        List.prefix_append]
  | dropIndex | renameTable | dropPrimaryKey | dropForeignKey =>
      cases dialect <;> cases restricted <;>
        (unfold render
         simp only [alterText, openingWords, String.toList_append, List.append_assoc,
          List.prefix_append])
  | dropTable table ifExists =>
      unfold render
      cases ifExists <;> simp [openingWords]

/-- Whatever follows them, the opening words tell whether a statement changes a table in place. -/
theorem alterWords_start_iff
    (statement : Statement)
    (rest : List Char) :
    "ALTER TABLE ".toList <+: statement.openingWords.toList ++ rest ↔
      statement.changesInPlace = true := by
  have unlike
      (words : String)
      (first : words.toList.head?.any (· != 'A') = true) :
      ¬ "ALTER TABLE ".toList <+: words.toList ++ rest := by
    rintro ⟨later, same⟩
    obtain ⟨c, isFirst, other⟩ := (Option.any_eq_true _ _).mp first
    have heads := congrArg List.head? same
    rw [List.head?_append, List.head?_append, isFirst] at heads
    exact bne_iff_ne.mp other (Option.some.inj heads).symm
  cases statement with
  | addColumn | addPrimaryKey | addForeignKey | stopGeneration | dropPrimaryKey | dropForeignKey
  | dropColumn | renameTable => exact iff_of_true (List.prefix_append _ _) rfl
  | createSequence =>
      exact iff_of_false (unlike "CREATE SEQUENCE IF NOT EXISTS " (by decide)) nofun
  | createTable => exact iff_of_false (unlike "CREATE TABLE " (by decide)) nofun
  | createIndex => exact iff_of_false (unlike "CREATE " (by decide)) nofun
  | dropIndex => exact iff_of_false (unlike "DROP INDEX " (by decide)) nofun
  | dropTable table ifExists =>
      cases ifExists with
      | false => exact iff_of_false (unlike "DROP TABLE " (by decide)) nofun
      | true => exact iff_of_false (unlike "DROP TABLE IF EXISTS " (by decide)) nofun
  | copyRows => exact iff_of_false (unlike "INSERT INTO " (by decide)) nofun

/-- In a dialect that rebuilds tables, the text of a statement says whether it changes one. -/
theorem altersInPlace_render_iff
    {dialect : Dialect}
    (restricted : dialect.capabilities.incrementalAlter = false)
    (statement : Statement) :
    AltersInPlace (statement.render dialect) ↔ statement.changesInPlace = true := by
  obtain ⟨rest, text⟩ := openingWords_start restricted statement
  rw [AltersInPlace, ← text]
  exact alterWords_start_iff statement rest

/-- Making a table with its indexes changes none in place. -/
theorem changesInPlace_of_mem_createAll
    {dialect : Dialect}
    {table : String}
    {columns : List ColumnDefinition}
    {keys : List Key}
    {statement : Statement}
    (member : statement ∈ createAll dialect table columns keys) :
    statement.changesInPlace = false := by
  rw [createAll, List.mem_append, List.mem_cons, List.mem_filterMap] at member
  rcases member with prelude | rfl | ⟨key, _, made⟩
  · obtain ⟨name, rfl⟩ := eq_createSequence_of_mem_preludeOf prelude
    rfl
  · rfl
  · unfold createIndex? at made
    split at made <;> cases made <;> rfl

end Statement

/-- A rebuild changes no table in place. -/
theorem Rebuild.changesInPlace_of_mem_statements
    {dialect : Dialect}
    {table : String}
    {snapshot : Snapshot}
    {copied : List String}
    {draft : Draft}
    {statement : Statement}
    (member : statement ∈ statements dialect table snapshot copied draft) :
    statement.changesInPlace = false := by
  have renewing
      (within : statement ∈
        .dropTable table false :: Statement.createAll dialect table draft.columns draft.keys) :
      statement.changesInPlace = false := by
    rcases List.mem_cons.mp within with rfl | made
    · rfl
    · exact Statement.changesInPlace_of_mem_createAll made
  unfold statements at member
  dsimp only at member
  split at member
  · exact renewing member
  · simp only [List.mem_append, List.mem_cons, List.not_mem_nil, or_false] at member
    rcases member with (saving | rfl | renewed) | rfl | rfl
    · exact Statement.changesInPlace_of_mem_createAll saving
    · rfl
    · exact renewing (List.mem_cons.mpr renewed)
    · rfl
    · rfl

namespace Blueprint

/-! ## What is planned -/

/--
Whether a blueprint asks for a key in place: its table is made, with a primary
key on none of the declared columns or a foreign key on another column.
-/
structure AddsKeyInPlace (blueprint : Blueprint) (view : Introspection) : Prop where
  creating : blueprint.purpose = .create
  absent : (view.hasTable blueprint.table).outcome = .ok false
  undeclared :
    (∃ key ∈ blueprint.orderedKeys,
        key.isPrimary = true ∧ ∀ name ∈ key.columns, blueprint.declares name = false) ∨
      ∃ draft ∈ blueprint.foreignKeys, blueprint.declares draft.column = false

variable
  {blueprint : Blueprint}
  {dialect : Dialect}
  {view : Introspection}

theorem mem_strayPrimaryKeys_iff
    {resolved : Resolved}
    (isResolved : (blueprint.resolve dialect).outcome = .ok resolved)
    {key : Key} :
    key ∈ strayPrimaryKeys resolved ↔
      key ∈ blueprint.orderedKeys ∧
        key.isPrimary = true ∧ ∀ name ∈ key.columns, blueprint.declares name = false := by
  have uncovered :
      (!resolved.columns.any (fun column => key.covers column.name)) = true ↔
        ∀ name ∈ key.columns, blueprint.declares name = false := by
    rw [← coveredColumns_eq_nil_iff, coveredColumns, ← names_of_resolve isResolved]
    simp [List.filter_map]
  rw [strayPrimaryKeys, List.mem_filter, Bool.and_eq_true, uncovered,
    (resolve_ok isResolved).2.1]

theorem exists_looseForeignKey_iff
    {resolved : Resolved}
    (isResolved : (blueprint.resolve dialect).outcome = .ok resolved) :
    (∃ key, key ∈ resolved.foreignKeys) ↔
      ∃ draft ∈ blueprint.foreignKeys, blueprint.declares draft.column = false := by
  have completed := (resolve_ok isResolved).2.2
  constructor
  · rintro ⟨key, member⟩
    obtain ⟨draft, loose, _⟩ := Traced.item_of_mem_each completed member
    rw [looseForeignKeys, List.mem_filter] at loose
    exact ⟨draft, loose.1, by simpa using loose.2⟩
  · rintro ⟨draft, declared, undeclared⟩
    have loose : draft ∈ blueprint.looseForeignKeys :=
      List.mem_filter.mpr ⟨declared, by simp [undeclared]⟩
    obtain ⟨key, member, _⟩ := Traced.value_of_mem_each completed loose
    exact ⟨key, member⟩

/-- Creating a table changes it in place for the keys that are on no declared column. -/
theorem exists_changesInPlace_creation_iff
    {table : String}
    {resolved : Resolved} :
    (∃ statement ∈ creation dialect table resolved, statement.changesInPlace = true) ↔
      (∃ key, key ∈ strayPrimaryKeys resolved) ∨ ∃ key, key ∈ resolved.foreignKeys := by
  simp only [creation, List.mem_append, List.mem_map]
  constructor
  · rintro ⟨statement, (making | ⟨key, stray, _⟩) | ⟨key, loose, _⟩, inPlace⟩
    · rw [Statement.changesInPlace_of_mem_createAll making] at inPlace
      cases inPlace
    · exact .inl ⟨key, stray⟩
    · exact .inr ⟨key, loose⟩
  · rintro (⟨key, stray⟩ | ⟨key, loose⟩)
    · exact ⟨Statement.addPrimary table key, .inl (.inr ⟨key, stray, rfl⟩), rfl⟩
    · exact ⟨.addForeignKey table key, .inr ⟨key, loose, rfl⟩, rfl⟩

/-- In a dialect that rebuilds tables, an alteration changes none in place. -/
theorem changesInPlace_of_planAlter
    (restricted : dialect.capabilities.incrementalAlter = false)
    {planned : List Statement}
    (succeeded : (blueprint.planAlter dialect view).outcome = .ok planned)
    {statement : Statement}
    (member : statement ∈ planned) :
    statement.changesInPlace = false := by
  rcases planAlter_ok succeeded with ⟨_, rfl⟩ | ⟨_, _, ⟨inPlace, _⟩ | ⟨_, _, _, rebuilt⟩⟩
  · cases member
  · rw [restricted] at inPlace
    cases inPlace
  · rw [(Rebuild.plan_ok rebuilt).2] at member
    exact Rebuild.changesInPlace_of_mem_statements member

/-- Where tables are rebuilt, exactly the plans that add a key in place change a table so. -/
theorem exists_changesInPlace_plan_iff
    (restricted : dialect.capabilities.incrementalAlter = false)
    {planned : List Statement}
    (succeeded : (blueprint.plan dialect view).outcome = .ok planned) :
    (∃ statement ∈ planned, statement.changesInPlace = true) ↔
      blueprint.AddsKeyInPlace view := by
  unfold plan at succeeded
  cases purpose : blueprint.purpose with
  | alter =>
      simp only [purpose] at succeeded
      refine iff_of_false ?_ (fun adds => nomatch purpose.symm.trans adds.creating)
      rintro ⟨statement, member, inPlace⟩
      rw [changesInPlace_of_planAlter restricted succeeded member] at inPlace
      cases inPlace
  | create =>
      simp only [purpose] at succeeded
      rcases planned_of_planCreate succeeded with ⟨there, rfl⟩ | ⟨absent, _, isResolved, rfl⟩
      · refine iff_of_false (by simp) (fun adds => ?_)
        cases there.symm.trans adds.absent
      · simp only [exists_changesInPlace_creation_iff, mem_strayPrimaryKeys_iff isResolved,
          exists_looseForeignKey_iff isResolved]
        exact ⟨fun undeclared => ⟨purpose, absent, undeclared⟩, AddsKeyInPlace.undeclared⟩

/-! ## What is executed -/

/--
In a dialect that does not change keys in place, a table is changed in place only
where a blueprint creates it with a key on columns that it does not declare, and
such a blueprint always has it changed if nothing fails.

What is executed is what the database takes, whether all of it or a first part.
-/
theorem altered_in_place_iff
    (store : Store σ)
    (restricted : store.dialect.capabilities.incrementalAlter = false)
    (blueprint : Blueprint)
    (state : σ) :
    let view := store.backend.introspect state
    let executed := (store.recording.apply blueprint (state, [])).state.2
    (∀ text ∈ executed, AltersInPlace text → blueprint.AddsKeyInPlace view) ∧
      ((store.apply blueprint state).outcome = .ok () →
        ((∃ text ∈ executed, AltersInPlace text) ↔ blueprint.AddsKeyInPlace view)) := by
  intro view executed
  cases planning : (blueprint.plan store.dialect view).outcome with
  | error problem =>
      have untouched : (store.recording.apply blueprint (state, [])).state = (state, []) :=
        (Store.apply_of_unplanned store.recording (state, []) planning).1
      have failed : (store.apply blueprint state).outcome = .error problem :=
        (Store.apply_of_unplanned store state planning).2
      have nothing : executed = [] := congrArg Prod.snd untouched
      rw [nothing, failed]
      exact ⟨nofun, nofun⟩
  | ok planned =>
      have alters (text : String) (member : text ∈ planned.map (Statement.render store.dialect)) :
          AltersInPlace text → blueprint.AddsKeyInPlace view := by
        obtain ⟨statement, within, rfl⟩ := List.mem_map.mp member
        rw [Statement.altersInPlace_render_iff restricted]
        exact fun inPlace =>
          (exists_changesInPlace_plan_iff restricted planning).mp ⟨statement, within, inPlace⟩
      obtain ⟨added, left, grown, split, _⟩ := Store.taken_of_apply planning []
      have isAdded : executed = added := grown
      refine ⟨?_, ?_⟩
      · intro text member
        apply alters
        rw [split, ← isAdded]
        exact List.mem_append_left _ member
      · intro succeeded
        obtain ⟨_, alsoPlanned, recorded⟩ := Store.executed_of_apply succeeded
        cases planning.symm.trans alsoPlanned
        have all : executed = planned.map (Statement.render store.dialect) :=
          congrArg Prod.snd recorded
        rw [all]
        refine ⟨fun ⟨text, member, inPlace⟩ => alters text member inPlace, fun adds => ?_⟩
        obtain ⟨statement, member, inPlace⟩ :=
          (exists_changesInPlace_plan_iff restricted planning).mpr adds
        exact ⟨_, List.mem_map_of_mem member,
          (Statement.altersInPlace_render_iff restricted statement).mpr inPlace⟩

/-- A database without tables for a dialect, which takes every statement. -/
def emptyStoreOf (dialect : Dialect) : Store Unit :=
  { emptyStore with dialect := dialect }

/-- A table to create with a foreign key on a column that may be declared or not. -/
def ownedBlueprint (declared : List String) : Blueprint where
  table := "runs"
  purpose := .create
  columns := declared.map (fun name => .ofType name .integer .none)
  keys := []
  foreignKeys :=
    [{ ForeignKeyDraft.onColumn "runs" "owner" with
        refTable := some "people"
        refColumn := some "id" }]
  dropped := Dropped.none

/-- Where the column of the foreign key is declared, the table is made with the key. -/
theorem owned_table_made_at_once :
    (emptyStoreOf .sqlite).dialect.capabilities.incrementalAlter = false ∧
      ((emptyStoreOf .sqlite).apply (ownedBlueprint ["host", "owner"]) ()).outcome = .ok () ∧
        ∀ text ∈
            ((emptyStoreOf .sqlite).recording.apply (ownedBlueprint ["host", "owner"])
              ((), [])).state.2,
          ¬ AltersInPlace text := by
  have restricted : (emptyStoreOf .sqlite).dialect.capabilities.incrementalAlter = false :=
    rfl
  have succeeded :
      ((emptyStoreOf .sqlite).apply (ownedBlueprint ["host", "owner"]) ()).outcome = .ok () :=
    rfl
  have altered :=
    (altered_in_place_iff (emptyStoreOf .sqlite) restricted
      (ownedBlueprint ["host", "owner"]) ()).1
  refine ⟨restricted, succeeded, ?_⟩
  intro text member alters
  rcases (altered text member alters).undeclared with ⟨key, member, _⟩ | undeclared
  · cases member
  · revert undeclared
    decide

/-- Where it is not declared, a database that cannot add keys in place is told to add it. -/
theorem undeclared_key_added_in_place :
    (emptyStoreOf .duckdb).dialect.capabilities.incrementalAlter = false ∧
      ((emptyStoreOf .duckdb).apply (ownedBlueprint ["host"]) ()).outcome = .ok () ∧
        ∃ text ∈
            ((emptyStoreOf .duckdb).recording.apply (ownedBlueprint ["host"]) ((), [])).state.2,
          AltersInPlace text := by
  refine ⟨rfl, rfl, _, .tail _ (.head _), ?_⟩
  exact (Statement.altersInPlace_render_iff rfl (.addForeignKey "runs" _)).mpr rfl

end Blueprint

end SchemaMigration
