import SchemaMigration.Proofs.Asking
import SchemaMigration.Proofs.Outcomes
import SchemaMigration.Proofs.Rebuild.RowSurvival

namespace SchemaMigration

/-!
# Rebuilds in a store

A store executes the statements of a plan up to the first one that the database
refuses.  As far as the database does to its tables what the statements say,
the tables are those after a first part of the plan, so an alteration that was
stopped anywhere still leaves the rows in the table or in the temporary one.
-/

open Statement

namespace Store

/-- Whether the statements that a database takes change its tables as they say. -/
def Portrays
    (store : Store σ)
    (rules : InsertRules ν)
    (tablesOf : σ → Tables ν)
    (statements : List Statement) :
    Prop :=
  ∀ statement ∈ statements, ∀ state affected next,
    store.backend.execute state (statement.render store.dialect) = .ok (affected, next) →
      Statement.perform rules (tablesOf state) statement = some (tablesOf next)

variable
  {store : Store σ}
  {rules : InsertRules ν}
  {tablesOf : σ → Tables ν}
  {state : σ}

/-- A statement that is refused changes nothing, and any other changes what it says. -/
theorem execute_ends
    {statement : Statement}
    (portrayed :
      ∀ affected next,
        store.backend.execute state (statement.render store.dialect) =
            .ok (affected, next) →
          Statement.perform rules (tablesOf state) statement = some (tablesOf next)) :
    (store.execute (statement.render store.dialect)).Ends state (fun reached outcome =>
      match outcome with
      | .ok _ => Statement.perform rules (tablesOf state) statement = some (tablesOf reached)
      | .error _ => reached = state) := by
  unfold Action.Ends execute
  cases executed : store.backend.execute state (statement.render store.dialect) with
  | error _ =>
      rfl
  | ok answer =>
      exact portrayed answer.1 answer.2 executed

/-- What a store reaches are the tables after a first part, or after all when nothing fails. -/
theorem executeAll_ends
    {statements : List Statement}
    (portrays : store.Portrays rules tablesOf statements) :
    (store.executeAll statements).Ends state (fun reached outcome =>
      ∃ executed,
        executed <+: statements ∧
          performAll rules (tablesOf state) executed = some (tablesOf reached) ∧
            (outcome = .ok () → executed = statements)) := by
  induction statements generalizing state with
  | nil =>
      exact ⟨[], List.prefix_rfl, rfl, fun _ => rfl⟩
  | cons statement rest inductionHypothesis =>
      rw [executeAll, Action.ends_bind]
      refine (execute_ends (portrays statement List.mem_cons_self state)).imp ?_
      rintro between outcome stepped
      cases outcome with
      | error _ =>
          -- Nothing is executed after a refusal, so the first part ends here.
          have unchanged : between = state := stepped
          subst unchanged
          exact ⟨[], List.nil_prefix, rfl, nofun⟩
      | ok _ =>
          have restPortrays : store.Portrays rules tablesOf rest :=
            fun later member => portrays later (List.mem_cons_of_mem _ member)
          refine (inductionHypothesis restPortrays).imp ?_
          rintro reached final ⟨executed, isPrefix, performed, complete⟩
          have fromHere :
              performAll rules (tablesOf state) (statement :: executed) =
                some (tablesOf reached) := by
            rw [performAll, stepped, Option.bind_some, performed]
          refine ⟨statement :: executed, ?_, fromHere, ?_⟩
          · exact List.cons_prefix_cons.mpr ⟨rfl, isPrefix⟩
          · intro succeeded
            rw [complete succeeded]

end Store

/--
A plan to alter a table is for a blueprint that resolves: in place it looks at
the live columns, and a rebuild looks at the snapshot.
-/
theorem Blueprint.planAlter_ok
    {blueprint : Blueprint}
    {dialect : Dialect}
    {view : Introspection}
    {planned : List Statement}
    (succeeded : (blueprint.planAlter dialect view).outcome = .ok planned) :
    blueprint.isEmpty = true ∧ planned = [] ∨
      ∃ resolved,
        (blueprint.resolve dialect).outcome = .ok resolved ∧
          (dialect.capabilities.incrementalAlter = true ∧
              (∃ live,
                (view.columns blueprint.table).outcome = .ok live ∧
                  (Alteration.plan dialect blueprint.table live resolved
                    blueprint.dropped).outcome = .ok planned) ∨
            dialect.capabilities.incrementalAlter = false ∧
              ∃ snapshot,
                (Snapshot.load view blueprint.table).outcome = .ok snapshot ∧
                  (Rebuild.plan dialect blueprint.table snapshot resolved
                    blueprint.dropped).outcome = .ok planned) := by
  simp only [planAlter, Traced.outcome_bind_eq_ok] at succeeded
  obtain ⟨_, _, succeeded⟩ := succeeded
  split at succeeded
  · simp at succeeded
  · split at succeeded
    · rename_i nothing
      exact .inl ⟨nothing, by simpa [eq_comm] using succeeded⟩
    · right
      cases inPlace : dialect.capabilities.incrementalAlter <;>
        simp only [inPlace, Bool.false_eq_true, if_false, if_true, Traced.outcome_bind_eq_ok,
          asked, Traced.outcome_mapError, Outcome.mapError_eq_ok, Traced.outcome_tell,
          Traced.outcome_pure, Except.ok.injEq] at succeeded <;>
        obtain ⟨resolved, isResolved, reported, read, _, altered, _, _, rfl⟩ := succeeded
      · exact ⟨resolved, isResolved, .inr ⟨rfl, reported, read, altered⟩⟩
      · exact ⟨resolved, isResolved, .inl ⟨rfl, reported, read, altered⟩⟩

namespace Rebuild

variable
  {store : Store σ}
  {rules : InsertRules ν}
  {tablesOf : σ → Tables ν}
  {state : σ}

/-- Where keys are not changed in place, the plan to alter a table rebuilds it, if anything. -/
theorem plan_of_planAlter
    {blueprint : Blueprint}
    {dialect : Dialect}
    {view : Introspection}
    {snapshot : Snapshot}
    {planned : List Statement}
    (restricted : dialect.capabilities.incrementalAlter = false)
    (loaded : (Snapshot.load view blueprint.table).outcome = .ok snapshot)
    (succeeded : (blueprint.planAlter dialect view).outcome = .ok planned) :
    planned = [] ∨
      ∃ resolved,
        (plan dialect blueprint.table snapshot resolved blueprint.dropped).outcome =
          .ok planned := by
  rcases Blueprint.planAlter_ok succeeded with ⟨_, nothing⟩ | ⟨resolved, _, inPlace | anew⟩
  · exact .inl nothing
  · rw [restricted] at inPlace
    cases inPlace.1
  · obtain ⟨_, _, alsoLoaded, rebuilt⟩ := anew
    cases loaded.symm.trans alsoLoaded
    exact .inr ⟨resolved, rebuilt⟩

/--
An alteration that rebuilds the table leaves the rows in the table or in the
temporary one, whether the database takes all of its statements or not.
-/
theorem rowsSafe_after_alter
    (restricted : store.dialect.capabilities.incrementalAlter = false)
    {blueprint : Blueprint}
    (portrays :
      ∀ planned,
        (blueprint.planAlter store.dialect (store.backend.introspect state)).outcome =
            .ok planned →
          store.Portrays rules tablesOf planned)
    {snapshot : Snapshot}
    (loaded :
      (Snapshot.load (store.backend.introspect state) blueprint.table).outcome =
        .ok snapshot)
    {live : StoredTable ν}
    (found : tablesOf state blueprint.table = some live)
    (described : live.columnNames = snapshot.columnNames)
    (kept : keptColumns snapshot blueprint.dropped ≠ []) :
    (store.alter blueprint).Ends state (fun reached _ =>
      RowsSafe blueprint.table
        ((keptColumns snapshot blueprint.dropped).map ColumnDefinition.name)
        live.rows (tablesOf reached)) := by
  have holding :=
    hold_keptColumns found described blueprint.dropped
  rw [Store.alter_eq_carryOut, Store.carryOut, Action.ends_bind, Action.ends_inspect]
  cases planning :
      (blueprint.planAlter store.dialect (store.backend.introspect state)).outcome with
  | error _ =>
      exact .inl holding
  | ok planned =>
      refine (Store.executeAll_ends (portrays planned planning)).imp ?_
      rintro reached outcome ⟨executed, isPrefix, performed, _⟩
      rcases plan_of_planAlter restricted loaded planning with rfl | ⟨resolved, succeeded⟩
      · rw [List.prefix_nil.mp isPrefix] at performed
        rw [← Option.some.inj performed]
        exact .inl holding
      · obtain ⟨_, rfl⟩ := plan_ok succeeded
        have throughout :=
          rowsSafe_throughout rules (by simpa using kept) store.dialect snapshot
            (finalDraft snapshot resolved blueprint.dropped) holding
        exact throughout.after_part isPrefix performed

end Rebuild

end SchemaMigration
