import SchemaMigration.Schema.Store

namespace SchemaMigration

/-!
# Asking first

A store asks its database one question after the other, and executes nothing
before it has planned everything.  Since asking changes nothing, the answers are
those of one state, so creating and altering a table carry a plan out.
-/

/-! ## Actions that only read -/

/-- Wrapping the error of a sequence wraps those of its parts. -/
theorem Traced.mapError_bind
    (wrap : ε → ε')
    (first : Traced ε α)
    (next : α → Traced ε β) :
    mapError wrap (first >>= next) =
      mapError wrap first >>= fun value => mapError wrap (next value) := by
  change mapError wrap (Traced.bind first next) =
    Traced.bind (mapError wrap first) (fun value => mapError wrap (next value))
  unfold Traced.bind mapError
  cases first.outcome <;> rfl

namespace Action

variable {σ ε ε' α β γ : Type}

/-- An action that goes on with nothing ends where it ended. -/
theorem id_map (action : Action σ ε α) : id <$> action = action := by
  funext state
  change Action.bind action (Action.pure ∘ id) state = action state
  unfold Action.bind
  obtain ⟨reached, notices, outcome⟩ := action state
  cases outcome <;> simp [Action.pure]

theorem bind_bind
    (first : Action σ ε α)
    (next : α → Action σ ε β)
    (last : β → Action σ ε γ) :
    (first >>= next) >>= last = first >>= fun value => next value >>= last := by
  funext state
  change Action.bind (Action.bind first next) last state =
    Action.bind first (fun value => Action.bind (next value) last) state
  unfold Action.bind
  dsimp only
  cases (first state).outcome with
  | error _ =>
      rfl
  | ok value =>
      dsimp only
      cases (next value (first state).state).outcome with
      | error _ =>
          rfl
      | ok _ =>
          simp only [List.append_assoc]

instance : LawfulMonad (Action σ ε) :=
  .mk' (Action σ ε) id_map (fun _ _ => rfl) bind_bind

/-- Reading in two steps is reading twice, since reading changes nothing. -/
theorem inspect_bind
    (read : σ → Traced ε α)
    (next : α → σ → Traced ε β) :
    inspect (fun state => read state >>= fun value => next value state) =
      inspect read >>= fun value => inspect (next value) := by
  funext state
  change _ = Action.bind (inspect read) (fun value => inspect (next value)) state
  unfold inspect Action.bind
  change Ending.mk state (Traced.bind (read state) (fun value => next value state)).notices
    (Traced.bind (read state) (fun value => next value state)).outcome = _
  unfold Traced.bind
  dsimp only
  cases (read state).outcome <;> rfl

end Action

/-! ## Plans that are carried out -/

namespace Store

variable {σ : Type}

/-- Make a plan from what the database reports, and then execute it. -/
def carryOut
    (store : Store σ)
    (plan : Dialect → Introspection → Traced SchemaError (List Statement)) :
    Action σ SchemaError Unit := do
  let statements ←
    Action.inspect (fun state => plan store.dialect (store.backend.introspect state))
  store.executeAll statements

/-- The snapshot of a table is loaded from the answers of one state. -/
theorem snapshot_eq (store : Store σ) (table : String) :
    store.snapshot table =
      Action.inspect (fun state => Snapshot.load (store.backend.introspect state) table) := by
  unfold snapshot Snapshot.load
  simp only [Traced.mapError_bind, Action.inspect_bind]
  rfl

/-- Creating a table asks whether it is there. -/
theorem create_eq_carryOut (store : Store σ) (blueprint : Blueprint) :
    store.create blueprint = store.carryOut blueprint.planCreate := by
  unfold create carryOut Blueprint.planCreate
  dsimp only
  rw [Action.inspect_bind, bind_assoc]
  congr 1
  funext there
  cases there with
  | true =>
      rfl
  | false =>
      simp only [Bool.false_eq_true, if_false]
      rw [Action.inspect_bind, bind_assoc]
      rfl

/-- Altering a table asks that too, and then for its columns or its snapshot. -/
theorem alter_eq_carryOut (store : Store σ) (blueprint : Blueprint) :
    store.alter blueprint = store.carryOut blueprint.planAlter := by
  unfold alter carryOut Blueprint.planAlter
  dsimp only
  rw [Action.inspect_bind, bind_assoc]
  congr 1
  funext there
  cases there with
  | false =>
      rfl
  | true =>
      simp only [Bool.not_true, Bool.false_eq_true, if_false]
      cases blueprint.isEmpty with
      | true =>
          rfl
      | false =>
          simp only [Bool.false_eq_true, if_false]
          rw [Action.inspect_bind, bind_assoc]
          congr 1
          funext resolved
          unfold alterStatements
          -- Altering in place asks for the columns, and rebuilding for a snapshot.
          cases store.dialect.capabilities.incrementalAlter with
          | true =>
              simp only [if_true, Action.inspect_bind, bind_assoc]
              rfl
          | false =>
              simp only [Bool.false_eq_true, if_false, snapshot_eq, Action.inspect_bind,
                bind_assoc]
              rfl

/-- Applying a blueprint carries its plan out. -/
theorem apply_eq_carryOut (store : Store σ) (blueprint : Blueprint) :
    store.apply blueprint = store.carryOut blueprint.plan := by
  cases purpose : blueprint.purpose with
  | create =>
      have planned : blueprint.plan = blueprint.planCreate := by
        funext dialect view
        rw [Blueprint.plan, purpose]
      rw [apply, purpose, planned]
      exact store.create_eq_carryOut blueprint
  | alter =>
      have planned : blueprint.plan = blueprint.planAlter := by
        funext dialect view
        rw [Blueprint.plan, purpose]
      rw [apply, purpose, planned]
      exact store.alter_eq_carryOut blueprint

end Store

end SchemaMigration
