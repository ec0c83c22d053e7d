import SchemaMigration.Effects.Traced

namespace SchemaMigration

/-!
# Actions on a state

An action moves a state, gives notices, and ends with a value or an error. The
state it reached is kept when it fails: nothing is rolled back.
-/

/-- Where an action ended. -/
structure Ending (σ ε α : Type) where
  state : σ
  notices : List Notice
  outcome : Except ε α

/-- A step of a run over states of type `σ`. -/
def Action (σ ε α : Type) : Type :=
  σ → Ending σ ε α

namespace Action

variable {σ τ ε ε' α β : Type}

/-- Leave the state alone and give a value. -/
protected def pure (value : α) : Action σ ε α :=
  fun state => ⟨state, [], .ok value⟩

/-- Go on from the state an action reached, unless it failed. -/
protected def bind (first : Action σ ε α) (next : α → Action σ ε β) : Action σ ε β :=
  fun state =>
    let reached := first state
    match reached.outcome with
    | .error problem => ⟨reached.state, reached.notices, .error problem⟩
    | .ok value =>
        let ending := next value reached.state
        ⟨ending.state, reached.notices ++ ending.notices, ending.outcome⟩

instance : Monad (Action σ ε) where
  pure := Action.pure
  bind := Action.bind

/-- Fail without touching the state. -/
def fail (problem : ε) : Action σ ε α :=
  fun state => ⟨state, [], .error problem⟩

/-- The current state. -/
def current : Action σ ε σ :=
  fun state => ⟨state, [], .ok state⟩

/-- Put another state in place of the current one. -/
def replace (state : σ) : Action σ ε Unit :=
  fun _ => ⟨state, [], .ok ()⟩

/-- Give notices. -/
def tell (notices : List Notice) : Action σ ε Unit :=
  fun state => ⟨state, notices, .ok ()⟩

/-- A computation that only reads the state. -/
def inspect (read : σ → Traced ε α) : Action σ ε α :=
  fun state => ⟨state, (read state).notices, (read state).outcome⟩

/-- A computation that needs no state. -/
def ofTraced (computation : Traced ε α) : Action σ ε α :=
  inspect (fun _ => computation)

/-- Succeed or fail with a result that is at hand. -/
def ofExcept (outcome : Except ε α) : Action σ ε α :=
  fun state => ⟨state, [], outcome⟩

/-- Wrap the error of an action. -/
def mapError (wrap : ε → ε') (action : Action σ ε α) : Action σ ε' α :=
  fun state =>
    let ending := action state
    ⟨ending.state, ending.notices, ending.outcome.mapError wrap⟩

/-- Run an action on a part of a larger state. -/
def focus (part : σ → τ) (put : σ → τ → σ) (action : Action τ ε α) : Action σ ε α :=
  fun state =>
    let ending := action (part state)
    ⟨put state ending.state, ending.notices, ending.outcome⟩

/-- Run an action and hand over its outcome, so that the run goes on. -/
def attempt (action : Action σ ε α) : Action σ ε' (Except ε α) :=
  fun state =>
    let ending := action state
    ⟨ending.state, ending.notices, .ok ending.outcome⟩

end Action

end SchemaMigration
