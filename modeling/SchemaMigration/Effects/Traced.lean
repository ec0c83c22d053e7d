import SchemaMigration.Effects.Notice

namespace SchemaMigration

/-!
# Traced computations

A traced computation reads its inputs only: it ends with a value or an error
and leaves notices behind in either case. `Traced.outcome` forgets the notices
and commutes with sequencing, so facts about results need not mention them.
-/

/-- A result together with the notices given on the way to it. -/
structure Traced (ε α : Type) where
  notices : List Notice
  outcome : Except ε α

namespace Traced

variable {ε ε' α β : Type}

/-- A value without notices. -/
protected def pure (value : α) : Traced ε α :=
  ⟨[], .ok value⟩

/-- Go on with the value of a computation, unless it ended with an error. -/
protected def bind (first : Traced ε α) (next : α → Traced ε β) : Traced ε β :=
  match first.outcome with
  | .error problem => ⟨first.notices, .error problem⟩
  | .ok value => ⟨first.notices ++ (next value).notices, (next value).outcome⟩

instance : Monad (Traced ε) where
  pure := Traced.pure
  bind := Traced.bind

/-- End with an error. -/
def fail (problem : ε) : Traced ε α :=
  ⟨[], .error problem⟩

/-- Give notices. -/
def tell (notices : List Notice) : Traced ε Unit :=
  ⟨notices, .ok ()⟩

/-- A result that was reached without notices. -/
def ofExcept (outcome : Except ε α) : Traced ε α :=
  ⟨[], outcome⟩

/-- Wrap the error of a computation. -/
def mapError (wrap : ε → ε') (computation : Traced ε α) : Traced ε' α :=
  ⟨computation.notices, computation.outcome.mapError wrap⟩

/-- Apply a computation to every item in turn, up to the first error. -/
def each (step : α → Traced ε β) : List α → Traced ε (List β)
  | [] => pure []
  | item :: rest => do
      let value ← step item
      let values ← each step rest
      return value :: values

/-- Carry a value through a list of items, up to the first error. -/
def sweep (step : β → α → Traced ε β) : β → List α → Traced ε β
  | value, [] => pure value
  | value, item :: rest => do
      let next ← step value item
      sweep step next rest

@[simp] theorem outcome_pure (value : α) :
    (pure value : Traced ε α).outcome = .ok value :=
  rfl

@[simp] theorem outcome_bind
    (first : Traced ε α)
    (next : α → Traced ε β) :
    (first >>= next).outcome =
      first.outcome >>= (fun value => (next value).outcome) := by
  change (Traced.bind first next).outcome = _
  unfold Traced.bind
  cases first.outcome <;> rfl

@[simp] theorem outcome_tell (notices : List Notice) :
    (tell notices : Traced ε Unit).outcome = .ok () :=
  rfl

@[simp] theorem outcome_fail (problem : ε) :
    (fail problem : Traced ε α).outcome = .error problem :=
  rfl

end Traced

end SchemaMigration
