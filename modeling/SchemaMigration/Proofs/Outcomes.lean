import Mathlib.Data.List.Forall2
import SchemaMigration.Effects.Action

namespace SchemaMigration

/-!
# Outcomes of effects

What a sequence of effects that succeeded went through.  Later modules take
successful computations apart with these facts and never unfold sequencing.
-/

namespace Outcome

@[simp] theorem ok_bind
    (value : α)
    (next : α → Except ε β) :
    (Except.ok value >>= next) = next value :=
  rfl

@[simp] theorem error_bind
    (problem : ε)
    (next : α → Except ε β) :
    (Except.error problem >>= next) = .error problem :=
  rfl

/-- Wrapping errors makes no difference to success. -/
@[simp] theorem mapError_eq_ok
    {outcome : Except ε α}
    {wrap : ε → ε'}
    {value : α} :
    outcome.mapError wrap = .ok value ↔ outcome = .ok value := by
  cases outcome <;> simp [Except.mapError]

/-- A sequence succeeds when its parts do, one on the value of the other. -/
theorem bind_eq_ok
    {first : Except ε α}
    {next : α → Except ε β}
    {value : β} :
    first >>= next = .ok value ↔ ∃ between, first = .ok between ∧ next between = .ok value := by
  cases first <;> simp

theorem map_eq_ok
    {outcome : Except ε α}
    {change : α → β}
    {value : β} :
    outcome.map change = .ok value ↔ ∃ before, outcome = .ok before ∧ change before = value := by
  cases outcome <;> simp [Except.map]

/-- What each of a list of computations gives is among the results. -/
theorem mapM_gives
    {compute : α → Except ε β}
    {items : List α}
    {values : List β}
    {item : α}
    (computed : items.mapM compute = .ok values)
    (member : item ∈ items) :
    ∃ value ∈ values, compute item = .ok value := by
  induction items generalizing values with
  | nil =>
      cases member
  | cons first rest inductionHypothesis =>
      rw [List.mapM_cons, bind_eq_ok] at computed
      obtain ⟨value, here, computed⟩ := computed
      rw [bind_eq_ok] at computed
      obtain ⟨others, later, returned⟩ := computed
      cases returned
      rcases List.mem_cons.mp member with rfl | inRest
      · exact ⟨value, List.mem_cons_self, here⟩
      · obtain ⟨other, isLater, isComputed⟩ := inductionHypothesis later inRest
        exact ⟨other, List.mem_cons_of_mem _ isLater, isComputed⟩

end Outcome

namespace Traced

/-- A sequence succeeds when its parts do, one on the value of the other. -/
theorem outcome_bind_eq_ok
    {first : Traced ε α}
    {next : α → Traced ε β}
    {value : β} :
    (first >>= next).outcome = .ok value ↔
      ∃ between,
        first.outcome = .ok between ∧
          (next between).outcome = .ok value := by
  rw [outcome_bind]
  cases first.outcome <;> simp

@[simp] theorem outcome_ofExcept (outcome : Except ε α) :
    (ofExcept outcome).outcome = outcome :=
  rfl

@[simp] theorem outcome_mapError
    (wrap : ε → ε')
    (computation : Traced ε α) :
    (mapError wrap computation).outcome = computation.outcome.mapError wrap :=
  rfl

/-- Each item of a list has its value in the list of values. -/
theorem outcome_each_eq_ok
    {step : α → Traced ε β}
    {items : List α}
    {values : List β} :
    (each step items).outcome = .ok values ↔
      List.Forall₂
        (fun item value => (step item).outcome = .ok value)
        items values := by
  induction items generalizing values with
  | nil =>
      simp [each, eq_comm]
  | cons item rest inductionHypothesis =>
      simp only [each, outcome_bind_eq_ok, outcome_pure,
        Except.ok.injEq, inductionHypothesis,
        List.forall₂_cons_left_iff]
      constructor
      · rintro ⟨value, reached, later, restValues, rfl⟩
        exact ⟨value, later, reached, restValues, rfl⟩
      · rintro ⟨value, later, reached, restValues, rfl⟩
        exact ⟨value, reached, later, restValues, rfl⟩

section Each

/-- Items that are related one by one to others leave none of the others out. -/
theorem related_of_mem
    {related : α → β → Prop}
    {first : List α}
    {second : List β}
    (allRelated : List.Forall₂ related first second)
    {value : β}
    (member : value ∈ second) :
    ∃ item ∈ first, related item value := by
  induction allRelated with
  | nil =>
      cases member
  | cons here _ inductionHypothesis =>
      rcases List.mem_cons.mp member with rfl | later
      · exact ⟨_, .head _, here⟩
      · obtain ⟨item, there, reached⟩ := inductionHypothesis later
        exact ⟨item, .tail _ there, reached⟩

variable
  {step : α → Traced ε β}
  {items : List α}
  {values : List β}

/-- Each value comes from an item. -/
theorem item_of_mem_each
    (succeeded : (each step items).outcome = .ok values)
    {value : β}
    (member : value ∈ values) :
    ∃ item ∈ items, (step item).outcome = .ok value :=
  related_of_mem (outcome_each_eq_ok.mp succeeded) member

/-- Each item has its value. -/
theorem value_of_mem_each
    (succeeded : (each step items).outcome = .ok values)
    {item : α}
    (member : item ∈ items) :
    ∃ value ∈ values, (step item).outcome = .ok value :=
  related_of_mem (outcome_each_eq_ok.mp succeeded).flip member

/-- What every step keeps of its item is kept of the list. -/
theorem map_each
    (succeeded : (each step items).outcome = .ok values)
    {ofItem : α → γ}
    {ofValue : β → γ}
    (keeps : ∀ item value, (step item).outcome = .ok value → ofItem item = ofValue value) :
    values.map ofValue = items.map ofItem := by
  have related : List.Forall₂ Eq (items.map ofItem) (values.map ofValue) := by
    rw [List.forall₂_map_left_iff, List.forall₂_map_right_iff]
    exact (outcome_each_eq_ok.mp succeeded).imp keeps
  rw [List.forall₂_eq_eq_eq] at related
  exact related.symm

/-- Steps that succeed on the items of a list give it values. -/
theorem exists_each
    (succeeds : ∀ item ∈ items, ∃ value, (step item).outcome = .ok value) :
    ∃ values, (each step items).outcome = .ok values := by
  induction items with
  | nil =>
      exact ⟨[], rfl⟩
  | cons item rest inductionHypothesis =>
      obtain ⟨⟨value, first⟩, restSucceeds⟩ := List.forall_mem_cons.mp succeeds
      obtain ⟨values, later⟩ := inductionHypothesis restSucceeds
      exact ⟨value :: values, outcome_each_eq_ok.mpr (.cons first (outcome_each_eq_ok.mp later))⟩

/-- Steps that always succeed give the list of their values. -/
theorem outcome_each_of_ok
    {value : α → β}
    (succeeds : ∀ item, (step item).outcome = .ok (value item))
    (items : List α) :
    (each step items).outcome = .ok (items.map value) := by
  rw [outcome_each_eq_ok, List.forall₂_map_right_iff, List.forall₂_same]
  exact fun item _ => succeeds item

end Each

/--
A sweep whose successful steps compute a function is a fold of the function.
-/
theorem sweep_eq_foldl
    {step : β → α → Traced ε β}
    {move : β → α → β}
    (moves :
      ∀ value item next,
        (step value item).outcome = .ok next →
          next = move value item)
    {items : List α}
    {start final : β}
    (swept : (sweep step start items).outcome = .ok final) :
    final = items.foldl move start := by
  induction items generalizing start with
  | nil =>
      simpa [sweep, eq_comm] using swept
  | cons item rest inductionHypothesis =>
      simp only [sweep, outcome_bind_eq_ok] at swept
      obtain ⟨next, stepped, restSwept⟩ := swept
      rw [List.foldl_cons, ← moves start item next stepped]
      exact inductionHypothesis restSwept

/-- What every successful step of a sweep keeps holds of where the sweep ends. -/
theorem sweep_keeps
    {step : β → α → Traced ε β}
    (good : β → Prop)
    (fits : α → Prop)
    (keeps :
      ∀ value item next,
        good value → fits item →
          (step value item).outcome = .ok next →
            good next)
    {items : List α}
    (allFit : ∀ item ∈ items, fits item)
    {start final : β}
    (startGood : good start)
    (swept : (sweep step start items).outcome = .ok final) :
    good final := by
  induction items generalizing start with
  | nil =>
      cases swept
      exact startGood
  | cons item rest inductionHypothesis =>
      simp only [sweep, outcome_bind_eq_ok] at swept
      obtain ⟨next, stepped, restSwept⟩ := swept
      exact inductionHypothesis
        (fun later member => allFit later (List.mem_cons_of_mem _ member))
        (keeps start item next startGood (allFit item List.mem_cons_self) stepped)
        restSwept

/-- What every successful step of a sweep asks of its item holds of each item. -/
theorem sweep_asks
    {step : β → α → Traced ε β}
    (good : β → Prop)
    (asked : α → Prop)
    (steps :
      ∀ value item next,
        good value →
          (step value item).outcome = .ok next →
            good next ∧ asked item)
    {items : List α}
    {start final : β}
    (startGood : good start)
    (swept : (sweep step start items).outcome = .ok final) :
    ∀ item ∈ items, asked item := by
  induction items generalizing start with
  | nil =>
      exact fun _ member => nomatch member
  | cons item rest inductionHypothesis =>
      simp only [sweep, outcome_bind_eq_ok] at swept
      obtain ⟨next, stepped, restSwept⟩ := swept
      obtain ⟨nextGood, itemAsked⟩ := steps start item next startGood stepped
      exact List.forall_mem_cons.mpr ⟨itemAsked, inductionHypothesis nextGood restSwept⟩

/-! ## Why computations fail -/

/-- Whether a computation fails for reasons of one sort only. -/
def FailsOnly (sort : ε → Prop) (computation : Traced ε α) : Prop :=
  ∀ problem, computation.outcome = .error problem → sort problem

section FailsOnly

variable {sort : ε → Prop}

@[simp] theorem failsOnly_pure (value : α) :
    (pure value : Traced ε α).FailsOnly sort :=
  nofun

@[simp] theorem failsOnly_tell (notices : List Notice) :
    (tell notices : Traced ε Unit).FailsOnly sort :=
  nofun

@[simp] theorem failsOnly_fail {problem : ε} :
    (fail problem : Traced ε α).FailsOnly sort ↔ sort problem := by
  simp [FailsOnly]

theorem failsOnly_bind
    {first : Traced ε α}
    {next : α → Traced ε β}
    (firstFails : first.FailsOnly sort)
    (nextFails :
      ∀ value, first.outcome = .ok value → (next value).FailsOnly sort) :
    (first >>= next).FailsOnly sort := by
  intro problem failed
  rw [outcome_bind] at failed
  cases reached : first.outcome with
  | error cause =>
      rw [reached] at failed
      cases failed
      exact firstFails problem reached
  | ok value =>
      rw [reached] at failed
      exact nextFails value reached problem failed

theorem failsOnly_each
    {step : α → Traced ε β}
    {items : List α}
    (stepFails : ∀ item ∈ items, (step item).FailsOnly sort) :
    (each step items).FailsOnly sort := by
  induction items with
  | nil =>
      exact failsOnly_pure []
  | cons item rest inductionHypothesis =>
      refine failsOnly_bind (stepFails item List.mem_cons_self) ?_
      intro value _
      refine failsOnly_bind ?_ (fun values _ => failsOnly_pure _)
      exact inductionHypothesis (fun later member =>
        stepFails later (List.mem_cons_of_mem _ member))

theorem failsOnly_sweep
    {step : β → α → Traced ε β}
    (stepFails : ∀ value item, (step value item).FailsOnly sort)
    (start : β)
    (items : List α) :
    (sweep step start items).FailsOnly sort := by
  induction items generalizing start with
  | nil =>
      exact failsOnly_pure start
  | cons item rest inductionHypothesis =>
      exact failsOnly_bind (stepFails start item) (fun next _ => inductionHypothesis next)

theorem failsOnly_ofExcept
    {outcome : Except ε α}
    (fails : ∀ problem, outcome = .error problem → sort problem) :
    (ofExcept outcome).FailsOnly sort :=
  fails

theorem failsOnly_mapError
    {wrap : ε' → ε}
    {computation : Traced ε' α}
    (fails : computation.FailsOnly (fun cause => sort (wrap cause))) :
    (mapError wrap computation).FailsOnly sort := by
  intro problem failed
  rw [outcome_mapError] at failed
  cases reached : computation.outcome with
  | error cause =>
      rw [reached] at failed
      cases failed
      exact fails cause reached
  | ok value =>
      rw [reached] at failed
      cases failed

end FailsOnly

end Traced

namespace Action

/-! ## Where actions end -/

/-- A condition on the state and the outcome with which an action ends. -/
def Ends
    (action : Action σ ε α)
    (state : σ)
    (post : σ → Except ε α → Prop) :
    Prop :=
  post (action state).state (action state).outcome

/-- A sequence ends as its second part does, or where its first part failed. -/
theorem ends_bind
    {first : Action σ ε α}
    {next : α → Action σ ε β}
    {state : σ}
    {post : σ → Except ε β → Prop} :
    (first >>= next).Ends state post ↔
      first.Ends state (fun between outcome =>
        match outcome with
        | .error problem => post between (.error problem)
        | .ok value => (next value).Ends between post) := by
  change post (Action.bind first next state).state (Action.bind first next state).outcome ↔ _
  unfold Ends Action.bind
  obtain ⟨between, notices, outcome⟩ := first state
  cases outcome <;> rfl

section Parts

variable
  {state : σ}
  {post : σ → Except ε α → Prop}

@[simp] theorem ends_pure {value : α} :
    (pure value : Action σ ε α).Ends state post ↔ post state (.ok value) :=
  Iff.rfl

@[simp] theorem ends_ofExcept {outcome : Except ε α} :
    (ofExcept outcome).Ends state post ↔ post state outcome :=
  Iff.rfl

@[simp] theorem ends_current {post : σ → Except ε σ → Prop} :
    current.Ends state post ↔ post state (.ok state) :=
  Iff.rfl

@[simp] theorem ends_replace
    {other : σ}
    {post : σ → Except ε Unit → Prop} :
    (replace other).Ends state post ↔ post other (.ok ()) :=
  Iff.rfl

@[simp] theorem ends_tell
    {notices : List Notice}
    {post : σ → Except ε Unit → Prop} :
    (tell notices).Ends state post ↔ post state (.ok ()) :=
  Iff.rfl

@[simp] theorem ends_inspect {read : σ → Traced ε α} :
    (inspect read).Ends state post ↔ post state (read state).outcome :=
  Iff.rfl

@[simp] theorem ends_mapError
    {wrap : ε' → ε}
    {action : Action σ ε' α} :
    (mapError wrap action).Ends state post ↔
      action.Ends state (fun reached outcome => post reached (outcome.mapError wrap)) :=
  Iff.rfl

@[simp] theorem ends_focus
    {part : σ → τ}
    {put : σ → τ → σ}
    {action : Action τ ε α} :
    (focus part put action).Ends state post ↔
      action.Ends (part state) (fun reached outcome => post (put state reached) outcome) :=
  Iff.rfl

@[simp] theorem ends_attempt
    {action : Action σ ε' α}
    {post : σ → Except ε (Except ε' α) → Prop} :
    (attempt action).Ends state post ↔
      action.Ends state (fun reached outcome => post reached (.ok outcome)) :=
  Iff.rfl

end Parts

/-- A condition may be replaced by one that it implies. -/
theorem Ends.imp
    {action : Action σ ε α}
    {state : σ}
    {post wider : σ → Except ε α → Prop}
    (ends : action.Ends state post)
    (implies : ∀ reached outcome, post reached outcome → wider reached outcome) :
    action.Ends state wider :=
  implies _ _ ends

/-- A condition that always holds is one that every action ends with. -/
theorem ends_of_forall
    {action : Action σ ε α}
    {state : σ}
    {post : σ → Except ε α → Prop}
    (always : ∀ reached outcome, post reached outcome) :
    action.Ends state post :=
  always _ _

/-- Whether an action succeeds and reaches a state with a property. -/
def Completes (action : Action σ ε Unit) (state : σ) (reaches : σ → Prop) : Prop :=
  action.Ends state (fun reached outcome => outcome = .ok () ∧ reaches reached)

theorem Completes.imp
    {action : Action σ ε Unit}
    {state : σ}
    {reaches wider : σ → Prop}
    (completes : action.Completes state reaches)
    (implies : ∀ reached, reaches reached → wider reached) :
    action.Completes state wider :=
  ⟨completes.1, implies _ completes.2⟩

/-- A sequence completes when its first part does and its second part does from there. -/
theorem completes_bind
    {first : Action σ ε Unit}
    {next : Unit → Action σ ε Unit}
    {state : σ}
    {reaches : σ → Prop} :
    (first >>= next).Completes state reaches ↔
      first.Completes state (fun between => (next ()).Completes between reaches) := by
  unfold Completes
  rw [ends_bind]
  unfold Ends
  cases (first state).outcome <;> simp

end Action

end SchemaMigration
