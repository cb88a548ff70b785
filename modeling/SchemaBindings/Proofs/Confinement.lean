import Mathlib.Logic.Relation

/-!
# What steps can make of a state

Often nothing is to be known of a program but that it leaves something alone, or that it
changes a state in certain ways only, however it goes on and whatever it is given. Such a
property is a relation between the states before and after. It is shown of a program along
its text: of two steps that follow one another it holds if it holds of each, and of a loop
if it holds of every round. Nothing has to be known of the values that are handed from one
step to the next, so the relation is never asked under a condition; what depends on the
state belongs into the relation.

The rules are instances where a program says which one is needed. The result of a step that
can fail is a value like any other here: the state is what the step has left of it.
-/
namespace SchemaBindings

/-- A step that takes every state to one that stands in some relation to it. -/
class Confined {σ α : Type} (may : σ → σ → Prop) (step : StateM σ α) : Prop where
  confined : ∀ state, may state (step.run state).2

/-- A relation between states that holds where nothing is done, and of two steps that follow one
another if it holds of each. -/
class Composes {σ : Type} (may : σ → σ → Prop) : Prop where
  stay : ∀ state, may state state
  next : ∀ {first second third}, may first second → may second third → may first third

/-- What one or more changes can come to, or none, is closed under all that follows. -/
instance reflTransGen_composes {σ : Type} (change : σ → σ → Prop) :
    Composes (Relation.ReflTransGen change) where
  stay _ := .refl
  next first second := first.trans second

/-- A relation between parts of states composes as a relation between the states. -/
instance invImage_composes {σ τ : Type} (may : τ → τ → Prop) [Composes may] (part : σ → τ) :
    Composes (InvImage may part) where
  stay state := Composes.stay (part state)
  next first second := @Composes.next τ may _ _ _ _ first second

section Composing

variable {σ α β : Type} {may : σ → σ → Prop}

/-- A step that looks at the state is what it does then. -/
theorem Confined.get {later : σ → StateM σ β} (went : ∀ state, Confined may (later state)) :
    Confined may (MonadState.get >>= later) :=
  ⟨fun state => (went state).confined state⟩

/-- One of two steps is confined if both are, whatever the condition says. -/
theorem Confined.either {condition : Prop} [Decidable condition] {first second : StateM σ α}
    (begun : Confined may first) (went : Confined may second) :
    Confined may (if condition then first else second) := by
  split
  · exact begun
  · exact went

/-- A condition is decided before the step, and does not count as one. -/
instance ite_confined (condition : Prop) [Decidable condition] (first second : StateM σ α)
    [begun : Confined may first] [went : Confined may second] :
    Confined may (if condition then first else second) :=
  .either begun went

variable [Composes may]

/-- To give a value is to do nothing. -/
instance pure_confined (value : α) : Confined may (pure value : StateM σ α) := ⟨Composes.stay⟩

/-- Two steps are confined if the first one is, and the second one whatever it is handed. -/
theorem Confined.bind {first : StateM σ α} {later : α → StateM σ β} (begun : Confined may first)
    (went : ∀ value, Confined may (later value)) : Confined may (first >>= later) :=
  ⟨fun state => Composes.next (begun.confined state) ((went _).confined (first.run state).2)⟩

/-- A loop over a list is confined if each of its rounds is, from whatever the rounds before have
come to. The induction is on the list, and a round that breaks off ends it. -/
theorem Confined.forIn {items : List α} {start : β} {step : α → β → StateM σ (ForInStep β)}
    (each : ∀ item state, Confined may (step item state)) :
    Confined may (ForIn.forIn items start step) := by
  induction items generalizing start with
  | nil => exact pure_confined start
  | cons item items inductionHypothesis =>
    rw [List.forIn_cons]
    refine .bind (each item start) fun outcome => ?_
    cases outcome with
    | done state => exact pure_confined state
    | yield state => exact inductionHypothesis

/-- The rule for two steps, where both are found to be confined by themselves. -/
instance bind_confined (first : StateM σ α) (later : α → StateM σ β) [begun : Confined may first]
    [went : ∀ value, Confined may (later value)] : Confined may (first >>= later) :=
  .bind begun went

/-- The rule for a step that looks at the state, in the same way. -/
instance get_confined (later : σ → StateM σ β) [went : ∀ state, Confined may (later state)] :
    Confined may (MonadState.get >>= later) :=
  .get went

/-- The rule for loops, in the same way: whatever a round is handed, it has to be confined. -/
instance forIn_confined (items : List α) (start : β) (step : α → β → StateM σ (ForInStep β))
    [each : ∀ item state, Confined may (step item state)] :
    Confined may (ForIn.forIn items start step) :=
  .forIn each

/-- What is done first only under a condition, before what is done in any case. -/
theorem Confined.optional {condition : Prop} [Decidable condition] {first : StateM σ α}
    {rest : StateM σ β} (begun : Confined may first) (went : Confined may rest) :
    Confined may (if condition then first >>= fun _ => rest else rest) := by
  split <;> infer_instance

end Composing

section Failing

variable {ε σ α β : Type} {may : σ → σ → Prop}

/-- A step that looks at the state and can fail is what it does then. -/
theorem Confined.look {later : σ → ExceptT ε (StateM σ) β}
    (went : ∀ state, Confined may (later state).run) :
    Confined may (MonadState.get >>= later).run :=
  ⟨fun state => (went state).confined state⟩

/-- A step that cannot fail does the same among steps that can. -/
theorem Confined.lift {step : StateM σ α} (stepped : Confined may step) :
    Confined may (liftM step : ExceptT ε (StateM σ) α).run :=
  ⟨stepped.confined⟩

variable [Composes may]

/-- A result that is given at once leaves the state as it is, if it is a fault just as well. -/
theorem Confined.given (given : Except ε α) :
    Confined may (liftExcept given : ExceptT ε (StateM σ) α).run := by
  cases given with
  | ok value => exact pure_confined (Except.ok value)
  | error error => exact pure_confined (Except.error error)

/-- After a step that has failed, nothing is done. -/
theorem Confined.follow {first : ExceptT ε (StateM σ) α} {later : α → ExceptT ε (StateM σ) β}
    (begun : Confined may first.run) (went : ∀ value, Confined may (later value).run) :
    Confined may (first >>= later).run := by
  rw [ExceptT.run_bind]
  refine .bind begun fun outcome => ?_
  cases outcome with
  | ok value => exact went value
  | error error => exact pure_confined (Except.error error)

end Failing

end SchemaBindings
