import Treer.Foundation.Outcome

/-!
# Services with hidden state

A service answers with a value or an error and keeps state, such as a cache,
between its calls. The state survives an error.

`Computes` compares a service with a computation without state. Under an
assumption on the state that successful calls keep, the service answers as the
computation does, however often and in whatever order its parts are called.
-/

namespace Treer.Foundation

universe u v

/-- A program over hidden state, ending in a value or an error. -/
def Service (σ : Type u) (ε : Type v) (α : Type) : Type (max u v) :=
  σ → Except ε α × σ

namespace Service

variable {σ : Type u} {τ : Type u} {ε ε' : Type v} {α β : Type}
  {program : Service σ ε α} {rest : α → Service σ ε β} {state next : σ}

/-- Sequential composition; an error skips the rest of the program. -/
def andThen (first : Service σ ε α) (rest : α → Service σ ε β) : Service σ ε β := fun state =>
  match first state with
  | (.ok value, next) => rest value next
  | (.error error, next) => (.error error, next)

instance : Monad (Service σ ε) where
  pure value := fun state => (.ok value, state)
  bind := andThen

/-- A computation that does not touch the state. -/
def lift (outcome : Except ε α) : Service σ ε α := fun state => (outcome, state)

/-- Read from the state. -/
def read (query : σ → α) : Service σ ε α := fun state => (.ok (query state), state)

/-- Write the state. -/
def modify (write : σ → σ) : Service σ ε Unit := fun state => (.ok (), write state)

/-- `map_err`. -/
def mapError (translate : ε → ε') (program : Service σ ε α) : Service σ ε' α := fun state =>
  ((program state).1.mapError translate, (program state).2)

/-- A program over one part of the state. -/
def zoom (part : τ → σ) (replace : σ → τ → τ) (program : Service σ ε α) : Service τ ε α :=
  fun state => ((program (part state)).1, replace (program (part state)).2 state)

theorem bind_of_ok {value : α} (ran : program state = (.ok value, next)) :
    (program >>= rest) state = rest value next := by
  change andThen program rest state = _
  rw [andThen, ran]

theorem bind_of_error {error : ε} (ran : program state = (.error error, next)) :
    (program >>= rest) state = (.error error, next) := by
  change andThen program rest state = _
  rw [andThen, ran]

end Service

open Service
variable {σ τ : Type u} {ε ε' : Type v} {α β : Type} {holds : σ → Prop}
  {program : Service σ ε α} {rest : α → Service σ ε β} {outcome : Except ε α}
  {results : α → Except ε β}

/-- From every state of a kind the service answers as the computation does and ends in such a state.
-/
def Computes (holds : σ → Prop) (program : Service σ ε α) (outcome : Except ε α) : Prop :=
  ∀ state, holds state → (program state).1 = outcome ∧
    ∀ value, outcome = .ok value → holds (program state).2

theorem computes_lift (outcome : Except ε α) : Computes holds (lift outcome) outcome :=
  fun _ held => ⟨rfl, fun _ _ => held⟩

theorem computes_lift_of_eq {outcome result : Except ε α} (same : outcome = result) :
    Computes holds (lift outcome) result :=
  same ▸ computes_lift outcome

theorem computes_pure (value : α) : Computes holds (pure value : Service σ ε α) (.ok value) :=
  fun _ held => ⟨rfl, fun _ _ => held⟩

theorem computes_modify {write : σ → σ} (keeps : ∀ state, holds state → holds (write state)) :
    Computes holds (modify write : Service σ ε Unit) (.ok ()) :=
  fun state held => ⟨rfl, fun _ _ => keeps state held⟩

theorem Computes.bind (first : Computes holds program outcome)
    (others : ∀ value, outcome = .ok value → Computes holds (rest value) (results value)) :
    Computes holds (program >>= rest) (outcome >>= results) := by
  intro state held
  rcases first state held with ⟨answer, kept⟩
  cases ran : program state with
  | mk result next =>
    rw [ran] at answer kept
    cases answer
    cases result with
    | error error =>
      rw [bind_of_error ran]
      exact ⟨rfl, fun _ done => nomatch done⟩
    | ok value =>
      rw [bind_of_ok ran]
      exact others value rfl next (kept value rfl)

theorem Computes.bind_ok {value : α} {outcome : Except ε β}
    (first : Computes holds program (.ok value))
    (others : Computes holds (rest value) outcome) : Computes holds (program >>= rest) outcome := by
  have whole : Computes holds (program >>= rest)
      ((.ok value : Except ε α) >>= fun _ => outcome) := by
    apply first.bind
    rintro _ ⟨⟩
    exact others
  exact whole

theorem Computes.bind_error {error : ε} (first : Computes holds program (.error error)) :
    Computes holds (program >>= rest) (.error error) := by
  have whole : Computes holds (program >>= rest)
      ((.error error : Except ε α) >>= fun _ => .error error) := by
    apply first.bind
    rintro _ ⟨⟩
  exact whole

/-- A loop of calls computes the loop of the computations. -/
theorem Computes.forM {ι : Type} {items : List ι} {program : ι → Service σ ε PUnit}
    {outcome : ι → Except ε PUnit}
    (each : ∀ item ∈ items, Computes holds (program item) (outcome item)) :
    Computes holds (items.forM program) (items.forM outcome) := by
  induction items with
  | nil => exact computes_pure _
  | cons item rest ih =>
    rw [List.forall_mem_cons] at each
    exact each.1.bind fun _ _ => ih each.2

theorem Computes.mapError (computes : Computes holds program outcome) (translate : ε → ε') :
    Computes holds (program.mapError translate) (outcome.mapError translate) := by
  intro state held
  rcases computes state held with ⟨answer, kept⟩
  refine ⟨congrArg (Except.mapError translate) answer, ?_⟩
  intro value done
  cases outcome with
  | error error => cases done
  | ok result => exact kept result rfl

/-- The start, and the state that a successful call from it leads to. -/
def SettledAt (program : Service σ ε α) (start state : σ) : Prop :=
  state = start ∨ ∃ value, program start = (.ok value, state)

/-- A call that would answer the same again at its end, followed by steps that only look, answers
the same however often it was made before. -/
theorem computes_of_steady {start : σ}
    (steady : ∀ value next, program start = (.ok value, next) → program next = (.ok value, next))
    (looks : ∀ value next, program start = (.ok value, next) →
      rest value next = (results value, next)) :
    Computes (SettledAt program start) (program >>= rest) ((program start).1 >>= results) := by
  intro state settled
  cases ran : program start with
  | mk result next =>
    cases result with
    | error error =>
      rcases settled with rfl | ⟨value, again⟩
      · rw [bind_of_error ran]
        exact ⟨rfl, fun _ done => nomatch done⟩
      · rw [ran] at again
        cases again
    | ok value =>
      have after : program state = (.ok value, next) := by
        rcases settled with rfl | ⟨other, again⟩
        · exact ran
        rw [ran] at again
        cases again
        exact steady value _ ran
      rw [bind_of_ok after, looks value next ran]
      exact ⟨rfl, fun _ _ => .inr ⟨value, ran⟩⟩

/-- A service over one part of the state leaves the other parts alone. -/
theorem Computes.zoom {inner : σ → Prop} {outer : τ → Prop} {part : τ → σ}
    {replace : σ → τ → τ} (computes : Computes inner program outcome)
    (enter : ∀ state, outer state → inner (part state))
    (leave : ∀ state next, outer state → inner next → outer (replace next state)) :
    Computes outer (program.zoom part replace) outcome := by
  intro state held
  rcases computes (part state) (enter state held) with ⟨answer, kept⟩
  exact ⟨answer, fun value done => leave state _ held (kept value done)⟩

end Treer.Foundation
