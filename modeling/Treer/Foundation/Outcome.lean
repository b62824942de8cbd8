import Mathlib.Tactic.Common

/-!
# Computations that end in a value or an error

`?` in the source returns the first error. A chain of fallible steps
therefore succeeds exactly when every step does.
-/

namespace Treer.Foundation

open List

universe u v

variable {ε : Type u} {α β : Type v} {ι : Type*} {items : List ι}

theorem bind_eq_ok_iff {first : Except ε α} {rest : α → Except ε β} {result : β} :
    (first >>= rest) = .ok result ↔ ∃ value, first = .ok value ∧ rest value = .ok result := by
  cases first with
  | error | ok => simp [bind, Except.bind]

@[simp]
theorem ok_bind (value : α) (rest : α → Except ε β) :
    ((.ok value : Except ε α) >>= rest) = rest value :=
  rfl

@[simp]
theorem error_bind (error : ε) (rest : α → Except ε β) :
    ((.error error : Except ε α) >>= rest) = .error error :=
  rfl

/-- `if condition { return Err(error) }`. -/
def refuse (condition : Bool) (error : ε) : Except ε Unit :=
  if condition then .error error else .ok ()

@[simp]
theorem refuse_eq_ok_iff {condition : Bool} {error : ε} {value : Unit} :
    refuse condition error = .ok value ↔ condition = false := by
  cases condition <;> simp [refuse]

@[simp]
theorem mapError_eq_ok_iff {ε' : Type*} {change : ε → ε'} {result : Except ε α} {value : α} :
    result.mapError change = .ok value ↔ result = .ok value := by
  cases result <;> simp [Except.mapError]

theorem map_eq_ok_iff {change : α → β} {result : Except ε α} {value : β} :
    result.map change = .ok value ↔ ∃ before, result = .ok before ∧ change before = value := by
  cases result <;> simp [Except.map]

/-- A loop of checks passes when every check does. -/
theorem forM_eq_ok_iff {check : ι → Except ε PUnit} :
    items.forM check = .ok ⟨⟩ ↔ ∀ item ∈ items, check item = .ok ⟨⟩ := by
  induction items with
  | nil => simp [List.forM, pure, Except.pure]
  | cons item rest ih =>
    rw [forall_mem_cons, ← ih]
    change (check item >>= fun _ => rest.forM check) = _ ↔ _
    rw [bind_eq_ok_iff]
    constructor
    · rintro ⟨_, first, others⟩
      exact ⟨first, others⟩
    · rintro ⟨first, others⟩
      exact ⟨_, first, others⟩

variable {make : ι → Except ε α}

/-- Collecting fallible results collects the result of every item. -/
theorem mem_of_mapM_eq_ok {made : List α} (done : items.mapM make = .ok made) {value : α} :
    value ∈ made ↔ ∃ item ∈ items, make item = .ok value := by
  induction items generalizing made with
  | nil =>
    cases done
    simp
  | cons item rest ih =>
    rw [mapM_cons] at done
    rcases bind_eq_ok_iff.mp done with ⟨first, firstMade, others⟩
    rcases bind_eq_ok_iff.mp others with ⟨later, laterMade, whole⟩
    cases whole
    simp [ih laterMade, firstMade, eq_comm]

/-- What every round of a fallible loop preserves, the loop preserves. -/
theorem foldlM_invariant {σ : Type v} {round : σ → ι → Except ε σ} {holds : σ → Prop}
    {before after : σ}
    (preserved : ∀ state item next, item ∈ items → round state item = .ok next →
      holds state → holds next)
    (done : items.foldlM round before = .ok after) (start : holds before) : holds after := by
  induction items generalizing before with
  | nil =>
    cases done
    exact start
  | cons item rest ih =>
    rcases bind_eq_ok_iff.mp done with ⟨next, first, others⟩
    apply ih _ others (preserved before item next mem_cons_self first start)
    intro state later following mem
    exact preserved state later following (mem_cons_of_mem item mem)

/-- Present the outcome of one operation as the reply of a system. -/
def answer {σ : Type*} {α β : Type} (wrap : α → β) (result : Except ε α × σ) : Except ε β × σ :=
  (result.1.map wrap, result.2)

section
variable {σ : Type*} {α β : Type} {wrap : α → β} {result : Except ε α × σ} {after : σ}

theorem answer_eq_ok {reply : β} (done : answer wrap result = (.ok reply, after)) :
    ∃ response, wrap response = reply ∧ result = (.ok response, after) := by
  rcases result with ⟨_ | response, _⟩
  · cases done
  · cases done
    exact ⟨response, rfl, rfl⟩

theorem answer_eq_error {error : ε} (failed : answer wrap result = (.error error, after)) :
    result = (.error error, after) := by
  rcases result with ⟨_ | _, _⟩
  · cases failed
    rfl
  · cases failed

end
end Treer.Foundation
