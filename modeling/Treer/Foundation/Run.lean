import Mathlib.Data.List.Induction

/-!
# Runs of a deterministic system

A system answers every action with an outcome and a next state. This module
executes lists of actions, records what happened around each of them, and
packages the two inductions every safety proof needs: an invariant of all
steps, and an invariant of the steps that meet a condition on the state before
them.
-/

namespace Treer.Foundation

open List

universe u v w

/-- One executed action with its outcome and the states around it. -/
structure Entry (σ : Type u) (α : Type v) (ο : Type w) where
  before : σ
  action : α
  outcome : ο
  after : σ

variable {σ : Type u} {α : Type v} {ο : Type w} (step : σ → α → ο × σ)

/-- The state after a list of actions. -/
@[simp]
def exec : σ → List α → σ
  | state, [] => state
  | state, action :: rest => exec (step state action).2 rest

/-- Everything that happened in a list of actions, in order. -/
def trace : σ → List α → List (Entry σ α ο)
  | _, [] => []
  | state, action :: rest =>
    ⟨state, action, (step state action).1, (step state action).2⟩ ::
      trace (step state action).2 rest

theorem exec_append (state : σ) (first second : List α) :
    exec step state (first ++ second) = exec step (exec step state first) second := by
  induction first generalizing state with
  | nil => rfl
  | cons action rest ih => exact ih (step state action).2

variable {step} {state : σ} {actions : List α}

/-- An entry of a trace is a step from the state its predecessors lead to. -/
theorem of_mem_trace {entry : Entry σ α ο} (mem : entry ∈ trace step state actions) :
    ∃ earlier later, actions = earlier ++ entry.action :: later ∧
      exec step state earlier = entry.before ∧
      step entry.before entry.action = (entry.outcome, entry.after) := by
  induction actions generalizing state with
  | nil => cases mem
  | cons action rest ih =>
    rcases mem_cons.mp mem with rfl | others
    · exact ⟨[], rest, rfl, rfl, rfl⟩
    · obtain ⟨earlier, later, rfl, reached, stepped⟩ := ih others
      exact ⟨action :: earlier, later, rfl, reached, stepped⟩

variable {holds : σ → Prop}

/-- What every step preserves holds after every list of actions. -/
theorem exec_invariant (preserved : ∀ state action, holds state → holds (step state action).2)
    (initial : holds state) (actions : List α) :
    holds (exec step state actions) := by
  induction actions generalizing state with
  | nil => exact initial
  | cons action rest ih => exact ih (preserved state action initial)

theorem trace_append (state : σ) (first second : List α) : trace step state (first ++ second) =
      trace step state first ++ trace step (exec step state first) second := by
  induction first generalizing state with
  | nil => rfl
  | cons action rest ih => exact congrArg (cons _) (ih (step state action).2)

/-- What every step preserves of the state and the history holds after every list of actions. -/
theorem trace_invariant (holds : List (Entry σ α ο) → σ → Prop)
    (preserved : ∀ history state action, holds history state →
      holds (history ++ [⟨state, action, (step state action).1, (step state action).2⟩])
        (step state action).2) (initial : holds [] state) (actions : List α) :
    holds (trace step state actions) (exec step state actions) := by
  induction actions using reverseRecOn with
  | nil => exact initial
  | append_singleton actions action ih =>
    rw [trace_append, exec_append]
    exact preserved _ _ action ih

/-- A property of an entry and any later one, shown from the state the earlier was taken in, holds
of every two entries of a trace. -/
theorem pairwise_trace {related : Entry σ α ο → Entry σ α ο → Prop} (holds : σ → Prop)
    (preserved : ∀ state action, holds state → holds (step state action).2)
    (covers : ∀ state action rest, holds state →
      ∀ later ∈ trace step (step state action).2 rest,
        related ⟨state, action, (step state action).1, (step state action).2⟩ later)
    (initial : holds state) (actions : List α) : (trace step state actions).Pairwise related := by
  induction actions generalizing state with
  | nil => exact .nil
  | cons action rest ih =>
    exact Pairwise.cons (covers state action rest initial) (ih (preserved state action initial))

/-- Every action of a list is taken in a state that allows it. -/
def AllSteps (step : σ → α → ο × σ) (allowed : σ → α → Prop) : σ → List α → Prop
  | _, [] => True
  | state, action :: rest => allowed state action ∧ AllSteps step allowed (step state action).2 rest

instance AllSteps.decidable (step : σ → α → ο × σ) (allowed : σ → α → Prop)
    [∀ state action, Decidable (allowed state action)] :
    ∀ state actions, Decidable (AllSteps step allowed state actions)
  | _, [] => isTrue trivial
  | state, action :: rest =>
    have := AllSteps.decidable step allowed (step state action).2 rest
    inferInstanceAs
      (Decidable (allowed state action ∧ AllSteps step allowed (step state action).2 rest))

variable {allowed : σ → α → Prop}

theorem AllSteps.append_iff {first second : List α} :
    AllSteps step allowed state (first ++ second) ↔
      AllSteps step allowed state first ∧ AllSteps step allowed (exec step state first) second := by
  induction first generalizing state with
  | nil => exact (and_iff_right trivial).symm
  | cons action rest ih => exact (and_congr_right fun _ => ih).trans and_assoc.symm

/-- What every allowed step preserves holds in every state of a run of allowed
steps. -/
theorem AllSteps.invariant
    (preserved : ∀ state action, holds state → allowed state action →
      holds (step state action).2) {earlier later : List α} (initial : holds state)
    (allSteps : AllSteps step allowed state (earlier ++ later)) :
    holds (exec step state earlier) := by
  induction earlier generalizing state with
  | nil => exact initial
  | cons action rest ih => exact ih (preserved state action initial allSteps.1) allSteps.2

variable {goal : σ → α → Prop}

theorem AllSteps.of_forall (always : ∀ state action, goal state action) (state : σ)
    (actions : List α) : AllSteps step goal state actions := by
  induction actions generalizing state with
  | nil => trivial
  | cons action rest ih => exact ⟨always state action, ih _⟩

/-- A step that is allowed where the invariant holds has any property that follows from it. -/
theorem AllSteps.mono
    (preserved : ∀ state action, holds state → allowed state action → holds (step state action).2)
    (implies : ∀ state action, holds state → allowed state action → goal state action)
    (initial : holds state) (allSteps : AllSteps step allowed state actions) :
    AllSteps step goal state actions := by
  induction actions generalizing state with
  | nil => trivial
  | cons action rest ih =>
    exact ⟨implies state action initial allSteps.1,
      ih (preserved state action initial allSteps.1) allSteps.2⟩

/-- A property of the steps that follows from an invariant. -/
theorem AllSteps.of_invariant
    (preserved : ∀ state action, holds state → holds (step state action).2)
    (implies : ∀ state action, holds state → goal state action) (initial : holds state)
    (actions : List α) : AllSteps step goal state actions := by
  have free : AllSteps step (fun _ _ => True) state actions := of_forall (fun _ _ => trivial) ..
  exact free.mono (fun state action kept _ => preserved state action kept)
    (fun state action kept _ => implies state action kept) initial

/-- When the steps that keep a property are the allowed ones, the runs that have it throughout are
those of allowed steps. -/
theorem allSteps_iff {sound : σ → Prop}
    (keeps : ∀ state action, sound state → sound (step state action).2)
    (exact : ∀ state action, sound state → holds state →
      (holds (step state action).2 ↔ allowed state action)) (initial : sound state)
    (start : holds state) (actions : List α) :
    (∀ earlier later, actions = earlier ++ later → holds (exec step state earlier)) ↔
      AllSteps step allowed state actions := by
  induction actions generalizing state with
  | nil =>
    refine iff_of_true ?_ trivial
    intro earlier later split
    rw [(append_eq_nil_iff.mp split.symm).1]
    exact start
  | cons action rest ih =>
    have kept := keeps state action initial
    constructor
    · intro always
      have stays : holds (step state action).2 := always [action] rest rfl
      refine ⟨(exact state action initial start).mp stays, (ih kept stays).mp ?_⟩
      rintro earlier later rfl
      exact always (action :: earlier) later rfl
    · rintro ⟨allowedHere, others⟩ earlier later split
      have stays := (exact state action initial start).mpr allowedHere
      cases earlier with
      | nil => exact start
      | cons first earlier =>
        rcases cons.inj split with ⟨rfl, rfl⟩
        exact (ih kept stays).mpr others earlier later rfl

end Treer.Foundation
