import Treer.Host.Results

/-!
# An operation id that comes once

The cache holds results of requests that came. An operation id that is on one request at
most therefore never finds a result there, and its command runs.
-/

namespace Treer.Host.HostState

open Foundation
variable {operationId : String} {state next : HostState} {action : HostAction}
  {outcome : HostOutcome}

/-- The operation id that an action brings. -/
def receivedId : HostAction → Option String
  | .receive _ request => request.operationId
  | _ => none

/-- No request with the operation id is open. -/
def NoCall (operationId : String) (state : HostState) : Prop :=
  ∀ place request phase, state.call? place = some (request, phase) →
    request.operationId ≠ some operationId

/-- How far an operation id is that comes on one request. -/
inductive Single (operationId : String) : Nat → HostState → Prop
  | fresh {state : HostState} (noCall : NoCall operationId state)
      (absent : state.results.get? operationId = none) : Single operationId 1 state
  | alone {state : HostState} (place : Nat)
      (only : ∀ other request phase, state.call? other = some (request, phase) →
        request.operationId = some operationId → other = place)
      (absent : state.results.get? operationId = none) : Single operationId 0 state
  | gone {state : HostState} (noCall : NoCall operationId state) : Single operationId 0 state

theorem NoCall.moves (noCall : NoCall operationId state)
    (moves : Moves state next action outcome) (other : receivedId action ≠ some operationId) :
    NoCall operationId next := by
  intro place request phase called
  rcases moves.request_before called with ⟨earlier, before⟩ | rfl
  · exact noCall place request earlier before
  · exact other

theorem absent_moves (noCall : NoCall operationId state)
    (absent : state.results.get? operationId = none)
    (moves : Moves state next action outcome) : next.results.get? operationId = none := by
  rcases moves.results_cases with ⟨_, same⟩ | ⟨place, request, result, _, called, _, results⟩
  · rw [same]
    exact absent
  · rw [results]
    exact get?_remember_eq_none absent (noCall place request _ called) result

theorem Single.moves {left : Nat} (single : Single operationId left state)
    (moves : Moves state next action outcome)
    (spare : (receivedId action).toList.count operationId ≤ left) :
    Single operationId (left - (receivedId action).toList.count operationId) next := by
  by_cases comes : receivedId action = some operationId
  · have one : (receivedId action).toList.count operationId = 1 := by simp [comes]
    rw [one] at spare ⊢
    cases single with
    | fresh noCall absent =>
      cases action with
      | receive place =>
        refine .alone place ?_ (absent_moves noCall absent moves)
        intro other own phase called ownId
        rcases moves.request_before called with ⟨earlier, before⟩ | came
        · exact absurd ownId (noCall other own earlier before)
        · cases came
          rfl
      | _ => cases comes
    | alone | gone => cases spare
  · have zero : (receivedId action).toList.count operationId = 0 := by
      rw [List.count_eq_zero, Option.mem_toList]
      exact comes
    rw [zero, Nat.sub_zero]
    cases single with
    | fresh noCall absent =>
      exact .fresh (noCall.moves moves comes) (absent_moves noCall absent moves)
    | gone noCall => exact .gone (noCall.moves moves comes)
    | alone place only absent =>
      have kept : ∀ other request phase, next.call? other = some (request, phase) →
          request.operationId = some operationId → other = place := by
        intro other request phase called ownId
        rcases moves.request_before called with ⟨earlier, before⟩ | rfl
        · exact only other request earlier before ownId
        · exact absurd ownId comes
      rcases moves.results_cases with
        ⟨_, same⟩ | ⟨spot, own, result, _, called, calls, results⟩
      · exact .alone place kept (same ▸ absent)
      by_cases ownId : own.operationId = some operationId
      · -- Its result is recorded, and no other request has the id.
        refine .gone ?_
        intro other request phase after otherId
        rcases called_cases calls after with ⟨_, none⟩ | ⟨elsewhere, before⟩
        · cases none
        · exact elsewhere ((only other request phase before otherId).trans
            (only spot own _ called ownId).symm)
      · refine .alone place kept ?_
        rw [results]
        exact get?_remember_eq_none absent ownId result

theorem Single.not_answered {left : Nat} (single : Single operationId left state)
    (moves : Moves state next action outcome) {request : HostRequest}
    {result : Except HostError HostResponse} (answered : outcome = .answered request result) :
    request.operationId ≠ some operationId := by
  intro hasId
  cases moves with
  | answered place own other called found =>
    cases answered
    have present := found operationId hasId
    cases single with
    | fresh noCall
    | gone noCall => exact noCall place request _ called hasId
    | alone spot only absent => cases absent.symm.trans present
  | _ => cases answered

/-- In every run in which an operation id comes at most once, no request with it is answered from
the results. -/
theorem not_answered_of_single (runtime : HostRuntime) (build : HostBuildInfo)
    (actions : List HostAction) (once : (actions.filterMap receivedId).count operationId ≤ 1) :
    ∀ entry ∈ trace step (initial runtime build) actions, ∀ request result,
      entry.outcome = .answered request result → request.operationId ≠ some operationId := by
  have start : Single operationId 1 (initial runtime build) := .fresh (fun _ _ _ => nofun) rfl
  generalize initial runtime build = state at start
  generalize 1 = left at start once
  induction actions generalizing state left with
  | nil =>
    intro entry mem
    cases mem
  | cons action rest ih =>
    have counted : (receivedId action).toList.count operationId +
        (rest.filterMap receivedId).count operationId ≤ left := by
      have split : (action :: rest).filterMap receivedId =
          (receivedId action).toList ++ rest.filterMap receivedId := by
        cases received : receivedId action with
        | none | some => simp [received]
      rw [split, List.count_append] at once
      exact once
    have moves := moves_of_step state action
    intro entry mem
    rcases List.mem_cons.mp mem with rfl | later
    · intro request result answered
      exact start.not_answered moves answered
    · have next := start.moves moves (Nat.le_of_add_right_le counted)
      exact ih _ _ next (Nat.le_sub_of_add_le' counted) entry later

end Treer.Host.HostState
