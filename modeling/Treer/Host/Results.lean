import Treer.Host.Turns

/-!
# An operation runs at most once

A request with an operation id that changes processes looks for an earlier result
before it runs, and remembers its own. The operation gate keeps other requests of
this kind out from the look to the end, so the command of an operation id runs once
for as long as the cache remembers it.
-/

namespace Treer.Host

open Foundation List Function
variable {phase : Phase} {request : HostRequest}

theorem needsGate_of_isMutating (mutating : request.command.isMutating) : request.needsGate := by
  simp [HostRequest.needsGate, mutating]

/-- The phases between the look for an earlier result and the record of the own one. -/
def Phase.Running (phase : Phase) : Prop :=
  phase = .unanswered ∨ ∃ result, phase = .performed result

theorem Phase.Running.ne_waiting (running : phase.Running) : phase ≠ .waiting := by
  rcases running with rfl | ⟨_, rfl⟩ <;> nofun

namespace HostState

variable {place : Nat} {state next : HostState} {call : HostRequest × Phase}

/-- The request of a connection after one of them changed. -/
theorem called_cases {before after : Nat → Option (HostRequest × Phase)} {spot : Nat}
    {changed : Option (HostRequest × Phase)} (calls : after = update before spot changed)
    (called : after place = some call) :
    (place = spot ∧ changed = some call) ∨ (place ≠ spot ∧ before place = some call) := by
  rw [calls] at called
  by_cases here : place = spot
  · subst here
    rw [update_self] at called
    exact .inl ⟨rfl, called⟩
  · rw [update_of_ne here] at called
    exact .inr ⟨here, called⟩

/-- A request that needs the gate and is past waiting for it holds it. -/
def Exclusive (state : HostState) : Prop :=
  ∀ place request phase, state.call? place = some (request, phase) → request.needsGate →
    phase ≠ .waiting → state.operationGate = some place

theorem Exclusive.update (exclusive : state.Exclusive) {nextPhase : Phase}
    (called : state.call? place = some (request, phase)) (begun : phase ≠ .waiting)
    (calls : next.call? = update state.call? place (some (request, nextPhase)))
    (gate : next.operationGate = state.operationGate) : next.Exclusive := by
  intro other otherRequest otherPhase otherCalled needsGate past
  rw [gate]
  rcases called_cases calls otherCalled with ⟨rfl, same⟩ | ⟨_, before⟩
  · cases same
    exact exclusive other request phase called needsGate begun
  · exact exclusive other otherRequest otherPhase before needsGate past

/-- A request that ends gives up the gate if it had it, and then no other has it. -/
theorem Exclusive.ended (exclusive : state.Exclusive)
    (called : state.call? place = some (request, phase)) (begun : phase ≠ .waiting)
    (calls : next.call? = Function.update state.call? place none)
    (gate : next.operationGate = state.gateAfter request) : next.Exclusive := by
  intro other otherRequest otherPhase otherCalled needsGate past
  rcases called_cases calls otherCalled with ⟨rfl, same⟩ | ⟨elsewhere, before⟩
  · cases same
  have otherHolds := exclusive other otherRequest otherPhase before needsGate past
  rw [gate, gateAfter]
  split
  · rename_i hadGate
    have held := exclusive place request phase called hadGate begun
    cases held.symm.trans otherHolds
    exact absurd rfl elsewhere
  · exact otherHolds

theorem Exclusive.moves {action : HostAction} {outcome : HostOutcome}
    (exclusive : state.Exclusive) (moves : Moves state next action outcome) : next.Exclusive := by
  cases moves with
  | same calls gate =>
    intro place request phase called needsGate past
    rw [gate]
    exact exclusive place request phase (calls ▸ called) needsGate past
  | received _ _ _ calls gate =>
    intro other otherRequest otherPhase otherCalled needsGate past
    rw [gate]
    rcases called_cases calls otherCalled with ⟨rfl, same⟩ | ⟨_, before⟩
    · cases same
      exact absurd rfl past
    · exact exclusive other otherRequest otherPhase before needsGate past
  | entered _ _ _ free calls gate =>
    intro other otherRequest otherPhase otherCalled needsGate past
    rw [gate]
    rcases called_cases calls otherCalled with ⟨rfl, same⟩ | ⟨_, before⟩
    · cases same
      rw [if_pos needsGate]
    have holds := exclusive other otherRequest otherPhase before needsGate past
    split
    · rename_i gated
      cases (free gated).symm.trans holds
    · exact holds
  | missed _ _ called _ calls gate
  | performed _ _ _ called calls gate => exact exclusive.update called nofun calls gate
  | answered _ _ _ called _ calls gate
  | recorded _ _ _ called calls gate => exact exclusive.ended called nofun calls gate
  | read _ _ _ called ofSync _ _ _ calls gate =>
    exact exclusive.update called ofSync.ne_waiting calls gate
  | synced _ _ _ called ofSync calls gate =>
    exact exclusive.ended called ofSync.ne_waiting calls gate

/-! ## One operation id -/

/-- The action brings no request with the operation id that changes no process. -/
def UsedOnMutating (operationId : String) (action : HostAction) : Prop :=
  ∀ place request, action = .receive place request → request.operationId = some operationId →
    request.command.isMutating

/-- The id is on requests that need the gate only, and while one of them runs there is no result. -/
structure Settling (operationId : String) (state : HostState) : Prop where
  exclusive : state.Exclusive
  mutating : ∀ place request phase, state.call? place = some (request, phase) →
    request.operationId = some operationId → request.command.isMutating
  unrecorded : ∀ place request phase, state.call? place = some (request, phase) →
    request.operationId = some operationId → phase.Running → state.results.get? operationId = none

section
variable {operationId : String} {state next : HostState} {action : HostAction}
  {outcome : HostOutcome}
  {place : Nat}

/-- Two requests of the operation id that are past waiting are one. -/
theorem Settling.place_eq (settling : Settling operationId state) {first second : Nat}
    {firstRequest secondRequest : HostRequest} {firstPhase secondPhase : Phase}
    (firstCalled : state.call? first = some (firstRequest, firstPhase))
    (secondCalled : state.call? second = some (secondRequest, secondPhase))
    (firstId : firstRequest.operationId = some operationId)
    (secondId : secondRequest.operationId = some operationId)
    (firstPast : firstPhase ≠ .waiting) (secondPast : secondPhase ≠ .waiting) :
    first = second := by
  have firstHolds := settling.exclusive first _ _ firstCalled
    (needsGate_of_isMutating (settling.mutating _ _ _ firstCalled firstId)) firstPast
  have secondHolds := settling.exclusive second _ _ secondCalled
    (needsGate_of_isMutating (settling.mutating _ _ _ secondCalled secondId)) secondPast
  exact Option.some.inj (firstHolds.symm.trans secondHolds)

/-- A `Sync` does not have the operation id and the gate. -/
theorem Settling.not_ofSync (settling : Settling operationId state)
    (called : state.call? place = some (request, phase))
    (hasId : request.operationId = some operationId) (entered : phase = .entered)
    (ofSync : Phase.OfSync request phase) : False := by
  rcases ofSync with ⟨_, isSync⟩ | ⟨_, _, _, reading⟩
  · have mutating := settling.mutating place request phase called hasId
    cases command : request.command with
    | sync =>
      rw [command] at mutating
      cases mutating
    | _ =>
      rw [command] at isSync
      cases isSync
  · cases entered.symm.trans reading

theorem get?_remember_eq_none {results : ResultCache}
    (absent : results.get? operationId = none) (other : request.operationId ≠ some operationId)
    (result : Except HostError HostResponse) :
    (remember results request result).get? operationId = none := by
  unfold remember
  split
  · rename_i recorded hasId
    apply Fifo.get?_insert_eq_none absent
    rintro rfl
    exact other hasId
  · exact absent

/-- How a request goes on from one phase to another. -/
inductive Goes (state : HostState) (request : HostRequest) : Phase → Phase → Prop where
  | entered : Goes state request .waiting .entered
  | missed (absent : request.command.isMutating →
      ∃ operationId, request.operationId = some operationId ∧
        state.results.get? operationId = none) : Goes state request .entered .unanswered
  | performed (result : Except HostError HostResponse) :
      Goes state request .unanswered (.performed result)
  | read {phase : Phase} (ofSync : Phase.OfSync request phase)
      (processes pending : List HostProcessInfo) (replay : List HostOutputReplay) :
      Goes state request phase (.reading processes pending replay)

/-- The request of a connection after a step is as it was, has come or has gone on. -/
theorem Moves.call_before (moves : Moves state next action outcome)
    (called : next.call? place = some (request, phase)) :
    state.call? place = some (request, phase) ∨
      action = .receive place request ∧ phase = .waiting ∨
      ∃ earlier, state.call? place = some (request, earlier) ∧
        Goes state request earlier phase := by
  -- The request of `spot` goes on, and the others stay.
  have updated : ∀ {spot : Nat} {own : HostRequest} {earlier later : Phase},
      state.call? spot = some (own, earlier) →
      next.call? = update state.call? spot (some (own, later)) →
      Goes state own earlier later → state.call? place = some (request, phase) ∨
        ∃ earlier, state.call? place = some (request, earlier) ∧
          Goes state request earlier phase := by
    intro spot own earlier later before calls goes
    rcases called_cases calls called with ⟨rfl, same⟩ | ⟨_, unchanged⟩
    · cases same
      exact .inr ⟨earlier, before, goes⟩
    · exact .inl unchanged
  have ended : ∀ {spot : Nat}, next.call? = update state.call? spot none →
      state.call? place = some (request, phase) := by
    intro spot calls
    rcases called_cases calls called with ⟨_, none⟩ | ⟨_, unchanged⟩
    · cases none
    · exact unchanged
  cases moves with
  | same calls => exact .inl (calls ▸ called)
  | received _ _ _ calls =>
    rcases called_cases calls called with ⟨rfl, same⟩ | ⟨_, unchanged⟩
    · cases same
      exact .inr (.inl ⟨rfl, rfl⟩)
    · exact .inl unchanged
  | entered _ _ before _ calls => exact (updated before calls .entered).imp_right .inr
  | missed _ _ before absent calls => exact (updated before calls (.missed absent)).imp_right .inr
  | performed _ _ result before calls =>
    exact (updated before calls (.performed result)).imp_right .inr
  | read _ _ _ before ofSync processes pending replay calls =>
    exact (updated before calls (.read ofSync processes pending replay)).imp_right .inr
  | answered _ _ _ _ _ calls
  | recorded _ _ _ _ calls
  | synced _ _ _ _ _ calls => exact .inl (ended calls)

/-- The requests that a step leaves were there, with the same operation id, or one came. -/
theorem Moves.request_before (moves : Moves state next action outcome)
    (called : next.call? place = some (request, phase)) :
    (∃ earlier, state.call? place = some (request, earlier)) ∨ action = .receive place request := by
  rcases moves.call_before called with before | ⟨came, _⟩ | ⟨earlier, before, _⟩
  · exact .inl ⟨phase, before⟩
  · exact .inr came
  · exact .inl ⟨earlier, before⟩

/-- The operation id under which a step records a result. -/
def recordedId : HostOutcome → Option String
  | .recorded request _ => request.operationId
  | _ => none

/-- A step leaves the results, or records that of an open request. -/
theorem Moves.results_cases (moves : Moves state next action outcome) :
    recordedId outcome = none ∧ next.results = state.results ∨
      ∃ place request result, outcome = .recorded request result ∧
        state.call? place = some (request, .performed result) ∧
        next.call? = update state.call? place none ∧
        next.results = remember state.results request result := by
  cases moves with
  | recorded place request result called calls _ results =>
    exact .inr ⟨place, request, result, rfl, called, calls, results⟩
  | same _ _ results
  | received _ _ _ _ _ results
  | entered _ _ _ _ _ _ results
  | missed _ _ _ _ _ _ results
  | answered _ _ _ _ _ _ _ results
  | performed _ _ _ _ _ _ results
  | read _ _ _ _ _ _ _ _ _ _ results
  | synced _ _ _ _ _ _ _ results => exact .inl ⟨rfl, results⟩

/-- While a request of the operation id runs, no step makes a result of it appear. -/
theorem Settling.unrecorded_moves (settling : Settling operationId state)
    (moves : Moves state next action outcome) (called : next.call? place = some (request, phase))
    (hasId : request.operationId = some operationId) (running : phase.Running) :
    next.results.get? operationId = none := by
  have earlier : ∃ earlier, state.call? place = some (request, earlier) ∧ earlier ≠ .waiting ∧
      state.results.get? operationId = none := by
    rcases moves.call_before called with before | ⟨_, rfl⟩ | ⟨earlier, before, goes⟩
    · exact ⟨phase, before, running.ne_waiting,
        settling.unrecorded place request phase before hasId running⟩
    · exact absurd rfl running.ne_waiting
    cases goes with
    | entered | read => rcases running with running | ⟨_, running⟩ <;> cases running
    | missed absent =>
      rcases absent (settling.mutating place request _ before hasId) with ⟨_, hasOther, none⟩
      cases hasId.symm.trans hasOther
      exact ⟨_, before, nofun, none⟩
    | performed =>
      exact ⟨_, before, nofun, settling.unrecorded place request _ before hasId (.inl rfl)⟩
  rcases earlier with ⟨_, before, past, absent⟩
  rcases moves.results_cases with ⟨_, same⟩ | ⟨_, _, result, _, ownCalled, calls, results⟩
  · rw [same]
    exact absent
  rw [results]
  refine get?_remember_eq_none absent (fun ownId => ?_) result
  cases settling.place_eq before ownCalled hasId ownId past nofun
  rw [calls, update_self] at called
  cases called

theorem Settling.moves (settling : Settling operationId state)
    (used : UsedOnMutating operationId action) (moves : Moves state next action outcome) :
    Settling operationId next where
  exclusive := settling.exclusive.moves moves
  mutating place request phase called hasId := by
    rcases moves.request_before called with ⟨earlier, before⟩ | came
    · exact settling.mutating place request earlier before hasId
    · exact used place request came hasId
  unrecorded _ _ _ called hasId running := settling.unrecorded_moves moves called hasId running

/-- The id whose command ran: its result is about to be recorded, or is in the cache with fewer
other ids behind it than the cache has room for. -/
inductive Once (operationId : String) (result : Except HostError HostResponse)
    (since : Finset String) (state : HostState) : Prop where
  | pending (place : Nat) (request : HostRequest)
      (called : state.call? place = some (request, .performed result))
      (hasId : request.operationId = some operationId)
  | kept (keeps : state.results.Keeps operationId result since)
      (idle : ∀ place request phase, state.call? place = some (request, phase) →
        request.operationId = some operationId → phase = .waiting ∨ phase = .entered)

/-- The other operation ids that have recorded a result, after a step. -/
def sinceAfter (operationId : String) (since : Finset String) (outcome : HostOutcome) :
    Finset String :=
  match recordedId outcome with
  | some other => if other = operationId then since else insert other since
  | none => since

/-- The step does not run the command of the operation id again, and gives it no other
answer. -/
def Agrees (operationId : String) (result : Except HostError HostResponse) : HostOutcome → Prop
  | .quiet => True
  | .performed request _ => request.operationId ≠ some operationId
  | .answered request other => request.operationId = some operationId → other = result
  | .recorded request other => request.operationId = some operationId → other = result

variable {result : Except HostError HostResponse}

section
variable {since : Finset String}

/-- A request whose command ran stays as it is until its result is recorded. -/
theorem Moves.call_performed (moves : Moves state next action outcome)
    (called : state.call? place = some (request, .performed result)) :
    next.call? place = some (request, .performed result) ∨
      outcome = .recorded request result ∧ next.call? = update state.call? place none ∧
        next.results = remember state.results request result := by
  have stays : ∀ {spot : Nat} {own : HostRequest} {phase : Phase} {changed : Option _},
      state.call? spot = some (own, phase) → phase ≠ .performed result →
      next.call? = update state.call? spot changed →
      next.call? place = some (request, .performed result) := by
    intro spot own phase changed ownCalled different calls
    rw [calls, update_of_ne]
    · exact called
    rintro rfl
    cases ownCalled.symm.trans called
    exact different rfl
  cases moves with
  | same calls => exact .inl (calls ▸ called)
  | received _ _ free calls =>
    rw [calls, update_of_ne]
    · exact .inl called
    · rintro rfl
      cases free.symm.trans called
  | entered _ _ ownCalled _ calls
  | missed _ _ ownCalled _ calls
  | answered _ _ _ ownCalled _ calls
  | performed _ _ _ ownCalled calls => exact .inl (stays ownCalled nofun calls)
  | read _ _ _ ownCalled ofSync _ _ _ calls
  | synced _ _ _ ownCalled ofSync calls =>
    refine .inl (stays ownCalled ?_ calls)
    rcases ofSync with ⟨rfl, _⟩ | ⟨_, _, _, rfl⟩ <;> nofun
  | recorded spot _ _ ownCalled calls _ results =>
    by_cases here : spot = place
    · subst here
      cases ownCalled.symm.trans called
      exact .inr ⟨rfl, calls, results⟩
    · rw [calls, update_of_ne (Ne.symm here)]
      exact .inl called

theorem Once.moves_pending (settling : Settling operationId state)
    (called : state.call? place = some (request, .performed result))
    (hasId : request.operationId = some operationId) (moves : Moves state next action outcome) :
    Once operationId result (sinceAfter operationId since outcome) next ∧
      Agrees operationId result outcome := by
  -- A request of the operation id that is past waiting is the one that runs.
  have only : ∀ {spot own phase}, state.call? spot = some (own, phase) → phase ≠ .waiting →
      own.operationId = some operationId → spot = place ∧ phase = .performed result := by
    intro spot own phase ownCalled past ownId
    cases settling.place_eq ownCalled called ownId hasId past nofun
    cases ownCalled.symm.trans called
    exact ⟨rfl, rfl⟩
  constructor
  · rcases moves.call_performed called with stays | ⟨rfl, calls, results⟩
    · exact .pending place request stays hasId
    have absent := settling.unrecorded place request _ called hasId (.inr ⟨_, rfl⟩)
    refine .kept ?_ fun later laterRequest laterPhase laterCalled laterId => ?_
    · rw [results, remember, hasId]
      exact Fifo.keeps_insert_self absent result _
    · rcases called_cases calls laterCalled with ⟨_, none⟩ | ⟨elsewhere, before⟩
      · cases none
      · by_contra past
        exact elsewhere (only before (not_or.mp past).1 laterId).1
  · cases moves with
    | answered _ _ _ ownCalled => exact fun ownId => nomatch (only ownCalled nofun ownId).2
    | performed _ _ _ ownCalled => exact fun ownId => nomatch (only ownCalled nofun ownId).2
    | recorded _ _ _ ownCalled =>
      intro ownId
      cases (only ownCalled nofun ownId).2
      rfl
    | _ => trivial

end

section
variable {since : Finset String} (settling : Settling operationId state)
  (keeps : state.results.Keeps operationId result since)
  (idle : ∀ place request phase, state.call? place = some (request, phase) →
    request.operationId = some operationId → phase = .waiting ∨ phase = .entered)
include settling keeps idle in
theorem Once.idle_moves (moves : Moves state next action outcome) (place : Nat)
    (request : HostRequest) (phase : Phase) (called : next.call? place = some (request, phase))
    (hasId : request.operationId = some operationId) : phase = .waiting ∨ phase = .entered := by
  rcases moves.call_before called with before | ⟨_, rfl⟩ | ⟨earlier, before, goes⟩
  · exact idle place request phase before hasId
  · exact .inl rfl
  have wasIdle := idle place request earlier before hasId
  cases goes with
  | entered => exact .inr rfl
  | missed absent =>
    -- The look would have found the result.
    rcases absent (settling.mutating place request _ before hasId) with ⟨_, hasOther, none⟩
    cases hasId.symm.trans hasOther
    cases keeps.found.symm.trans none
  | performed => rcases wasIdle with phase | phase <;> cases phase
  | read ofSync =>
    rcases wasIdle with waiting | entered
    · exact absurd waiting ofSync.ne_waiting
    · exact (settling.not_ofSync before hasId entered ofSync).elim

include settling keeps idle in
theorem Once.moves_kept (moves : Moves state next action outcome)
    (few : (sinceAfter operationId since outcome).card < resultCacheLimit) :
    Once operationId result (sinceAfter operationId since outcome) next ∧
      Agrees operationId result outcome := by
  -- A request of the operation id does not run.
  have notOwn : ∀ {spot own phase}, state.call? spot = some (own, phase) → phase.Running →
      own.operationId ≠ some operationId := by
    rintro spot own phase called (rfl | ⟨_, rfl⟩) ownId
    · rcases idle spot own _ called ownId with phase | phase <;> cases phase
    · rcases idle spot own _ called ownId with phase | phase <;> cases phase
  refine ⟨.kept ?_ (idle_moves settling keeps idle moves), ?_⟩
  · rcases moves.results_cases with ⟨none, same⟩ | ⟨spot, own, other, rfl, called, _, results⟩
    · rw [sinceAfter, none, same]
      exact keeps
    rw [results, remember]
    cases hasOther : own.operationId with
    | none =>
      rw [sinceAfter, recordedId, hasOther]
      exact keeps
    | some recorded =>
      have different : recorded ≠ operationId := by
        rintro rfl
        exact notOwn called (.inr ⟨_, rfl⟩) hasOther
      rw [sinceAfter, recordedId, hasOther] at few ⊢
      simp only [if_neg different] at few ⊢
      exact keeps.insert different other few
  · cases moves with
    | answered _ _ _ _ found =>
      intro ownId
      exact Option.some.inj ((found operationId ownId).symm.trans keeps.found)
    | performed _ _ _ called => exact notOwn called (.inl rfl)
    | recorded _ _ _ called => exact fun ownId => absurd ownId (notOwn called (.inr ⟨_, rfl⟩))
    | _ => trivial

end

variable {since : Finset String}

theorem Once.moves
    (once : Once operationId result since state) (settling : Settling operationId state)
    (moves : Moves state next action outcome)
    (few : (sinceAfter operationId since outcome).card < resultCacheLimit) :
    Once operationId result (sinceAfter operationId since outcome) next ∧
      Agrees operationId result outcome := by
  cases once with
  | pending _ _ called hasId => exact moves_pending settling called hasId moves
  | kept keeps idle => exact moves_kept settling keeps idle moves few

/-! ## Runs -/

/-- The other operation ids under which results were recorded. -/
def recordedOthers (operationId : String)
    (history : List (Entry HostState HostAction HostOutcome)) : Finset String :=
  (history.filterMap fun entry => recordedId entry.outcome).toFinset.erase operationId

theorem sinceAfter_union_recordedOthers (since : Finset String)
    (entry : Entry HostState HostAction HostOutcome)
    (rest : List (Entry HostState HostAction HostOutcome)) :
    sinceAfter operationId since entry.outcome ∪ recordedOthers operationId rest =
      since ∪ recordedOthers operationId (entry :: rest) := by
  unfold sinceAfter recordedOthers
  rw [filterMap_cons]
  cases recordedId entry.outcome with
  | none => rfl
  | some other =>
    by_cases same : other = operationId
    · simp [same]
    · simp [same, Finset.erase_insert_of_ne same]

/-- What every step keeps, every run keeps. -/
theorem Once.along {actions : List HostAction} (once : Once operationId result since state)
    (settling : Settling operationId state)
    (used : ∀ action ∈ actions, UsedOnMutating operationId action)
    (few : (since ∪ recordedOthers operationId (trace step state actions)).card <
      resultCacheLimit) :
    ∀ entry ∈ trace step state actions, Agrees operationId result entry.outcome := by
  induction actions generalizing state since with
  | nil =>
    intro entry mem
    cases mem
  | cons action _ ih =>
    have moves := moves_of_step state action
    rw [trace, ← sinceAfter_union_recordedOthers] at few
    have fewHere := (Finset.card_le_card Finset.subset_union_left).trans_lt few
    rcases once.moves settling moves fewHere with ⟨onceNext, agrees⟩
    have settlingNext := settling.moves (used action mem_cons_self) moves
    intro entry mem
    rcases mem_cons.mp mem with rfl | later
    · exact agrees
    · exact ih onceNext settlingNext
        (fun action actionMem => used action (mem_cons_of_mem _ actionMem)) few entry later

theorem settling_exec (actions : List HostAction) (settling : Settling operationId state)
    (used : ∀ action ∈ actions, UsedOnMutating operationId action) :
    Settling operationId (exec step state actions) := by
  induction actions generalizing state with
  | nil => exact settling
  | cons action _ ih =>
    exact ih (settling.moves (used action mem_cons_self) (moves_of_step state action))
      fun action actionMem => used action (mem_cons_of_mem _ actionMem)

end

/-- In every run of the Host, a request that needs the gate and is past waiting has it. -/
theorem gate_is_exclusive (runtime : HostRuntime) (build : HostBuildInfo)
    (actions : List HostAction) : (exec step (initial runtime build) actions).Exclusive :=
  exec_invariant (fun state action exclusive => exclusive.moves (moves_of_step state action))
    (fun _ _ _ => nofun) actions

/-- In every run, from a step that runs the command of an operation id that is on requests that
change processes only, and as long as fewer other ids than the cache has room for have recorded
results: no step runs a command of the id again, and every request with it gets the result of that
step. The queue and the map of the cache always have the same keys, each once and within the limit.
-/
theorem operation_runs_once (runtime : HostRuntime) (build : HostBuildInfo)
    (operationId : String) (earlier later : List HostAction) (action : HostAction)
    (used : ∀ other ∈ earlier ++ action :: later, UsedOnMutating operationId other)
    (request : HostRequest) (hasId : request.operationId = some operationId)
    (result : Except HostError HostResponse)
    (performed : (step (exec step (initial runtime build) earlier) action).1 =
      .performed request result)
    (few : (recordedOthers operationId
      (trace step (exec step (initial runtime build) (earlier ++ [action])) later)).card <
        resultCacheLimit) :
    (∀ entry ∈ trace step (exec step (initial runtime build) (earlier ++ [action])) later,
      (∀ again other, entry.outcome = .performed again other →
        again.operationId ≠ some operationId) ∧
      ∀ again other, entry.outcome = .answered again other ∨ entry.outcome = .recorded again other →
        again.operationId = some operationId → other = result) ∧
    ∀ actions,
      let cache := (exec step (initial runtime build) actions).results
      (∀ key, key ∈ cache.order ↔ (cache.values.get? key).isSome) ∧ cache.order.Nodup ∧
        cache.order.length ≤ resultCacheLimit := by
  constructor
  · have reached : Settling operationId (exec step (initial runtime build) earlier) :=
      settling_exec earlier ⟨fun _ _ _ => nofun, fun _ _ _ => nofun, fun _ _ _ => nofun⟩
        fun other mem => used other (mem_append_left _ mem)
    have moves := moves_of_step (exec step (initial runtime build) earlier) action
    have settling := reached.moves (used action (by simp)) moves
    rw [performed] at moves
    have once : Once operationId result ∅
        (step (exec step (initial runtime build) earlier) action).2 := by
      cases moves with
      | performed place _ _ _ calls =>
        exact .pending place request (by rw [calls, update_self]) hasId
    rw [exec_append] at few ⊢
    intro entry mem
    have agrees := once.along settling
      (fun other otherMem => used other (by simp [otherMem])) (by simpa using few) entry mem
    constructor
    · intro again other outcome
      rw [outcome] at agrees
      exact agrees
    · rintro _ _ (outcome | outcome)
      · rw [outcome] at agrees
        exact agrees
      · rw [outcome] at agrees
        exact agrees
  · intro actions cache
    exact ⟨cache.mem_order_iff, cache.nodup, cache.bounded⟩

namespace Sample

/-- A request to stop a process. -/
def stopping (requestId : String) : HostRequest where
  protocol := hostProtocolVersion
  requestId
  operationId := some "op_1"
  command := .stop "p"

/-- A world in which everything succeeds. -/
def willing : World where
  launch := HostRuntime.Sample.launched "stream_1"
  accept _ := .ok ()
  resized _ _ := .ok ()
  kill := .ok ()
  now := 0
  supervisor := true

/-- The first of two clients that stop one process under one operation id. -/
def firstStop : List HostAction :=
  [.accept, .accept, .receive 0 (stopping "req_1"), .receive 1 (stopping "req_2"), .enter 0,
    .lookup 0]

/-- Both are answered. -/
def bothStops : List HostAction :=
  [.enter 1, .record 0, .enter 1, .lookup 1]

/-- There is no such process. -/
def notFound : Except HostError HostResponse :=
  .error ⟨"process_not_found", "process p was not found"⟩

end Sample

open Sample

/-- Two clients stop a process under one operation id: the second gets the failure of the first. -/
theorem operation_runs_once_stop :
    (recordedOthers "op_1"
      (trace step (exec step (initial (.new "host_1" ["srv"]) ⟨"1", "c"⟩)
        (firstStop ++ [.perform 0 willing])) bothStops)).card <
      resultCacheLimit ∧
    ∀ entry ∈ trace step (exec step (initial (.new "host_1" ["srv"]) ⟨"1", "c"⟩)
        (firstStop ++ [.perform 0 willing])) bothStops,
      ∀ again other, entry.outcome = .answered again other ∨ entry.outcome = .recorded again other →
        again.operationId = some "op_1" → other = notFound := by
  have used : ∀ other ∈ firstStop ++ .perform 0 willing :: bothStops,
      UsedOnMutating "op_1" other := by
    intro other mem place request same
    subst same
    simp only [firstStop, bothStops, cons_append, nil_append,
      mem_cons, HostAction.receive.injEq, reduceCtorEq, false_or, or_false,
      not_mem_nil] at mem
    rcases mem with ⟨_, rfl⟩ | ⟨_, rfl⟩
    · exact fun _ => rfl
    · exact fun _ => rfl
  refine ⟨?few, fun entry mem => ((operation_runs_once (.new "host_1" ["srv"]) ⟨"1", "c"⟩ "op_1"
    firstStop bothStops (.perform 0 willing) used (stopping "req_1") rfl notFound rfl
    ?few).1 entry mem).2⟩
  decide

end HostState
end Treer.Host
