import Treer.Host.Connection
import Treer.Host.Streams

/-!
# What a step of the Host does

A step makes at most one call or one move of a thread of a process, and changes at
most one connection.
-/

namespace Treer.Host

open Foundation HostRuntime List Function
variable {request : HostRequest} {phase : Phase}

/-- The phases of a `Sync` that has the gate. -/
def Phase.OfSync (request : HostRequest) (phase : Phase) : Prop :=
  (phase = .entered ∧ request.command.isSync) ∨
    ∃ processes pending replay, phase = .reading processes pending replay

theorem Phase.OfSync.ne_waiting (ofSync : Phase.OfSync request phase) : phase ≠ .waiting := by
  rcases ofSync with ⟨rfl, _⟩ | ⟨_, _, _, rfl⟩ <;> nofun

namespace HostState

variable {call : HostRequest × Phase} {place : Nat} {state next : HostState}

theorem call?_updateConnection (state : HostState) (place other : Nat)
    (mutation : Connection → Connection) : (state.updateConnection place mutation).call? other =
      if place = other then (state.connections[other]?).bind fun connection =>
        (mutation connection).call
      else state.call? other := by
  rw [call?, call?, updateConnection, getElem?_modify]
  by_cases here : place = other
  · cases state.connections[other]? <;> simp [here]
  · cases state.connections[other]? <;> simp [here]

variable {mutation : Connection → Connection}

/-- A change of a connection that leaves its request alone. -/
theorem call?_updateConnection_of_same
    (same : ∀ connection, state.connections[place]? = some connection →
      (mutation connection).call = connection.call) :
    (state.updateConnection place mutation).call? = state.call? := by
  funext other
  rw [call?_updateConnection]
  split
  · rename_i here
    cases here
    rw [call?]
    cases found : state.connections[place]? with
    | none => rfl
    | some connection => exact same connection found
  · rfl

theorem call?_setPhase {connection : Connection}
    (present : state.connections[place]? = some connection) (request : HostRequest)
    (phase : Phase) : (state.setPhase place request phase).call? =
      update state.call? place (some (request, phase)) := by
  funext other
  rw [setPhase, call?_updateConnection]
  by_cases here : other = place
  · simp [here, present]
  · rw [if_neg (Ne.symm here), update_of_ne here]

/-- The requests after the one of a connection is done with. -/
theorem call?_of_ended (ended : ∀ connection, (mutation connection).call = none)
    (request : HostRequest) : ((state.updateConnection place mutation).release request).call? =
      update state.call? place none := by
  funext other
  change (state.updateConnection place mutation).call? other = _
  rw [call?_updateConnection]
  by_cases here : other = place
  · cases found : state.connections[place]? <;> simp [here, found, ended]
  · rw [if_neg (Ne.symm here), update_of_ne here]

theorem connection_of_call? (called : state.call? place = some call) :
    ∃ connection, state.connections[place]? = some connection := by
  rw [call?, Option.bind_eq_some_iff] at called
  rcases called with ⟨connection, present, _⟩
  exact ⟨connection, present⟩

theorem idle_iff : state.idle place = true ↔
      ∃ connection, state.connections[place]? = some connection ∧ connection.call = none ∧
        connection.closed = false := by
  rw [idle]
  cases state.connections[place]? <;> simp

/-- The holder of the gate after a request is done with. -/
def gateAfter (state : HostState) (request : HostRequest) : Option Nat :=
  if request.needsGate then none else state.operationGate

/-- The ways an action changes the requests, the gate and the results. -/
inductive Moves (state next : HostState) : HostAction → HostOutcome → Prop where
  | same {action} (calls : next.call? = state.call?)
      (gate : next.operationGate = state.operationGate)
      (results : next.results = state.results) : Moves state next action .quiet
  | received (place : Nat) (request : HostRequest) (free : state.call? place = none)
      (calls : next.call? = Function.update state.call? place (some (request, .waiting)))
      (gate : next.operationGate = state.operationGate)
      (results : next.results = state.results) : Moves state next (.receive place request) .quiet
  | entered {action} (place : Nat) (request : HostRequest)
      (called : state.call? place = some (request, .waiting))
      (free : request.needsGate → state.operationGate = none)
      (calls : next.call? = Function.update state.call? place (some (request, .entered)))
      (gate : next.operationGate = if request.needsGate then some place else state.operationGate)
      (results : next.results = state.results) : Moves state next action .quiet
  | missed {action} (place : Nat) (request : HostRequest)
      (called : state.call? place = some (request, .entered))
      (absent : request.command.isMutating →
        ∃ operationId, request.operationId = some operationId ∧
          state.results.get? operationId = none)
      (calls : next.call? = Function.update state.call? place (some (request, .unanswered)))
      (gate : next.operationGate = state.operationGate)
      (results : next.results = state.results) : Moves state next action .quiet
  | answered {action} (place request result)
      (called : state.call? place = some (request, .entered))
      (found : ∀ operationId, request.operationId = some operationId →
        state.results.get? operationId = some result)
      (calls : next.call? = Function.update state.call? place none)
      (gate : next.operationGate = state.gateAfter request)
      (results : next.results = state.results) : Moves state next action (.answered request result)
  | performed {action} (place request result)
      (called : state.call? place = some (request, .unanswered))
      (calls : next.call? = Function.update state.call? place (some (request, .performed result)))
      (gate : next.operationGate = state.operationGate)
      (results : next.results = state.results) : Moves state next action (.performed request result)
  | recorded {action} (place request result)
      (called : state.call? place = some (request, .performed result))
      (calls : next.call? = Function.update state.call? place none)
      (gate : next.operationGate = state.gateAfter request)
      (results : next.results = remember state.results request result) :
      Moves state next action (.recorded request result)
  | read {action} (place : Nat) (request : HostRequest) (phase)
      (called : state.call? place = some (request, phase)) (ofSync : Phase.OfSync request phase)
      (processes pending : List HostProcessInfo) (replay : List HostOutputReplay)
      (calls : next.call? =
        Function.update state.call? place (some (request, .reading processes pending replay)))
      (gate : next.operationGate = state.operationGate)
      (results : next.results = state.results) : Moves state next action .quiet
  | synced {action} (place : Nat) (request : HostRequest) (phase)
      (called : state.call? place = some (request, phase)) (ofSync : Phase.OfSync request phase)
      (calls : next.call? = Function.update state.call? place none)
      (gate : next.operationGate = state.gateAfter request)
      (results : next.results = state.results) : Moves state next action .quiet

theorem call?_accept (state : HostState) : state.accept.call? = state.call? := by
  funext place
  rw [call?, call?, accept]
  by_cases inRange : place < state.connections.length
  · rw [getElem?_append_left inRange]
  rw [getElem?_append_right (Nat.le_of_not_lt inRange), getElem?_eq_none (Nat.le_of_not_lt inRange)]
  cases place - state.connections.length <;> rfl

/-- The call that a command makes. -/
def commandAction (world : World) : HostCommand → Option HostRuntime.Action
  | .spawn request => some (.spawn request world.launch)
  | .stop processId => some (.stop processId world.kill world.now)
  | _ => none

/-- The runtime after a call or a move of a thread, if there was one. -/
def runtimeAfter (runtime : HostRuntime) : Option HostRuntime.Action → HostRuntime
  | some action => (runtime.step action).2
  | none => runtime

/-- The call or the move of a thread that a step makes. -/
def runtimeAction (state : HostState) : HostAction → Option HostRuntime.Action
  | .thread action => if action.ofThread then some action else none
  | .perform place world =>
    match state.call? place with
    | some (request, .unanswered) => commandAction world request.command
    | _ => none
  | _ => none

theorem runtime_runCommand (runtime : HostRuntime) (world : World) (command : HostCommand) :
    (runCommand runtime world command).2 = runtimeAfter runtime (commandAction world command) := by
  cases command with
  | restartController =>
    rw [runCommand]
    split <;> rfl
  | _ => rfl

/-- No new stream has the epoch of one that is there; epochs are new UUIDs. -/
def FreshStreams (state : HostState) (action : HostAction) : Prop :=
  ∀ runtimeAction, state.runtimeAction action = some runtimeAction →
    state.runtime.FreshStream runtimeAction

/-- The chunks that were handed on one by one. -/
def outputs (messages : List HostMessage) : List HostOutputChunk :=
  messages.filterMap fun message =>
    match message with
    | .output chunk => some chunk
    | _ => none

theorem outputs_append (first second : List HostMessage) :
    outputs (first ++ second) = outputs first ++ outputs second :=
  filterMap_append

theorem outputs_response (requestId : String) (result : Except HostError HostResponse) :
    outputs [responseMessage requestId result] = [] := by
  cases result <;> rfl

/-- The answer to a `Sync`. -/
def syncedAnswer (state : HostState) (request : HostRequest) (processes : List HostProcessInfo)
    (replay : List HostOutputReplay) : HostMessage :=
  responseMessage request.requestId
    (.ok (.synced state.runtime.hostEpoch state.build processes replay))

/-- A connection after its `Sync` was answered. -/
def afterSync (state : HostState) (request : HostRequest) (processes : List HostProcessInfo)
    (replay : List HostOutputReplay) (connection : Connection) : Connection :=
  { connection with
    call := none
    synced := true
    liveAfter := replayCursors replay
    outgoing := connection.outgoing ++ [state.syncedAnswer request processes replay] }

theorem answerSync_of_called {state : HostState} {place : Nat}
    {processes : List HostProcessInfo} {replay : List HostOutputReplay}
    (called : state.call? place = some (request, .reading processes [] replay)) :
    state.answerSync place =
      (state.updateConnection place
        (state.afterSync request processes replay)).release request := by
  rw [answerSync, called]
  rfl

/-- The ways a step changes a connection. -/
inductive Turn (state : HostState) (place : Nat) (action : HostAction) (before : Connection) :
    Connection → Prop where
  | same : Turn state place action before before
  /-- It goes on with a request, or ends. -/
  | other (after : Connection) (position : after.position = before.position)
      (liveAfter : after.liveAfter = before.liveAfter)
      (outgoing : ∃ extra, after.outgoing = before.outgoing ++ extra ∧ outputs extra = [])
      (notReading : ∀ request processes pending replay,
        after.call ≠ some (request, .reading processes pending replay)) :
      Turn state place action before after
  | listed (request : HostRequest) (called : before.call = some (request, .entered))
      (isSync : request.command.isSync) :
      Turn state place action before
        { before with
          call := some (request, .reading state.runtime.list state.runtime.list []) }
  | read (request : HostRequest) (processes : List HostProcessInfo) (process : HostProcessInfo)
      (pending : List HostProcessInfo) (replay : List HostOutputReplay) (part : HostOutputReplay)
      (called : before.call = some (request, .reading processes (process :: pending) replay))
      (read : state.runtime.read process.processId (request.cursor? process.processId) = .ok part) :
      Turn state place action before
        { before with call := some (request, .reading processes pending (replay ++ [part])) }
  | answered (request : HostRequest) (processes : List HostProcessInfo)
      (replay : List HostOutputReplay)
      (called : before.call = some (request, .reading processes [] replay))
      (own : action = .answerSync place) :
      Turn state place action before (state.afterSync request processes replay before)
  | delivered (chunk : HostOutputChunk) (idle : before.call = none)
      (found : state.runtime.outputEvents[before.position]? = some chunk) :
      Turn state place action before (takeChunk before chunk)

/-- The connections after a step of one of their tasks. -/
def Turns (state next : HostState) (action : HostAction) : Prop :=
  ∃ spot mutation, next.connections = state.connections.modify spot mutation ∧
    ∀ before, state.connections[spot]? = some before →
      Turn state spot action before (mutation before)

variable {action : HostAction} {before : Connection}

theorem Turns.of_same (connections : next.connections = state.connections) :
    Turns state next action := by
  refine ⟨0, id, ?_, fun _ _ => Turn.same⟩
  rw [connections, modify_id]

theorem call_of_call?
    (called : state.call? place = some call) (present : state.connections[place]? = some before) :
    before.call = some call := by
  rw [call?, present] at called
  exact called

theorem call_of_idle (idle : state.idle place = true)
    (present : state.connections[place]? = some before) : before.call = none := by
  rcases idle_iff.mp idle with ⟨_, found, noCall, _⟩
  cases present.symm.trans found
  exact noCall

/-- Going on to a phase that is no reading. -/
theorem turns_setPhase (place : Nat) (request : HostRequest) (phase : Phase)
    (notReading : ∀ processes pending replay, phase ≠ .reading processes pending replay)
    (connections : next.connections = (state.setPhase place request phase).connections) :
    Turns state next action := by
  refine ⟨place, _, connections, fun before _ => ?_⟩
  refine .other _ rfl rfl ⟨[], (append_nil _).symm, rfl⟩ ?_
  rintro _ processes pending replay ⟨⟩
  exact notReading processes pending replay rfl

theorem turns_answer (place : Nat) (request : HostRequest) (result : Except HostError HostResponse)
    (connections : next.connections = (state.answer place request result).connections) :
    Turns state next action :=
  ⟨place, _, connections, fun _ _ =>
    Turn.other _ rfl rfl ⟨_, rfl, outputs_response request.requestId result⟩ nofun⟩

/-! ## Every step -/

/-- What a step does to the requests, to the connections and to the processes. -/
structure Effect (state next : HostState) (action : HostAction) (outcome : HostOutcome) : Prop where
  moves : Moves state next action outcome
  turns : Turns state next action
  runtime : next.runtime = runtimeAfter state.runtime (state.runtimeAction action)

theorem effect_same (quiet : state.runtimeAction action = none) :
    Effect state state action .quiet :=
  ⟨.same rfl rfl rfl, .of_same rfl, by rw [quiet]; rfl⟩

variable (state) (place : Nat)

theorem effect_receive (request : HostRequest) :
    Effect state (state.receive place request) (.receive place request) .quiet := by
  unfold receive
  split
  · rename_i idle
    rcases idle_iff.mp idle with ⟨_, present, noCall, _⟩
    split
    · refine ⟨.same (call?_updateConnection_of_same fun _ _ => rfl) rfl rfl,
        ⟨place, _, rfl, fun before found => ?_⟩, rfl⟩
      refine .other _ rfl rfl ⟨_, rfl, outputs_response request.requestId _⟩ ?_
      rw [call_of_idle idle found]
      nofun
    · refine ⟨.received place request ?_ (call?_setPhase present request .waiting) rfl rfl,
        turns_setPhase place request .waiting nofun rfl, rfl⟩
      rw [call?, present]
      exact noCall
  · exact effect_same rfl

theorem effect_enter : Effect state (state.enter place) (.enter place) .quiet := by
  unfold enter
  split
  · rename_i request called
    rcases connection_of_call? called with ⟨_, present⟩
    have calls := call?_setPhase present request .entered
    have turns := fun next => @turns_setPhase state next (.enter place) place request .entered nofun
    split
    · rename_i needsGate
      split
      · rename_i free
        exact ⟨.entered place request called (fun _ => free) calls (by simp [needsGate]) rfl,
          turns _ rfl, rfl⟩
      · exact effect_same rfl
    · rename_i noGate
      exact ⟨.entered place request called (fun needed => absurd needed noGate) calls
        (if_neg noGate).symm rfl, turns _ rfl, rfl⟩
  · exact effect_same rfl

theorem effect_answer (called : state.call? place = some (request, .entered))
    {result : Except HostError HostResponse}
    (found : ∀ operationId, request.operationId = some operationId →
      state.results.get? operationId = some result) :
    Effect state (state.answer place request result) (.lookup place) (.answered request result) :=
  ⟨.answered place request result called found (call?_of_ended (fun _ => rfl) request) rfl rfl,
    turns_answer place request result rfl, rfl⟩

theorem effect_lookup :
    Effect state (state.lookup place).2 (.lookup place) (state.lookup place).1 := by
  unfold lookup
  split
  · rename_i request called
    rcases connection_of_call? called with ⟨_, present⟩
    have calls := call?_setPhase present request .unanswered
    have turns : Turns state (state.setPhase place request .unanswered) (.lookup place) :=
      turns_setPhase place request .unanswered nofun rfl
    split
    · exact effect_same rfl
    split
    · split
      · rename_i noId
        apply effect_answer state place called
        intro operationId has
        cases noId.symm.trans has
      · rename_i operationId has
        split
        · rename_i result found
          apply effect_answer state place called
          intro other hasOther
          cases has.symm.trans hasOther
          exact found
        · rename_i absent
          exact ⟨.missed place request called (fun _ => ⟨operationId, has, absent⟩) calls rfl rfl,
            turns, rfl⟩
    · rename_i notMutating
      exact ⟨.missed place request called (fun mutating => absurd mutating notMutating) calls
        rfl rfl, turns, rfl⟩
  · exact effect_same rfl

theorem effect_perform (world : World) : Effect state (state.perform place world).2
    (.perform place world) (state.perform place world).1 := by
  unfold perform
  split
  · rename_i request called
    rcases connection_of_call? called with ⟨_, present⟩
    refine ⟨.performed place request _ called (call?_setPhase present request _) rfl rfl,
      turns_setPhase place request (.performed _) nofun rfl, ?_⟩
    rw [runtimeAction, called]
    exact runtime_runCommand state.runtime world request.command
  · rename_i other
    apply effect_same
    rw [runtimeAction]
    split
    · rename_i request called
      exact absurd called (other request)
    · rfl

theorem effect_record :
    Effect state (state.record place).2 (.record place) (state.record place).1 := by
  unfold record
  split
  · rename_i request result called
    exact ⟨.recorded place request result called (call?_of_ended (fun _ => rfl) request) rfl rfl,
      turns_answer place request result rfl, rfl⟩
  · exact effect_same rfl

theorem effect_listProcesses :
    Effect state (state.listProcesses place) (.listProcesses place) .quiet := by
  unfold listProcesses
  split
  · rename_i request called
    rcases connection_of_call? called with ⟨_, present⟩
    split
    · rename_i isSync
      exact ⟨.read place request .entered called (Or.inl ⟨rfl, isSync⟩) _ _ _
          (call?_setPhase present request _) rfl rfl,
        ⟨place, _, rfl, fun before found =>
          Turn.listed request (call_of_call? called found) isSync⟩, rfl⟩
    · exact effect_same rfl
  · exact effect_same rfl

theorem effect_readOutput : Effect state (state.readOutput place) (.readOutput place) .quiet := by
  unfold readOutput
  split
  · rename_i request processes process pending replay called
    rcases connection_of_call? called with ⟨_, present⟩
    split
    · rename_i part read
      exact ⟨.read place request _ called (Or.inr ⟨_, _, _, rfl⟩) _ _ _
          (call?_setPhase present request _) rfl rfl,
        ⟨place, _, rfl, fun before found => Turn.read request processes process pending replay part
          (call_of_call? called found) read⟩, rfl⟩
    · exact ⟨.synced place request _ called (Or.inr ⟨_, _, _, rfl⟩)
          (call?_of_ended (fun _ => rfl) request) rfl rfl,
        ⟨place, _, rfl, fun before _ =>
          Turn.other _ rfl rfl ⟨[], (append_nil _).symm, rfl⟩ nofun⟩, rfl⟩
  · exact effect_same rfl

theorem effect_answerSync : Effect state (state.answerSync place) (.answerSync place) .quiet := by
  unfold answerSync
  split
  · rename_i request processes replay called
    exact ⟨.synced place request _ called (Or.inr ⟨_, _, _, rfl⟩)
        (call?_of_ended (fun _ => rfl) request) rfl rfl,
      ⟨place, _, rfl, fun before found =>
        Turn.answered request processes replay (call_of_call? called found) rfl⟩, rfl⟩
  · exact effect_same rfl

theorem effect_deliver : Effect state (state.deliver place) (.deliver place) .quiet := by
  unfold deliver
  split
  · rename_i idle
    refine ⟨.same (call?_updateConnection_of_same fun connection _ => ?_) rfl rfl,
      ⟨place, _, rfl, fun before found => ?_⟩, rfl⟩
    · split
      · split
        · split
          · rfl
          · unfold takeChunk
            split <;> rfl
        · rfl
      · rfl
    · have noCall := call_of_idle idle found
      split
      · split
        · rename_i chunk sent
          split
          · refine .other _ rfl rfl ⟨[], (append_nil _).symm, rfl⟩ ?_
            rw [noCall]
            nofun
          · exact Turn.delivered chunk noCall sent
        · exact .same
      · exact .same
  · exact effect_same rfl

theorem effect_close : Effect state (state.close place) (.close place) .quiet := by
  unfold close
  split
  · rename_i idle
    refine ⟨.same (call?_updateConnection_of_same fun _ _ => rfl) rfl rfl,
      ⟨place, _, rfl, fun before found => ?_⟩, rfl⟩
    refine .other _ rfl rfl ⟨[], (append_nil _).symm, rfl⟩ ?_
    rw [call_of_idle idle found]
    nofun
  · exact effect_same rfl

theorem effect_of_step (action : HostAction) (noAccept : action ≠ .accept) :
    Effect state (state.step action).2 action (state.step action).1 := by
  cases action with
  | accept => exact absurd rfl noAccept
  | receive place request => exact effect_receive state place request
  | enter place => exact effect_enter state place
  | lookup place => exact effect_lookup state place
  | perform place world => exact effect_perform state place world
  | record place => exact effect_record state place
  | listProcesses place => exact effect_listProcesses state place
  | readOutput place => exact effect_readOutput state place
  | answerSync place => exact effect_answerSync state place
  | deliver place => exact effect_deliver state place
  | close place => exact effect_close state place
  | thread action =>
    change Effect state (if _ then _ else _) _ .quiet
    split
    · rename_i ofThread
      refine ⟨.same rfl rfl rfl, .of_same rfl, ?_⟩
      rw [runtimeAction, if_pos ofThread]
      rfl
    · rename_i other
      exact effect_same (if_neg other)

theorem moves_of_step (action : HostAction) :
    Moves state (state.step action).2 action (state.step action).1 := by
  by_cases accept : action = .accept
  · subst accept
    exact .same (call?_accept state) rfl rfl
  · exact (effect_of_step state action accept).moves

theorem runtime_step (action : HostAction) :
    (state.step action).2.runtime = runtimeAfter state.runtime (state.runtimeAction action) := by
  by_cases accept : action = .accept
  · subst accept
    rfl
  · exact (effect_of_step state action accept).runtime

/-- A connection takes a turn; the only other one there can be after a step is new. -/
theorem turn_of_step (action : HostAction) :
    (∃ before after, state.connections[place]? = some before ∧
      (state.step action).2.connections[place]? = some after ∧
      Turn state place action before after) ∨
    (state.connections[place]? = none ∧
      ∀ after, (state.step action).2.connections[place]? = some after →
        after.position = state.runtime.outputEvents.length ∧ after.call = none) := by
  by_cases accept : action = .accept
  · subst accept
    have stepped : (state.step .accept).2 = state.accept := rfl
    rw [stepped, HostState.accept, getElem?_append]
    split
    · rename_i inRange
      have present := getElem?_eq_getElem inRange
      exact .inl ⟨_, _, present, present, Turn.same⟩
    · rename_i outside
      refine .inr ⟨getElem?_eq_none (Nat.le_of_not_lt outside), fun after present => ?_⟩
      cases mem_singleton.mp (mem_of_getElem? present)
      exact ⟨rfl, rfl⟩
  · rcases (effect_of_step state action accept).turns with ⟨spot, _, connections, turn⟩
    rw [connections, getElem?_modify]
    cases present : state.connections[place]? with
    | none =>
      right
      refine ⟨rfl, fun after impossible => ?_⟩
      exact absurd impossible (by simp)
    | some before =>
      left
      by_cases here : spot = place
      · subst here
        simpa using turn before present
      · simpa [here] using Turn.same

end HostState
end Treer.Host
