import Treer.Foundation.Fifo
import Treer.Host.Runtime

/-!
# Connections of the Host

Each connection has a task that reads one request at a time. A request that
changes processes, and `Sync`, holds the operation gate from its start to its
answer. Between two waits a task looks a result up, runs the command, remembers
its result, or reads the output of one process for `Sync`; each of these is one
step here, and other connections and the threads of the processes can come between
any two of them. A task that has no request takes the next chunk of output from
its subscription.
-/

namespace Treer.Host

open Foundation

def resultCacheLimit : Nat := 1024

instance : NeZero resultCacheLimit := ⟨by decide⟩

/-- How many chunks a subscriber can be behind. -/
def outputEventsCapacity : Nat := 2048

/-- The results that operations had, successful or failed. -/
abbrev ResultCache := Fifo String (Except HostError HostResponse) resultCacheLimit

/-- How far a task is with its request. -/
inductive Phase where
  /-- It waits for the operation gate, if it needs it. -/
  | waiting
  | entered
  /-- There is no earlier result. -/
  | unanswered
  | performed (result : Except HostError HostResponse)
  /-- `Sync` has the list of processes and the output of the first ones. -/
  | reading (processes pending : List HostProcessInfo) (replay : List HostOutputReplay)

/-- A client, and its task. -/
structure Connection where
  /-- The place of the next chunk in the output of all processes. -/
  position : Nat
  synced : Bool
  liveAfter : KeyedMap String OutputCursor
  call : Option (HostRequest × Phase)
  /-- Everything that was handed to the writer. -/
  outgoing : List HostMessage
  closed : Bool

/-- The Host and its clients. -/
structure HostState where
  runtime : HostRuntime
  results : ResultCache
  /-- The connection that holds the gate. -/
  operationGate : Option Nat
  connections : List Connection
  build : HostBuildInfo

/-- What the world answers to the command of a request. -/
structure World where
  launch : Launch
  accept : Nat → Except String Unit
  resized : Nat → Nat → Except String Unit
  kill : Except String Unit
  now : Int
  /-- The supervisor of the Controller still listens. -/
  supervisor : Bool

def hostRuntimeError (error : RuntimeError) : HostError where
  code := error.code
  message := error.toText

/-- The command itself. -/
def runCommand (runtime : HostRuntime) (world : World) :
    HostCommand → Except HostError HostResponse × HostRuntime
  | .spawn request =>
    let (result, runtime) := runtime.spawn request world.launch
    ((result.mapError hostRuntimeError).map .process, runtime)
  | .read processId cursor =>
    (((runtime.read processId cursor).mapError hostRuntimeError).map .output, runtime)
  | .write processId writes =>
    (((runtime.write processId writes world.accept).mapError hostRuntimeError).map .process,
      runtime)
  | .resize processId cols rows =>
    (((runtime.resize processId cols rows world.resized).mapError hostRuntimeError).map .process,
      runtime)
  | .stop processId =>
    let (result, runtime) := runtime.stop processId world.kill world.now
    ((result.mapError hostRuntimeError).map .process, runtime)
  | .restartController =>
    if world.supervisor then (.ok .ack, runtime)
    else (.error ⟨"supervisor_stopped", "controller supervisor stopped"⟩, runtime)
  -- `Sync` is handled by the connection.
  | .sync _ => (.ok .ack, runtime)

def HostCommand.isSync : HostCommand → Bool
  | .sync _ => true
  | _ => false

/-- The request runs under the operation gate. -/
def HostRequest.needsGate (request : HostRequest) : Bool :=
  request.command.isMutating || request.command.isSync

/-- The cursor that `Sync` names for a process. -/
def HostRequest.cursor? (request : HostRequest) (processId : String) : Option OutputCursor :=
  match request.command with
  | .sync cursors => cursors.get? processId
  | _ => none

def responseMessage (requestId : String) : Except HostError HostResponse → HostMessage
  | .ok response => .response requestId (some response) none
  | .error error => .response requestId none (some error)

/-- Whether a chunk is news to a connection. -/
def shouldSend (liveAfter : KeyedMap String OutputCursor) (chunk : HostOutputChunk) : Bool :=
  match liveAfter.get? chunk.processId with
  | none => true
  | some cursor => cursor.streamEpoch != chunk.streamEpoch || cursor.revision < chunk.revision

/-- The cursors that a replay leaves. -/
def replayCursors (replay : List HostOutputReplay) : KeyedMap String OutputCursor :=
  replay.foldl (fun cursors replay =>
    cursors.insert replay.processId
      { streamEpoch := replay.streamEpoch
        revision := replay.nextRevision - 1 })
    Table.empty

/-- What a task or thread does. -/
inductive HostAction where
  /-- A client connects. -/
  | accept
  | receive (connection : Nat) (request : HostRequest)
  /-- The task goes on with its request; it takes the gate if it needs it. -/
  | enter (connection : Nat)
  /-- The task looks for an earlier result. -/
  | lookup (connection : Nat)
  | perform (connection : Nat) (world : World)
  /-- The task remembers the result, and answers. -/
  | record (connection : Nat)
  | listProcesses (connection : Nat)
  | readOutput (connection : Nat)
  | answerSync (connection : Nat)
  /-- The task takes a chunk from its subscription. -/
  | deliver (connection : Nat)
  /-- The client goes away. -/
  | close (connection : Nat)
  /-- A thread of a process moves on. -/
  | thread (action : HostRuntime.Action)

inductive HostOutcome where
  | quiet
  /-- The command of the request was run. -/
  | performed (request : HostRequest) (result : Except HostError HostResponse)
  /-- The request was answered without running its command. -/
  | answered (request : HostRequest) (result : Except HostError HostResponse)
  /-- The result was remembered if the request has an operation id, and answered. -/
  | recorded (request : HostRequest) (result : Except HostError HostResponse)

/-- The action is one of a thread, not a call. -/
def HostRuntime.Action.ofThread : HostRuntime.Action → Bool
  | .spawn _ _ | .stop _ _ _ => false
  | _ => true

namespace HostState

def initial (runtime : HostRuntime) (build : HostBuildInfo) : HostState where
  runtime
  results := Fifo.empty
  operationGate := none
  connections := []
  build

variable (state : HostState) (place : Nat)

def updateConnection (mutation : Connection → Connection) : HostState :=
  { state with connections := state.connections.modify place mutation }

/-- The request a connection is working on. -/
def call? : Option (HostRequest × Phase) :=
  (state.connections[place]?).bind (·.call)

/-- The connection is open and has no request. -/
def idle : Bool :=
  (state.connections[place]?).any fun connection => connection.call.isNone && !connection.closed

def setPhase (request : HostRequest) (phase : Phase) : HostState :=
  state.updateConnection place fun connection => { connection with call := some (request, phase) }

/-- The request is done with; the gate goes with it. -/
def release (request : HostRequest) : HostState :=
  { state with operationGate := if request.needsGate then none else state.operationGate }

/-- Hand the answer to the writer and wait for the next request. -/
def answer (request : HostRequest) (result : Except HostError HostResponse) : HostState :=
  (state.updateConnection place fun connection =>
    { connection with
      call := none
      outgoing := connection.outgoing ++ [responseMessage request.requestId result]
    }).release request

def accept : HostState :=
  { state with
    connections := state.connections ++
      [{ position := state.runtime.outputEvents.length
         synced := false
         liveAfter := Table.empty
         call := none
         outgoing := []
         closed := false }] }

def protocolMismatch : HostError :=
  ⟨"protocol_mismatch", "host protocol is " ++ toString hostProtocolVersion⟩

/-- The task reads a request. -/
def receive (request : HostRequest) : HostState :=
  if state.idle place then
    if request.protocol ≠ hostProtocolVersion then
      state.updateConnection place fun connection =>
        { connection with
          outgoing := connection.outgoing ++
            [responseMessage request.requestId (.error protocolMismatch)]
          closed := true }
    else state.setPhase place request .waiting
  else state

def enter : HostState :=
  match state.call? place with
  | some (request, .waiting) =>
    if request.needsGate then
      match state.operationGate with
      | none => { state.setPhase place request .entered with operationGate := some place }
      | some _ => state
    else state.setPhase place request .entered
  | _ => state

def operationIdRequired : HostError :=
  ⟨"operation_id_required", "mutating commands need operation_id"⟩

/-- An earlier result is the answer. -/
def lookup : HostOutcome × HostState :=
  match state.call? place with
  | some (request, .entered) =>
    if request.command.isSync then (.quiet, state)
    else if request.command.isMutating then
      match request.operationId with
      | none =>
        (.answered request (.error operationIdRequired),
          state.answer place request (.error operationIdRequired))
      | some operationId =>
        match state.results.get? operationId with
        | some result => (.answered request result, state.answer place request result)
        | none => (.quiet, state.setPhase place request .unanswered)
    else (.quiet, state.setPhase place request .unanswered)
  | _ => (.quiet, state)

/-- The task runs the command. -/
def perform (world : World) : HostOutcome × HostState :=
  match state.call? place with
  | some (request, .unanswered) =>
    let ran := runCommand state.runtime world request.command
    (.performed request ran.1,
      { state.setPhase place request (.performed ran.1) with runtime := ran.2 })
  | _ => (.quiet, state)

/-- The results after a request ended. -/
def remember (results : ResultCache) (request : HostRequest)
    (result : Except HostError HostResponse) : ResultCache :=
  match request.operationId with
  | some operationId => results.insert operationId result
  | none => results

def record : HostOutcome × HostState :=
  match state.call? place with
  | some (request, .performed result) =>
    (.recorded request result,
      { state.answer place request result with
        results := remember state.results request result })
  | _ => (.quiet, state)

def listProcesses : HostState :=
  match state.call? place with
  | some (request, .entered) =>
    if request.command.isSync then
      state.setPhase place request (.reading state.runtime.list state.runtime.list [])
    else state
  | _ => state

/-- The error of a read ends the connection. -/
def readOutput : HostState :=
  match state.call? place with
  | some (request, .reading processes (process :: pending) replay) =>
    match state.runtime.read process.processId (request.cursor? process.processId) with
    | .ok output => state.setPhase place request (.reading processes pending (replay ++ [output]))
    | .error _ =>
      (state.updateConnection place fun connection =>
        { connection with call := none, closed := true }).release request
  | _ => state

def answerSync : HostState :=
  match state.call? place with
  | some (request, .reading processes [] replay) =>
    (state.updateConnection place fun connection =>
      { connection with
        call := none
        synced := true
        liveAfter := replayCursors replay
        outgoing := connection.outgoing ++
          [responseMessage request.requestId
            (.ok (.synced state.runtime.hostEpoch state.build processes replay))] }).release request
  | _ => state

/-- One chunk of output, as the task of a connection deals with it. -/
def takeChunk (connection : Connection) (chunk : HostOutputChunk) : Connection :=
  if shouldSend connection.liveAfter chunk then
    { connection with
      position := connection.position + 1
      liveAfter := connection.liveAfter.insert chunk.processId
        { streamEpoch := chunk.streamEpoch
          revision := chunk.revision }
      outgoing := connection.outgoing ++ [.output chunk] }
  else { connection with position := connection.position + 1 }

/-- A subscriber that is too far behind is cut off. -/
def deliver : HostState :=
  if state.idle place then
    state.updateConnection place fun connection =>
      if connection.synced then
        match state.runtime.outputEvents[connection.position]? with
        | some chunk =>
          if outputEventsCapacity < state.runtime.outputEvents.length - connection.position then
            { connection with closed := true }
          else takeChunk connection chunk
        | none => connection
      else connection
  else state

def close : HostState :=
  if state.idle place then
    state.updateConnection place fun connection => { connection with closed := true }
  else state

def step : HostAction → HostOutcome × HostState
  | .accept => (.quiet, state.accept)
  | .receive place request => (.quiet, state.receive place request)
  | .enter place => (.quiet, state.enter place)
  | .lookup place => state.lookup place
  | .perform place world => state.perform place world
  | .record place => state.record place
  | .listProcesses place => (.quiet, state.listProcesses place)
  | .readOutput place => (.quiet, state.readOutput place)
  | .answerSync place => (.quiet, state.answerSync place)
  | .deliver place => (.quiet, state.deliver place)
  | .close place => (.quiet, state.close place)
  | .thread action =>
    (.quiet,
      if action.ofThread then { state with runtime := (state.runtime.step action).2 } else state)

end HostState
end Treer.Host
