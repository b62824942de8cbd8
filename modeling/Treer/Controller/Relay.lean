import Treer.Host.Runtime

/-!
# Terminals on a Proxy connection

The Host broadcasts the chunks of its streams. The Controller passes a chunk on to its
terminal events when its record of the agent has the chunk's stream epoch, or when it has no
record. The loop of a Proxy connection relays the events to the terminal sessions attached
on it, and reads from the Host what a session has missed.
-/

namespace Treer.Controller

open Foundation Host

def replayBoundaryScanBytes : Nat := 4 * 1024

structure TerminalRelay where
  (processId streamEpoch : String)
  lastRevision : Nat

inductive RelayStep where
  | skip
  | forward
  | resync
  deriving DecidableEq

/-- What the relay does with an event, and the relay after it. -/
def TerminalRelay.step (relay : TerminalRelay) (processId : String) (revision : Nat) :
    RelayStep × TerminalRelay :=
  if relay.processId != processId || decide (revision ≤ relay.lastRevision) then
    (.skip, relay)
  else if revision != relay.lastRevision + 1 then
    (.resync, relay)
  else
    (.forward, { relay with lastRevision := revision })

def TerminalRelay.cursor (relay : TerminalRelay) : OutputCursor where
  streamEpoch := relay.streamEpoch
  revision := relay.lastRevision

/-- Times are milliseconds of the Controller's clock. -/
structure PendingClose where
  (deadline finalRevision : Nat)
  exitCode : Option Int

structure TerminalSnapshot where
  streamEpoch : String
  revision : Nat
  gap : Bool
  data : List UInt8
  deriving DecidableEq

def decodeReplay (replay : HostOutputReplay) : List UInt8 :=
  replay.chunks.flatMap (·.data)

/-- The bytes of a replay; behind evicted output they start at the first escape sequence or
line. -/
def terminalReplay (replay : HostOutputReplay) (cursor : Option OutputCursor) : List UInt8 :=
  let resumed :=
    match cursor.filter (·.streamEpoch == replay.streamEpoch) with
    | some cursor => cursor.revision
    | none => 0
  let data := decodeReplay replay
  if replay.chunks.head?.any (resumed + 1 < ·.revision) then
    match (data.take replayBoundaryScanBytes).findIdx? fun byte => byte == 0x1b || byte == 0x0a with
    | some start => data.drop (if data[start]? = some 0x0a then start + 1 else start)
    | none => data
  else
    data

/-- A message about a terminal session on the connection. -/
inductive TerminalMessage where
  /-- `TerminalReady`, and the `Ready` frame right after it. -/
  | ready (sessionId : String) (snapshot : TerminalSnapshot)
  /-- An `Output` frame: it has the revision and the data of the chunk, not its epoch. -/
  | output (sessionId : String) (chunk : HostOutputChunk)
  | closed (sessionId : String) (reason : String) (exitCode : Option Int)
  deriving DecidableEq

def TerminalMessage.sessionId : TerminalMessage → String
  | .ready sessionId _ | .output sessionId _ | .closed sessionId _ _ => sessionId

/-- The Host's streams, the two broadcasts between them and the connection, and the loop. -/
structure RelayState where
  /-- The stream of the last run of each process. -/
  streams : KeyedMap String OutputBuffer
  /-- Every stream epoch there was. -/
  epochs : List String
  /-- Chunks that the Host has broadcast and the Controller has not applied. -/
  outputs : List HostOutputChunk
  /-- The stream epoch in the Controller's record of each agent. -/
  records : KeyedMap String String
  /-- Terminal events that the loop has not received. A `TerminalOutput` has the process, the
  revision and the data of its chunk. -/
  terminalEvents : List HostOutputChunk
  terminalSessions : KeyedMap String TerminalRelay
  pendingCloses : KeyedMap String PendingClose
  /-- The sessions that `resync_terminals` has still to read for; the loop waits for it. -/
  resyncing : List String
  /-- What was sent on the connection. -/
  sent : List TerminalMessage

namespace RelayState

def initial : RelayState where
  streams := Table.empty
  epochs := []
  outputs := []
  records := Table.empty
  terminalEvents := []
  terminalSessions := Table.empty
  pendingCloses := Table.empty
  resyncing := []
  sent := []

variable (state : RelayState)

/-- The Host runs a process, maybe again; the epoch is a new UUID. -/
def spawn (processId streamEpoch : String) : RelayState :=
  if streamEpoch ∈ state.epochs then state
  else
    { state with
      streams := state.streams.insert processId (OutputBuffer.new streamEpoch)
      epochs := streamEpoch :: state.epochs }

/-- The Host reads output of a process; a read without bytes is the end of the file. -/
def write (processId : String) (bytes : List UInt8) (now : Int) : RelayState :=
  match state.streams.get? processId with
  | none => state
  | some buffer =>
    if bytes = [] then state
    else
      { state with
        streams := state.streams.insert processId (buffer.push processId bytes now).2
        outputs := state.outputs ++ [buffer.nextChunk processId bytes now] }

/-- The Controller's record of an agent takes the epoch of a run. -/
def record (agentId streamEpoch : String) : RelayState :=
  { state with records := state.records.insert agentId streamEpoch }

/-- The Controller has missed broadcasts of the Host. -/
def lagOutputs (count : Nat) : RelayState :=
  { state with outputs := state.outputs.drop count }

def applyOutput : RelayState :=
  match state.outputs with
  | [] => state
  | chunk :: rest =>
    if (state.records.get? chunk.processId).all (· == chunk.streamEpoch) then
      { state with outputs := rest, terminalEvents := state.terminalEvents ++ [chunk] }
    else
      { state with outputs := rest }

def terminalSnapshot (agentId : String) (cursor : Option OutputCursor) :
    Except String TerminalSnapshot :=
  match state.streams.get? agentId with
  | none =>
    let error := RuntimeError.processNotFound agentId
    .error (error.code ++ ": " ++ error.toText)
  | some buffer =>
    let replay := buffer.replay agentId cursor
    .ok
      { streamEpoch := replay.streamEpoch
        revision := replay.nextRevision - 1
        gap := replay.gap
        data := terminalReplay replay cursor }

def send (message : TerminalMessage) : RelayState :=
  { state with sent := state.sent ++ [message] }

def receiveEvent : RelayState :=
  match state.terminalEvents with
  | [] => state
  | chunk :: rest =>
    let steps := state.terminalSessions.mapValues (·.step chunk.processId chunk.revision)
    { state with
      terminalEvents := rest
      terminalSessions := steps.mapValues (·.2)
      resyncing := (steps.rows.filter (·.2.1 == .resync)).map (·.1)
      sent := state.sent ++
        (steps.rows.filter (·.2.1 == .forward)).map fun entry => .output entry.1 chunk }

/-- The loop has missed terminal events. -/
def lagEvents (count : Nat) : RelayState :=
  { state with
    terminalEvents := state.terminalEvents.drop count
    resyncing := state.terminalSessions.rows.map (·.1) }

/-- One turn of `resync_terminals`; the Host may leave the read unanswered. -/
def resync (answered : Bool) : RelayState :=
  match state.resyncing with
  | [] => state
  | sessionId :: rest =>
    let state := { state with resyncing := rest }
    match state.terminalSessions.get? sessionId with
    | none => state
    | some relay =>
      match state.terminalSnapshot relay.processId (some relay.cursor) with
      | .error _ => state
      | .ok snapshot =>
        if !answered || (snapshot.data.isEmpty && !snapshot.gap) then state
        else
          { state with
            terminalSessions := state.terminalSessions.insert sessionId
              { relay with
                streamEpoch := snapshot.streamEpoch
                lastRevision := snapshot.revision } }.send (.ready sessionId snapshot)

/-- A process event that the Controller has let through. -/
def receiveProcess (process : HostProcessInfo) (now : Nat) : RelayState :=
  if process.running then state
  else
    { state with
      pendingCloses := state.terminalSessions.rows.foldl
        (fun closes entry =>
          if entry.2.processId = process.processId then
            closes.insert entry.1
              { deadline := now + 1000
                finalRevision := process.nextRevision - 1
                exitCode := process.exitCode }
          else closes)
        state.pendingCloses }

/-- The session has shown all the output of its process, or had the time for it. -/
def isDue (now : Nat) (entry : String × PendingClose) : Bool :=
  (state.terminalSessions.get? entry.1).all (entry.2.finalRevision ≤ ·.lastRevision) ||
    entry.2.deadline ≤ now

variable (sessionId : String)

def closeExited : RelayState :=
  match state.pendingCloses.get? sessionId with
  | none => state
  | some close =>
    let state := { state with pendingCloses := state.pendingCloses.erase sessionId }
    match state.terminalSessions.get? sessionId with
    | none => state
    | some _ =>
      { state with terminalSessions := state.terminalSessions.erase sessionId }.send
        (.closed sessionId "remote process exited" close.exitCode)

def closeTick (now : Nat) : RelayState :=
  ((state.pendingCloses.rows.filter (state.isDue now)).map (·.1)).foldl closeExited state

/-- `TerminalAttach`; `refusal` is the error of a request that the Host or the link to it
refuses. -/
def attach (sessionId agentId : String) (cursor : Option OutputCursor)
    (refusal : Option String) : RelayState :=
  match refusal, state.terminalSnapshot agentId cursor with
  | some reason, _ | none, .error reason => state.send (.closed sessionId reason none)
  | none, .ok snapshot =>
    { state with
      terminalSessions := state.terminalSessions.insert sessionId
        { processId := agentId
          streamEpoch := snapshot.streamEpoch
          lastRevision := snapshot.revision } }.send (.ready sessionId snapshot)

def detach : RelayState :=
  { state with
    terminalSessions := state.terminalSessions.erase sessionId
    pendingCloses := state.pendingCloses.erase sessionId }

def resize (refusal : Option String) : RelayState :=
  match state.terminalSessions.get? sessionId, refusal with
  | some _, some reason => (state.detach sessionId).send (.closed sessionId reason none)
  | _, _ => state

end RelayState

/-- A message that the loop of the connection takes. -/
inductive LoopAction where
  | receiveEvent
  | lagEvents (count : Nat)
  | receiveProcess (process : HostProcessInfo) (now : Nat)
  | closeTick (now : Nat)
  | attach (sessionId agentId : String) (cursor : Option OutputCursor) (refusal : Option String)
  | resize (sessionId : String) (refusal : Option String)
  | detach (sessionId : String)

inductive RelayAction where
  | spawn (processId streamEpoch : String)
  | write (processId : String) (bytes : List UInt8) (now : Int)
  | record (agentId streamEpoch : String)
  | lagOutputs (count : Nat)
  | applyOutput
  | loop (action : LoopAction)
  | resync (answered : Bool)

namespace RelayState

def turn (state : RelayState) : LoopAction → RelayState
  | .receiveEvent => state.receiveEvent
  | .lagEvents count => state.lagEvents count
  | .receiveProcess process now => state.receiveProcess process now
  | .closeTick now => state.closeTick now
  | .attach sessionId agentId cursor refusal => state.attach sessionId agentId cursor refusal
  | .resize sessionId refusal => state.resize sessionId refusal
  | .detach sessionId => state.detach sessionId

def step (state : RelayState) : RelayAction → Unit × RelayState
  | .spawn processId streamEpoch => ((), state.spawn processId streamEpoch)
  | .write processId bytes now => ((), state.write processId bytes now)
  | .record agentId streamEpoch => ((), state.record agentId streamEpoch)
  | .lagOutputs count => ((), state.lagOutputs count)
  | .applyOutput => ((), state.applyOutput)
  -- The loop takes nothing while it resynchronizes.
  | .loop action => ((), if state.resyncing = [] then state.turn action else state)
  | .resync answered => ((), state.resync answered)

end RelayState
end Treer.Controller
