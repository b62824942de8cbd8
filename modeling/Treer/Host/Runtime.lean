import Treer.Foundation.Outcome
import Treer.Foundation.Text
import Treer.Host.Output

/-!
# Processes of the Host

The Host keeps one record for each process it started, with two threads: one reads
the output of the process, one waits for its end. The registry says which record
is current under a process id; a record that was replaced lives on as long as its
threads do. Records are known by their place in the order they were made, as the
source knows them by their address.

What the operating system and the threads that write input answer is a parameter
of the operations.
-/

namespace Treer.Host

open Foundation

def completedProcessLimit : Nat := 256

/-- The size of the buffer that the output thread reads into. -/
def readBufferBytes : Nat := 8192

inductive RuntimeError where
  | processExists (processId : String)
  | processNotFound (processId : String)
  | processNotRunning (processId : String)
  | invalidCwd (reason : String)
  | invalidRequest (reason : String)
  | spawn (reason : String)
  | terminal (reason : String)

namespace RuntimeError

def code : RuntimeError → String
  | .processExists _ => "process_exists"
  | .processNotFound _ => "process_not_found"
  | .processNotRunning _ => "process_not_running"
  | .invalidCwd _ => "invalid_cwd"
  | .invalidRequest _ => "invalid_request"
  | .spawn _ => "spawn_failed"
  | .terminal _ => "terminal_error"

def toText : RuntimeError → String
  | .processExists processId => "process " ++ processId ++ " already exists"
  | .processNotFound processId => "process " ++ processId ++ " was not found"
  | .processNotRunning processId => "process " ++ processId ++ " is no longer running"
  | .invalidCwd reason => "invalid working directory: " ++ reason
  | .invalidRequest reason => "invalid process request: " ++ reason
  | .spawn reason => "failed to start process: " ++ reason
  | .terminal reason => "terminal operation failed: " ++ reason

end RuntimeError

/-- Where the thread that reads the output of a process stands: it appends to the ring, notes the
new bounds in the process information, and sends the chunk to the subscribers. -/
inductive Reader where
  | waiting
  | pushed (chunk : HostOutputChunk) (firstRevision nextRevision : Nat) (bracketedPaste : Bool)
  | noted (chunk : HostOutputChunk)
  | ended
  deriving DecidableEq

/-- Where the thread that waits for the end of a process stands. -/
inductive Monitor where
  | watching
  | exited
  | finished
  deriving DecidableEq

/-- The flags tell whether the input queue, the child and the terminal are still
there. -/
structure HostProcess where
  info : HostProcessInfo
  (input child master : Bool)
  output : OutputBuffer
  reader : Reader
  monitor : Monitor

structure HostRuntime where
  hostEpoch : String
  root : List String
  /-- Every record that was made. -/
  records : List HostProcess
  /-- The place of the current record of each process id. -/
  processes : KeyedMap String Nat
  completedProcesses : List String
  /-- Everything that was sent to the subscribers of the output. -/
  outputEvents : List HostOutputChunk

/-- What the operating system answers to the steps of one `spawn`. -/
structure Launch where
  /-- The canonical path of the working directory, or why there is none. -/
  canonical : Except String (List String)
  /-- For a terminal of so many rows and columns. -/
  openpty : Nat → Nat → Except String Unit
  /-- Whether the program was found. -/
  program : Except String Unit
  spawnCommand : Except String (Option Nat)
  (cloneReader takeWriter : Except String Unit)
  streamEpoch : String
  now : Int

namespace HostRuntime

def new (hostEpoch : String) (root : List String) : HostRuntime where
  hostEpoch
  root
  records := []
  processes := Table.empty
  completedProcesses := []
  outputEvents := []

variable (runtime : HostRuntime) (processId : String)

/-- The current record of a process id, with its place. -/
def current? : Option (Nat × HostProcess) := do
  let place ← runtime.processes.get? processId
  let process ← runtime.records[place]?
  return (place, process)

def get : Except RuntimeError (Nat × HostProcess) :=
  match runtime.current? processId with
  | some found => .ok found
  | none => .error (.processNotFound processId)

def getRunning : Except RuntimeError (Nat × HostProcess) := do
  let found ← runtime.get processId
  refuse (!found.2.info.running) (.processNotRunning processId)
  return found

def list : List HostProcessInfo :=
  (runtime.processes.rows.filterMap fun row => runtime.records[row.2]?.map (·.info)).mergeSort
    fun left right => left.processId ≤ right.processId

/-- Change the record at a place. -/
def updateProcess (place : Nat) (mutation : HostProcess → HostProcess) : HostRuntime :=
  { runtime with records := runtime.records.modify place mutation }

variable (root : List String)

def resolveCwd (requested : String)
    (canonical : Except String (List String)) : Except RuntimeError (List String) := do
  let requested := if Text.trim requested = "" then "." else requested
  refuse (Text.startsWith requested "/") (.invalidCwd "cwd must be relative to the host root")
  let cwd ← canonical.mapError .invalidCwd
  refuse (!root.isPrefixOf cwd) (.invalidCwd "cwd resolves outside the host root")
  return cwd

def relativeDisplay (root cwd : List String) : String :=
  match cwd.drop root.length with
  | [] => "."
  | components => Text.join components '/'

variable (request : HostSpawnRequest)

/-- The steps of `spawn` after the check of the registry that can fail. -/
def start (launch : Launch) : Except RuntimeError (List String × Option Nat) := do
  let cwd ← resolveCwd root request.cwd launch.canonical
  (launch.openpty (max request.rows 1) (max request.cols 1)).mapError .terminal
  launch.program.mapError .spawn
  let pid ← launch.spawnCommand.mapError .spawn
  launch.cloneReader.mapError .terminal
  launch.takeWriter.mapError .terminal
  return (cwd, pid)

def startedInfo (launch : Launch) (cwd : List String) (pid : Option Nat) : HostProcessInfo where
  processId := request.processId
  pid
  cwd := relativeDisplay root cwd
  running := true
  startedAt := launch.now
  lastOutputAt := launch.now
  exitedAt := none
  exitCode := none
  streamEpoch := launch.streamEpoch
  firstRevision := (OutputBuffer.new launch.streamEpoch).firstRevision
  nextRevision := (OutputBuffer.new launch.streamEpoch).nextRevision
  bracketedPaste := false
  metadata := request.metadata

variable (info : HostProcessInfo)

def startedProcess : HostProcess where
  info
  input := true
  child := true
  master := true
  output := OutputBuffer.new info.streamEpoch
  reader := .waiting
  monitor := .watching

/-- The request names a process and a program. -/
def wellFormed : Bool :=
  Text.trim request.processId != "" && Text.trim request.command != ""

/-- The check of the registry. An id whose process has ended is free, and is taken off the list of
completed processes. -/
def claim : Except RuntimeError HostRuntime :=
  match runtime.current? processId with
  | none => .ok runtime
  | some (_, process) =>
    if process.info.running then .error (.processExists processId)
    else .ok
      { runtime with
        completedProcesses := runtime.completedProcesses.filter (· != processId) }

/-- Make the record of a started process current. -/
def register : HostRuntime :=
  { runtime with
    records := runtime.records ++ [startedProcess info]
    processes := runtime.processes.insert info.processId runtime.records.length }

/-- The registry is locked from its check to the new record, so the whole call is one
step. -/
def spawn (launch : Launch) : Except RuntimeError HostProcessInfo × HostRuntime :=
  if !wellFormed request then
    (.error (.invalidRequest "process_id and command must not be empty"), runtime)
  else
    match runtime.claim request.processId with
    | .error error => (.error error, runtime)
    | .ok claimed =>
      match start runtime.root request launch with
      | .error error => (.error error, claimed)
      | .ok (cwd, pid) =>
        let info := startedInfo runtime.root request launch cwd pid
        (.ok info, claimed.register info)

def read (cursor : Option OutputCursor) : Except RuntimeError HostOutputReplay := do
  let found ← runtime.get processId
  return found.2.output.replay processId cursor

/-- The thread that writes input answers the writes in order; `accept` has its
answers. -/
def write (writes : List HostWrite)
    (accept : Nat → Except String Unit) : Except RuntimeError HostProcessInfo := do
  refuse writes.isEmpty (.invalidRequest "writes must not be empty")
  let found ← runtime.getRunning processId
  (List.range writes.length).forM fun place => do
    refuse (!found.2.input) (.processNotRunning processId)
    (accept place).mapError .terminal
  return found.2.info

def resize (cols rows : Nat)
    (resized : Nat → Nat → Except String Unit) : Except RuntimeError HostProcessInfo := do
  let found ← runtime.getRunning processId
  refuse (!found.2.master) (.processNotRunning processId)
  (resized (max rows 1) (max cols 1)).mapError .terminal
  return found.2.info

/-- The information of a process that was stopped. -/
def stoppedInfo (now : Int) : HostProcessInfo :=
  { info with running := false, exitedAt := some now }

def stop (kill : Except String Unit) (now : Int) :
    Except RuntimeError HostProcessInfo × HostRuntime :=
  match runtime.getRunning processId with
  | .error error => (.error error, runtime)
  | .ok (place, process) =>
    if !process.child then (.error (.processNotRunning processId), runtime)
    else
      match kill with
      | .error text => (.error (.terminal text), runtime)
      | .ok _ =>
        let stopped := stoppedInfo process.info now
        (.ok stopped, runtime.updateProcess place fun process => { process with info := stopped })

variable (process : HostProcess)

/-- The output thread appends what it read to the ring. -/
def pushOutput (bytes : List UInt8) (now : Int) : HostProcess :=
  match process.reader with
  | .waiting =>
    if bytes = [] ∨ readBufferBytes < bytes.length then process
    else
      let pushed := process.output.push process.info.processId bytes now
      { process with
        output := pushed.2
        reader := .pushed pushed.1 pushed.2.firstRevision pushed.2.nextRevision
          pushed.2.bracketedPaste }
  | _ => process

/-- The output thread notes the new bounds. -/
def noteOutput : HostProcess :=
  match process.reader with
  | .pushed chunk firstRevision nextRevision bracketedPaste =>
    { process with
      info :=
        { process.info with
          lastOutputAt := chunk.emittedAt
          firstRevision
          nextRevision
          bracketedPaste }
      reader := .noted chunk }
  | _ => process

/-- The output thread sends its chunk to the subscribers. -/
def sendOutput (place : Nat) : HostRuntime :=
  match runtime.records[place]? with
  | some process =>
    match process.reader with
    | .noted chunk =>
      { runtime.updateProcess place fun process => { process with reader := .waiting } with
        outputEvents := runtime.outputEvents ++ [chunk] }
    | _ => runtime
  | none => runtime

/-- The output thread meets the end of the output. -/
def endOutput : HostProcess :=
  match process.reader with
  | .waiting => { process with reader := .ended }
  | _ => process

/-- The monitor finds that the process ended. -/
def observeExit (exitCode : Option Int) (now : Int) : HostProcess :=
  match process.monitor with
  | .watching =>
    { process with
      info := { process.info with running := false, exitCode, exitedAt := some now }
      monitor := .exited }
  | _ => process

/-- Put an id on the list, and take the oldest off when it gets too long. -/
def pushBounded (completed : List String) (processId : String) (limit : Nat) :
    Option String × List String :=
  let pushed := completed ++ [processId]
  if limit < pushed.length then (pushed.head?, pushed.tail) else (none, pushed)

/-- What a record holds when its process is done with. -/
def releasedProcess : HostProcess :=
  { process with input := false, child := false, master := false, monitor := .finished }

/-- Put the current record of an id on the list of completed processes, and drop the
record that falls off. -/
def complete : HostRuntime :=
  let (evicted, completedProcesses) :=
    pushBounded runtime.completedProcesses processId completedProcessLimit
  { runtime with
    completedProcesses
    processes :=
      match evicted with
      | some evicted => runtime.processes.erase evicted
      | none => runtime.processes }

/-- The monitor is done with its process. -/
def finishProcess (place : Nat) : HostRuntime :=
  match runtime.records[place]? with
  | some process =>
    match process.monitor with
    | .exited =>
      let released := runtime.updateProcess place releasedProcess
      if runtime.processes.get? process.info.processId = some place then
        released.complete process.info.processId
      else released
    | _ => runtime
  | none => runtime

/-- A call that changes the processes, or a move of a thread. -/
inductive Action where
  | spawn (request : HostSpawnRequest) (launch : Launch)
  | stop (processId : String) (kill : Except String Unit) (now : Int)
  | pushOutput (place : Nat) (bytes : List UInt8) (now : Int)
  | noteOutput (place : Nat)
  | sendOutput (place : Nat)
  | endOutput (place : Nat)
  | observeExit (place : Nat) (exitCode : Option Int) (now : Int)
  | finishProcess (place : Nat)

/-- What a call returns; a thread returns nothing. -/
abbrev Answer := Option (Except RuntimeError HostProcessInfo)

def step : Action → Answer × HostRuntime
  | .spawn request launch =>
    let result := runtime.spawn request launch
    (some result.1, result.2)
  | .stop processId kill now =>
    let result := runtime.stop processId kill now
    (some result.1, result.2)
  | .pushOutput place bytes now =>
    (none, runtime.updateProcess place fun process => HostRuntime.pushOutput process bytes now)
  | .noteOutput place => (none, runtime.updateProcess place HostRuntime.noteOutput)
  | .sendOutput place => (none, runtime.sendOutput place)
  | .endOutput place => (none, runtime.updateProcess place HostRuntime.endOutput)
  | .observeExit place exitCode now =>
    (none, runtime.updateProcess place fun process => HostRuntime.observeExit process exitCode now)
  | .finishProcess place => (none, runtime.finishProcess place)

end HostRuntime
end Treer.Host
