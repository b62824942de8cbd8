import Treer.Foundation.Run
import Treer.Foundation.Table
import Treer.Protocol.Command

/-!
# Commands at the Controller

A Controller serves one Proxy connection at a time. The loop of the connection takes one
message after another; it waits for the handler of a command, except for `Exec`, whose
futures are kept beside the loop. Results are remembered under the id of their command,
and outlive the connection; handlers that have not ended do not.
-/

namespace Treer.Controller

open Foundation Protocol
variable {π ν : Type}

/-- `RESULT_CACHE_LIMIT` of the Controller. -/
def commandCacheLimit : Nat := 256

/-- The futures of `Exec` commands that a connection keeps at most. -/
def execLimit : Nat := 16

/-- The future of `execute` for an `Exec` command. -/
structure ExecFuture (π : Type) where
  envelope : CommandEnvelope π
  /-- It was polled, and its handler runs. -/
  started : Bool

def ExecFuture.commandId (future : ExecFuture π) : String :=
  future.envelope.commandId

/-- The loop of a connection. -/
structure Serving (π : Type) where
  /-- `exec_commands`, with `exec_ids` as its keys. -/
  execCommands : Table (ExecFuture π) ExecFuture.commandId
  /-- The command whose handler the loop waits for. -/
  awaited : Option (CommandEnvelope π)

def Serving.new : Serving π where
  execCommands := Table.empty
  awaited := none

/-- The future is done. -/
def Serving.close (serving : Serving π) (commandId : String) : Serving π :=
  { serving with execCommands := serving.execCommands.delete (·.commandId == commandId) }

abbrev CommandCache (ν : Type) := Table (CommandResult ν) CommandResult.commandId

structure ClientState (π ν : Type) where
  commandCache : CommandCache ν
  connection : Option (Serving π)

def ClientState.initial : ClientState π ν where
  commandCache := Table.empty
  connection := none

def commandPermitted (advertised : List String) (command : AgentCommand π) : Bool :=
  match command.requiredCapability with
  | none => true
  | some required => advertised.contains required

/-- What `execute` does up to the handler. -/
inductive Execution (ν : Type) where
  /-- The command is answered before the results are looked at. -/
  | refused (result : CommandResult ν)
  | cached (result : CommandResult ν)
  | start

def execute (workspaceId : String) (advertised : List String) (cache : CommandCache ν)
    (envelope : CommandEnvelope π) : Execution ν :=
  if envelope.workspaceId != workspaceId then
    .refused (.failure envelope.commandId
      ⟨"workspace_mismatch", "command targets another workspace", none⟩)
  else if !commandPermitted advertised envelope.command then
    .refused (.failure envelope.commandId
      ⟨"unsupported_command",
        "this Controller does not advertise capability " ++
          (envelope.command.requiredCapability.getD "unknown"), none⟩)
  else
    match cache.find? envelope.commandId with
    | some result => .cached result
    | none => .start

/-- Remember a result. A full cache loses the first key of a hash map, which can be any. -/
def record (cache : CommandCache ν) (first : Nat) (result : CommandResult ν) : CommandCache ν :=
  let cache :=
    if commandCacheLimit ≤ cache.rows.length then
      match cache.rows[first % cache.rows.length]? with
      | some evicted => cache.delete (·.commandId == evicted.commandId)
      | none => cache
    else cache
  cache.put result

inductive ClientAction (π ν : Type) where
  | connect
  /-- The loop takes a command from the socket. -/
  | receive (envelope : CommandEnvelope π) (advertised : List String)
  /-- The loop polls the future of an `Exec` for the first time. -/
  | poll (commandId : String) (advertised : List String)
  /-- The handler of an `Exec` ends. -/
  | finish (commandId : String) (ended : Except ProtocolError ν) (first : Nat)
  /-- The handler that the loop waits for ends. -/
  | finishAwaited (ended : Except ProtocolError ν) (first : Nat)
  /-- The connection ends, with everything that runs for it. -/
  | drop

inductive ClientOutcome (π ν : Type) where
  | quiet
  | started (envelope : CommandEnvelope π)
  /-- The command was answered before the results were looked at. -/
  | refused (result : CommandResult ν)
  | cached (result : CommandResult ν)
  /-- The handler ended, and its result is remembered and sent. -/
  | recorded (result : CommandResult ν)

namespace ClientState

variable (workspaceId : String) (state : ClientState π ν)

/-- The connection, while its loop is not waiting for a handler. -/
def ready? : Option (Serving π) :=
  state.connection.filter (·.awaited.isNone)

def receiveExec (serving : Serving π) (envelope : CommandEnvelope π) :
    ClientOutcome π ν × ClientState π ν :=
  if (serving.execCommands.find? envelope.commandId).isSome then (.quiet, state)
  else if execLimit ≤ serving.execCommands.rows.length then
    (.refused (.failure envelope.commandId
      ⟨"machine_exec_busy", "Controller already has 16 pending exec commands", none⟩), state)
  else
    (.quiet,
      { state with
        connection := some
          { serving with execCommands := serving.execCommands.put ⟨envelope, false⟩ } })

def receiveAwaited (serving : Serving π) (envelope : CommandEnvelope π) (advertised : List String) :
    ClientOutcome π ν × ClientState π ν :=
  match execute workspaceId advertised state.commandCache envelope with
  | .refused result => (.refused result, state)
  | .cached result => (.cached result, state)
  | .start =>
    (.started envelope, { state with connection := some { serving with awaited := some envelope } })

def receive (envelope : CommandEnvelope π) (advertised : List String) :
    ClientOutcome π ν × ClientState π ν :=
  match state.ready? with
  | none => (.quiet, state)
  | some serving =>
    if envelope.command.kind = .exec then state.receiveExec serving envelope
    else state.receiveAwaited workspaceId serving envelope advertised

def poll (commandId : String) (advertised : List String) : ClientOutcome π ν × ClientState π ν :=
  match state.ready? with
  | none => (.quiet, state)
  | some serving =>
    match (serving.execCommands.find? commandId).filter (!·.started) with
    | none => (.quiet, state)
    | some future =>
      match execute workspaceId advertised state.commandCache future.envelope with
      | .refused result =>
        (.refused result, { state with connection := some (serving.close commandId) })
      | .cached result =>
        (.cached result, { state with connection := some (serving.close commandId) })
      | .start =>
        (.started future.envelope,
          { state with
            connection := some
              { serving with
                execCommands := serving.execCommands.put ⟨future.envelope, true⟩ } })

def finish (commandId : String) (ended : Except ProtocolError ν)
    (first : Nat) : ClientOutcome π ν × ClientState π ν :=
  match state.ready? with
  | none => (.quiet, state)
  | some serving =>
    match (serving.execCommands.find? commandId).filter (·.started) with
    | none => (.quiet, state)
    | some future =>
      let result := CommandResult.ofExcept future.commandId ended
      (.recorded result,
        { commandCache := record state.commandCache first result
          connection := some (serving.close commandId) })

def finishAwaited (ended : Except ProtocolError ν) (first : Nat) :
    ClientOutcome π ν × ClientState π ν :=
  match state.connection with
  | none => (.quiet, state)
  | some serving =>
    match serving.awaited with
    | none => (.quiet, state)
    | some envelope =>
      let result := CommandResult.ofExcept envelope.commandId ended
      (.recorded result,
        { commandCache := record state.commandCache first result
          connection := some { serving with awaited := none } })

def step : ClientAction π ν → ClientOutcome π ν × ClientState π ν
  | .connect => (.quiet, { state with connection := some (state.connection.getD .new) })
  | .receive envelope advertised => state.receive workspaceId envelope advertised
  | .poll commandId advertised => state.poll workspaceId commandId advertised
  | .finish commandId ended first => state.finish commandId ended first
  | .finishAwaited ended first => state.finishAwaited ended first
  | .drop => (.quiet, { state with connection := none })

end ClientState
end Treer.Controller
