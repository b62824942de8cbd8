import Treer.Proxy.State

/-!
# Commands to a machine

A command is entered in the table of pending commands, sent to the machine and answered by
the result that comes back. When the machine connects again, commands that wait for it are
sent once more, but for those that must not be carried out twice: these are answered with an
error.

The state also has what has happened so far: the commands that were issued, the frames that
were sent, the results that arrived and what the callers were told.
-/

namespace Treer.Proxy.Commands

open Foundation Protocol
open Foundation.Procedure (call attempt settle)

structure PendingCommand where
  commandId : String
  server : ServerKey
  encoded : String
  (requiredCapability creationAgentId : Option String)
  deriving DecidableEq

/-- A transfer of files or an update of the Controller is never replayed. -/
def PendingCommand.single (command : PendingCommand) : Bool :=
  command.requiredCapability == some Capability.machineFileTransfer ||
    command.requiredCapability == some Capability.controllerUpdate

/-- What a caller is sent. The result of a machine has the connection that it came over. -/
structure Delivery (ν : Type) where
  result : CommandResult ν
  origin : Option (ServerKey × String)

/-- A text that was sent over a connection. -/
structure Frame where
  (commandId connectionId text : String)

/-- A result that came over the connection that was registered for the machine. -/
structure Arrival where
  commandId : String
  key : ServerKey
  connectionId : String

/-- What a caller was told. -/
structure Outcome (ν : Type) where
  commandId : String
  value : Except ProtocolError (Option ν)
  origin : Option (ServerKey × String)

structure Shared (ν : Type) where
  connections : KeyedMap ServerKey ServerConnection
  pending : Table PendingCommand PendingCommand.commandId
  /-- What waits for the callers. -/
  delivered : List (String × Delivery ν)
  issued : Table PendingCommand PendingCommand.commandId
  sent : List Frame
  arrivals : List Arrival
  outcomes : List (Outcome ν)

def Shared.empty {ν : Type} : Shared ν where
  connections := Table.empty
  pending := Table.empty
  delivered := []
  issued := Table.empty
  sent := []
  arrivals := []
  outcomes := []

inductive Awaited (ν : Type) where
  | result (delivery : Delivery ν)
  | cancelled
  | timeout

inductive Call (ν : Type) : Type → Type where
  | connection (key : ServerKey) : Call ν (Option ServerConnection)
  /-- The database is asked whether the agent was deleted. -/
  | requireCreationNotDeleted (workspaceId : String) (agentId : Option String) :
      Call ν (Except ProtocolError Unit)
  | insert (command : PendingCommand) : Call ν Unit
  | remove (commandId : String) : Call ν Unit
  /-- True if the connection is still open. -/
  | send (frame : Frame) : Call ν Bool
  | await (commandId : String) : Call ν (Awaited ν)
  | report (outcome : Outcome ν) : Call ν Unit
  /-- `require_current_connection` for a result that comes in. -/
  | arrive (arrival : Arrival) : Call ν (Except ProtocolError Unit)
  | complete (key : ServerKey) (connectionId : String) (result : CommandResult ν) :
      Call ν (Except ProtocolError Unit)
  /-- Answers what a new connection must not get; the others are to be sent again. -/
  | rejectStale (key : ServerKey) (capabilities : List String) : Call ν (List PendingCommand)
  | reject (commandId : String) (error : ProtocolError) : Call ν Unit
  | rejectAll (key : ServerKey) (error : ProtocolError) : Call ν Unit
  | connect (key : ServerKey) (connection : ServerConnection) : Call ν Unit
  | disconnect (key : ServerKey) : Call ν Unit
  | disconnectCurrent (key : ServerKey) (connectionId : String) : Call ν Unit

structure World where
  /-- What the database answers. -/
  creation : Except ProtocolError Unit
  (isOpen timedOut : Bool)

namespace Shared

variable {ν : Type} (shared : Shared ν) (key : ServerKey)

def isCurrent (connectionId : String) : Bool :=
  (shared.connections.get? key).any (·.connectionId == connectionId)

/-- Commands leave the table, and their callers get a result. -/
def answer (selected : PendingCommand → Bool) (delivery : PendingCommand → Delivery ν) : Shared ν :=
  { shared with
    pending := shared.pending.delete selected
    delivered := (shared.pending.rows.filter selected).map
      (fun command => (command.commandId, delivery command)) ++ shared.delivered }

/-- The Proxy itself answers with an error. -/
def fail (selected : PendingCommand → Bool) (error : PendingCommand → ProtocolError) : Shared ν :=
  shared.answer selected fun command =>
    { result := .failure command.commandId (error command), origin := none }

def insert (command : PendingCommand) : Shared ν :=
  { shared with
    pending := shared.pending.put command
    issued := shared.issued.put command }

def remove (commandId : String) : Shared ν :=
  { shared with pending := shared.pending.delete (·.commandId == commandId) }

/-- The caller gets the result that waits for it. Without one it waits until the time is over,
unless nobody can send one any more. -/
def await (commandId : String) (timedOut : Bool) : Awaited ν :=
  match shared.delivered.find? (·.1 == commandId) with
  | some entry => if timedOut then .timeout else .result entry.2
  | none => if timedOut || (shared.pending.find? commandId).isSome then .timeout else .cancelled

def requireCurrent (connectionId : String) : Except ProtocolError Unit :=
  match shared.connections.get? key with
  | some connection =>
    if connection.connectionId = connectionId then .ok ()
    else .error ⟨"duplicate_machine_connection",
      "Controller " ++ connection.controllerInstanceId ++ " currently owns machine " ++
        key.serverId, none⟩
  | none =>
    .error ⟨"stale_connection", "connection for " ++ key.serverId ++ " is no longer current", none⟩

def arrive (arrival : Arrival) : Except ProtocolError Unit × Shared ν :=
  match shared.requireCurrent arrival.key arrival.connectionId with
  | .ok () => (.ok (), { shared with arrivals := arrival :: shared.arrivals })
  | .error error => (.error error, shared)

def complete (connectionId : String)
    (result : CommandResult ν) : Except ProtocolError Unit × Shared ν :=
  if (shared.pending.find? result.commandId).any (·.server != key) then
    (.error ⟨"command_identity_mismatch", "command result does not belong to this machine", none⟩,
      shared)
  else
    (.ok (), shared.answer (·.commandId == result.commandId) fun _ =>
      { result, origin := some (key, connectionId) })

/-- The new connection does not get what must not be replayed, and what it cannot do. -/
def stale (capabilities : List String) (command : PendingCommand) : Bool :=
  command.server == key &&
    (command.single || command.requiredCapability.any (!capabilities.contains ·))

def staleError (serverId : String) (command : PendingCommand) : ProtocolError :=
  if command.requiredCapability = some Capability.machineFileTransfer then
    ⟨"machine_transfer_stale",
      "Controller connection changed; transfer commands are not replayed, inspect the " ++
        "destination before retrying",
      none⟩
  else if command.requiredCapability = some Capability.controllerUpdate then
    ⟨"controller_update_dispatch_stale",
      "Controller connection changed; update commands are never replayed", none⟩
  else
    ⟨"unsupported_command",
      "machine " ++ serverId ++ " does not advertise capability " ++
        command.requiredCapability.getD "unknown", none⟩

def rejectStale (capabilities : List String) : List PendingCommand × Shared ν :=
  (shared.pending.rows.filter fun command =>
      command.server == key && !stale key capabilities command,
    shared.fail (stale key capabilities) (staleError key.serverId))

end Shared

def machine {ν : Type} : Machine (Call ν) (Shared ν) World
  | _, .connection key, _, shared => (shared.connections.get? key, shared)
  | _, .requireCreationNotDeleted _ agentId, world, shared =>
    (if agentId.isSome then world.creation else .ok (), shared)
  | _, .insert command, _, shared => ((), shared.insert command)
  | _, .remove commandId, _, shared => ((), shared.remove commandId)
  | _, .send frame, world, shared =>
    (world.isOpen, if world.isOpen then { shared with sent := frame :: shared.sent } else shared)
  | _, .await commandId, world, shared => (shared.await commandId world.timedOut, shared)
  | _, .report outcome, _, shared => ((), { shared with outcomes := outcome :: shared.outcomes })
  | _, .arrive arrival, _, shared => shared.arrive arrival
  | _, .complete key connectionId result, _, shared => shared.complete key connectionId result
  | _, .rejectStale key capabilities, _, shared => shared.rejectStale key capabilities
  | _, .reject commandId error, _, shared =>
    ((), shared.fail (·.commandId == commandId) fun _ => error)
  | _, .rejectAll key error, _, shared => ((), shared.fail (·.server == key) fun _ => error)
  | _, .connect key connection, _, shared =>
    ((), { shared with connections := shared.connections.insert key connection })
  | _, .disconnect key, _, shared =>
    ((), { shared with connections := shared.connections.erase key })
  | _, .disconnectCurrent key connectionId, _, shared =>
    ((), if shared.isCurrent key connectionId then
        { shared with connections := shared.connections.erase key }
      else shared)

section
variable {π ν : Type}

abbrev Procedure (ν : Type) := Foundation.Procedure (Call ν) ProtocolError

/-- The agent that the command brings into being. -/
def creationAgentId (command : AgentCommand π) : Option String :=
  match command.kind with
  | .create agentId | .ensureLifecycle agentId | .appEnsureLifecycle agentId => some agentId
  | _ => none

/-- The connection that the command is sent over, if it can be. -/
def serving (serverId : String) (required : Option String) :
    Option ServerConnection → Except ProtocolError ServerConnection
  | none => .error ⟨"server_offline", serverId, none⟩
  | some connection =>
    match required.filter (!connection.capabilities.contains ·) with
    | none => .ok connection
    | some missing =>
      .error ⟨"unsupported_command",
        "machine " ++ serverId ++ " does not advertise capability " ++ missing, none⟩

def giveUp (commandId : String) (error : ProtocolError) : Procedure ν (Delivery ν) := do
  call (.remove commandId)
  throw error

/-- `encode` is the JSON text of a command. -/
def sendLocalCommand (encode : CommandEnvelope π → Except String String) (serverId : String)
    (expected : Option String) (envelope : CommandEnvelope π) : Procedure ν (Delivery ν) := do
  let key : ServerKey := { workspaceId := envelope.workspaceId, serverId }
  let required := envelope.command.requiredCapability
  let connection ← call (.connection key)
  let connection ← settle (serving serverId required
    (connection.filter fun connection => expected.all (· == connection.connectionId)))
  attempt (.requireCreationNotDeleted envelope.workspaceId (creationAgentId envelope.command))
  let encoded ← settle ((encode envelope).mapError fun error =>
    ⟨"encode_error", "failed to encode command: " ++ error, none⟩)
  call (.insert
    { commandId := envelope.commandId
      server := key
      encoded
      requiredCapability := required
      creationAgentId := creationAgentId envelope.command })
  let sent ← call (.send
    { commandId := envelope.commandId
      connectionId := connection.connectionId
      text := encoded })
  if sent then
    let awaited ← call (.await envelope.commandId)
    match awaited with
    | .result delivery => return delivery
    | .cancelled =>
      giveUp envelope.commandId
        ⟨"command_cancelled", "agent server disconnected before returning a result", none⟩
    | .timeout =>
      giveUp envelope.commandId
        ⟨"command_timeout", "command " ++ envelope.commandId ++ " timed out", none⟩
  else
    giveUp envelope.commandId ⟨"server_offline", serverId, none⟩

/-- What the caller of the command is told. -/
def outcome (commandId : String) : Except ProtocolError (Delivery ν) → Outcome ν
  | .error error => { commandId, value := .error error, origin := none }
  | .ok delivery =>
    { commandId
      value :=
        match delivery.result.error with
        | some error => .error error
        | none => .ok delivery.result.data
      origin := delivery.origin }

def completeCommandFrom (key : ServerKey) (connectionId : String) (result : CommandResult ν) :
    Procedure ν Unit := do
  attempt (.arrive { commandId := result.commandId, key, connectionId })
  attempt (.complete key connectionId result)

def resendEach (connectionId : String) : List PendingCommand → Procedure ν Unit
  | [] => return ()
  | command :: rest => do
    let allowed ← call
      (.requireCreationNotDeleted command.server.workspaceId command.creationAgentId)
    match allowed with
    | .ok _ =>
      let _ ← call (.send
        { commandId := command.commandId, connectionId, text := command.encoded })
      resendEach connectionId rest
    | .error error =>
      call (.reject command.commandId error)
      resendEach connectionId rest

def resendPending (key : ServerKey) : Procedure ν Unit := do
  let connection ← call (.connection key)
  match connection with
  | none => return ()
  | some connection =>
    let commands ← call (.rejectStale key connection.capabilities)
    resendEach connection.connectionId commands

/-- The part of `release_server_runtime` that is about connections and commands. -/
def releaseServerRuntime (key : ServerKey) (pendingError : String) : Procedure ν Unit := do
  call (.disconnect key)
  call (.rejectAll key ⟨pendingError, key.serverId, none⟩)

end

inductive Operation (π ν : Type) where
  | send (serverId : String) (expected : Option String) (envelope : CommandEnvelope π)
  | complete (key : ServerKey) (connectionId : String) (result : CommandResult ν)
  | resend (key : ServerKey)
  | release (key : ServerKey) (pendingError : String)
  | connect (key : ServerKey) (connection : ServerConnection)
  | disconnect (key : ServerKey) (connectionId : String)

section
variable {π ν : Type}

def finish {α : Type} (procedure : Procedure ν α) : Program (Call ν) Unit := do
  let _ ← procedure.run
  return ()

variable (encode : CommandEnvelope π → Except String String)

def Operation.code : Operation π ν → Program (Call ν) Unit
  | send serverId expected envelope => do
    let result ← (sendLocalCommand encode serverId expected envelope).run
    .perform (.report (outcome envelope.commandId result))
  | complete key connectionId result => finish (completeCommandFrom key connectionId result)
  | resend key => finish (resendPending key)
  | release key pendingError => finish (releaseServerRuntime key pendingError)
  | connect key connection => .perform (.connect key connection)
  | disconnect key connectionId => .perform (.disconnectCurrent key connectionId)

/-- The id of the command that is sent. -/
def Operation.sends : Operation π ν → Option String
  | send _ _ envelope => some envelope.commandId
  | _ => none

abbrev Operations (π ν : Type) := Pool (Call ν) (Operation π ν) (Shared ν)

def Operations.step (operations : Operations π ν) (move : Move (Operation π ν) World) :
    Unit × Operations π ν :=
  Pool.step machine (Operation.code encode) (fun _ _ => true) operations move

end
end Treer.Proxy.Commands
