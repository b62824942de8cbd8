import Treer.Foundation.Pool
import Treer.Proxy.Workspace

/-!
# The state of a Proxy

Connections of machines, operators and other Proxies change the state of a Proxy. Each of
their operations takes one lock after another and waits for the cluster in between, so that
calls of others can come between its own. A call here is what happens under one lock.
-/

namespace Treer.Proxy

open Foundation Protocol
open Controller (AgentInfo)
open Foundation.Procedure (call attempt settle)

/-- A machine of a workspace. -/
structure ServerKey where
  (workspaceId serverId : String)
  deriving DecidableEq

def ServerInfo.key (server : ServerInfo) : ServerKey where
  workspaceId := server.workspaceId
  serverId := server.serverId

/-- The connection of a Controller. -/
structure ServerConnection where
  (connectionId controllerInstanceId : String)
  capabilities : List String
  deriving DecidableEq

/-- A terminal of a browser, on an agent of a machine. -/
structure TerminalSession where
  sessionId : String
  key : ServerKey
  processId : String
  /-- The connection that the attach message was sent over. -/
  carrier : Option String

/-- A stream of a browser to a service of a machine. -/
structure NetworkStream where
  streamId : String
  key : ServerKey
  /-- The connection that the open frame was sent over. -/
  carrier : Option String

/-- What the Proxy keeps. -/
structure Shared where
  workspaces : KeyedMap String WorkspaceState
  connections : KeyedMap ServerKey ServerConnection
  clusterSnapshotRevisions : KeyedMap ServerKey Nat
  terminalSessions : Table TerminalSession TerminalSession.sessionId
  browserNetworkStreams : Table NetworkStream NetworkStream.streamId
  /-- Every connection that was registered, the last one first. -/
  registrations : List (ServerKey × String)

def Shared.empty : Shared where
  workspaces := Table.empty
  connections := Table.empty
  clusterSnapshotRevisions := Table.empty
  terminalSessions := Table.empty
  browserNetworkStreams := Table.empty
  registrations := []

/-! ## Calls -/

/-- What is done to one workspace, under the lock of the workspaces. -/
inductive Update where
  | registerServer (server : ServerInfo)
  | serverSnapshot (serverId : String)
  | applySnapshot (snapshot : AgentServerSnapshot) (live : Option (List String))
  | heartbeat (serverId : String)
  | applyAgentEvent (agent : AgentInfo)
  | setOffline (serverId : String)
  | restoreDeletedAgents (agentIds : List String)
  | deleteAgent (agentId : String)
  | deleteServer (serverId : String)
  | applyClusterSnapshot (snapshot : AgentServerSnapshot)
  | applyProjection (projection : Projection)

/-- An agent event is not applied if the agent was deleted, and a projection answers whether
something has changed that others are told of. -/
abbrev Update.Answer : Update → Type
  | .registerServer _ => Nat
  | .serverSnapshot _ => AgentServerSnapshot
  | .applyAgentEvent _ | .applyProjection _ => Bool
  | .applySnapshot _ _ | .heartbeat _ | .setOffline _ | .restoreDeletedAgents _ | .deleteAgent _
  | .deleteServer _ | .applyClusterSnapshot _ => Unit

/-- The update of the workspace. -/
def Update.run (workspace : WorkspaceState) (now : Int) :
    (update : Update) → Except ProtocolError (update.Answer × WorkspaceState)
  | .registerServer server =>
    let next := workspace.registerServer server
    .ok (next.revision, next)
  | .serverSnapshot serverId => (workspace.serverSnapshot serverId).map (·, workspace)
  | .applySnapshot snapshot live => (workspace.applySnapshot snapshot live now).map ((), ·)
  | .heartbeat serverId => (workspace.heartbeat serverId now).map ((), ·)
  | .applyAgentEvent agent =>
    (workspace.applyAgentEvent agent).map fun next => (next.isSome, next.getD workspace)
  | .setOffline serverId => .ok ((), workspace.setOffline serverId now)
  | .restoreDeletedAgents agentIds => .ok ((), workspace.restoreDeletedAgents agentIds)
  | .deleteAgent agentId => (workspace.deleteAgent agentId).map ((), ·)
  | .deleteServer serverId => (workspace.deleteServer serverId).map ((), ·)
  | .applyClusterSnapshot snapshot => .ok ((), workspace.applyClusterSnapshot snapshot)
  | .applyProjection projection =>
    let next := workspace.applyProjection now projection
    .ok (next.revision != workspace.revision, next)

/-- What the cluster is asked. -/
inductive ClusterCall where
  | claim (key : ServerKey) (connectionId : String) (snapshot : AgentServerSnapshot)
  | publishSnapshot (key : ServerKey) (connectionId : String) (snapshot : AgentServerSnapshot)
  | renew (key : ServerKey) (connectionId : String)
  | release (key : ServerKey) (connectionId : String)
  | broadcast (workspaceId : String) (projection : Projection)

/-- What is done under one lock. -/
inductive Call : Type → Type where
  | now : Call Int
  | ensureWorkspace (workspaceId : String) : Call Unit
  /-- `renamed` if the workspace is there with other information. -/
  | upsertWorkspace (workspaceId : String) (renamed : Bool) : Call Unit
  /-- The machines of the workspace that is removed. -/
  | removeWorkspace (workspaceId : String) : Call (List String)
  | isServerDeleted (key : ServerKey) : Call Bool
  | update (workspaceId : String) (update : Update) : Call (Except ProtocolError update.Answer)
  | connect (key : ServerKey) (connection : ServerConnection) : Call Unit
  | disconnect (key : ServerKey) : Call (Option ServerConnection)
  /-- The connection is removed if it is the one with this id. -/
  | disconnectCurrent (key : ServerKey) (connectionId : String) : Call Bool
  | requireCurrent (key : ServerKey) (connectionId : String) : Call (Except ProtocolError Unit)
  | liveCapabilities (key : ServerKey) : Call (Option (List String))
  /-- `renew` answers whether the lease is held. -/
  | cluster (request : ClusterCall) : Call (Except ProtocolError Bool)
  /-- The revision of a snapshot is newer than the last one of its machine. -/
  | acceptRevision (key : ServerKey) (revision : Nat) : Call Bool
  | closeTerminals (key : ServerKey) : Call Unit
  | closeStreams (key : ServerKey) : Call Unit
  | agentTerminals (workspaceId agentId : String) : Call (List String)
  | openTerminal (session : TerminalSession) : Call Unit
  /-- The attach message is sent over the connection of the machine, if there is one. -/
  | sendAttach (sessionId : String) (key : ServerKey) : Call Bool
  | dropTerminal (sessionId : String) : Call Unit
  | openStream (stream : NetworkStream) : Call Unit
  | sendOpen (streamId : String) (key : ServerKey) : Call Bool
  | dropStream (streamId : String) : Call Unit

/-- The time and the answer of the cluster. -/
structure World where
  now : Int
  cluster : Except ProtocolError Bool

namespace Shared

def update (shared : Shared) (workspaceId : String) (update : Update) (now : Int) :
    Except ProtocolError update.Answer × Shared :=
  match shared.workspaces.get? workspaceId with
  | none => (.error ⟨"workspace_not_found", workspaceId, none⟩, shared)
  | some workspace =>
    match update.run workspace now with
    | .error error => (.error error, shared)
    | .ok (result, next) =>
      (.ok result, { shared with workspaces := shared.workspaces.insert workspaceId next })

variable (shared : Shared)

def ensureWorkspace (workspaceId : String) : Shared :=
  match shared.workspaces.get? workspaceId with
  | none => { shared with workspaces := shared.workspaces.insert workspaceId WorkspaceState.empty }
  | some _ => shared

def upsertWorkspace (workspaceId : String) (renamed : Bool) : Shared :=
  match shared.workspaces.get? workspaceId with
  | none => { shared with workspaces := shared.workspaces.insert workspaceId WorkspaceState.empty }
  | some workspace =>
    if renamed then
      { shared with workspaces := shared.workspaces.insert workspaceId workspace.bump }
    else shared

def removeWorkspace (workspaceId : String) : List String × Shared :=
  (((shared.workspaces.get? workspaceId).map fun workspace =>
      workspace.servers.rows.map (·.serverId)).getD [],
    { shared with workspaces := shared.workspaces.erase workspaceId })

def isServerDeleted (key : ServerKey) : Bool :=
  (shared.workspaces.get? key.workspaceId).any fun workspace =>
    decide (key.serverId ∈ workspace.deletedServers)

def connect (key : ServerKey) (connection : ServerConnection) : Shared :=
  { shared with
    connections := shared.connections.insert key connection
    registrations := (key, connection.connectionId) :: shared.registrations }

def disconnect (key : ServerKey) : Shared :=
  { shared with connections := shared.connections.erase key }

def isCurrent (key : ServerKey) (connectionId : String) : Bool :=
  (shared.connections.get? key).any (·.connectionId == connectionId)

def requireCurrent (key : ServerKey) (connectionId : String) : Except ProtocolError Unit :=
  match shared.connections.get? key with
  | some connection =>
    if connection.connectionId = connectionId then .ok ()
    else .error ⟨"duplicate_machine_connection",
      "Controller " ++ connection.controllerInstanceId ++ " currently owns machine " ++
        key.serverId, none⟩
  | none =>
    .error ⟨"stale_connection", "connection for " ++ key.serverId ++ " is no longer current", none⟩

def acceptRevision (key : ServerKey) (revision : Nat) : Bool × Shared :=
  if (shared.clusterSnapshotRevisions.get? key).any (revision ≤ ·) then (false, shared)
  else
    (true,
      { shared with
        clusterSnapshotRevisions := shared.clusterSnapshotRevisions.insert key revision })

def closeTerminals (key : ServerKey) : Shared :=
  { shared with terminalSessions := shared.terminalSessions.delete (·.key == key) }

def closeStreams (key : ServerKey) : Shared :=
  { shared with browserNetworkStreams := shared.browserNetworkStreams.delete (·.key == key) }

def sendAttach (sessionId : String) (key : ServerKey) : Bool × Shared :=
  match shared.connections.get? key with
  | none => (false, shared)
  | some connection =>
    (true,
      { shared with
        terminalSessions := shared.terminalSessions.update (·.sessionId == sessionId)
          (fun session => { session with carrier := some connection.connectionId }) fun _ => rfl })

def sendOpen (streamId : String) (key : ServerKey) : Bool × Shared :=
  match shared.connections.get? key with
  | none => (false, shared)
  | some connection =>
    (true,
      { shared with
        browserNetworkStreams := shared.browserNetworkStreams.update (·.streamId == streamId)
          (fun stream => { stream with carrier := some connection.connectionId }) fun _ => rfl })

end Shared

/-- How a call is answered. -/
def machine : Machine Call Shared World
  | _, .now, world, shared => (world.now, shared)
  | _, .ensureWorkspace workspaceId, _, shared => ((), shared.ensureWorkspace workspaceId)
  | _, .upsertWorkspace workspaceId renamed, _, shared =>
    ((), shared.upsertWorkspace workspaceId renamed)
  | _, .removeWorkspace workspaceId, _, shared => shared.removeWorkspace workspaceId
  | _, .isServerDeleted key, _, shared => (shared.isServerDeleted key, shared)
  | _, .update workspaceId update, world, shared => shared.update workspaceId update world.now
  | _, .connect key connection, _, shared => ((), shared.connect key connection)
  | _, .disconnect key, _, shared => (shared.connections.get? key, shared.disconnect key)
  | _, .disconnectCurrent key connectionId, _, shared =>
    if shared.isCurrent key connectionId then (true, shared.disconnect key) else (false, shared)
  | _, .requireCurrent key connectionId, _, shared =>
    (shared.requireCurrent key connectionId, shared)
  | _, .liveCapabilities key, _, shared =>
    ((shared.connections.get? key).map fun connection =>
      readModelCapabilities connection.capabilities, shared)
  | _, .cluster _, world, shared => (world.cluster, shared)
  | _, .acceptRevision key revision, _, shared => shared.acceptRevision key revision
  | _, .closeTerminals key, _, shared => ((), shared.closeTerminals key)
  | _, .closeStreams key, _, shared => ((), shared.closeStreams key)
  | _, .agentTerminals workspaceId agentId, _, shared =>
    ((shared.terminalSessions.rows.filter fun session =>
      session.key.workspaceId == workspaceId && session.processId == agentId).map (·.sessionId),
      shared)
  | _, .openTerminal session, _, shared =>
    ((), { shared with terminalSessions := shared.terminalSessions.put session })
  | _, .sendAttach sessionId key, _, shared => shared.sendAttach sessionId key
  | _, .dropTerminal sessionId, _, shared =>
    ((), { shared with
      terminalSessions := shared.terminalSessions.delete (·.sessionId == sessionId) })
  | _, .openStream stream, _, shared =>
    ((), { shared with browserNetworkStreams := shared.browserNetworkStreams.put stream })
  | _, .sendOpen streamId key, _, shared => shared.sendOpen streamId key
  | _, .dropStream streamId, _, shared =>
    ((), { shared with
      browserNetworkStreams := shared.browserNetworkStreams.delete (·.streamId == streamId) })

abbrev Procedure := Foundation.Procedure Call ProtocolError

/-- A Controller connects. -/
def registerServer (server : ServerInfo) (connectionId controllerInstanceId : String)
    (capabilities : List String) : Procedure Nat := do
  let key := server.key
  call (.ensureWorkspace server.workspaceId)
  let deleted ← call (.isServerDeleted key)
  settle (refuse deleted ⟨"server_deleted", "server " ++ server.serverId ++ " was deleted", none⟩)
  let now ← call .now
  call (.connect key { connectionId, controllerInstanceId, capabilities })
  let revision ← attempt (.update server.workspaceId (.registerServer
    { server with
      status := .online
      connectedAt := now
      lastSeenAt := now
      capabilities := readModelCapabilities capabilities }))
  let snapshot ← attempt (.update server.workspaceId (.serverSnapshot server.serverId))
  let claimed ← call (.cluster (.claim key connectionId snapshot))
  match claimed with
  | .ok _ => return revision
  | .error error =>
    let _ ← call (.disconnect key)
    throw error

/-- Commands that wait for the machine are sent again after it, see `Proxy.Commands`. -/
def applySnapshot (connectionId : String) (snapshot : AgentServerSnapshot) : Procedure Unit := do
  let key := snapshot.server.key
  attempt (.requireCurrent key connectionId)
  let live ← call (.liveCapabilities key)
  attempt (.update key.workspaceId (.applySnapshot snapshot live))
  let snapshot ← attempt (.update key.workspaceId (.serverSnapshot key.serverId))
  let _ ← attempt (.cluster (.publishSnapshot key connectionId snapshot))

variable (key : ServerKey)

/-- The machine is still there. -/
def heartbeat (connectionId : String) : Procedure Unit := do
  attempt (.requireCurrent key connectionId)
  attempt (.update key.workspaceId (.heartbeat key.serverId))
  let renewed ← attempt (.cluster (.renew key connectionId))
  settle (refuse (!renewed)
    ⟨"duplicate_machine_connection",
      "another Controller currently owns machine " ++ key.serverId ++
        "; stopping this duplicate connection", none⟩)

def closeServerSessions : Procedure Unit := do
  call (.closeTerminals key)
  call (.closeStreams key)

/-- A connection has ended. -/
def disconnectServer (connectionId : String) : Procedure Unit := do
  let removed ← call (.disconnectCurrent key connectionId)
  if removed then
    let _ ← call (.cluster (.release key connectionId))
    let _ ← call (.update key.workspaceId (.setOffline key.serverId))
    closeServerSessions key
  else
    return ()

/-- An agent has changed. -/
def applyAgentEvent (connectionId : String) (agent : AgentInfo) : Procedure Unit := do
  let key : ServerKey := { workspaceId := agent.workspaceId, serverId := agent.serverId }
  attempt (.requireCurrent key connectionId)
  let applied ← attempt (.update key.workspaceId (.applyAgentEvent agent))
  if applied then
    let snapshot ← attempt (.update key.workspaceId (.serverSnapshot key.serverId))
    let _ ← attempt (.cluster (.publishSnapshot key connectionId snapshot))
  else
    return ()

/-- A browser opens a terminal. -/
def attachTerminal (sessionId : String) (key : ServerKey) (processId : String) :
    Procedure Unit := do
  call (.openTerminal { sessionId, key, processId, carrier := none })
  let sent ← call (.sendAttach sessionId key)
  if sent then
    return ()
  else
    call (.dropTerminal sessionId)
    throw ⟨"server_offline", key.serverId, none⟩

/-- A browser opens a stream. -/
def openNetworkStream (streamId : String) (key : ServerKey) : Procedure Unit := do
  call (.openStream { streamId, key, carrier := none })
  let sent ← call (.sendOpen streamId key)
  if sent then
    return ()
  else
    call (.dropStream streamId)
    throw ⟨"server_offline", key.serverId, none⟩

def dropTerminals : List String → Procedure Unit
  | [] => return ()
  | sessionId :: rest => do
    call (.dropTerminal sessionId)
    dropTerminals rest

def closeAgentTerminals (workspaceId agentId : String) : Procedure Unit := do
  let sessionIds ← call (.agentTerminals workspaceId agentId)
  dropTerminals sessionIds

/-- Commands that wait for the machine are answered there as well, see `Proxy.Commands`. -/
def releaseServerRuntime : Procedure Unit := do
  let connection ← call (.disconnect key)
  match connection with
  | some connection =>
    let _ ← call (.cluster (.release key connection.connectionId))
    closeServerSessions key
  | none => closeServerSessions key

variable (workspaceId : String)

def restoreDeletedAgents (agentIds : List String) : Procedure Unit :=
  attempt (.update workspaceId (.restoreDeletedAgents agentIds))

/-- Delete it here and elsewhere. -/
def deleteAgent (workspaceId agentId : String) : Procedure Unit := do
  attempt (.update workspaceId (.deleteAgent agentId))
  let _ ← attempt (.cluster (.broadcast workspaceId (.agentDeleted agentId)))
  closeAgentTerminals workspaceId agentId

def deleteServer : Procedure Unit := do
  attempt (.update key.workspaceId (.deleteServer key.serverId))
  releaseServerRuntime key
  let _ ← attempt (.cluster (.broadcast key.workspaceId (.serverDeleted key.serverId)))

/-- A snapshot of another replica. -/
def applyClusterSnapshot (snapshot : AgentServerSnapshot) (revision : Nat) : Procedure Unit := do
  let key := snapshot.server.key
  let accepted ← call (.acceptRevision key revision)
  if accepted then
    call (.ensureWorkspace key.workspaceId)
    attempt (.update key.workspaceId (.applyClusterSnapshot snapshot))
  else
    return ()

/-- A change at another replica. -/
def applyClusterProjection (projection : Projection) : Procedure Unit := do
  let changed ← attempt (.update workspaceId (.applyProjection projection))
  match projection with
  | .agentDeleted agentId => if changed then closeAgentTerminals workspaceId agentId else return ()
  | .serverDeleted serverId =>
    if changed then releaseServerRuntime { workspaceId, serverId } else return ()
  | .serverRenamed _ _ | .agentRenamed _ _ => return ()

/-- `apply_cluster_projection` of a workspace that was created or renamed. -/
def applyWorkspaceUpsert (renamed : Bool) : Procedure Unit :=
  call (.upsertWorkspace workspaceId renamed)

def releaseServers (workspaceId : String) : List String → Procedure Unit
  | [] => return ()
  | serverId :: rest => do
    releaseServerRuntime { workspaceId, serverId }
    releaseServers workspaceId rest

def applyWorkspaceDeleted : Procedure Unit := do
  let serverIds ← call (.removeWorkspace workspaceId)
  releaseServers workspaceId serverIds

/-- A request that the Proxy serves. -/
inductive Operation where
  | registerServer (server : ServerInfo) (connectionId controllerInstanceId : String)
      (capabilities : List String)
  | applySnapshot (connectionId : String) (snapshot : AgentServerSnapshot)
  | heartbeat (key : ServerKey) (connectionId : String)
  | disconnectServer (key : ServerKey) (connectionId : String)
  | applyAgentEvent (connectionId : String) (agent : AgentInfo)
  | attachTerminal (sessionId : String) (key : ServerKey) (processId : String)
  | openNetworkStream (streamId : String) (key : ServerKey)
  | restoreDeletedAgents (workspaceId : String) (agentIds : List String)
  | deleteAgent (workspaceId agentId : String)
  | deleteServer (key : ServerKey)
  | applyClusterSnapshot (snapshot : AgentServerSnapshot) (revision : Nat)
  | applyClusterProjection (workspaceId : String) (projection : Projection)
  | applyWorkspaceUpsert (workspaceId : String) (renamed : Bool)
  | applyWorkspaceDeleted (workspaceId : String)

/-- The operation without its answer. -/
def finish {α : Type} (procedure : Procedure α) : Program Call Unit := do
  let _ ← procedure.run
  return ()

def Operation.code : Operation → Program Call Unit
  | registerServer server connectionId controllerInstanceId capabilities =>
    finish (Proxy.registerServer server connectionId controllerInstanceId capabilities)
  | applySnapshot connectionId snapshot => finish (Proxy.applySnapshot connectionId snapshot)
  | heartbeat key connectionId => finish (Proxy.heartbeat key connectionId)
  | disconnectServer key connectionId => finish (Proxy.disconnectServer key connectionId)
  | applyAgentEvent connectionId agent => finish (Proxy.applyAgentEvent connectionId agent)
  | attachTerminal sessionId key processId => finish (Proxy.attachTerminal sessionId key processId)
  | openNetworkStream streamId key => finish (Proxy.openNetworkStream streamId key)
  | restoreDeletedAgents workspaceId agentIds =>
    finish (Proxy.restoreDeletedAgents workspaceId agentIds)
  | deleteAgent workspaceId agentId => finish (Proxy.deleteAgent workspaceId agentId)
  | deleteServer key => finish (Proxy.deleteServer key)
  | applyClusterSnapshot snapshot revision => finish (Proxy.applyClusterSnapshot snapshot revision)
  | applyClusterProjection workspaceId projection =>
    finish (Proxy.applyClusterProjection workspaceId projection)
  | applyWorkspaceUpsert workspaceId renamed =>
    finish (Proxy.applyWorkspaceUpsert workspaceId renamed)
  | applyWorkspaceDeleted workspaceId => finish (Proxy.applyWorkspaceDeleted workspaceId)

/-- The operations that were started, on the state they share. -/
abbrev Operations := Pool Call Operation Shared

/-- Any number of operations can be under way. -/
def Operations.step (operations : Operations) (move : Move Operation World) : Unit × Operations :=
  Pool.step machine Operation.code (fun _ _ => true) operations move

end Treer.Proxy
