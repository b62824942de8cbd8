import Treer.Controller.Protocol
import Treer.Protocol.Command

/-!
# The live state of a workspace

A Proxy keeps the machines and agents of a workspace in memory: the machines that have
connected to it, those of other Proxies, the names that operators gave them, and the ids of
what was deleted. Each function here is what one operation does under the lock of the
workspaces.
-/

namespace Treer.Proxy

open Foundation Protocol
open Controller (AgentInfo)

inductive ServerStatus where
  | online
  | offline
  deriving DecidableEq

/-- Without what the Proxy only passes on. -/
structure ServerInfo where
  (serverId workspaceId name : String)
  status : ServerStatus
  (connectedAt lastSeenAt : Int)
  capabilities : List String

structure AgentServerSnapshot where
  server : ServerInfo
  agents : List AgentInfo

/-- `ClusterProjectionUpdate` about one workspace. -/
inductive Projection where
  | serverRenamed (serverId name : String)
  | agentRenamed (agentId name : String)
  | serverDeleted (serverId : String)
  | agentDeleted (agentId : String)
  deriving DecidableEq

structure WorkspaceState where
  revision : Nat
  servers : Table ServerInfo ServerInfo.serverId
  agents : Table AgentInfo AgentInfo.agentId
  (serverNames agentNames : KeyedMap String String)
  (deletedServers deletedAgents : Finset String)

/-- `READ_MODEL_CAPABILITIES` -/
def readModelAllowed : List String :=
  [Capability.controllerUpdate, Capability.machineUpload, Capability.machineUploadV3,
    Capability.machineMetrics]

def readModelCapabilities (capabilities : List String) : List String :=
  ((capabilities.filter readModelAllowed.contains).insertionSort (· ≤ ·)).dedup

namespace WorkspaceState

def empty : WorkspaceState where
  revision := 0
  servers := Table.empty
  agents := Table.empty
  serverNames := Table.empty
  agentNames := Table.empty
  deletedServers := ∅
  deletedAgents := ∅

variable (workspace : WorkspaceState)

/-- Every change has its own revision. -/
def bump : WorkspaceState :=
  { workspace with revision := workspace.revision + 1 }

variable (serverId : String)

def serverSnapshot : Except ProtocolError AgentServerSnapshot :=
  match workspace.servers.find? serverId with
  | none => .error ⟨"server_not_found", serverId, none⟩
  | some server => .ok { server, agents := workspace.agents.rows.filter (·.serverId == serverId) }

def removeAgent (agentId : String) : WorkspaceState :=
  { workspace with
    agents := workspace.agents.delete (·.agentId == agentId)
    agentNames := workspace.agentNames.erase agentId
    deletedAgents := insert agentId workspace.deletedAgents }

/-- The machine alone; its agents are another matter. -/
def removeServer : WorkspaceState :=
  { workspace with
    servers := workspace.servers.delete (·.serverId == serverId)
    serverNames := workspace.serverNames.erase serverId
    deletedServers := insert serverId workspace.deletedServers }

def withoutAgentsOf : WorkspaceState :=
  { workspace with agents := workspace.agents.delete (·.serverId == serverId) }

def registerServer (server : ServerInfo) : WorkspaceState :=
  { workspace with servers := workspace.servers.put server }.bump

/-- The agents of a machine are replaced by those of a snapshot that are `accepted`, under
the names that they have here. -/
def replaceAgents (accepted : AgentInfo → Bool)
    (given : String → Option String) (agents : List AgentInfo) : WorkspaceState :=
  let known agentId :=
    ((workspace.agents.find? agentId).filter (·.serverId == serverId)).map (·.name)
  { workspace with
    agents := agents.foldl
      (fun table agent =>
        if accepted agent && decide (agent.agentId ∉ workspace.deletedAgents) then
          table.put { agent with
            name := ((given agent.agentId).or (known agent.agentId)).getD agent.name }
        else table)
      (workspace.agents.delete (·.serverId == serverId)) }

/-- `apply_snapshot`; `live` are the capabilities of the connection. -/
def applySnapshot (snapshot : AgentServerSnapshot)
    (live : Option (List String)) (now : Int) : Except ProtocolError WorkspaceState :=
  let server := { snapshot.server with status := .online, lastSeenAt := now }
  let serverId := server.serverId
  if serverId ∈ workspace.deletedServers then .error ⟨"server_deleted", serverId, none⟩
  else
    let server :=
      match workspace.servers.find? serverId with
      | none => server
      | some current =>
        { server with
          name := current.name
          capabilities := if live.isNone then current.capabilities else server.capabilities }
    let server := { server with capabilities := live.getD server.capabilities }
    .ok (({ workspace with servers := workspace.servers.put server }.replaceAgents serverId
      (fun agent => agent.workspaceId == server.workspaceId && agent.serverId == serverId)
      (fun _ => none) snapshot.agents).bump)

def heartbeat (now : Int) : Except ProtocolError WorkspaceState :=
  match workspace.servers.find? serverId with
  | none => .error ⟨"server_not_found", serverId, none⟩
  | some _ =>
    .ok { workspace with
      servers := workspace.servers.update (·.serverId == serverId)
        (fun server => { server with lastSeenAt := now, status := .online }) fun _ => rfl }

/-- The event of an agent that was deleted is passed over. -/
def applyAgentEvent (agent : AgentInfo) : Except ProtocolError (Option WorkspaceState) :=
  if agent.serverId ∈ workspace.deletedServers then
    .error ⟨"server_deleted", agent.serverId, none⟩
  else if agent.agentId ∈ workspace.deletedAgents then .ok none
  else
    let name := ((workspace.agents.find? agent.agentId).map (·.name)).getD agent.name
    .ok (some { workspace with agents := workspace.agents.put { agent with name } }.bump)

def setOffline (now : Int) : WorkspaceState :=
  { workspace with
    servers := workspace.servers.update (·.serverId == serverId)
      (fun server => { server with status := .offline, lastSeenAt := now }) fun _ => rfl }.bump

/-- The ids that the database has as deleted. -/
def restoreDeletedAgents (agentIds : List String) : WorkspaceState :=
  agentIds.foldl removeAgent workspace

def withServerName (serverId name : String) : WorkspaceState :=
  { workspace with
    servers := workspace.servers.update (·.serverId == serverId)
      (fun server => { server with name }) fun _ => rfl }

variable (agentId name : String)

def withAgentName (now : Int) : WorkspaceState :=
  { workspace with
    agents := workspace.agents.update (·.agentId == agentId)
      (fun agent => { agent with name, updatedAt := now }) fun _ => rfl }

def renameServer (serverId name : String) : Except ProtocolError WorkspaceState :=
  match workspace.servers.find? serverId with
  | none => .error ⟨"server_not_found", serverId, none⟩
  | some _ =>
    .ok { workspace.withServerName serverId name with
      serverNames := workspace.serverNames.insert serverId name }.bump

def renameAgent (now : Int) : Except ProtocolError WorkspaceState :=
  match workspace.agents.find? agentId with
  | none => .error ⟨"agent_not_found", agentId, none⟩
  | some _ =>
    .ok { workspace.withAgentName agentId name now with
      agentNames := workspace.agentNames.insert agentId name }.bump

def deleteAgent (agentId : String) : Except ProtocolError WorkspaceState :=
  match workspace.agents.find? agentId with
  | none => .error ⟨"agent_not_found", agentId, none⟩
  | some _ => .ok (workspace.removeAgent agentId).bump

def deleteServer : Except ProtocolError WorkspaceState :=
  match workspace.servers.find? serverId with
  | none => .error ⟨"server_not_found", serverId, none⟩
  | some _ =>
    let agentIds := (workspace.agents.rows.filter (·.serverId == serverId)).map (·.agentId)
    .ok { (workspace.removeServer serverId).withoutAgentsOf serverId with
      agentNames := agentIds.foldl (fun names agentId => names.erase agentId) workspace.agentNames
      deletedAgents := workspace.deletedAgents ∪ agentIds.toFinset }.bump

/-- A machine that is not here, or has the name, is left as it is. -/
def renameKnownServer (serverId name : String) : WorkspaceState :=
  match workspace.servers.find? serverId with
  | none => workspace
  | some server =>
    if server.name = name then workspace else (workspace.withServerName serverId name).bump

def renameKnownAgent (now : Int) : WorkspaceState :=
  match workspace.agents.find? agentId with
  | none => workspace
  | some agent =>
    if agent.name = name then workspace else (workspace.withAgentName agentId name now).bump

/-- `apply_cluster_projection` for the updates of one workspace. -/
def applyProjection (now : Int) : Projection → WorkspaceState
  | .serverRenamed serverId name =>
    { workspace with
      deletedServers := workspace.deletedServers.erase serverId
      serverNames := workspace.serverNames.insert serverId name }.renameKnownServer serverId name
  | .agentRenamed agentId name =>
    { workspace with
      deletedAgents := workspace.deletedAgents.erase agentId
      agentNames := workspace.agentNames.insert agentId name }.renameKnownAgent agentId name now
  | .agentDeleted agentId =>
    let unchanged :=
      (workspace.agents.find? agentId).isNone && decide (agentId ∈ workspace.deletedAgents)
    if unchanged then workspace.removeAgent agentId else (workspace.removeAgent agentId).bump
  | .serverDeleted serverId =>
    let unchanged :=
      (workspace.servers.find? serverId).isNone && decide (serverId ∈ workspace.deletedServers)
    if unchanged then workspace.removeServer serverId
    else ((workspace.removeServer serverId).withoutAgentsOf serverId).bump

/-- `apply_cluster_snapshot` under the lock of the workspaces. -/
def applyClusterSnapshot (snapshot : AgentServerSnapshot) : WorkspaceState :=
  let server := snapshot.server
  let current := workspace.servers.find? server.serverId
  let server :=
    { server with
      name := ((workspace.serverNames.get? server.serverId).or (current.map (·.name))).getD
        server.name
      capabilities :=
        if server.capabilities.isEmpty then (current.map (·.capabilities)).getD []
        else server.capabilities }
  ({ workspace with
      deletedServers := workspace.deletedServers.erase server.serverId
      servers := workspace.servers.put server }.replaceAgents server.serverId (fun _ => true)
    workspace.agentNames.get? snapshot.agents).bump

end WorkspaceState
end Treer.Proxy
