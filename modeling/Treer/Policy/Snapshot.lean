import Treer.Policy.Document
import Treer.Protocol.Targets

/-!
# Tree contexts of policy requests

`treer-proxy/src/policy_tree.rs`: a snapshot of the Tree taken in one read-only
transaction, with a context for every folder, Agent and App, and the contexts a
request is given before it is evaluated.
-/

namespace Treer.Policy

open Foundation Protocol

/-- One round of the loop of `context` over the folders above a node. -/
def visitAncestor (tree : WorkloadTree) (seen : List String) (id : String) :
    Except ProtocolError (Option String) :=
  if seen.contains id then
    .error ⟨"invalid_workload_tree", "folder cycle", none⟩
  else .ok ((tree.findFolder id).bind WorkloadFolder.parentId)

/-- The loop stops at a folder that does not exist, so that it visits
at most one ID more than there are folders. -/
def context (tree : WorkloadTree) (revision : Nat) (id kind name : String)
    (folder : Option String) (placed : Bool) : Except ProtocolError PolicyTreeContext := do
  let folderPath ← tree.folderPath folder
  let ancestorIds ← climb (visitAncestor tree) (tree.folders.length + 1) [] folder
  let ancestorPaths ← ancestorIds.mapM fun id => tree.folderPath (some id)
  .ok {
    nodeId := id
    kind
    name
    path := Text.trimEndMatches folderPath '/' ++ "/" ++ name
    folderId := folder
    folderPath
    ancestorIds
    ancestorPaths := "/" :: ancestorPaths
    placed
    treeRevision := revision }

/-- The App columns of a credential row. -/
structure CredentialApp where
  (appId serviceId : String)

/-- A live credential joined with its name and its App. -/
structure CredentialRow where
  (agentId serverId : String)
  name : Option String
  app : Option CredentialApp

structure DeploymentRow where
  (appId name serviceId : String)
  runtimeAgentId : Option String

/-- What the statements of `load` answer, in order; a statement that fails
answers `none`. -/
structure TreeReads where
  begun : Option Unit
  revision : Option (Option Int)
  folders : Option (List WorkloadFolder)
  placements : Option (List WorkloadPlacement)
  credentials : Option (List CredentialRow)
  deployments : Option (List DeploymentRow)
  committed : Option Unit

structure TreeSnapshot where
  revision : Nat
  nodes : KeyedMap String PolicyTreeContext
  agentMachines : KeyedMap String String
  serviceIds : List String

/-- `map_err(db_error)?`. -/
def answered {α : Type} : Option α → Except ProtocolError α
  | some value => .ok value
  | none => .error ⟨"policy_tree_unavailable", "current policy Tree context unavailable", none⟩

namespace TreeSnapshot

variable (tree : WorkloadTree) (snapshot : TreeSnapshot)

/-- The loop of `load` over the folders. -/
def insertFolder (folder : WorkloadFolder) : Except ProtocolError TreeSnapshot := do
  let node ← context tree snapshot.revision folder.folderId "folder" folder.name folder.parentId
    true
  .ok { snapshot with nodes := snapshot.nodes.insert folder.folderId node }

/-- An App is found under its own ID and under that of its service. -/
def insertApp (appId serviceId : String) (node : PolicyTreeContext) : TreeSnapshot :=
  { snapshot with
    nodes := (snapshot.nodes.insert appId node).insert serviceId node
    serviceIds := serviceId :: snapshot.serviceIds }

/-- The loop of `load` over the credentials. -/
def insertCredential (row : CredentialRow) : Except ProtocolError TreeSnapshot :=
  let snapshot := { snapshot with
    agentMachines := snapshot.agentMachines.insert row.agentId row.serverId }
  match row.name with
  | none => .ok snapshot
  | some name => do
    let placement := tree.placements.find? (·.agentId == row.agentId)
    let node ← context tree snapshot.revision
      ((row.app.map CredentialApp.appId).getD row.agentId)
      (if row.app.isSome then "app" else "agent") name
      (placement.bind WorkloadPlacement.folderId) placement.isSome
    let snapshot := { snapshot with nodes := snapshot.nodes.insert row.agentId node }
    match row.app with
    | none => .ok snapshot
    | some app => .ok (snapshot.insertApp app.appId app.serviceId node)

/-- The loop of `load` over the deployments: Apps without a runtime. -/
def insertDeployment (row : DeploymentRow) : Except ProtocolError TreeSnapshot :=
  if (snapshot.nodes.get? row.appId).isSome then .ok snapshot
  else do
    let placement := tree.placements.find? (·.agentId == row.runtimeAgentId.getD row.appId)
    let node ← context tree snapshot.revision row.appId "app" row.name
      (placement.bind WorkloadPlacement.folderId) placement.isSome
    .ok (snapshot.insertApp row.appId row.serviceId node)

/-- The revision of an existing workspace, as an unsigned number. -/
def checkedRevision : Option Int → Except ProtocolError Nat
  | none => .error ⟨"workspace_not_found", "workspace not found", none⟩
  | some (.ofNat revision) => .ok revision
  | some (.negSucc _) =>
    .error ⟨"invalid_tree_revision", "invalid Tree revision", none⟩

def load (reads : TreeReads) : Except ProtocolError TreeSnapshot := do
  answered reads.begun
  let revision ← checkedRevision (← answered reads.revision)
  let folders ← answered reads.folders
  let placements ← answered reads.placements
  let tree : WorkloadTree := { folders, placements }
  let snapshot : TreeSnapshot :=
    { revision, nodes := Table.empty, agentMachines := Table.empty, serviceIds := [] }
  let snapshot ← folders.foldlM (insertFolder tree) snapshot
  let snapshot ← (← answered reads.credentials).foldlM (insertCredential tree) snapshot
  let snapshot ← (← answered reads.deployments).foldlM (insertDeployment tree) snapshot
  answered reads.committed
  .ok snapshot

/-- The node that a request is about, by the kind of its resource. -/
def targetId (resource : PolicyResource) : Option String :=
  if ["message", "network.endpoint"].contains resource.kind then
    resource.attributes.get? "destination_agent_id"
  else if resource.kind == "message.mailbox" then
    if resource.attributes.get? "principal_kind" == some "agent" then some resource.id else none
  else if ["agent", "app", "folder", "machine.service"].contains resource.kind then
    some resource.id
  else none

/-- The node that a request comes from. -/
def subjectId : PolicySubject → Option String
  | .agent _ agentId => some agentId
  | .service serviceId => some serviceId
  | _ => none

def enrich (request : PolicyRequest) : PolicyRequest :=
  { request with
    treeRevision := some snapshot.revision
    subjectTree := (subjectId request.subject).bind snapshot.nodes.get?
    resourceTree := (targetId request.resource).bind snapshot.nodes.get? }

end TreeSnapshot
end Treer.Policy
