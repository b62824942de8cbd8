import Treer.Foundation.Forest
import Treer.Foundation.Outcome
import Treer.Foundation.Table
import Treer.Protocol.Workload

/-!
# Tables of the Workload Tree

The tables `treer-proxy/src/auth/workload_tree.rs` reads and writes, its
queries and its statements. A statement is refused, here by `none`, when it
would break a primary or foreign key of `schema.sql`. There is no constraint
on names and none against cycles: these are left to the checks of the program.
-/

namespace Treer.Tree

open Foundation Protocol

structure FolderRow where
  (workspaceId folderId name : String)
  parentId : Option String
  deriving DecidableEq

structure PlacementRow where
  (workspaceId agentId : String)
  folderId : Option String
  position : Nat

structure CredentialRow where
  (agentId workspaceId serverId : String)
  revoked : Bool

structure NameRow where
  (agentId workspaceId name : String)

structure AppRow where
  (appId workspaceId name : String)
  runtimeAgentId : Option String

structure DeletedAgentRow where
  (agentId workspaceId : String)

abbrev FolderRow.key (row : FolderRow) : String × String := (row.workspaceId, row.folderId)

abbrev PlacementRow.key (row : PlacementRow) : String × String := (row.workspaceId, row.agentId)

structure TreeDb where
  /-- The workspaces that are not deleted. -/
  workspaces : List String
  folders : Table FolderRow FolderRow.key
  placements : Table PlacementRow PlacementRow.key
  credentials : Table CredentialRow CredentialRow.agentId
  names : Table NameRow NameRow.agentId
  apps : Table AppRow AppRow.appId
  deletedAgents : Table DeletedAgentRow DeletedAgentRow.agentId

namespace TreeDb

/-- Workspaces without any content. -/
def empty (workspaces : List String) : TreeDb where
  workspaces
  folders := Table.empty
  placements := Table.empty
  credentials := Table.empty
  names := Table.empty
  apps := Table.empty
  deletedAgents := Table.empty

section
variable (db : TreeDb) (workspace : String)

/-- The parent pointers of a workspace. -/
def parent : ParentMap String := fun id =>
  (db.folders.find? (workspace, id)).map (·.parentId)

variable (folder : Option String)

/-- A reference to a folder is null or names a folder of the workspace. -/
def folderExists : Bool :=
  folder.all fun id => (db.folders.find? (workspace, id)).isSome

/-- The query of `validate_sibling_name`. -/
def siblingExists (parent : Option String) (name : String) (excluding : Option String) : Bool :=
  db.folders.rows.any fun row =>
    row.workspaceId == workspace && row.parentId == parent && row.name == name &&
      excluding.all (row.folderId != ·)

variable (agent : String)

/-- The `folder_id` of the left join with `workload_placements`; a workload
without placement has none, like one at the root. -/
def placedFolder : Option String :=
  (db.placements.find? (workspace, agent)).bind (·.folderId)

/-- `c.revoked_at IS NULL` after the left join with `agent_credentials`. -/
def notRevoked : Bool :=
  (db.credentials.find? agent).all fun row => row.workspaceId != workspace || !row.revoked

/-- `EXISTS(SELECT 1 FROM deleted_agents ...)`. -/
def isDeleted : Bool :=
  (db.deletedAgents.find? agent).any fun row => row.workspaceId == workspace

/-- `COALESCE(a.runtime_agent_id, a.app_id)`. -/
def runtimeId (row : AppRow) : String :=
  row.runtimeAgentId.getD row.appId

/-- The query of `validate_workload_name`. -/
def workloadNameTaken (name : String) (excluding : Option String) : Bool :=
  (db.names.rows.any fun row =>
    row.workspaceId == workspace && row.name == name &&
      db.placedFolder workspace row.agentId == folder && excluding.all (row.agentId != ·) &&
      db.notRevoked workspace row.agentId && !db.isDeleted workspace row.agentId) ||
  db.apps.rows.any fun row =>
    row.workspaceId == workspace && row.name == name &&
      db.placedFolder workspace (runtimeId row) == folder &&
      excluding.all (runtimeId row != ·)

/-- `SELECT name FROM agent_names WHERE workspace_id=$1 AND agent_id=$2`. -/
def agentName : Option String :=
  ((db.names.find? agent).filter (·.workspaceId == workspace)).map (·.name)

/-- `COALESCE(n.name, a.name)` of `read_canonical_workload_paths`. -/
def canonicalName : Option String :=
  (db.agentName workspace agent).or
    ((db.apps.rows.find? fun row =>
      row.workspaceId == workspace && runtimeId row == agent).map (·.name))

/-- The App rows joined to a workload by `runtime_agent_id` or `app_id`. -/
def appsOf : List AppRow :=
  db.apps.rows.filter fun row =>
    row.workspaceId == workspace && (row.runtimeAgentId == some agent || row.appId == agent)

/-- The name query of `set_workload_placement`. A scalar subquery with several
rows is an error, but only when the name of the Agent does not answer first. -/
def workloadName : Option (Option String) :=
  match db.agentName workspace agent with
  | some name => some (some name)
  | none =>
    match db.appsOf workspace agent with
    | [] => some none
    | [row] => some (some row.name)
    | _ => none

/-- The `promoted` query of `remove_workload_folder`. -/
def promoted (id : String) : List (String × String) :=
  (db.placements.rows.filter fun row =>
    row.workspaceId == workspace && row.folderId == some id).flatMap fun row =>
      let joined : List (Option String) :=
        match db.appsOf workspace row.agentId with
        | [] => [none]
        | apps => apps.map fun (app : AppRow) => some app.name
      joined.filterMap fun appName =>
        ((db.agentName workspace row.agentId).or appName).map fun name => (row.agentId, name)

/-- The `occupied` query of `remove_workload_folder`. -/
def occupied (id : String) : Bool :=
  (db.folders.rows.any fun row => row.workspaceId == workspace && row.parentId == some id) ||
  db.placements.rows.any fun row =>
    row.workspaceId == workspace && row.folderId == some id &&
      (db.credentials.find? row.agentId).any fun credential =>
        credential.workspaceId == workspace && !credential.revoked

/-- `agent_credentials` has an unrevoked row of the workspace. -/
def activeCredential : Bool :=
  (db.credentials.find? agent).any fun row => row.workspaceId == workspace && !row.revoked

/-- A workload of the workspace that is neither revoked nor deleted. -/
def live : Bool :=
  db.activeCredential workspace agent && !db.isDeleted workspace agent

/-- The placements of one folder. -/
def inFolder (row : PlacementRow) : Bool :=
  row.workspaceId == workspace && row.folderId == folder

/-- `COALESCE(MAX(position)+1, 0)` over a folder. -/
def nextPosition : Nat :=
  ((db.placements.rows.filter (inFolder workspace folder)).map (·.position + 1)).foldl max 0

/-- The query of `creation_folder` for a caller. -/
def callerFolder (caller : String) : Option (Option String) :=
  if db.live workspace caller then
    (db.placements.find? (workspace, caller)).map (·.folderId)
  else none

end

section
variable (workspace : String)

/-- `INSERT INTO workload_folders`. -/
def insertFolder (row : FolderRow) (db : TreeDb) : Option TreeDb :=
  if db.folderExists row.workspaceId row.parentId then
    (db.folders.insert? row).map fun folders => { db with folders }
  else none

/-- An update of folders that sets the parent of the selected rows; a row that
is written must name an existing parent. -/
def setParent (selected : FolderRow → Bool) (parent : Option String) (rename : String → String)
    (db : TreeDb) : Option TreeDb :=
  if db.folders.rows.any selected && !db.folderExists workspace parent then none
  else
    some { db with
      folders := db.folders.update selected
        (fun row => { row with name := rename row.name, parentId := parent }) fun _ => rfl }

/-- `UPDATE workload_folders SET name=$3,parent_id=$4`. -/
def updateFolder (id name : String) (parent : Option String) : TreeDb → Option TreeDb :=
  setParent workspace (fun row => row.key == (workspace, id)) parent fun _ => name

/-- `UPDATE workload_folders SET parent_id=$3 WHERE parent_id=$2`. -/
def reparentFolders (id : String) (parent : Option String) : TreeDb → Option TreeDb :=
  setParent workspace (fun row => row.workspaceId == workspace && row.parentId == some id) parent
    fun name => name

/-- The `UPDATE workload_placements` that appends the promoted placements. -/
def promotePlacements (id : String) (parent : Option String) (db : TreeDb) : Option TreeDb :=
  let base := db.nextPosition workspace parent
  if db.placements.rows.any (inFolder workspace (some id)) && !db.folderExists workspace parent
  then none
  else
    some { db with
      placements := db.placements.update (inFolder workspace (some id))
        (fun row => { row with folderId := parent, position := row.position + base })
        fun _ => rfl }

/-- `DELETE FROM workload_folders`; the foreign keys refuse a folder in use. -/
def deleteFolder (id : String) (db : TreeDb) : Option TreeDb :=
  let folders := db.folders.delete fun row => row.key == (workspace, id)
  if (folders.rows.any fun row => row.workspaceId == workspace && row.parentId == some id) ||
      db.placements.rows.any (inFolder workspace (some id)) then none
  else some { db with folders }

/-- The rank of a placement in its folder by position and Agent. -/
def rank (db : TreeDb) (row : PlacementRow) : Nat :=
  (db.placements.rows.filter fun other =>
    inFolder row.workspaceId row.folderId other &&
      (other.position < row.position ||
        (other.position == row.position && other.agentId < row.agentId))).length

def normalize (db : TreeDb) : TreeDb :=
  { db with
    placements := db.placements.update (fun row => row.workspaceId == workspace)
      (fun row => { row with position := db.rank row }) fun _ => rfl }

/-- `DELETE FROM workload_placements`. -/
def deletePlacement (agent : String) (db : TreeDb) : TreeDb :=
  { db with placements := db.placements.delete fun row => row.key == (workspace, agent) }

/-- The `UPDATE workload_placements` that makes room at a position. -/
def shiftPlacements (folder : Option String) (position : Nat) (db : TreeDb) : TreeDb :=
  { db with
    placements := db.placements.update
      (fun row => inFolder workspace folder row && decide (position ≤ row.position))
      (fun row => { row with position := row.position + 1 }) fun _ => rfl }

/-- `INSERT INTO workload_placements`. -/
def insertPlacement (row : PlacementRow) (db : TreeDb) : Option TreeDb :=
  if (db.credentials.find? row.agentId).isSome && db.folderExists row.workspaceId row.folderId then
    (db.placements.insert? row).map fun placements => { db with placements }
  else none

/-- `INSERT INTO agent_credentials`. -/
def insertCredential (row : CredentialRow) (db : TreeDb) : Option TreeDb :=
  (db.credentials.insert? row).map fun credentials => { db with credentials }

/-- `INSERT INTO agent_names`. -/
def insertName (row : NameRow) (db : TreeDb) : Option TreeDb :=
  (db.names.insert? row).map fun names => { db with names }

/-- `INSERT INTO agent_names ... ON CONFLICT(agent_id) DO UPDATE`. -/
def upsertName (row : NameRow) (db : TreeDb) : Option TreeDb :=
  if (db.names.find? row.agentId).isSome then
    some { db with
      names := db.names.update (fun old => old.agentId == row.agentId)
        (fun old => { old with workspaceId := row.workspaceId, name := row.name }) fun _ => rfl }
  else db.insertName row

/-- `UPDATE app_deployments SET name = $3 WHERE runtime_agent_id = $2`. -/
def renameApps (agent name : String) (db : TreeDb) : TreeDb :=
  { db with
    apps := db.apps.update
      (fun row => row.workspaceId == workspace && row.runtimeAgentId == some agent)
      (fun row => { row with name }) fun _ => rfl }

end
end TreeDb
end Treer.Tree
