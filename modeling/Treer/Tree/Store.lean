import Treer.Foundation.Transaction
import Treer.Tree.Tables

/-!
# Changing the Workload Tree

The mutations of `treer-proxy/src/auth/workload_tree.rs` and `set_agent_name`
of `auth/machines.rs` as transactions over the tables. Each one locks the
workspace row first, so the mutations of a workspace run one after another.
-/

namespace Treer.Tree

open Foundation TreeDb Protocol

/-- An HTTP status and an error. -/
structure AuthFailure where
  status : Nat
  error : ProtocolError
  deriving DecidableEq

namespace AuthFailure

variable (code message : String)

def notFound : AuthFailure := ⟨404, { code, message }⟩

def badRequest : AuthFailure := ⟨400, { code, message }⟩

def conflict : AuthFailure := ⟨409, { code, message }⟩

def database : AuthFailure :=
  ⟨500, ⟨"database_error", "database operation failed", none⟩⟩

end AuthFailure

/-- The statements of a call. `site` tells the calls of one helper apart and
`index` the rounds of a loop. -/
inductive Statement where
  | begin
  | lockWorkspace
  | loadFolder (site index : Nat)
  | siblingName
  | insertFolder
  | updateFolder
  | occupied
  | reparentFolders
  | promoted
  | workloadName (index : Nat)
  | promotePlacements
  | deleteFolder
  | normalize
  | credential
  | currentName
  | original
  | deletePlacement
  | countPlacements
  | shiftPlacements
  | insertPlacement
  | callerFolder
  | insertCredential
  | insertName
  | insertReservation
  | previousName
  | placementFolder
  | upsertName
  | renameApps
  | audit
  | commit

/-- What a call takes from outside: its UUIDs and the statements that the
database fails to run. -/
structure Environment where
  uuid : Nat → String
  down : Statement → Bool

/-- A program over the tables of the Tree. -/
abbrev TreeTx (α : Type) : Type := Tx TreeDb AuthFailure α

namespace Environment

variable {α : Type} (environment : Environment) (statement : Statement)

/-- `.await?` on a statement whose effect no modelled function reads. -/
@[simp]
def check : TreeTx Unit :=
  Tx.failIf (environment.down statement) .database

@[simp]
def query (select : TreeDb → α) : TreeTx α :=
  Tx.ask (environment.down statement) .database select

@[simp]
def execute (write : TreeDb → Option TreeDb) : TreeTx Unit :=
  Tx.write (environment.down statement) .database write

def commit : TreeTx Unit :=
  Tx.publish (environment.down .commit) .database

end Environment

def invalid (message : String) : AuthFailure :=
  .badRequest "invalid_workload_tree" message

def validateResourceName (value resource : String) : Except AuthFailure String :=
  let value := Text.trim value
  if value == "" || Text.len value > 80 || Text.hasControl value then
    .error (.badRequest "invalid_name" s!"{resource} name must be 1-80 printable characters")
  else .ok value

def validateFolderName (name : String) : Except AuthFailure String := do
  let name ← validateResourceName name "folder"
  if Text.containsChar name '/' || [".", ".."].contains name then
    .error (invalid "folder names cannot contain / or equal . or ..")
  else .ok name

/-- `validate_workload_label(name).map_err(...)`. -/
def validateAgentName (name : String) : Except AuthFailure Unit :=
  match validateWorkloadLabel name with
  | .error error => .error (.badRequest "invalid_agent_name" error.message)
  | .ok value => .ok value

def folderNotFound : AuthFailure :=
  .notFound "folder_not_found" "folder does not exist in this workspace"

def folderCycle : AuthFailure :=
  invalid "folder move would create a cycle"

section
variable (environment : Environment) (workspace : String)

@[simp]
def lockWorkloadTree : TreeTx Unit := do
  environment.check .begin
  let locked ← environment.query .lockWorkspace fun db => db.workspaces.contains workspace
  Tx.failIf (!locked) (.notFound "workspace_not_found" "workspace does not exist")

def loadFolder (site : Nat) (id : String) : TreeTx FolderRow := do
  let found ← environment.query (.loadFolder site 0) fun db => db.folders.find? (workspace, id)
  match found with
  | some row => pure row
  | none => Tx.fail folderNotFound

/-- One round of the loop of `validate_parent`. -/
def validateParentVisit (site : Nat) (moving : Option String) (db : TreeDb) (seen : List String)
    (id : String) : Except AuthFailure (Option String) :=
  if moving == some id || seen.contains id then .error folderCycle
  else if environment.down (.loadFolder site seen.length) then .error .database
  else
    match db.folders.find? (workspace, id) with
    | none => .error folderNotFound
    | some row => .ok row.parentId

/-- `validate_parent`; the loop visits no folder twice, so it ends within the
number of folders. -/
def validateParent (site : Nat) (parent moving : Option String) : TreeTx Unit := do
  let outcome ← Tx.select fun db =>
    climb (validateParentVisit environment workspace site moving db)
      (db.folders.rows.length + 1) [] parent
  let _ ← Tx.lift outcome
  pure ()

@[simp]
def validateSiblingName (parent : Option String) (name : String) (excluding : Option String) :
    TreeTx Unit := do
  let taken ← environment.query .siblingName fun db =>
    db.siblingExists workspace parent name excluding
  Tx.failIf taken
    (.badRequest "folder_exists" "a folder with this name already exists in the destination")

def nameConflict : AuthFailure :=
  .conflict "agent_name_conflict" "an Agent or App in the destination folder already has this name"

@[simp]
def validateWorkloadName (index : Nat) (folder : Option String) (name : String)
    (excluding : Option String) : TreeTx Unit := do
  let taken ← environment.query (.workloadName index) fun db =>
    db.workloadNameTaken workspace folder name excluding
  Tx.failIf taken nameConflict

/-- The folder a creation is asked for, or the one of its caller. -/
def requestedFolder (requested caller : Option String) : TreeTx (Option String) :=
  match requested with
  | some folder => pure (if folder == workloadCreateRoot then none else some folder)
  | none =>
    match caller with
    | none => pure none
    | some caller => do
      let found ← environment.query .callerFolder fun db => db.callerFolder workspace caller
      match found with
      | some folder => pure folder
      | none =>
        Tx.fail (.badRequest "caller_unplaced"
          ("caller has no active placement; request an explicitly authorized folder " ++
            "or ask the owner to place it"))

def creationFolder (requested caller : Option String) : TreeTx (Option String) := do
  let destination ← requestedFolder environment workspace requested caller
  validateParent environment workspace 0 destination none
  pure destination

/-- `if condition { audit::insert_workspace_mutation(...)? }` and the like. -/
@[simp]
def checkIf (condition : Bool) (statement : Statement) : TreeTx Unit :=
  Tx.failIf (condition && environment.down statement) .database

end

section
variable (environment : Environment) (workspace : String)

/-- The transaction of `create_workload_folder`. -/
def createWorkloadFolderTx (request : CreateWorkloadFolderRequest) : TreeTx WorkloadFolder := do
  let name ← Tx.lift (validateFolderName request.name)
  lockWorkloadTree environment workspace
  validateParent environment workspace 0 request.parentId none
  validateSiblingName environment workspace request.parentId name none
  let folderId := "folder_" ++ environment.uuid 0
  environment.execute .insertFolder (insertFolder ⟨workspace, folderId, name, request.parentId⟩)
  environment.check .audit
  environment.commit
  pure ⟨folderId, name, request.parentId⟩

variable (id : String)

/-- The parent of an update: a given one is validated, otherwise it stays. -/
def updatedParent (original : FolderRow) (requested : Option (Option String)) :
    TreeTx (Option String) :=
  match requested with
  | some parent => do
    validateParent environment workspace 1 parent (some id)
    pure parent
  | none => pure original.parentId

/-- The transaction of `update_workload_folder`. -/
def updateWorkloadFolderTx (request : UpdateWorkloadFolderRequest) : TreeTx WorkloadFolder := do
  lockWorkloadTree environment workspace
  let original ← loadFolder environment workspace 0 id
  let name ← Tx.lift
    (match request.name with
    | some name => validateFolderName name
    | none => .ok original.name)
  let parent ← updatedParent environment workspace id original request.parentId
  validateSiblingName environment workspace parent name (some id)
  if name == original.name && parent == original.parentId then
    pure ⟨original.folderId, name, parent⟩
  else do
    environment.execute .updateFolder (updateFolder workspace id name parent)
    environment.check .audit
    environment.commit
    pure ⟨original.folderId, name, parent⟩

/-- The loop of `remove_workload_folder` over the promoted workloads. -/
def validatePromoted (parent : Option String) : Nat → List (String × String) → TreeTx Unit
  | _, [] => pure ()
  | index, (agent, name) :: rest => do
    validateWorkloadName environment workspace index parent name (some agent)
    validatePromoted parent (index + 1) rest

/-- `if require_empty { ... }`. -/
def refuseOccupied (requireEmpty : Bool) : TreeTx Unit :=
  if requireEmpty then do
    let occupied ← environment.query .occupied fun db => db.occupied workspace id
    Tx.failIf occupied (.badRequest "folder_not_empty" "folder is not empty")
  else pure ()

/-- The writes of `remove_workload_folder`: the content of the folder goes to
its parent, the folder goes away. -/
def dissolveFolder (parent : Option String) : TreeTx Unit := do
  environment.execute .reparentFolders (reparentFolders workspace id parent)
  let promoted ← environment.query .promoted fun db => db.promoted workspace id
  validatePromoted environment workspace parent 0 promoted
  environment.execute .promotePlacements (promotePlacements workspace id parent)
  environment.execute .deleteFolder (deleteFolder workspace id)
  environment.execute .normalize fun db => some (db.normalize workspace)

/-- The transaction of `remove_workload_folder`. -/
def removeWorkloadFolderTx (requireEmpty : Bool) : TreeTx Unit := do
  lockWorkloadTree environment workspace
  let folder ← loadFolder environment workspace 0 id
  refuseOccupied environment workspace id requireEmpty
  dissolveFolder environment workspace id folder.parentId
  environment.check .audit
  environment.commit
  pure ()

/-- The name check of `set_workload_placement`; a workload without a name has
nothing to check. -/
def validateCurrentName (agent : String) (folder : Option String) : TreeTx Unit := do
  let name ← environment.query .currentName fun db => db.workloadName workspace agent
  match name with
  | none => Tx.fail .database
  | some none => pure ()
  | some (some name) => validateWorkloadName environment workspace 0 folder name (some agent)

/-- The writes of `set_workload_placement`: the old placement is taken out, the others close up, and
the new one is put in. -/
def replacePlacement (agent : String) (request : SetWorkloadPlacementRequest) : TreeTx Nat := do
  environment.execute .deletePlacement fun db => some (db.deletePlacement workspace agent)
  environment.execute .normalize fun db => some (db.normalize workspace)
  let count ← environment.query .countPlacements fun db =>
    (db.placements.rows.filter (inFolder workspace request.folderId)).length
  let position := min request.position.toNat count
  environment.execute .shiftPlacements fun db =>
    some (db.shiftPlacements workspace request.folderId position)
  environment.execute .insertPlacement
    (insertPlacement ⟨workspace, agent, request.folderId, position⟩)
  pure position

/-- The transaction of `set_workload_placement`. -/
def setWorkloadPlacementTx (agent : String) (request : SetWorkloadPlacementRequest) :
    TreeTx WorkloadPlacement := do
  Tx.failIf (request.position < 0) (invalid "position must be nonnegative")
  lockWorkloadTree environment workspace
  let active ← environment.query .credential fun db => db.activeCredential workspace agent
  Tx.failIf (!active) (invalid "agent does not exist in this workspace")
  validateParent environment workspace 0 request.folderId none
  validateCurrentName environment workspace agent request.folderId
  let original ← environment.query .original fun db =>
    (db.placements.find? (workspace, agent)).map fun row => (row.folderId, row.position)
  let position ← replacePlacement environment workspace agent request
  checkIf environment (original != some (request.folderId, position)) .audit
  environment.commit
  pure ⟨agent, request.folderId, position⟩

/-- The arguments of `reserve_named_agent`. -/
structure ReserveCall where
  (server agent name : String)
  (folder caller humanCreator : Option String)

/-- The writes of `reserve_named_agent`. -/
def insertAgent (call : ReserveCall) (folder : Option String) : TreeTx Unit := do
  environment.execute .insertCredential
    (insertCredential ⟨call.agent, workspace, call.server, false⟩)
  environment.execute .insertName (insertName ⟨call.agent, workspace, call.name⟩)
  environment.execute .insertPlacement fun db =>
    db.insertPlacement ⟨workspace, call.agent, folder, db.nextPosition workspace folder⟩

/-- The transaction of `reserve_named_agent`. -/
def reserveNamedAgentTx (call : ReserveCall) : TreeTx String := do
  Tx.lift (validateAgentName call.name)
  lockWorkloadTree environment workspace
  let folder ← creationFolder environment workspace call.folder call.caller
  validateParent environment workspace 1 folder none
  validateWorkloadName environment workspace 0 folder call.name (some call.agent)
  let credential := "wlc_" ++ environment.uuid 0 ++ environment.uuid 1
  insertAgent environment workspace call folder
  checkIf environment call.humanCreator.isSome .insertReservation
  environment.check .audit
  environment.commit
  pure credential

/-- The transaction of `set_agent_name`. -/
def setAgentNameTx (agent name : String) : TreeTx Unit := do
  Tx.lift (validateAgentName name)
  lockWorkloadTree environment workspace
  let previous ← environment.query .previousName fun db => db.agentName workspace agent
  let folder ← environment.query .placementFolder fun db => db.placedFolder workspace agent
  validateWorkloadName environment workspace 0 folder name (some agent)
  environment.execute .upsertName (upsertName ⟨agent, workspace, name⟩)
  environment.execute .renameApps fun db => some (db.renameApps workspace agent name)
  checkIf environment (previous != some name) .audit
  environment.commit
  pure ()

end
end Treer.Tree
