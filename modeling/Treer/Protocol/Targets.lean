import Mathlib.Data.List.Destutter
import Treer.Foundation.Outcome
import Treer.Foundation.Path
import Treer.Protocol.Workload

/-!
# Workspace Tree addressing

`targets.rs` of `treer-protocol`. A folder is addressed by its ID or by a path,
a workload by its ID, by a path or by its name in the folder of the caller.
Relative paths start at that folder; `..` at the root stays there.
-/

namespace Treer.Protocol

open Foundation

structure WorkloadTarget where
  (id name : String)
  deriving DecidableEq

namespace WorkloadTree

variable (tree : WorkloadTree)

def containingFolder (id : String) : Option String :=
  (tree.placements.find? (·.agentId == id)).bind WorkloadPlacement.folderId

def findFolder (id : String) : Option WorkloadFolder :=
  tree.folders.find? (·.folderId == id)

/-- The parents of the folders, as the walk upwards finds them. -/
def parent : ParentMap String := fun id =>
  (tree.findFolder id).map WorkloadFolder.parentId

/-- The name of the folder that the walk upwards finds. -/
def folderName (id : String) : String :=
  ((tree.findFolder id).map WorkloadFolder.name).getD ""

/-- One round of the loop of `folder_path`. -/
def visitFolder (seen : List String) (id : String) : Except ProtocolError (Option String) :=
  if seen.contains id then
    .error ⟨"invalid_workload_tree", "folder cycle detected", none⟩
  else
    match tree.findFolder id with
    | none => .error ⟨"folder_not_found", "folder no longer exists; retry", none⟩
    | some folder => .ok folder.parentId

/-- Every round finds a folder not seen before, so that there
are at most as many as folders. -/
def folderPath (id : Option String) : Except ProtocolError String := do
  let ids ← climb tree.visitFolder (tree.folders.length + 1) [] id
  .ok (Path.render (ids.map tree.folderName))

def workloadPath (id name : String) : Except ProtocolError String := do
  let folder ← tree.folderPath (tree.containingFolder id)
  .ok (Text.trimEndMatches folder '/' ++ "/" ++ name)

/-- One round of the loop of `path_components`. -/
def pushComponent (parts : List String) (part : String) : Except ProtocolError (List String) :=
  if part == "" || part == "." then .ok parts
  else if part == ".." then .ok parts.dropLast
  else if Text.trim part != part || Text.hasControl part then
    .error {
      code := "invalid_tree_path"
      message := "path components must have visible names without surrounding whitespace" }
  else .ok (parts ++ [part])

variable (path : String)

/-- Where the components of a path start: at the root, or at the folder of the
caller. -/
def startComponents (cwd : Option String) : Except ProtocolError (List String) :=
  if Text.startsWith path "/" then .ok []
  else do
    let folder ← tree.folderPath cwd
    .ok ((Text.split folder '/').filter (· != ""))

def pathComponents (cwd : Option String) : Except ProtocolError (List String) :=
  if Text.trim path == "" then
    .error ⟨"invalid_tree_path", "path cannot be empty", none⟩
  else do
    let parts ← tree.startComponents path cwd
    (Text.split path '/').foldlM pushComponent parts

/-- The error of `resolve_folder_path` for a path that leads nowhere. -/
def noFolderAt : ProtocolError :=
  { code := "folder_not_found", message := s!"folder not found: {path}" }

/-- The folder of a name below a parent, in the loop of `resolve_folder_path`. -/
def childFolder (parent : Option String) (name : String) : Except ProtocolError String :=
  match tree.folders.filter fun folder => folder.parentId == parent && folder.name == name with
  | [] => .error (noFolderAt path)
  | [folder] => .ok folder.folderId
  | _ => .error ⟨"folder_ambiguous", "duplicate folder name; use its ID", none⟩

def resolveFolderPath (cwd : Option String) : Except ProtocolError (Option String) :=
  match tree.findFolder path with
  | some folder => .ok (some folder.folderId)
  | none => do
    let names ← tree.pathComponents path cwd
    Path.descend (tree.childFolder path) none names

/-- The folder and the name that a target stands for in `resolve_target`. -/
def destination (cwd : Option String) (target : String) :
    Except ProtocolError (Option String × String) :=
  if !Text.containsChar target '/' then .ok (cwd, target)
  else if Text.endsWithChar target '/' ||
      [some ".", some ".."].contains (Text.split target '/').getLast? then
    .error ⟨"invalid_agent_target", "a folder is not an Agent target", none⟩
  else do
    let parts ← tree.pathComponents target cwd
    match parts.getLast? with
    | none => .error ⟨"invalid_agent_target", "workspace root is not an Agent", none⟩
    | some name => do
      let parent ← tree.resolveFolderPath (Path.render parts.dropLast) none
      .ok (parent, name)

variable (rows : List WorkloadTarget)

/-- The answer for a bare name that the folder of the caller does not have. -/
def agentNotInFolder (cwd : Option String) (target : String) : Except ProtocolError String := do
  let paths ← (rows.filter (·.name == target)).mapM fun row => tree.workloadPath row.id row.name
  let folder ← tree.folderPath cwd
  .error {
    code := "agent_not_in_folder"
    message := s!"no Agent named {target} in {folder}; use a tree path or stable ID"
    hint := some (((paths.insertionSort (· ≤ ·)).destutter (· ≠ ·)).take 10) }

/-- The workload of a name in a folder, at the end of `resolve_target`. -/
def workloadIn (cwd : Option String) (target : String)
    (folder : Option String) (name : String) : Except ProtocolError String :=
  match rows.filter fun row => row.name == name && tree.containingFolder row.id == folder with
  | [row] => .ok row.id
  | [] =>
    if !Text.containsChar target '/' then tree.agentNotInFolder rows cwd target
    else .error { code := "agent_not_found", message := s!"Agent not found at {target}" }
  | _ => .error
    ⟨"agent_ambiguous", "multiple Agents in this folder have this name; use a stable ID", none⟩

def resolveTarget (caller : Option String) (target : String) : Except ProtocolError String :=
  if target == "self" || target == "." then
    match caller with
    | some id => .ok id
    | none => .error
      ⟨"agent_identity_required", "self requires an authenticated Agent identity", none⟩
  else if Text.startsWith target "ag_" || Text.startsWith target "app_" ||
      rows.any (·.id == target) then .ok target
  else do
    let cwd := caller.bind tree.containingFolder
    let (folder, name) ← tree.destination cwd target
    tree.workloadIn rows cwd target folder name

end WorkloadTree
end Treer.Protocol
