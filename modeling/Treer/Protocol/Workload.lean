import Treer.Foundation.Text

/-!
# Workload Tree messages

`ProtocolError` and the Tree types of `treer-protocol`: folders, placements and
the requests that change them, with the label rule of `targets.rs`.
-/

namespace Treer.Protocol

open Foundation

/-- `ProtocolError`; the details of a failed Agent creation are not used here. -/
structure ProtocolError where
  (code message : String)
  hint : Option (List String) := none
  deriving DecidableEq

structure WorkloadFolder where
  (folderId name : String)
  parentId : Option String

structure WorkloadPlacement where
  agentId : String
  folderId : Option String
  position : Nat

structure WorkloadTree where
  folders : List WorkloadFolder
  placements : List WorkloadPlacement

structure CreateWorkloadFolderRequest where
  name : String
  parentId : Option String

/-- Both fields are optional; a parent that is given may be the root. -/
structure UpdateWorkloadFolderRequest where
  name : Option String
  parentId : Option (Option String)

structure SetWorkloadPlacementRequest where
  folderId : Option String
  position : Int

def workloadCreateRoot : String := "/"

def validateWorkloadLabel (name : String) : Except ProtocolError Unit :=
  if name == "" || Text.trim name != name || ["self", ".", ".."].contains name ||
      Text.containsChar name '/' || Text.hasControl name || Text.startsWith name "ag_" ||
      Text.startsWith name "app_" then
    .error {
      code := "invalid_agent_name"
      message :=
        "Agent name must be a visible path component, not self, dot, or a stable ID" }
  else .ok ()

end Treer.Protocol
