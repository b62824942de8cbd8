import Treer.Foundation.Table
import Treer.Protocol.Workload

/-!
# Workspace policy documents

The wire types of `treer-protocol/src/policy.rs` and `policy_path.rs`, and the
requests `treer-proxy/src/policy.rs` evaluates against them. A `BTreeMap` is a
finite map with distinct keys; only its lookups and its iteration are used.
-/

namespace Treer.Policy

open Foundation Protocol

/-- `BTreeMap<String, ν>`. -/
abbrev BTreeMap (ν : Type) := KeyedMap String ν

def policySchemaVersion : Nat := 1

def policySchemaVersionV2 : Nat := 2

inductive PolicyMode where
  | monitor
  | enforce
  deriving DecidableEq

inductive PolicyEffect where
  | allow
  | deny
  deriving DecidableEq

inductive PolicyPrincipalKind where
  | human
  | agent
  | machine
  | service
  deriving DecidableEq

structure PolicyPrincipalRef where
  kind : PolicyPrincipalKind
  id : String

structure PolicyPrincipalGroup where
  principals : List PolicyPrincipalRef

/-- Current facts about a node of the Tree. -/
structure PolicyTreeContext where
  (nodeId kind name path : String)
  folderId : Option String
  folderPath : String
  (ancestorIds ancestorPaths : List String)
  placed : Bool
  treeRevision : Nat
  deriving DecidableEq

structure PolicyPathPrefix where
  path : String
  includeSelf : Bool
  deriving DecidableEq

structure PolicyTreeSelector where
  kind : Option String := none
  name : Option String := none
  folderId : Option String := none
  pathEq : Option String := none
  pathGlob : Option String := none
  pathPrefix : Option PolicyPathPrefix := none

inductive PolicyFolderField where
  | subject
  | resource
  deriving DecidableEq

/-- Exactly one typed folder reference. -/
inductive PolicyFolderRef where
  | variable (var : String)
  | field (field : PolicyFolderField)
  | id (id : String)
  | path (path : String)

inductive PolicyTreeCondition where
  | sameFolder
  | resourceBelowSubjectFolder (strict : Bool)
  | resourceBelowFolder (folder : PolicyFolderRef) (strict : Bool)

structure PolicySubjectSelector where
  tree : Option PolicyTreeSelector := none
  kind : Option PolicyPrincipalKind := none
  id : Option String := none
  machineId : Option String := none
  group : Option String := none
  isSelf : Bool := false

structure PolicyResourceSelector where
  tree : Option PolicyTreeSelector := none
  kind : Option String := none
  id : Option String := none
  principalGroup : Option String := none

/-- Who may do what, and where. -/
structure WorkspacePolicyRule where
  bindings : BTreeMap PolicyFolderRef := Table.empty
  conditions : List PolicyTreeCondition := []
  id : String
  priority : Int
  effect : PolicyEffect
  subjects : List PolicySubjectSelector
  actions : List String
  resources : List PolicyResourceSelector

structure WorkspacePolicyDocument where
  schemaVersion : Nat
  defaults : BTreeMap PolicyEffect := Table.empty
  groups : BTreeMap PolicyPrincipalGroup := Table.empty
  rules : List WorkspacePolicyRule := []

/-- A published policy; its publication record is not read by evaluation. -/
structure WorkspacePolicy where
  workspaceId : String
  revision : Nat
  mode : PolicyMode
  document : WorkspacePolicyDocument

inductive PolicySubject where
  | agent (serverId agentId : String)
  | machine (serverId : String)
  | human (userId : String)
  | service (serviceId : String)

structure PolicyResource where
  (kind id : String)
  attributes : BTreeMap String := Table.empty

/-- Who wants to do what. -/
structure PolicyRequest where
  workspaceId : String
  subject : PolicySubject
  action : String
  resource : PolicyResource
  subjectTree : Option PolicyTreeContext := none
  resourceTree : Option PolicyTreeContext := none
  treeRevision : Option Nat := none

structure PolicyDenial where
  (code message : String)
  deriving DecidableEq

def PolicyDenial.intoError (denial : PolicyDenial) : ProtocolError :=
  { code := denial.code, message := denial.message }

inductive PolicyDecision where
  | allow
  | deny (denial : PolicyDenial)
  deriving DecidableEq

inductive PolicyEvaluation where
  | abstain
  | decide (decision : PolicyDecision)
  deriving DecidableEq

/-- Why a request was decided as it was. -/
structure PolicyExplanation where
  (computedEffect effectiveDecision : PolicyEffect)
  mode : PolicyMode
  matchedRuleId : Option String
  reason : String
  policyRevision : Nat
  treeRevision : Option Nat
  source : String

end Treer.Policy
