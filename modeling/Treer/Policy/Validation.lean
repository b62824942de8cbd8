import Treer.Foundation.Outcome
import Treer.Policy.Document

/-!
# Validation of policy documents

`validate_document` of `treer-proxy/src/policy_store.rs` with its codes and
texts. The size of the serialised document is a parameter: the encoder is
`serde_json`, which cannot fail on these types.
-/

namespace Treer.Policy

open Foundation List

inductive PolicyStoreError where
  | invalid (code message : String)
  | revisionConflict
  | database (reason : String)
  | corrupt (reason : String)
  deriving DecidableEq

def PolicyStoreError.code : PolicyStoreError → String
  | .invalid code _ => code
  | .revisionConflict => "policy_revision_conflict"
  | .database _ => "database_error"
  | .corrupt _ => "invalid_stored_policy"

/-- The text of a `PolicyStoreError`. -/
def PolicyStoreError.text : PolicyStoreError → String
  | .invalid code message => s!"{code}: {message}"
  | .revisionConflict => "policy_revision_conflict: workspace policy changed; reload it and retry"
  | .database reason => s!"policy database operation failed: {reason}"
  | .corrupt reason => s!"stored policy is invalid: {reason}"

def maxPolicyDocumentBytes : Nat := 256 * 1024

def maxPolicyRules : Nat := 1000

/-- `if condition { return Err(PolicyStoreError::invalid(code, message)) }`. -/
@[simp]
def invalidIf (condition : Bool) (code message : String) : Except PolicyStoreError Unit :=
  refuse condition (.invalid code message)

/-- A check on an optional field. -/
def forOption {α : Type} (value : Option α) (check : α → Except PolicyStoreError Unit) :
    Except PolicyStoreError Unit :=
  value.toList.forM check

def validateToken (value field : String) : Except PolicyStoreError Unit :=
  invalidIf
    (value == "" || Text.len value > 128 || Text.trim value != value || Text.hasControl value)
    "invalid_policy_document"
    s!"{field} must contain 1-128 visible characters without surrounding space"

def requireGroup (document : WorkspacePolicyDocument) (group selector : String) :
    Except PolicyStoreError Unit :=
  invalidIf (document.groups.get? group).isNone "unknown_policy_group"
    s!"policy {selector} references unknown group {group}"

/-- One component of `validate_policy_path`; `last` is its being the last. -/
def validPathPart (isGlob last : Bool) (part : String) : Bool :=
  part != "" && Text.trim part == part && part != "." && part != ".." &&
    (!isGlob ||
      (!part.toList.any (['?', '[', ']', '\\'].contains ·) &&
        (!Text.containsChar part '*' || part == "*" || (part == "**" && last))))

def validatePolicyPath (path : String) (isGlob : Bool) : Except PolicyStoreError Unit :=
  let parts := Text.split ((Text.stripPrefix path "/").getD path) '/'
  invalidIf
    (!(Text.startsWith path "/" && Text.len path ≤ 4096 && parts.length ≤ 128 &&
      !Text.hasControl path &&
      (path == "/" ||
        parts.zipIdx.all fun (part, index) =>
          validPathPart isGlob (index == parts.length - 1) part)))
    "invalid_policy_path"
    ("path must be bounded, absolute and canonical; " ++
      "glob uses whole components and one terminal **")

/-- The closure `validate_ref` of `validate_path_rule`. -/
def validateRef (rule : WorkspacePolicyRule) (reference : PolicyFolderRef) (binding : Bool) :
    Except PolicyStoreError Unit :=
  match reference with
  | .variable var =>
    invalidIf (binding || (rule.bindings.get? var).isNone)
      "invalid_policy_binding" "binding chains or undeclared variables are not allowed"
  | .field _ => .ok ()
  | .id id => validateToken id "folder ID"
  | .path path => validatePolicyPath path false

/-- The checks of `validate_path_rule` on one Tree selector. -/
def validateTreeSelector (selector : PolicyTreeSelector) : Except PolicyStoreError Unit := do
  invalidIf (selector.kind.any fun kind => !(["agent", "app", "folder"].contains kind))
    "invalid_policy_tree_kind" "Tree kind must be agent, app or folder"
  forOption selector.name (validateToken · "Tree name")
  forOption selector.folderId (validateToken · "folder ID")
  invalidIf
    (selector.pathEq.isSome.toNat + selector.pathGlob.isSome.toNat +
      selector.pathPrefix.isSome.toNat > 1)
    "invalid_policy_path" "choose one path comparator"
  forOption selector.pathEq (validatePolicyPath · false)
  forOption selector.pathGlob (validatePolicyPath · true)
  forOption selector.pathPrefix fun start => validatePolicyPath start.path false

def validatePathRule (schema : Nat) (rule : WorkspacePolicyRule) :
    Except PolicyStoreError Unit := do
  let hasTree :=
    rule.subjects.any (·.tree.isSome) || rule.resources.any (·.tree.isSome) ||
      !rule.bindings.rows.isEmpty || !rule.conditions.isEmpty
  invalidIf (schema == policySchemaVersion && hasTree)
    "unsupported_policy_schema" "Tree conditions require policy schema 2"
  invalidIf (rule.bindings.rows.length > 8 || rule.conditions.length > 32)
    "policy_expression_too_large" "policy rule permits at most 8 bindings and 32 conditions"
  rule.bindings.rows.forM fun (name, value) => do
    validateToken name "binding name"
    validateRef rule value true
  (rule.subjects.filterMap (·.tree) ++ rule.resources.filterMap (·.tree)).forM validateTreeSelector
  rule.conditions.forM fun condition =>
    match condition with
    | .resourceBelowFolder folder _ => validateRef rule folder false
    | _ => .ok ()

/-- The selectors and actions of one rule. -/
def validateRuleBody (document : WorkspacePolicyDocument) (rule : WorkspacePolicyRule) :
    Except PolicyStoreError Unit := do
  invalidIf (rule.subjects.isEmpty || rule.actions.isEmpty || rule.resources.isEmpty)
    "invalid_policy_rule" "policy rules require subjects, actions, and resources"
  rule.subjects.forM fun subject => do
    forOption subject.id (validateToken · "policy subject ID")
    forOption subject.machineId (validateToken · "policy machine ID")
    forOption subject.group (requireGroup document · "subject")
  rule.actions.forM (validateToken · "policy action")
  rule.resources.forM fun resource => do
    forOption resource.kind (validateToken · "policy resource kind")
    forOption resource.id (validateToken · "policy resource ID")
    forOption resource.principalGroup (requireGroup document · "resource")

/-- The loop over the rules; `ruleIds` are the IDs seen so far. -/
def validateRules (document : WorkspacePolicyDocument) :
    List String → List WorkspacePolicyRule → Except PolicyStoreError Unit
  | _, [] => .ok ()
  | ruleIds, rule :: rest => do
    validatePathRule document.schemaVersion rule
    validateToken rule.id "policy rule ID"
    invalidIf (ruleIds.contains rule.id)
      "duplicate_policy_rule" "workspace policy rule IDs must be unique"
    validateRuleBody document rule
    validateRules document (rule.id :: ruleIds) rest

/-- `validate_document`; `encodedLen` is the length of the serialised document. -/
def validateDocument (encodedLen : WorkspacePolicyDocument → Nat)
    (document : WorkspacePolicyDocument) : Except PolicyStoreError Unit := do
  invalidIf
    (document.schemaVersion != policySchemaVersion &&
      document.schemaVersion != policySchemaVersionV2)
    "unsupported_policy_schema" "workspace policy schema version is not supported"
  invalidIf (encodedLen document > maxPolicyDocumentBytes)
    "policy_document_too_large" "workspace policy document exceeds 256 KiB"
  invalidIf (document.rules.length > maxPolicyRules)
    "too_many_policy_rules" "workspace policy may contain at most 1000 rules"
  document.defaults.rows.forM fun (action, _) => validateToken action "policy action"
  document.groups.rows.forM fun (name, group) => do
    validateToken name "policy group"
    group.principals.forM fun principal => validateToken principal.id "policy principal ID"
  validateRules document [] document.rules

end Treer.Policy
