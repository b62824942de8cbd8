import Treer.Foundation.FirstMatch
import Treer.Foundation.Multimap
import Treer.Policy.PathMatch
import Mathlib.Data.Prod.Lex
import Mathlib.Data.String.Basic

/-!
# Compiled policies

`CompiledWorkspacePolicy` of `treer-proxy/src/policy.rs`: the rules of a
document in one list for each action, each list sorted for a first-match
search, and the explanation of a decision.
-/

namespace Treer.Policy

open Foundation

def resourceAgent : String := "agent"

def resourceMachine : String := "machine"

def resourceMessageMailbox : String := "message.mailbox"

def effectOrder : PolicyEffect → Nat
  | .allow => 0
  | .deny => 1

/-- The comparison of `sort_by`: `left` does not come after `right`. Higher
priorities first, then denials, then smaller IDs when ties are stable. -/
def RuleBefore (stableTies : Bool) (left right : WorkspacePolicyRule) : Prop :=
  right.priority < left.priority ∨
    (right.priority = left.priority ∧
      (effectOrder right.effect < effectOrder left.effect ∨
        (effectOrder right.effect = effectOrder left.effect ∧
          (stableTies = true → left.id ≤ right.id))))
deriving Decidable

structure CompiledWorkspacePolicy where
  revision : Nat
  mode : PolicyMode
  defaults : BTreeMap PolicyEffect
  groups : BTreeMap (List PolicyPrincipalRef)
  rulesByAction : Multimap String WorkspacePolicyRule

namespace CompiledWorkspacePolicy

def allow (revision : Nat) : CompiledWorkspacePolicy where
  revision
  mode := .monitor
  defaults := Table.empty
  groups := Table.empty
  rulesByAction := []

/-- The rules by action, best first. -/
def compile (policy : WorkspacePolicy) : CompiledWorkspacePolicy :=
  let stableTies := policy.document.schemaVersion == 2
  let rulesByAction := Multimap.groupBy WorkspacePolicyRule.actions policy.document.rules
  { revision := policy.revision
    mode := policy.mode
    defaults := policy.document.defaults
    groups := policy.document.groups.mapValues (·.principals)
    rulesByAction := rulesByAction.mapValues (List.insertionSort (RuleBefore stableTies)) }

end CompiledWorkspacePolicy

/-- Kind, ID and machine of a subject. -/
def subjectParts : PolicySubject → PolicyPrincipalKind × String × String
  | .agent serverId agentId => (.agent, agentId, serverId)
  | .machine serverId => (.machine, serverId, serverId)
  | .human userId => (.human, userId, "")
  | .service serviceId => (.service, serviceId, "")

def resourcePrincipal (resource : PolicyResource) : Option (PolicyPrincipalKind × String) :=
  if resource.kind == resourceAgent then some (.agent, resource.id)
  else if resource.kind == resourceMachine then some (.machine, resource.id)
  else if resource.kind == resourceMessageMailbox then do
    let principalKind ← resource.attributes.get? "principal_kind"
    if principalKind == "agent" then some (.agent, resource.id)
    else if principalKind == "human" then some (.human, resource.id)
    else if principalKind == "machine" then some (.machine, resource.id)
    else if principalKind == "service" then some (.service, resource.id)
    else none
  else none

namespace CompiledWorkspacePolicy

variable (policy : CompiledWorkspacePolicy)

def groupContains (group : String) (kind : PolicyPrincipalKind) (id : String) : Bool :=
  (policy.groups.get? group).any fun principals =>
    principals.any fun principal => principal.kind == kind && principal.id == id

def subjectMatches (selector : PolicySubjectSelector) (request : PolicyRequest) : Bool :=
  let (kind, id, machineId) := subjectParts request.subject
  selector.kind.all (· == kind) &&
    selectorMatches selector.tree request.subjectTree &&
    selector.id.all (· == id) &&
    selector.machineId.all (· == machineId) &&
    selector.group.all (policy.groupContains · kind id) &&
    (!selector.isSelf || request.resource.id == id)

def resourceMatches (selector : PolicyResourceSelector) (request : PolicyRequest) : Bool :=
  selectorMatches selector.tree request.resourceTree &&
    selector.kind.all (· == request.resource.kind) &&
    selector.id.all (· == request.resource.id) &&
    selector.principalGroup.all fun group =>
      (resourcePrincipal request.resource).any fun (kind, id) => policy.groupContains group kind id

variable (request : PolicyRequest)

/-- The search condition of `explain`. -/
def ruleMatches (rule : WorkspacePolicyRule) : Bool :=
  rule.subjects.any (policy.subjectMatches · request) &&
    rule.resources.any (policy.resourceMatches · request) &&
    conditionsMatch rule request

/-- The rule `explain` finds first in the list of the action. -/
def matched : Option WorkspacePolicyRule :=
  (policy.rulesByAction.get request.action).find? (policy.ruleMatches request)

/-- The first rule decides, or the default. -/
def explain : PolicyExplanation :=
  let matched := policy.matched request
  let effect :=
    ((matched.map (·.effect)).or (policy.defaults.get? request.action)).getD .allow
  { computedEffect := effect
    effectiveDecision := if policy.mode == .monitor then .allow else effect
    mode := policy.mode
    matchedRuleId := matched.map (·.id)
    reason := if matched.isSome then "rule matched" else "no rule matched; action default"
    policyRevision := policy.revision
    treeRevision := request.treeRevision
    source := "workspace_policy" }

end CompiledWorkspacePolicy

def PolicyExplanation.intoDecision (explanation : PolicyExplanation) : PolicyDecision :=
  if explanation.effectiveDecision == .allow then .allow
  else .deny ⟨"policy_denied", "workspace policy denied this operation"⟩

def CompiledWorkspacePolicy.evaluate (policy : CompiledWorkspacePolicy)
    (request : PolicyRequest) : PolicyDecision :=
  (policy.explain request).intoDecision

section
variable {stableTies : Bool} {first second third : WorkspacePolicyRule}

/-- What the order reads of a rule, best first. -/
def rank (stableTies : Bool) (rule : WorkspacePolicyRule) : ℤᵒᵈ ×ₗ ℕᵒᵈ ×ₗ String :=
  toLex (.toDual rule.priority,
    toLex (.toDual (effectOrder rule.effect), if stableTies then rule.id else ""))

theorem ruleBefore_iff : RuleBefore stableTies first second ↔
    rank stableTies first ≤ rank stableTies second := by
  cases stableTies <;> simp [RuleBefore, rank, Prod.Lex.toLex_le_toLex, eq_comm]

instance : Std.Total (RuleBefore stableTies) where
  total _ _ := by
    rw [ruleBefore_iff, ruleBefore_iff]
    exact le_total _ _

instance : IsTrans WorkspacePolicyRule (RuleBefore stableTies) where
  trans _ _ _ := by
    rw [ruleBefore_iff, ruleBefore_iff, ruleBefore_iff]
    exact le_trans

/-- Rules that come before each other agree on everything the order reads. -/
theorem RuleBefore.agree (forward : RuleBefore stableTies first second)
    (backward : RuleBefore stableTies second first) :
    first.priority = second.priority ∧ first.effect = second.effect ∧
      (stableTies = true → first.id = second.id) := by
  have same := le_antisymm (ruleBefore_iff.mp forward) (ruleBefore_iff.mp backward)
  simp only [rank, EmbeddingLike.apply_eq_iff_eq, Prod.mk.injEq] at same
  obtain ⟨priorityEq, effectEq, idEq⟩ := same
  refine ⟨priorityEq, ?_, fun stable => by simpa [stable] using idEq⟩
  cases firstEffect : first.effect <;> cases secondEffect : second.effect <;> simp_all [effectOrder]

/-- A rule that comes before another has no lower priority, and at the same
priority allows only if the other does. -/
theorem RuleBefore.outranks (ordered : RuleBefore stableTies first second) :
    second.priority ≤ first.priority ∧
      (second.priority = first.priority → second.effect = .deny → first.effect = .deny) := by
  unfold RuleBefore at ordered
  constructor
  · omega
  intro same denied
  cases firstEffect : first.effect with
  | deny => rfl
  | allow =>
    simp only [firstEffect, denied, effectOrder] at ordered
    omega

end

/-- The list of an action is the sorted list of the rules that name it. -/
theorem CompiledWorkspacePolicy.get_rulesByAction_compile (policy : WorkspacePolicy)
    (action : String) : (compile policy).rulesByAction.get action =
      (policy.document.rules.filter fun rule => action ∈ rule.actions).insertionSort
        (RuleBefore (policy.document.schemaVersion == 2)) := by
  rw [compile]
  rw [Multimap.get_mapValues _ rfl, Multimap.get_groupBy]

end Treer.Policy
