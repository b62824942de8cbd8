import Treer.Policy.Provider
import Treer.Policy.Snapshot

/-!
# The policy engine

`PolicyEngine` of `treer-proxy/src/policy.rs`. A request is given its Tree
contexts and shown to the evaluators in order; the first one with a policy for
the workspace decides, and the default decides where none has one. A batch asks
each evaluator once for all requests.

Evaluators keep caches. The engine is written over any list of evaluators with
hidden state; `durableWithProvider` is the list of the proxy.
-/

namespace Treer.Policy

open Foundation Protocol
open Service (modify lift read)

def PolicyDecision.intoResult : PolicyDecision → Except ProtocolError Unit
  | .allow => .ok ()
  | .deny denial => .error denial.intoError

/-- The effect of a decision. -/
def PolicyDecision.effect : PolicyDecision → PolicyEffect
  | .allow => .allow
  | .deny _ => .deny

def PolicyExplanation.baseline (decision : PolicyDecision) (treeRevision : Option Nat) :
    PolicyExplanation :=
  { computedEffect := decision.effect
    effectiveDecision := decision.effect
    mode := .monitor
    matchedRuleId := none
    reason := "Core fallback"
    policyRevision := 0
    treeRevision
    source := "baseline" }

structure PolicyBatchEvaluation where
  explanations : List PolicyExplanation
  evaluations : List PolicyEvaluation
  revision : Option Nat

structure PolicyBatchAuthorization where
  revision : Option Nat

structure PolicyBatchDenial where
  requestIndex : Nat
  error : ProtocolError

structure PolicyDecisionRecord where
  workspaceId : String
  actorKind : PolicyPrincipalKind
  (actorId action resourceKind resourceId : String)
  occurredAt : Nat
  explanation : PolicyExplanation

/-- With the default methods of the trait. -/
structure PolicyEvaluator (σ : Type) where
  evaluate : PolicyRequest → Service σ ProtocolError PolicyEvaluation
  explain : PolicyRequest → Service σ ProtocolError (Option PolicyExplanation) :=
    fun _ => pure none
  evaluateBatch : List PolicyRequest → Service σ ProtocolError PolicyBatchEvaluation :=
    fun requests => do
      let evaluations ← requests.mapM evaluate
      pure { explanations := [], evaluations, revision := none }

/-- What the database answers about the Trees: the statements of a snapshot, and
the current revision of a workspace; `none` is a failed query. -/
structure TreePool where
  reads : String → TreeReads
  currentRevision : String → Option (Option Int)

/-- `PolicyEngine`; the records are part of its state. -/
structure PolicyEngine (σ : Type) where
  evaluators : List (PolicyEvaluator σ)
  defaultDecision : PolicyDecision
  treePool : Option TreePool
  now : Nat

/-- The state of the evaluators and the records of denials under `monitor`. -/
structure EngineState (σ : Type) where
  evaluators : σ
  records : List PolicyDecisionRecord

/-- A call of an evaluator. -/
def consult {σ α : Type} (program : Service σ ProtocolError α) :
    Service (EngineState σ) ProtocolError α :=
  program.zoom EngineState.evaluators fun evaluators state => { state with evaluators }

/-- `u64::try_from(value).ok()`. -/
def toUnsigned : Int → Option Nat
  | .ofNat value => some value
  | .negSucc _ => none

namespace PolicyEngine

variable {σ : Type} (engine : PolicyEngine σ) (request : PolicyRequest)

def checkTreeRevision : Except ProtocolError Unit :=
  match engine.treePool, request.treeRevision with
  | some pool, some revision =>
    match pool.currentRevision request.workspaceId with
    | none => .error ⟨"policy_tree_unavailable", "cannot validate current Tree revision", none⟩
    | some current =>
      refuse (current.bind toUnsigned != some revision)
        ⟨"policy_tree_changed", "Tree changed during authorization; retry request", none⟩
  | _, _ => .ok ()

def enrich : Except ProtocolError PolicyRequest :=
  match engine.treePool with
  | some pool => do
    let snapshot ← TreeSnapshot.load (pool.reads request.workspaceId)
    .ok (snapshot.enrich request)
  | none => .ok request

/-- The last 2048 denials that `monitor` let pass. -/
def record {ε : Type} (request : PolicyRequest) (explanation : PolicyExplanation) :
    Service (EngineState σ) ε Unit :=
  modify fun state =>
    if explanation.mode != .monitor || explanation.computedEffect != .deny then state
    else
      let (kind, id, _) := subjectParts request.subject
      let record : PolicyDecisionRecord :=
        { workspaceId := request.workspaceId
          actorKind := kind
          actorId := id
          action := request.action
          resourceKind := request.resource.kind
          resourceId := request.resource.id
          occurredAt := engine.now
          explanation }
      let kept := if state.records.length == 2048 then state.records.drop 1 else state.records
      { state with records := kept ++ [record] }

/-- The loop of `explain_request`. -/
def explainWith (request : PolicyRequest) :
    List (PolicyEvaluator σ) → Service (EngineState σ) ProtocolError PolicyExplanation
  | [] => pure (.baseline engine.defaultDecision request.treeRevision)
  | evaluator :: rest => do
    match ← consult (evaluator.explain request) with
    | some explanation => pure { explanation with treeRevision := request.treeRevision }
    | none =>
      match ← consult (evaluator.evaluate request) with
      | .abstain => explainWith request rest
      | .decide decision => pure (.baseline decision request.treeRevision)

def explainRequest : Service (EngineState σ) ProtocolError PolicyExplanation := do
  let request ← lift (engine.enrich request)
  engine.explainWith request engine.evaluators

/-- The loop of `authorize`. -/
def authorizeWith (request : PolicyRequest) :
    List (PolicyEvaluator σ) → Service (EngineState σ) ProtocolError Unit
  | [] => lift engine.defaultDecision.intoResult
  | evaluator :: rest => do
    match ← consult (evaluator.explain request) with
    | some explanation => do
      lift (engine.checkTreeRevision request)
      engine.record request explanation
      lift explanation.intoDecision.intoResult
    | none =>
      match ← consult (evaluator.evaluate request) with
      | .abstain => authorizeWith request rest
      | .decide decision => lift decision.intoResult

def authorize : Service (EngineState σ) ProtocolError Unit := do
  let request ← lift (engine.enrich request)
  engine.authorizeWith request engine.evaluators

/-- `.map_err(|error| PolicyBatchDenial { request_index: 0, error })`. -/
def atFirst (error : ProtocolError) : PolicyBatchDenial :=
  { requestIndex := 0, error }

/-- The requests of a batch with the contexts of one snapshot. -/
def enrichBatch (workspace : String) (requests : List PolicyRequest) :
    Except ProtocolError (List PolicyRequest) :=
  match engine.treePool with
  | some pool => do
    let snapshot ← TreeSnapshot.load (pool.reads workspace)
    .ok (requests.map snapshot.enrich)
  | none => .ok requests

/-- The loop of `authorize_batch` over the evaluations of one evaluator: an
allowance resolves a request, the first denial ends the batch. -/
def settle : Nat → List Bool → List PolicyEvaluation → Except PolicyBatchDenial (List Bool)
  | index, pending :: others, evaluation :: evaluations =>
    match pending, evaluation with
    | true, .decide (.deny denial) => .error { requestIndex := index, error := denial.intoError }
    | true, .decide .allow => do .ok (false :: (← settle (index + 1) others evaluations))
    | _, _ => do .ok (pending :: (← settle (index + 1) others evaluations))
  | _, unresolved, _ => .ok unresolved

/-- The revision of a batch, which all evaluators must share. -/
def pinRevision (revision batchRevision : Option Nat) : Except ProtocolError (Option Nat) :=
  match batchRevision with
  | none => .ok revision
  | some pinned =>
    if revision.any (· != pinned) then
      .error {
        code := "policy_batch_revision_conflict"
        message := "policy evaluators did not use one pinned revision" }
    else .ok (some pinned)

/-- A record for a request that is not yet resolved. -/
def recordIf {ε : Type} (pending : Bool) (request : PolicyRequest)
    (explanation : PolicyExplanation) : Service (EngineState σ) ε Unit :=
  if pending then engine.record request explanation else pure ()

/-- The records of one evaluator for the requests of a batch. -/
def recordAll : List Bool → List PolicyRequest → List PolicyExplanation →
    Service (EngineState σ) PolicyBatchDenial Unit
  | pending :: others, request :: requests, explanation :: explanations => do
    engine.recordIf pending request explanation
    recordAll others requests explanations
  | _, _, _ => pure ()

/-- The loop of `authorize_batch` over the evaluators. -/
def batchWith (first : PolicyRequest) (requests : List PolicyRequest) :
    List (PolicyEvaluator σ) → List Bool → Option Nat →
      Service (EngineState σ) PolicyBatchDenial (List Bool × Option Nat)
  | [], unresolved, revision => pure (unresolved, revision)
  | evaluator :: rest, unresolved, revision =>
    if unresolved.all (!·) then pure (unresolved, revision)
    else do
      let batch ← (consult (evaluator.evaluateBatch requests)).mapError atFirst
      lift (refuse (batch.evaluations.length != requests.length) (atFirst
        ⟨"policy_batch_invalid", "a policy evaluator returned an invalid batch result", none⟩))
      let revision ← lift ((pinRevision revision batch.revision).mapError atFirst)
      lift ((engine.checkTreeRevision first).mapError atFirst)
      engine.recordAll unresolved requests batch.explanations
      let unresolved ← lift (settle 0 unresolved batch.evaluations)
      batchWith first requests rest unresolved revision

/-- The loop of `authorize_batch` over the requests that no evaluator resolved. -/
def applyDefault (decision : PolicyDecision) : Nat → List Bool → Except PolicyBatchDenial Unit
  | _, [] => .ok ()
  | index, pending :: others =>
    match pending, decision with
    | true, .deny denial => .error { requestIndex := index, error := denial.intoError }
    | _, _ => applyDefault decision (index + 1) others

/-- The decision on the requests of a batch, by the evaluators and the default. -/
def decideBatch (first : PolicyRequest) (requests : List PolicyRequest) :
    Service (EngineState σ) PolicyBatchDenial PolicyBatchAuthorization := do
  let (unresolved, revision) ←
    engine.batchWith first requests engine.evaluators (requests.map fun _ => true) none
  lift (applyDefault engine.defaultDecision 0 unresolved)
  pure { revision }

def authorizeBatch (requests : List PolicyRequest) :
    Service (EngineState σ) PolicyBatchDenial PolicyBatchAuthorization :=
  match requests with
  | [] => pure { revision := none }
  | head :: _ => do
    let enriched ← lift
      ((engine.enrichBatch head.workspaceId requests).mapError atFirst)
    match enriched with
    | [] => pure { revision := none }
    | first :: _ => do
      lift (refuse (enriched.any (·.workspaceId != first.workspaceId)) (atFirst
        ⟨"policy_batch_workspace_mismatch", "a policy batch must belong to one workspace", none⟩))
      engine.decideBatch first enriched

end PolicyEngine

/-! ## The evaluators of the proxy -/

section
variable {σ : Type} (compiled : String → Service σ ProtocolError (Option CompiledWorkspacePolicy))

/-- `evaluate` of the two evaluators. -/
def evaluateCompiled (request : PolicyRequest) : Service σ ProtocolError PolicyEvaluation := do
  match ← compiled request.workspaceId with
  | none => pure .abstain
  | some policy => pure (.decide (policy.evaluate request))

/-- The evaluation of a batch by the policy of its workspace. -/
def PolicyBatchEvaluation.of (requests : List PolicyRequest) :
    Option CompiledWorkspacePolicy → PolicyBatchEvaluation
  | none =>
    { explanations := []
      evaluations := requests.map fun _ => .abstain
      revision := none }
  | some policy =>
    { explanations := requests.map policy.explain
      evaluations := requests.map fun request => .decide (policy.evaluate request)
      revision := some policy.revision }

/-- `evaluate_batch` of the two evaluators. -/
def evaluateBatchCompiled (requests : List PolicyRequest) :
    Service σ ProtocolError PolicyBatchEvaluation :=
  match requests with
  | [] => pure { explanations := [], evaluations := [], revision := none }
  | first :: _ => do
    lift (refuse (requests.any (·.workspaceId != first.workspaceId))
      ⟨"policy_batch_workspace_mismatch", "a policy batch must belong to one workspace", none⟩)
    let found ← compiled first.workspaceId
    pure (.of requests found)

end

/-- The source of an explanation: a last error is of a stale bundle or the permissive policy. -/
def providerSource (cached : Option CachedProviderPolicy) : String :=
  match cached with
  | none => "provider"
  | some cached =>
    if cached.lastError.isSome then
      if cached.loadedAt.isSome then "provider_stale" else "provider_fail_open"
    else "provider"

structure CachedWorkspacePolicy where
  loadedAt : Nat
  policy : Option CompiledWorkspacePolicy

abbrev DurableCache := KeyedMap String CachedWorkspacePolicy

/-- What one call of `DurablePolicyEvaluator::compiled` meets. -/
structure DurableReading where
  (look arrived : Nat)
  row : Except PolicyStoreError (Option WorkspacePolicy)

def DurablePolicyEvaluator.compiled (reading : DurableReading) (workspace : String) :
    Service DurableCache ProtocolError (Option CompiledWorkspacePolicy) := fun cache =>
  let fresh := (cache.get? workspace).filter fun cached =>
    elapsed reading.look cached.loadedAt < policyCacheTtl
  match fresh with
  | some cached => (.ok cached.policy, cache)
  | none =>
    match reading.row with
    | .error error => (.error { code := error.code, message := error.text }, cache)
    | .ok row =>
      let policy := row.map CompiledWorkspacePolicy.compile
      (.ok policy, cache.insert workspace { loadedAt := reading.arrived, policy })

/-- The caches of the two evaluators. -/
structure Caches where
  provider : ProviderCache
  durable : DurableCache

/-- What the engine meets at one moment: the clock, the rows of the database and
the replies of the Policy Apps, by App and workspace. -/
structure PolicyWorld where
  now : Nat
  encodedLen : WorkspacePolicyDocument → Nat
  providerRow : String → Except String (Option WorkspacePolicyProvider)
  replies : String → String → ProviderReplies
  policyRow : String → Except PolicyStoreError (Option WorkspacePolicy)
  tree : TreePool

namespace PolicyWorld

variable (world : PolicyWorld) (workspace : String)

def reading : Reading where
  firstLook := world.now
  secondLook := world.now
  arrived := world.now
  row := world.providerRow workspace
  fetched appId :=
    ProviderPolicyEvaluator.fetchBundle world.encodedLen (world.replies appId workspace) workspace

def durableReading : DurableReading where
  look := world.now
  arrived := world.now
  row := world.policyRow workspace

/-- `compiled` of the Provider evaluator at this moment. -/
def providerCompiled : Service ProviderCache ProtocolError (Option CompiledWorkspacePolicy) :=
  ProviderPolicyEvaluator.compiled (world.reading workspace) workspace

/-- `compiled` of the Durable evaluator at this moment. -/
def durableCompiled : Service DurableCache ProtocolError (Option CompiledWorkspacePolicy) :=
  DurablePolicyEvaluator.compiled (world.durableReading workspace) workspace

/-- `ProviderPolicyEvaluator::explain`. -/
def providerExplain (request : PolicyRequest) :
    Service ProviderCache ProtocolError (Option PolicyExplanation) := do
  match ← world.providerCompiled request.workspaceId with
  | none => pure none
  | some policy => do
    let cached ← read fun cache => cache.get? request.workspaceId
    pure (some { policy.explain request with source := providerSource cached })

/-- `DurablePolicyEvaluator::explain`. -/
def durableExplain (request : PolicyRequest) :
    Service DurableCache ProtocolError (Option PolicyExplanation) := do
  let found ← world.durableCompiled request.workspaceId
  pure (found.map (·.explain request))

/-- A program over the cache of the Provider evaluator. -/
def overProvider {α : Type} (program : Service ProviderCache ProtocolError α) :
    Service Caches ProtocolError α :=
  program.zoom Caches.provider fun provider caches => { caches with provider }

/-- A program over the cache of the Durable evaluator. -/
def overDurable {α : Type} (program : Service DurableCache ProtocolError α) :
    Service Caches ProtocolError α :=
  program.zoom Caches.durable fun durable caches => { caches with durable }

def provider : PolicyEvaluator Caches where
  evaluate request := overProvider (evaluateCompiled world.providerCompiled request)
  explain request := overProvider (world.providerExplain request)
  evaluateBatch requests := overProvider (evaluateBatchCompiled world.providerCompiled requests)

def durable : PolicyEvaluator Caches where
  evaluate request := overDurable (evaluateCompiled world.durableCompiled request)
  explain request := overDurable (world.durableExplain request)
  evaluateBatch requests := overDurable (evaluateBatchCompiled world.durableCompiled requests)

def durableWithProvider : PolicyEngine Caches where
  evaluators := [world.provider, world.durable]
  defaultDecision := .allow
  treePool := some world.tree
  now := world.now

end PolicyWorld
end Treer.Policy
