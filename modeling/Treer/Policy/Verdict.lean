import Treer.Policy.Engine

/-!
# Evaluators with one verdict

An evaluator that has one policy for a workspace, or an error, or nothing,
answers `explain`, `evaluate` and `evaluate_batch` from it. Over such
evaluators the engine computes a plain function: the policy in force decides
every request, alone or in a batch.
-/

namespace Treer.Policy

open Foundation Protocol List

/-- What an evaluator knows about a workspace. -/
abbrev Verdict := Except ProtocolError (Option CompiledWorkspacePolicy)

/-- The evaluation of one request by the policy of its workspace. -/
def PolicyEvaluation.of (request : PolicyRequest) :
    Option CompiledWorkspacePolicy → PolicyEvaluation
  | none => .abstain
  | some policy => .decide (policy.evaluate request)

/-- The evaluator answers for a workspace from one verdict. -/
structure Follows {σ : Type} (holds : σ → Prop) (workspace : String)
    (evaluator : PolicyEvaluator σ) (verdict : Verdict) : Prop where
  explain : ∃ source : String, ∀ request : PolicyRequest, request.workspaceId = workspace →
    Computes holds (evaluator.explain request) (verdict >>= fun found =>
      .ok (found.map fun policy => { policy.explain request with source }))
  evaluate : ∀ request : PolicyRequest, request.workspaceId = workspace →
    Computes holds (evaluator.evaluate request) (verdict >>= fun found => .ok (.of request found))
  evaluateBatch : ∀ requests : List PolicyRequest, requests ≠ [] →
    (∀ request ∈ requests, request.workspaceId = workspace) →
    Computes holds (evaluator.evaluateBatch requests) (verdict >>= fun found =>
      .ok (.of requests found))

/-- The policy in force: the first one an evaluator has. -/
def inForce : List Verdict → Verdict
  | [] => .ok none
  | verdict :: rest => do
    match ← verdict with
    | some policy => .ok (some policy)
    | none => inForce rest

/-- The first denial of a list. -/
def firstDenial : Nat → List PolicyDecision → Except PolicyBatchDenial Unit
  | _, [] => .ok ()
  | index, .allow :: rest => firstDenial (index + 1) rest
  | index, .deny denial :: _ => .error { requestIndex := index, error := denial.intoError }

variable {decisions : List PolicyDecision}

theorem firstDenial_eq_ok_iff {index : Nat} :
    firstDenial index decisions = .ok () ↔ ∀ decision ∈ decisions, decision = .allow := by
  induction decisions generalizing index with
  | nil => simp [firstDenial]
  | cons decision rest ih =>
    cases decision with
    | allow => simp [firstDenial, ih]
    | deny => simp [firstDenial]

/-- The denial that is reported is the first one. -/
theorem firstDenial_eq_error {index : Nat} {reported : PolicyBatchDenial}
    (denied : firstDenial index decisions = .error reported) :
    ∃ earlier denial later, decisions = earlier ++ .deny denial :: later ∧
      (∀ decision ∈ earlier, decision = .allow) ∧
      reported = { requestIndex := index + earlier.length, error := denial.intoError } := by
  induction decisions generalizing index with
  | nil => cases denied
  | cons decision rest ih =>
    cases decision with
    | allow =>
      rcases ih denied with ⟨earlier, denial, later, rfl, allowed, rfl⟩
      refine ⟨.allow :: earlier, denial, later, rfl, ?_, ?_⟩
      · simpa using allowed
      · rw [length_cons, Nat.add_assoc, Nat.add_comm 1]
    | deny denial =>
      cases denied
      exact ⟨[], denial, rest, rfl, by simp, rfl⟩

namespace PolicyEngine

variable {σ : Type} {engine : PolicyEngine σ} {holds : σ → Prop} {workspace : String}
  {request : PolicyRequest} {requests : List PolicyRequest} {evaluators : List (PolicyEvaluator σ)}
  {verdicts : List Verdict}
  {index : Nat} {first : PolicyRequest}

/-- How the requests of a workspace are given their contexts. -/
def contexts (engine : PolicyEngine σ) (workspace : String) :
    Except ProtocolError (PolicyRequest → PolicyRequest) :=
  match engine.treePool with
  | some pool => do
    let snapshot ← TreeSnapshot.load (pool.reads workspace)
    .ok snapshot.enrich
  | none => .ok id

/-- The decision of the policy in force. -/
def decision (engine : PolicyEngine σ) (request : PolicyRequest) :
    Option CompiledWorkspacePolicy → PolicyDecision
  | some policy => policy.evaluate request
  | none => engine.defaultDecision

theorem enrich_eq : engine.enrich request =
    engine.contexts request.workspaceId >>= fun enrich => .ok (enrich request) := by
  unfold enrich contexts
  cases engine.treePool with
  | none => rfl
  | some pool =>
    dsimp only
    cases TreeSnapshot.load (pool.reads request.workspaceId) <;> rfl

theorem enrichBatch_eq : engine.enrichBatch workspace requests =
    engine.contexts workspace >>= fun enrich => .ok (requests.map enrich) := by
  unfold enrichBatch contexts
  cases engine.treePool with
  | none => rw [ok_bind, map_id]
  | some pool =>
    dsimp only
    cases TreeSnapshot.load (pool.reads workspace) <;> rfl

theorem workspaceId_of_contexts {enrich : PolicyRequest → PolicyRequest}
    (loaded : engine.contexts workspace = .ok enrich) :
    (enrich request).workspaceId = request.workspaceId := by
  unfold contexts at loaded
  split at loaded
  · rcases bind_eq_ok_iff.mp loaded with ⟨_, _, rest⟩
    cases rest
    rfl
  · cases loaded
    rfl

/-- A call of an evaluator leaves the records alone. -/
theorem computes_consult {α : Type} {program : Service σ ProtocolError α}
    {outcome : Except ProtocolError α} (computes : Computes holds program outcome) :
    Computes (fun state : EngineState σ => holds state.evaluators) (consult program) outcome :=
  computes.zoom (fun _ held => held) (fun _ _ _ held => held)

variable {explanation : PolicyExplanation}

/-- Records leave the evaluators alone. -/
theorem computes_record {ε : Type} : Computes (fun state : EngineState σ => holds state.evaluators)
      (engine.record request explanation : Service (EngineState σ) ε Unit) (.ok ()) := by
  apply computes_modify
  intro state held
  split
  · exact held
  · exact held

theorem computes_recordAll {unresolved : List Bool} {explanations : List PolicyExplanation} :
    Computes (fun state : EngineState σ => holds state.evaluators)
      (engine.recordAll unresolved requests explanations) (.ok ()) := by
  induction unresolved generalizing requests explanations with
  | nil => exact computes_pure ()
  | cons pending others ih =>
    cases requests with
    | nil => exact computes_pure ()
    | cons =>
      cases explanations with
      | nil => exact computes_pure ()
      | cons =>
        cases pending with
        | true => exact computes_record.bind_ok ih
        | false => exact (computes_pure ()).bind_ok ih

theorem authorizeWith_computes (follow : Forall₂ (Follows holds workspace) evaluators verdicts)
    (ofWorkspace : request.workspaceId = workspace)
    (unchanged : engine.checkTreeRevision request = .ok ()) :
    Computes (fun state => holds state.evaluators) (engine.authorizeWith request evaluators)
      (inForce verdicts >>= fun policy => (engine.decision request policy).intoResult) := by
  induction follow with
  | nil => exact computes_lift _
  | @cons evaluator verdict _ _ follows _ ih =>
    rcases follows.explain with ⟨_, explains⟩
    have explained := computes_consult (explains request ofWorkspace)
    have evaluated := computes_consult (follows.evaluate request ofWorkspace)
    cases verdict with
    | error => exact explained.bind_error
    | ok found =>
      cases found with
      | none => exact explained.bind_ok (evaluated.bind_ok ih)
      | some =>
        apply explained.bind_ok
        rw [unchanged]
        exact (computes_lift _).bind_ok (computes_record.bind_ok (computes_lift _))

/-- The decision on one request, without state. -/
theorem authorize_computes (follow : Forall₂ (Follows holds workspace) engine.evaluators verdicts)
    (ofWorkspace : request.workspaceId = workspace)
    (unchanged : ∀ enrich, engine.contexts workspace = .ok enrich →
      engine.checkTreeRevision (enrich request) = .ok ()) :
    Computes (fun state => holds state.evaluators) (engine.authorize request)
      (engine.contexts workspace >>= fun enrich =>
        inForce verdicts >>= fun policy =>
          (engine.decision (enrich request) policy).intoResult) := by
  unfold authorize
  rw [enrich_eq, ofWorkspace]
  cases loaded : engine.contexts workspace with
  | error => exact (computes_lift _).bind_error
  | ok enrich =>
    exact authorizeWith_computes follow ((workspaceId_of_contexts loaded).trans ofWorkspace)
      (unchanged enrich loaded)

variable {policy : CompiledWorkspacePolicy}

theorem effect_evaluate :
    (policy.evaluate request).effect = (policy.explain request).effectiveDecision := by
  rw [CompiledWorkspacePolicy.evaluate, PolicyExplanation.intoDecision]
  cases (policy.explain request).effectiveDecision <;> rfl

/-- `explain_request` reports the effect of the decision. -/
theorem explainWith_computes (follow : Forall₂ (Follows holds workspace) evaluators verdicts)
    (ofWorkspace : request.workspaceId = workspace) :
    ∃ outcome, Computes (fun state => holds state.evaluators)
        (engine.explainWith request evaluators) outcome ∧
      outcome.map PolicyExplanation.effectiveDecision =
        inForce verdicts >>= fun policy => .ok (engine.decision request policy).effect := by
  induction follow with
  | nil => exact ⟨_, computes_pure _, rfl⟩
  | @cons evaluator verdict _ _ follows _ ih =>
    rcases follows.explain with ⟨_, explains⟩
    have explained := computes_consult (explains request ofWorkspace)
    have evaluated := computes_consult (follows.evaluate request ofWorkspace)
    cases verdict with
    | error => exact ⟨_, explained.bind_error, rfl⟩
    | ok found =>
      cases found with
      | none =>
        rcases ih with ⟨outcome, computes, effects⟩
        exact ⟨outcome, explained.bind_ok (evaluated.bind_ok computes), effects⟩
      | some =>
        refine ⟨_, explained.bind_ok (computes_pure _), ?_⟩
        exact congrArg Except.ok effect_evaluate.symm

theorem explainRequest_computes
    (follow : Forall₂ (Follows holds workspace) engine.evaluators verdicts)
    (ofWorkspace : request.workspaceId = workspace) :
    ∃ outcome, Computes (fun state => holds state.evaluators)
        (engine.explainRequest request) outcome ∧
      outcome.map PolicyExplanation.effectiveDecision =
        engine.contexts workspace >>= fun enrich =>
          inForce verdicts >>= fun policy =>
            .ok (engine.decision (enrich request) policy).effect := by
  unfold explainRequest
  rw [enrich_eq, ofWorkspace]
  cases loaded : engine.contexts workspace with
  | error => exact ⟨_, (computes_lift _).bind_error, rfl⟩
  | ok enrich =>
    have inWorkspace : (enrich request).workspaceId = workspace :=
      (workspaceId_of_contexts loaded).trans ofWorkspace
    rcases explainWith_computes follow inWorkspace with ⟨outcome, computes, effects⟩
    exact ⟨outcome, (computes_lift _).bind_ok computes, effects⟩

/-! ### Batches -/

theorem settle_abstain :
    settle index (requests.map fun _ => true) (requests.map fun _ => .abstain) =
      .ok (requests.map fun _ => true) := by
  induction requests generalizing index with
  | nil => rfl
  | cons request rest ih =>
    simp only [map_cons, settle]
    rw [ih]
    rfl

theorem settle_decide : settle index (requests.map fun _ => true)
        (requests.map fun request => .decide (policy.evaluate request)) =
      firstDenial index (requests.map policy.evaluate) >>= fun _ =>
        .ok (requests.map fun _ => false) := by
  induction requests generalizing index with
  | nil => rfl
  | cons request rest ih =>
    simp only [map_cons]
    cases decided : policy.evaluate request with
    | allow =>
      simp only [settle, firstDenial]
      rw [ih]
      cases firstDenial (index + 1) (rest.map policy.evaluate) <;> rfl
    | deny => rfl

variable {decision : PolicyDecision}

theorem applyDefault_unresolved : applyDefault decision index (requests.map fun _ => true) =
      firstDenial index (requests.map fun _ => decision) := by
  induction requests generalizing index with
  | nil => rfl
  | cons request rest ih =>
    cases decision with
    | allow => exact ih
    | deny => rfl

theorem applyDefault_resolved :
    applyDefault decision index (requests.map fun _ => false) = .ok () := by
  induction requests generalizing index with
  | nil => rfl
  | cons request rest ih => exact ih

theorem batchWith_computes (follow : Forall₂ (Follows holds workspace) evaluators verdicts)
    (nonempty : requests ≠ []) (ofWorkspace : ∀ request ∈ requests, request.workspaceId = workspace)
    (unchanged : engine.checkTreeRevision first = .ok ()) :
    Computes (fun state => holds state.evaluators)
      (engine.batchWith first requests evaluators (requests.map fun _ => true) none)
      ((inForce verdicts).mapError atFirst >>= fun policy =>
        match policy with
        | none => .ok (requests.map fun _ => true, none)
        | some policy => firstDenial 0 (requests.map policy.evaluate) >>= fun _ =>
          .ok (requests.map fun _ => false, some policy.revision)) := by
  have unresolved : ¬ (requests.map fun _ => true).all (!·) = true := by
    cases requests with
    | nil => exact absurd rfl nonempty
    | cons => simp
  induction follow with
  | nil => exact computes_pure _
  | @cons evaluator verdict rest _ follows _ ih =>
    have evaluated :=
      (computes_consult (follows.evaluateBatch requests nonempty ofWorkspace)).mapError atFirst
    rw [batchWith, if_neg unresolved]
    cases verdict with
    | error => exact evaluated.bind_error
    | ok found =>
      have whole : refuse ((PolicyBatchEvaluation.of requests found).evaluations.length !=
          requests.length) (atFirst {
            code := "policy_batch_invalid"
            message := "a policy evaluator returned an invalid batch result" }) = .ok () := by
        cases found <;> simp [PolicyBatchEvaluation.of]
      have current : (engine.checkTreeRevision first).mapError atFirst = .ok () := by
        rw [unchanged]
        rfl
      apply evaluated.bind_ok
      apply (computes_lift_of_eq whole).bind_ok
      cases found with
      | none =>
        apply (computes_lift_of_eq current).bind_ok
        apply computes_recordAll.bind_ok
        apply (computes_lift_of_eq settle_abstain).bind_ok
        exact ih
      | some policy =>
        apply (computes_lift_of_eq current).bind_ok
        apply computes_recordAll.bind_ok
        have settled := @settle_decide requests 0 policy
        change Computes _ _ (firstDenial 0 (requests.map policy.evaluate) >>= fun _ => _)
        cases denied : firstDenial 0 (requests.map policy.evaluate) with
        | error =>
          rw [denied] at settled
          exact (computes_lift_of_eq settled).bind_error
        | ok =>
          rw [denied] at settled
          apply (computes_lift_of_eq settled).bind_ok
          -- Every request is resolved, so the other evaluators are not asked.
          cases rest with
          | nil => exact computes_pure _
          | cons =>
            rw [batchWith, if_pos (by simp)]
            exact computes_pure _

section
variable (follow : List.Forall₂ (Follows holds workspace) engine.evaluators verdicts)
  (nonempty : requests ≠ []) (ofWorkspace : ∀ request ∈ requests, request.workspaceId = workspace)
include follow nonempty ofWorkspace

theorem decideBatch_computes (unchanged : engine.checkTreeRevision first = .ok ()) :
    Computes (fun state => holds state.evaluators) (engine.decideBatch first requests)
      ((inForce verdicts).mapError atFirst >>= fun policy =>
        firstDenial 0 (requests.map fun request => engine.decision request policy) >>=
          fun _ => .ok { revision := policy.map CompiledWorkspacePolicy.revision }) := by
  have batch := batchWith_computes follow nonempty ofWorkspace unchanged
  cases force : inForce verdicts with
  | error =>
    rw [force] at batch
    exact batch.bind_error
  | ok policy =>
    rw [force] at batch
    cases policy with
    | none =>
      apply batch.bind_ok
      exact (computes_lift_of_eq applyDefault_unresolved).bind fun _ _ => computes_pure _
    | some policy =>
      change Computes _ _ (firstDenial 0 (requests.map policy.evaluate) >>= fun _ => _) at batch
      change Computes _ _ (firstDenial 0 (requests.map policy.evaluate) >>= fun _ => _)
      cases denied : firstDenial 0 (requests.map policy.evaluate) with
      | error =>
        rw [denied] at batch
        exact batch.bind_error
      | ok =>
        rw [denied] at batch
        apply batch.bind_ok
        apply (computes_lift_of_eq applyDefault_resolved).bind_ok
        exact computes_pure _

/-- The decision on a batch, without state. -/
theorem authorizeBatch_computes
    (unchanged : ∀ enrich, engine.contexts workspace = .ok enrich →
      ∀ request ∈ requests, engine.checkTreeRevision (enrich request) = .ok ()) :
    Computes (fun state => holds state.evaluators) (engine.authorizeBatch requests)
      ((engine.contexts workspace).mapError atFirst >>= fun enrich =>
        (inForce verdicts).mapError atFirst >>= fun policy =>
          firstDenial 0 (requests.map fun request => engine.decision (enrich request) policy) >>=
            fun _ => .ok { revision := policy.map CompiledWorkspacePolicy.revision }) := by
  cases requests with
  | nil => exact absurd rfl nonempty
  | cons head tail =>
    have headWorkspace : head.workspaceId = workspace := ofWorkspace head mem_cons_self
    rw [authorizeBatch, enrichBatch_eq, headWorkspace]
    cases loaded : engine.contexts workspace with
    | error => exact (computes_lift _).bind_error
    | ok enrich =>
      have inWorkspace : ∀ request ∈ (head :: tail).map enrich,
          request.workspaceId = workspace := by
        intro request mem
        rcases mem_map.mp mem with ⟨given, givenMem, rfl⟩
        exact (workspaceId_of_contexts loaded).trans (ofWorkspace given givenMem)
      have oneWorkspace : refuse
          (((head :: tail).map enrich).any (·.workspaceId != (enrich head).workspaceId))
          (atFirst {
            code := "policy_batch_workspace_mismatch"
            message := "a policy batch must belong to one workspace" }) = .ok () := by
        rw [refuse_eq_ok_iff, any_eq_false]
        intro request mem
        rw [inWorkspace request mem, inWorkspace (enrich head) mem_cons_self]
        simp
      have batch := decideBatch_computes follow (by simp) inWorkspace
        (unchanged enrich loaded head mem_cons_self)
      simp only [map_map] at batch
      exact (computes_lift_of_eq oneWorkspace).bind_ok batch

end
end PolicyEngine
end Treer.Policy
