import Treer.Policy.Below
import Treer.Policy.Verdict

/-!
# Batches decide as single requests do

At one moment the evaluators of the proxy answer from one verdict each, whatever
their caches hold: a call that succeeds leaves a fresh entry with the same
answer. A batch, its requests one by one and their explanations therefore all
tell what the policy in force decides.
-/

namespace Treer.Policy

open Foundation Protocol List

variable {request : PolicyRequest} {requests : List PolicyRequest}

namespace PolicyWorld

variable {world : PolicyWorld} {workspace : String} {found : Option CompiledWorkspacePolicy}

/-- An entry that was just checked answers the next call. -/
theorem providerCompiled_of_checked {cache : ProviderCache} {entry : CachedProviderPolicy}
    (stored : cache.get? workspace = some entry)
    (checked : entry.checkedAt = world.now) (answers : cachedProviderResult entry = .ok found) :
    world.providerCompiled workspace cache = (.ok found, cache) := by
  have fresh : freshEntry cache workspace (world.reading workspace).firstLook = some entry := by
    rw [freshEntry, stored, Option.filter_eq_some_iff]
    simp [reading, checked, elapsed, policyCacheTtl, second]
  rw [providerCompiled, compiled_of_fresh fresh, answers]

/-- A call that succeeds would succeed again with the same policy. -/
theorem providerCompiled_steady {cache next : ProviderCache}
    (ran : world.providerCompiled workspace cache = (.ok found, next)) :
    world.providerCompiled workspace next = (.ok found, next) := by
  rcases compiled_cases (Nat.le_refl _) ran with
    ⟨cached, fresh, answers, rfl⟩ | ⟨_, ⟨_, _, _, failed⟩ | ⟨_, done, assigned⟩ |
      ⟨provider, _, entry, finished, assigned⟩⟩
  · rw [providerCompiled, compiled_of_fresh fresh, answers]
  · cases failed
  · cases done
    exact providerCompiled_of_checked assigned.get?_self rfl rfl
  cases finished with
  | loaded =>
    apply providerCompiled_of_checked assigned.get?_self rfl
    simp [cachedProviderResult, loadedEntry]
  | @stale cached text kept =>
    -- A bundle that was loaded left a policy.
    rcases staleEntry_eq_some_iff.mp kept with ⟨_, _, _, loadedAt, _⟩
    have policy := cached.loaded (Option.isSome_of_mem loadedAt)
    apply providerCompiled_of_checked assigned.get?_self rfl
    simp [cachedProviderResult, policy]
  | failOpen =>
    apply providerCompiled_of_checked assigned.get?_self rfl
    simp [cachedProviderResult, failedEntry]

theorem durableCompiled_steady {cache next : DurableCache}
    (ran : world.durableCompiled workspace cache = (.ok found, next)) :
    world.durableCompiled workspace next = (.ok found, next) := by
  unfold durableCompiled DurablePolicyEvaluator.compiled at ran ⊢
  dsimp only at ran ⊢
  split at ran
  · rename_i cached fresh
    cases ran
    rw [fresh]
  · split at ran
    · cases ran
    cases ran
    rw [KeyedMap.get?_insert, if_pos rfl]
    simp [Option.filter, durableReading, elapsed, policyCacheTtl, second]

section
variable {σ : Type} {compiled : String → Service σ ProtocolError (Option CompiledWorkspacePolicy)}
  {start : σ}

theorem computes_evaluateCompiled
    (steady : ∀ found next, compiled workspace start = (.ok found, next) →
      compiled workspace next = (.ok found, next))
    (ofWorkspace : request.workspaceId = workspace) :
    Computes (SettledAt (compiled workspace) start) (evaluateCompiled compiled request)
      ((compiled workspace start).1 >>= fun found => .ok (.of request found)) := by
  unfold evaluateCompiled
  rw [ofWorkspace]
  apply computes_of_steady steady
  intro found next _
  cases found <;> rfl

theorem computes_evaluateBatchCompiled
    (steady : ∀ found next, compiled workspace start = (.ok found, next) →
      compiled workspace next = (.ok found, next))
    (nonempty : requests ≠ [])
    (ofWorkspace : ∀ request ∈ requests, request.workspaceId = workspace) :
    Computes (SettledAt (compiled workspace) start) (evaluateBatchCompiled compiled requests)
      ((compiled workspace start).1 >>= fun found => .ok (.of requests found)) := by
  cases requests with
  | nil => exact absurd rfl nonempty
  | cons first rest =>
    have firstWorkspace : first.workspaceId = workspace := ofWorkspace first mem_cons_self
    have oneWorkspace : refuse ((first :: rest).any (·.workspaceId != first.workspaceId))
      ⟨"policy_batch_workspace_mismatch", "a policy batch must belong to one workspace", none⟩ =
          (.ok () : Except ProtocolError Unit) := by
      rw [refuse_eq_ok_iff, any_eq_false]
      intro request mem
      simp [ofWorkspace request mem, firstWorkspace]
    apply (computes_lift_of_eq oneWorkspace).bind_ok
    rw [firstWorkspace]
    apply computes_of_steady steady
    intro found next _
    rfl

end

variable {α : Type} {outcome : Except ProtocolError α}

/-- The states that successful calls for a workspace lead to. -/
def Settled (world : PolicyWorld) (workspace : String) (start caches : Caches) : Prop :=
  SettledAt (world.providerCompiled workspace) start.provider caches.provider ∧
    SettledAt (world.durableCompiled workspace) start.durable caches.durable

variable {start : Caches}

theorem computes_overProvider {program : Service ProviderCache ProtocolError α}
    (computes : Computes (SettledAt (world.providerCompiled workspace) start.provider) program
      outcome) :
    Computes (world.Settled workspace start) (overProvider program) outcome :=
  computes.zoom (fun _ settled => settled.1) (fun _ _ settled moved => ⟨moved, settled.2⟩)

theorem computes_overDurable {program : Service DurableCache ProtocolError α}
    (computes : Computes (SettledAt (world.durableCompiled workspace) start.durable) program
      outcome) :
    Computes (world.Settled workspace start) (overDurable program) outcome :=
  computes.zoom (fun _ settled => settled.2) (fun _ _ settled moved => ⟨settled.1, moved⟩)

theorem provider_follows : Follows (world.Settled workspace start) workspace world.provider
      (world.providerCompiled workspace start.provider).1 where
  explain := by
    refine ⟨providerSource ((world.providerCompiled workspace start.provider).2.get? workspace), ?_⟩
    intro request ofWorkspace
    apply computes_overProvider
    unfold providerExplain
    rw [ofWorkspace]
    apply computes_of_steady fun _ _ => providerCompiled_steady
    intro found next ran
    rw [ran]
    cases found with
    | none | some => rfl
  evaluate request ofWorkspace :=
    computes_overProvider
      (computes_evaluateCompiled (fun _ _ => providerCompiled_steady) ofWorkspace)
  evaluateBatch requests nonempty ofWorkspace :=
    computes_overProvider
      (computes_evaluateBatchCompiled (fun _ _ => providerCompiled_steady) nonempty ofWorkspace)

theorem durable_follows : Follows (world.Settled workspace start) workspace world.durable
      (world.durableCompiled workspace start.durable).1 where
  explain := by
    refine ⟨"workspace_policy", ?_⟩
    intro request ofWorkspace
    apply computes_overDurable
    unfold durableExplain
    rw [ofWorkspace]
    apply computes_of_steady fun _ _ => durableCompiled_steady
    intro found next _
    rfl
  evaluate request ofWorkspace :=
    computes_overDurable (computes_evaluateCompiled (fun _ _ => durableCompiled_steady) ofWorkspace)
  evaluateBatch requests nonempty ofWorkspace :=
    computes_overDurable
      (computes_evaluateBatchCompiled (fun _ _ => durableCompiled_steady) nonempty ofWorkspace)

/-- What the two evaluators know about a workspace. -/
def verdicts (world : PolicyWorld) (workspace : String) (start : Caches) : List Verdict :=
  [(world.providerCompiled workspace start.provider).1,
    (world.durableCompiled workspace start.durable).1]

theorem evaluators_follow (start : Caches) :
    Forall₂ (Follows (world.Settled workspace start) workspace)
      world.durableWithProvider.evaluators (world.verdicts workspace start) :=
  .cons provider_follows (.cons durable_follows .nil)

/-- The Tree of a workspace does not change while requests are decided. -/
def TreeUnchanged (world : PolicyWorld) (workspace : String) : Prop :=
  ∀ snapshot, TreeSnapshot.load (world.tree.reads workspace) = .ok snapshot →
    world.tree.currentRevision workspace = some (some (snapshot.revision : Int))

theorem TreeUnchanged.checkTreeRevision (unchanged : world.TreeUnchanged workspace)
    (ofWorkspace : request.workspaceId = workspace)
    {enrich : PolicyRequest → PolicyRequest}
    (loaded : world.durableWithProvider.contexts workspace = .ok enrich) :
    world.durableWithProvider.checkTreeRevision (enrich request) = .ok () := by
  rcases bind_eq_ok_iff.mp loaded with ⟨snapshot, read, rest⟩
  cases rest
  have current : world.tree.currentRevision (snapshot.enrich request).workspaceId =
      some (some (snapshot.revision : Int)) := by
    rw [show (snapshot.enrich request).workspaceId = workspace from ofWorkspace]
    exact unchanged snapshot read
  unfold PolicyEngine.checkTreeRevision
  dsimp only [durableWithProvider, TreeSnapshot.enrich] at current ⊢
  rw [current]
  simp [toUnsigned]

/-- The decision on every request of a workspace, or what keeps all of them from
being decided. -/
def decisions (world : PolicyWorld) (workspace : String) (start : Caches) :
    Except ProtocolError (PolicyRequest → PolicyDecision) := do
  let enrich ← world.durableWithProvider.contexts workspace
  let policy ← inForce (world.verdicts workspace start)
  .ok fun request => world.durableWithProvider.decision (enrich request) policy

theorem authorizeBatch_computes (unchanged : world.TreeUnchanged workspace)
    (nonempty : requests ≠ [])
    (ofWorkspace : ∀ request ∈ requests, request.workspaceId = workspace) :
    ∃ authorization, Computes (fun state => world.Settled workspace start state.evaluators)
      (world.durableWithProvider.authorizeBatch requests)
      ((world.decisions workspace start).mapError PolicyEngine.atFirst >>= fun decide =>
        firstDenial 0 (requests.map decide) >>= fun _ => .ok authorization) := by
  have computes := PolicyEngine.authorizeBatch_computes (evaluators_follow start) nonempty
    ofWorkspace fun _ loaded request mem =>
      unchanged.checkTreeRevision (ofWorkspace request mem) loaded
  unfold decisions
  cases loaded : world.durableWithProvider.contexts workspace with
  | error =>
    rw [loaded] at computes
    exact ⟨{ revision := none }, computes⟩
  | ok =>
    rw [loaded] at computes
    cases force : inForce (world.verdicts workspace start) with
    | error =>
      rw [force] at computes
      exact ⟨{ revision := none }, computes⟩
    | ok policy =>
      rw [force] at computes
      exact ⟨{ revision := policy.map CompiledWorkspacePolicy.revision }, computes⟩

end PolicyWorld

variable {decision : PolicyDecision}

theorem PolicyDecision.intoResult_eq_ok_iff : decision.intoResult = .ok () ↔ decision = .allow := by
  cases decision <;> simp [intoResult]

theorem PolicyDecision.effect_eq_allow_iff : decision.effect = .allow ↔ decision = .allow := by
  cases decision <;> simp [effect]

section
variable {decided : Except ProtocolError (PolicyRequest → PolicyDecision)}
  {authorization : PolicyBatchAuthorization}

/-- The answer to one request, when `decided` is known. -/
def singly (decided : Except ProtocolError (PolicyRequest → PolicyDecision))
    (request : PolicyRequest) : Except ProtocolError Unit :=
  decided >>= fun decide => (decide request).intoResult

/-- The answer to a batch, when `decided` is known. -/
def together (decided : Except ProtocolError (PolicyRequest → PolicyDecision))
    (requests : List PolicyRequest) (authorization : PolicyBatchAuthorization) :
    Except PolicyBatchDenial PolicyBatchAuthorization :=
  decided.mapError PolicyEngine.atFirst >>= fun decide =>
    firstDenial 0 (requests.map decide) >>= fun _ => .ok authorization

theorem together_ok {decide : PolicyRequest → PolicyDecision} :
    together (.ok decide) requests authorization =
      firstDenial 0 (requests.map decide) >>= fun _ => .ok authorization :=
  rfl

theorem together_succeeds_iff (nonempty : requests ≠ []) :
    (∃ result, together decided requests authorization = .ok result) ↔
      ∀ request ∈ requests, singly decided request = .ok () := by
  cases decided with
  | error =>
    constructor
    · rintro ⟨_, answered⟩
      cases answered
    · intro each
      rcases exists_mem_of_ne_nil requests nonempty with ⟨request, mem⟩
      cases each request mem
  | ok decide =>
    have allowed : firstDenial 0 (requests.map decide) = .ok () ↔
        ∀ request ∈ requests, singly (.ok decide) request = .ok () := by
      rw [firstDenial_eq_ok_iff, forall_mem_map]
      exact forall₂_congr fun request _ => PolicyDecision.intoResult_eq_ok_iff.symm
    rw [← allowed, together_ok]
    constructor
    · rintro ⟨_, answered⟩
      rcases bind_eq_ok_iff.mp answered with ⟨_, undenied, _⟩
      exact undenied
    · intro undenied
      exact ⟨authorization, bind_eq_ok_iff.mpr ⟨(), undenied, rfl⟩⟩

theorem together_denies (nonempty : requests ≠ []) {denial : PolicyBatchDenial}
    (denied : together decided requests authorization = .error denial) :
    ∃ earlier request later, requests = earlier ++ request :: later ∧
      denial.requestIndex = earlier.length ∧
      singly decided request = .error denial.error ∧
      ∀ before ∈ earlier, singly decided before = .ok () := by
  cases decided with
  | error =>
    rcases exists_cons_of_ne_nil nonempty with ⟨request, later, rfl⟩
    cases denied
    exact ⟨[], request, later, rfl, rfl, rfl, by simp⟩
  | ok decide =>
    have first : firstDenial 0 (requests.map decide) = .error denial := by
      rw [together_ok] at denied
      cases found : firstDenial 0 (requests.map decide) with
      | error =>
        rw [found] at denied
        cases denied
        rfl
      | ok =>
        rw [found] at denied
        cases denied
    rcases firstDenial_eq_error first with ⟨_, _, _, split, allowed, rfl⟩
    rcases map_eq_append_iff.mp split with ⟨before, _, rfl, rfl, restEq⟩
    rcases map_eq_cons_iff.mp restEq with ⟨request, after, rfl, refused, rfl⟩
    refine ⟨before, request, after, rfl, by simp, ?_, ?_⟩
    · unfold singly
      rw [ok_bind, refused]
      rfl
    · intro request mem
      exact PolicyDecision.intoResult_eq_ok_iff.mpr (allowed _ (mem_map_of_mem mem))

theorem explained_allow_iff {explained : Except ProtocolError PolicyExplanation}
    (effects : explained.map PolicyExplanation.effectiveDecision =
      decided >>= fun decide => .ok (decide request).effect) :
    (∃ explanation, explained = .ok explanation ∧ explanation.effectiveDecision = .allow) ↔
      singly decided request = .ok () := by
  cases decided with
  | error error =>
    cases explained with
    | error => simp [singly, error_bind]
    | ok => cases effects
  | ok decide =>
    cases explained with
    | error => cases effects
    | ok explanation =>
      have effect : explanation.effectiveDecision = (decide request).effect := Except.ok.inj effects
      have result : singly (.ok decide) request = (decide request).intoResult := rfl
      rw [result, PolicyDecision.intoResult_eq_ok_iff, ← PolicyDecision.effect_eq_allow_iff,
        ← effect]
      simp

end

/-- A batch succeeds exactly when each of its requests would, from the same caches or one after the
other; a denial is that of the first request that would be denied; and `explain_request` reports an
allowance exactly when the request is authorized. -/
theorem batch_agrees_with_single (world : PolicyWorld) (state : EngineState Caches)
    {workspace : String} {requests : List PolicyRequest}
    (unchanged : world.TreeUnchanged workspace) (nonempty : requests ≠ [])
    (ofWorkspace : ∀ request ∈ requests, request.workspaceId = workspace) :
    ((∃ authorization,
        (world.durableWithProvider.authorizeBatch requests state).1 = .ok authorization) ↔
      ∀ request ∈ requests, (world.durableWithProvider.authorize request state).1 = .ok ()) ∧
    ((∃ authorization,
        (world.durableWithProvider.authorizeBatch requests state).1 = .ok authorization) ↔
      (requests.forM world.durableWithProvider.authorize state).1 = .ok ()) ∧
    (∀ denial, (world.durableWithProvider.authorizeBatch requests state).1 = .error denial →
      ∃ earlier request later, requests = earlier ++ request :: later ∧
        denial.requestIndex = earlier.length ∧
        (world.durableWithProvider.authorize request state).1 = .error denial.error ∧
        ∀ before ∈ earlier, (world.durableWithProvider.authorize before state).1 = .ok ()) ∧
    (∀ request ∈ requests,
      (∃ explanation,
        (world.durableWithProvider.explainRequest request state).1 = .ok explanation ∧
          explanation.effectiveDecision = .allow) ↔
        (world.durableWithProvider.authorize request state).1 = .ok ()) := by
  have settled : world.Settled workspace state.evaluators state.evaluators := ⟨.inl rfl, .inl rfl⟩
  let decided := world.decisions workspace state.evaluators
  have authorizes : ∀ request ∈ requests,
      Computes (fun next => world.Settled workspace state.evaluators next.evaluators)
        (world.durableWithProvider.authorize request) (singly decided request) := by
    intro request mem
    have computes := PolicyEngine.authorize_computes
      (PolicyWorld.evaluators_follow state.evaluators) (ofWorkspace request mem) fun _ loaded =>
        unchanged.checkTreeRevision (ofWorkspace request mem) loaded
    simpa only [singly, decided, PolicyWorld.decisions, bind_assoc, ok_bind] using computes
  have single : ∀ request ∈ requests,
      (world.durableWithProvider.authorize request state).1 = singly decided request :=
    fun request mem => (authorizes request mem state settled).1
  have batch : ∃ authorization, (world.durableWithProvider.authorizeBatch requests state).1 =
      together decided requests authorization := by
    rcases PolicyWorld.authorizeBatch_computes unchanged nonempty ofWorkspace with
      ⟨authorization, computes⟩
    exact ⟨authorization, (computes state settled).1⟩
  rcases batch with ⟨authorization, batch⟩
  have succeeds : (∃ authorization,
      (world.durableWithProvider.authorizeBatch requests state).1 = .ok authorization) ↔
      ∀ request ∈ requests, singly decided request = .ok () := by
    rw [batch]
    exact together_succeeds_iff nonempty
  refine ⟨?_, ?_, ?_, ?_⟩
  · rw [succeeds]
    exact forall₂_congr fun request mem => by rw [single request mem]
  · rw [succeeds, (Computes.forM authorizes state settled).1, forM_eq_ok_iff]
  · intro denial denied
    rw [batch] at denied
    rcases together_denies nonempty denied with
      ⟨earlier, request, later, rfl, index, error, allowed⟩
    refine ⟨earlier, request, later, rfl, index, ?_, ?_⟩
    · rw [single request (by simp)]
      exact error
    · intro before mem
      rw [single before (by simp [mem])]
      exact allowed before mem
  · intro request mem
    rcases PolicyEngine.explainRequest_computes (PolicyWorld.evaluators_follow state.evaluators)
      (ofWorkspace request mem) with ⟨_, computes, effects⟩
    rw [(computes state settled).1, single request mem]
    refine explained_allow_iff (effects.trans ?_)
    simp only [decided, PolicyWorld.decisions, bind_assoc, ok_bind]

namespace Sample

/-- Agents may not send messages; everything else falls to the defaults. -/
def silence : WorkspacePolicy where
  workspaceId := "ws_1"
  revision := 1
  mode := .enforce
  document :=
    { schemaVersion := 2
      rules := [{
        id := "silence"
        priority := 0
        effect := .deny
        subjects := [{ kind := some .agent }]
        actions := ["message.send"]
        resources := [{}] }] }

/-- A workspace with a published policy, no Provider and the nested folders. -/
def published : PolicyWorld where
  now := 0
  encodedLen _ := 0
  providerRow _ := .ok none
  replies _ _ :=
    let offline : ProtocolError := ⟨"app_offline", "App is offline", none⟩
    { app := .error offline, manifest := .error offline, bundle := fun _ => .error offline }
  policyRow _ := .ok (some silence)
  tree :=
    { reads := fun _ =>
        { begun := some (), revision := some (some 3)
          folders := some Tree.Sample.nested.folders
          placements := some Tree.Sample.nested.placements
          credentials := some [], deployments := some [], committed := some () }
      currentRevision := fun _ => some (some 3) }

def asking (action : String) : PolicyRequest where
  workspaceId := "ws_1"
  subject := .agent "sv_1" "ag_1"
  action := action
  resource := { kind := "message", id := "msg_1" }

def untouched : EngineState Caches where
  evaluators := { provider := Table.empty, durable := Table.empty }
  records := []

end Sample

open Sample

/-- The second request of this batch is denied, the first one that would be denied alone. -/
theorem batch_agrees_with_single_silenced :
    (published.durableWithProvider.authorizeBatch
        [asking "app.start", asking "message.send"] untouched).1 =
      .error {
        requestIndex := 1
        error := ⟨"policy_denied", "workspace policy denied this operation", none⟩ } ∧
    ∃ earlier request later,
      [asking "app.start", asking "message.send"] = earlier ++ request :: later ∧
      1 = earlier.length ∧
      (published.durableWithProvider.authorize request untouched).1 =
        .error ⟨"policy_denied", "workspace policy denied this operation", none⟩ ∧
      ∀ before ∈ earlier,
        (published.durableWithProvider.authorize before untouched).1 = .ok () := by
  have unchanged : published.TreeUnchanged "ws_1" := by
    intro snapshot loaded
    have revision : (TreeSnapshot.load (published.tree.reads "ws_1")).map
        TreeSnapshot.revision = .ok 3 := rfl
    rw [loaded] at revision
    rw [show snapshot.revision = 3 from Except.ok.inj revision]
    rfl
  have agree := batch_agrees_with_single published untouched unchanged
    (cons_ne_nil (asking "app.start") [asking "message.send"])
    (by decide)
  refine ⟨?denied, agree.2.2.1 _ ?denied⟩
  rfl

end Treer.Policy
