import Treer.Foundation.Service
import Treer.Policy.Compiled
import Treer.Policy.Validation

/-!
# Policies of a Policy App

`ProviderPolicyEvaluator` of `treer-proxy/src/policy.rs` and the store of
`policy_provider_store.rs`. A workspace can name an App that serves its policy.
The proxy fetches the bundle of the App, compiles it and keeps it in a cache
that it rechecks every five seconds; when a fetch fails it falls back on the
last bundle, on the permissive policy or on an error, as the workspace chose.

Instants are nanoseconds. Clock readings between which the code does not wait
are one reading. The Policy App, its machine and the database are outside: a
call is given what they answer.
-/

namespace Treer.Policy

open Foundation Protocol CompiledWorkspacePolicy

inductive PolicyProviderFailureMode where
  | failClosed
  | failOpen

structure WorkspacePolicyProvider where
  (workspaceId appId serviceId : String)
  failureMode : PolicyProviderFailureMode
  (maxStaleSeconds revisionHint : Nat)

structure PolicyProviderManifest where
  protocol : String
  capabilities : List String

structure PolicyProviderBundle where
  (protocol workspaceId : String)
  revision : Nat
  mode : PolicyMode
  document : WorkspacePolicyDocument

/-- `workspace_policy_providers`, by workspace. -/
abbrev ProviderRows := KeyedMap String WorkspacePolicyProvider

/-- The largest value of an `i64` column. -/
def maxColumn : Nat := 2 ^ 63 - 1

namespace ProviderRows

variable (rows : ProviderRows)

/-- `PolicyProviderStore::set`; `none` is a number that the column cannot hold.
The hint of the same App never falls. -/
def set (provider : WorkspacePolicyProvider) : Option ProviderRows :=
  if provider.maxStaleSeconds > maxColumn || provider.revisionHint > maxColumn then none
  else
    let revisionHint :=
      match rows.get? provider.workspaceId with
      | none => provider.revisionHint
      | some old =>
        if old.appId == provider.appId then max old.revisionHint provider.revisionHint
        else provider.revisionHint
    some (rows.insert provider.workspaceId { provider with revisionHint })

def clear (workspace : String) : ProviderRows :=
  KeyedMap.erase rows workspace

def advanceRevision (workspace appId : String) (revision : Nat) : Option ProviderRows :=
  if revision > maxColumn then none
  else
    match rows.get? workspace with
    | none => some rows
    | some provider =>
      if provider.appId == appId then
        some (rows.insert workspace
          { provider with revisionHint := max provider.revisionHint revision })
      else some rows

end ProviderRows

def policyProviderProtocolV1 : String := "treer.policy-provider/v1"

def policyProviderBundleCapabilityV1 : String := "policy.bundle.v1"

def policyProviderBundleCapabilityV2 : String := "policy.bundle.v2"

/-- What a Policy App answers: whether it is deployed, its manifest, and its
bundle for a caller that does or does not read schema 2. A reply that does not
parse is `none`. -/
structure ProviderReplies where
  app : Except ProtocolError Unit
  manifest : Except ProtocolError (Option PolicyProviderManifest)
  bundle : Bool → Except ProtocolError (Option PolicyProviderBundle)

/-- `serde_json::from_value(value).map_err(...)`. -/
def parsed {α : Type} (code message : String) : Option α → Except ProtocolError α
  | some value => .ok value
  | none => .error { code, message }

def ProviderPolicyEvaluator.fetchBundle (encodedLen : WorkspacePolicyDocument → Nat)
    (replies : ProviderReplies)
    (workspace : String) : Except ProtocolError PolicyProviderBundle := do
  replies.app
  let manifest ← parsed "unsupported_policy_provider" "invalid Policy Provider manifest"
    (← replies.manifest)
  let supportsV2 := manifest.capabilities.contains policyProviderBundleCapabilityV2
  refuse
    (manifest.protocol != policyProviderProtocolV1 ||
      (!supportsV2 && !manifest.capabilities.contains policyProviderBundleCapabilityV1))
    ⟨"unsupported_policy_provider", "unsupported Policy Provider capabilities", none⟩
  let bundle ← parsed "invalid_policy_contract" "invalid Policy Provider bundle fields or types"
    (← replies.bundle supportsV2)
  let protocol := bundle.protocol
  refuse (protocol != policyProviderProtocolV1)
    { code := "unsupported_policy_provider_protocol"
      message := s!"Policy App uses unsupported protocol {protocol}" }
  refuse (bundle.workspaceId != workspace)
    { code := "policy_provider_workspace_mismatch"
      message := "Policy App returned a bundle for another workspace" }
  (validateDocument encodedLen bundle.document).mapError fun error =>
    ⟨"invalid_policy_contract", error.code, none⟩
  refuse (bundle.document.schemaVersion == 2 && !supportsV2)
    ⟨"unsupported_policy_provider", "schema v2 requires policy.bundle.v2 capability", none⟩
  .ok bundle

def providerContractError (error : ProtocolError) : Bool :=
  ["unsupported_command", "unsupported_policy_provider_protocol", "unsupported_policy_schema",
    "unsupported_policy_provider", "invalid_policy_contract",
    "policy_provider_workspace_mismatch", "invalid_service_json",
    "service_http_response_too_large"].contains error.code

/-! ## The cache -/

/-- One second, in nanoseconds. -/
def second : Nat := 1000000000

def policyCacheTtl : Nat := 5 * second

def elapsed (now instant : Nat) : Nat := now - instant

def asSecs (duration : Nat) : Nat := duration / second

/-- A load leaves a policy. -/
structure CachedProviderPolicy where
  appId : String
  checkedAt : Nat
  loadedAt : Option Nat
  policy : Option CompiledWorkspacePolicy
  lastError : Option String
  loaded : loadedAt.isSome = true → policy.isSome = true

abbrev ProviderCache := KeyedMap String CachedProviderPolicy

/-- The policy that the bundle of a workspace stands for. -/
def PolicyProviderBundle.compiled (bundle : PolicyProviderBundle) (workspace : String) :
    CompiledWorkspacePolicy :=
  compile {
    workspaceId := workspace
    revision := bundle.revision
    mode := bundle.mode
    document := bundle.document }

def cachedProviderResult (cached : CachedProviderPolicy) :
    Except ProtocolError (Option CompiledWorkspacePolicy) :=
  if cached.appId == "" || cached.policy.isSome then .ok cached.policy
  else .error
    ⟨"policy_provider_unavailable", cached.lastError.getD "Policy App is unavailable", none⟩

/-- The entry of a workspace that was checked less than the TTL ago. -/
def freshEntry (cache : ProviderCache) (workspace : String) (now : Nat) :
    Option CachedProviderPolicy :=
  (cache.get? workspace).filter fun cached => elapsed now cached.checkedAt < policyCacheTtl

/-- The entry for a workspace without a provider. -/
def absentEntry (now : Nat) : CachedProviderPolicy where
  appId := ""
  checkedAt := now
  loadedAt := none
  policy := none
  lastError := none
  loaded := nofun

/-- The entry for a bundle that was just loaded. -/
def loadedEntry (appId : String) (now : Nat) (policy : CompiledWorkspacePolicy) :
    CachedProviderPolicy where
  appId
  checkedAt := now
  loadedAt := some now
  policy := some policy
  lastError := none
  loaded := fun _ => rfl

/-- The entry for a fetch that failed without a bundle to fall back on. -/
def failedEntry (appId : String) (now : Nat) (policy : Option CompiledWorkspacePolicy)
    (error : String) : CachedProviderPolicy where
  appId
  checkedAt := now
  loadedAt := none
  policy
  lastError := some error
  loaded := nofun

/-- The last bundle of the same App, if it was loaded recently enough. -/
def staleEntry (now : Nat) (provider : WorkspacePolicyProvider)
    (previous : Option CachedProviderPolicy) : Option CachedProviderPolicy :=
  previous.filter fun cached =>
    cached.appId == provider.appId &&
      cached.loadedAt.any fun loaded => asSecs (elapsed now loaded) ≤ provider.maxStaleSeconds

variable {cached : CachedProviderPolicy} {previous : Option CachedProviderPolicy}
  {provider : WorkspacePolicyProvider}

theorem staleEntry_eq_some_iff {now : Nat} :
    staleEntry now provider previous = some cached ↔
      previous = some cached ∧ cached.appId = provider.appId ∧
        ∃ loaded, cached.loadedAt = some loaded ∧
          asSecs (elapsed now loaded) ≤ provider.maxStaleSeconds := by
  simp [staleEntry, Option.filter_eq_some_iff, Option.any_eq_true]

def ProviderPolicyEvaluator.providerFailure (now : Nat) (workspace : String)
    (provider : WorkspacePolicyProvider)
    (previous : Option CachedProviderPolicy) (error : String) :
    Service ProviderCache ProtocolError (Option CompiledWorkspacePolicy) := fun cache =>
  match staleEntry now provider previous with
  | some cached =>
    (.ok cached.policy,
      cache.insert workspace { cached with checkedAt := now, lastError := some error })
  | none =>
    match provider.failureMode with
    | .failOpen =>
      let policy := allow provider.revisionHint
      (.ok (some policy),
        cache.insert workspace (failedEntry provider.appId now (some policy) error))
    | .failClosed =>
      (.error ⟨"policy_provider_unavailable", error, none⟩,
        cache.insert workspace (failedEntry provider.appId now none error))

/-- What one call of `compiled` meets: the clock at its two looks at the cache
and when what it waited for has arrived, the row of the workspace or the text of
a database error, and the bundle or the error of the fetch from an App. -/
structure Reading where
  (firstLook secondLook arrived : Nat)
  row : Except String (Option WorkspacePolicyProvider)
  fetched : String → Except ProtocolError PolicyProviderBundle

namespace ProviderPolicyEvaluator

/-- The end of `compiled` with a provider, once the entry is out of the cache and the fetch is done.
-/
def finish (now : Nat) (workspace : String) (provider : WorkspacePolicyProvider)
    (previous : Option CachedProviderPolicy) (fetched : Except ProtocolError PolicyProviderBundle) :
    Service ProviderCache ProtocolError (Option CompiledWorkspacePolicy) := fun cache =>
  match fetched with
  | .ok bundle =>
    let revision := bundle.revision
    let hint := provider.revisionHint
    if hint ≤ revision then
      let policy := bundle.compiled workspace
      (.ok (some policy), cache.insert workspace (loadedEntry provider.appId now policy))
    else
      providerFailure now workspace provider previous
        s!"Policy App returned revision {revision} below announced revision {hint}" cache
  | .error error =>
    -- An incompatible contract is no outage: neither fail-open nor an old bundle applies.
    if providerContractError error then (.error error, cache)
    else providerFailure now workspace provider previous error.message cache

def compiled (reading : Reading) (workspace : String) :
    Service ProviderCache ProtocolError (Option CompiledWorkspacePolicy) := fun cache =>
  match freshEntry cache workspace reading.firstLook with
  | some cached => (cachedProviderResult cached, cache)
  | none =>
    match freshEntry cache workspace reading.secondLook with
    | some cached => (cachedProviderResult cached, cache)
    | none =>
      match reading.row with
      | .error text => (.error ⟨"policy_provider_store_failed", text, none⟩, cache)
      | .ok none => (.ok none, cache.insert workspace (absentEntry reading.arrived))
      | .ok (some provider) =>
        finish reading.arrived workspace provider (cache.get? workspace)
          (reading.fetched provider.appId) (cache.erase workspace)

def invalidate (workspace : String) (cache : ProviderCache) : ProviderCache :=
  cache.erase workspace

end ProviderPolicyEvaluator

/-! ## What a call does -/

/-- What a fetch ends in: the answer and the entry that is left. -/
inductive Finished (now : Nat) (workspace : String) (provider : WorkspacePolicyProvider)
    (previous : Option CachedProviderPolicy) (fetched : Except ProtocolError PolicyProviderBundle) :
    Except ProtocolError (Option CompiledWorkspacePolicy) → Option CachedProviderPolicy → Prop where
  | loaded {bundle : PolicyProviderBundle}
      (served : fetched = .ok bundle)
      (announced : provider.revisionHint ≤ bundle.revision) :
      Finished now workspace provider previous fetched (.ok (some (bundle.compiled workspace)))
        (some (loadedEntry provider.appId now (bundle.compiled workspace)))
  | contract {error : ProtocolError} (failed : fetched = .error error)
      (isContract : providerContractError error = true) :
      Finished now workspace provider previous fetched (.error error) none
  | stale {cached : CachedProviderPolicy} {text : String}
      (kept : staleEntry now provider previous = some cached) :
      Finished now workspace provider previous fetched (.ok cached.policy)
        (some { cached with checkedAt := now, lastError := some text })
  | failOpen {text : String} (mode : provider.failureMode = .failOpen) :
      Finished now workspace provider previous fetched
        (.ok (some (allow provider.revisionHint)))
        (some (failedEntry provider.appId now (some (allow provider.revisionHint)) text))
  | failClosed {text : String} (mode : provider.failureMode = .failClosed) :
      Finished now workspace provider previous fetched
        (.error ⟨"policy_provider_unavailable", text, none⟩)
        (some (failedEntry provider.appId now none text))

section
variable {reading : Reading} {now : Nat} {workspace : String} {cache next : ProviderCache}
  {fetched : Except ProtocolError PolicyProviderBundle}
  {result : Except ProtocolError (Option CompiledWorkspacePolicy)}

open ProviderPolicyEvaluator

/-- The cache with one entry written or taken out. -/
def Assigned (workspace : String) (entry : Option CachedProviderPolicy)
    (cache next : ProviderCache) : Prop :=
  ∀ other, next.get? other = if other = workspace then entry else cache.get? other

theorem assigned_insert {entry : CachedProviderPolicy} :
    Assigned workspace (some entry) cache (cache.insert workspace entry) :=
  fun other => KeyedMap.get?_insert cache workspace other entry

theorem assigned_erase : Assigned workspace none cache (cache.erase workspace) :=
  fun other => KeyedMap.get?_erase cache workspace other

variable {entry : Option CachedProviderPolicy}

theorem Assigned.get?_self (assigned : Assigned workspace entry cache next) :
    next.get? workspace = entry := by
  rw [assigned workspace, if_pos rfl]

theorem finished_of_providerFailure {text : String}
    (ran : providerFailure now workspace provider previous text cache = (result, next)) :
    ∃ entry, Finished now workspace provider previous fetched result entry ∧
      Assigned workspace entry cache next := by
  unfold providerFailure at ran
  cases kept : staleEntry now provider previous with
  | some =>
    rw [kept] at ran
    cases ran
    exact ⟨_, .stale kept, assigned_insert⟩
  | none =>
    rw [kept] at ran
    cases mode : provider.failureMode with
    | failOpen =>
      rw [mode] at ran
      cases ran
      exact ⟨_, .failOpen mode, assigned_insert⟩
    | failClosed =>
      rw [mode] at ran
      cases ran
      exact ⟨_, .failClosed mode, assigned_insert⟩

/-- A contract error leaves the cache alone; every other end writes the entry. -/
theorem finished_of_finish
    (ran : finish now workspace provider previous fetched cache = (result, next)) :
    ∃ entry, Finished now workspace provider previous fetched result entry ∧
      (Assigned workspace entry cache next ∨ entry = none ∧ next = cache) := by
  unfold finish at ran
  cases fetched with
  | ok =>
    dsimp only at ran
    split at ran
    · rename_i announced
      cases ran
      exact ⟨_, .loaded rfl announced, .inl assigned_insert⟩
    · rcases finished_of_providerFailure ran with ⟨entry, finished, assigned⟩
      exact ⟨entry, finished, .inl assigned⟩
  | error =>
    dsimp only at ran
    split at ran
    · rename_i isContract
      cases ran
      exact ⟨none, .contract rfl isContract, .inr ⟨rfl, rfl⟩⟩
    · rcases finished_of_providerFailure ran with ⟨entry, finished, assigned⟩
      exact ⟨entry, finished, .inl assigned⟩

/-- A call that has taken the entry out leaves the entry of its end. -/
theorem assigned_of_absent (absent : cache.get? workspace = none)
    (ended : Assigned workspace entry cache next ∨ entry = none ∧ next = cache) :
    Assigned workspace entry cache next := by
  rcases ended with assigned | ⟨rfl, rfl⟩
  · exact assigned
  intro other
  by_cases same : other = workspace
  · rw [if_pos same, same, absent]
  · rw [if_neg same]

theorem compiled_of_fresh (fresh : freshEntry cache workspace reading.firstLook = some cached) :
    compiled reading workspace cache = (cachedProviderResult cached, cache) := by
  rw [compiled, fresh]

/-- A fresh entry answers; otherwise the row is read and answers. -/
theorem compiled_cases (ordered : reading.firstLook ≤ reading.secondLook)
    (ran : compiled reading workspace cache = (result, next)) :
    (∃ cached, freshEntry cache workspace reading.firstLook = some cached ∧
      result = cachedProviderResult cached ∧ next = cache) ∨
    (freshEntry cache workspace reading.firstLook = none ∧
      ((∃ text, reading.row = .error text ∧ next = cache ∧
          result = .error ⟨"policy_provider_store_failed", text, none⟩) ∨
        (reading.row = .ok none ∧ result = .ok none ∧
          Assigned workspace (some (absentEntry reading.arrived)) cache next) ∨
        ∃ provider, reading.row = .ok (some provider) ∧
          ∃ entry, Finished reading.arrived workspace provider (cache.get? workspace)
              (reading.fetched provider.appId) result entry ∧
            Assigned workspace entry cache next)) := by
  unfold compiled at ran
  cases first : freshEntry cache workspace reading.firstLook with
  | some cached =>
    rw [first] at ran
    cases ran
    exact .inl ⟨cached, rfl, rfl, rfl⟩
  | none =>
    -- The second look finds no entry that the first one did not.
    have second : freshEntry cache workspace reading.secondLook = none := by
      rw [freshEntry, Option.filter_eq_none_iff] at first ⊢
      intro cached found
      have expired : ¬ elapsed reading.firstLook cached.checkedAt < policyCacheTtl := by
        simpa using first cached found
      have later : elapsed reading.firstLook cached.checkedAt ≤
          elapsed reading.secondLook cached.checkedAt := Nat.sub_le_sub_right ordered _
      simpa using Nat.le_trans (Nat.le_of_not_lt expired) later
    rw [first, second] at ran
    refine .inr ⟨rfl, ?_⟩
    cases row : reading.row with
    | error text =>
      rw [row] at ran
      cases ran
      exact .inl ⟨text, rfl, rfl, rfl⟩
    | ok found =>
      cases found with
      | none =>
        rw [row] at ran
        cases ran
        exact .inr (.inl ⟨rfl, rfl, assigned_insert⟩)
      | some provider =>
        rw [row] at ran
        rcases finished_of_finish ran with ⟨entry, finished, ended⟩
        have absent : (cache.erase workspace).get? workspace = none := assigned_erase.get?_self
        refine .inr (.inr ⟨provider, rfl, entry, finished, fun other => ?_⟩)
        rw [assigned_of_absent absent ended other, assigned_erase other]
        split <;> rfl

end
end Treer.Policy
