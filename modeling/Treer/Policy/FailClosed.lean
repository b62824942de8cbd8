import Treer.Policy.ProviderRun

/-!
# A provider that fails closed

What an answer of the Provider evaluator rests on: the row that a call of the
workspace last read, and a bundle that its App served in the course of the run.
Every action keeps this, so that a workspace whose row was read as fail-closed
gets errors or the policy of its own App, and never falls through to the
permissive default.
-/

namespace Treer.Policy

open Foundation Protocol ProviderState Option ProviderPolicyEvaluator

/-- The row of a workspace that a call last read from the store. -/
def lastRead (workspace : String) (history : List ProviderEntry) :
    Option (Option WorkspacePolicyProvider) :=
  history.reverse.findSome? (rowRead workspace)

variable {history : List ProviderEntry} {entry : ProviderEntry} {workspace : String}

theorem lastRead_of_unread (unread : rowRead workspace entry = none) :
    lastRead workspace (history ++ [entry]) = lastRead workspace history := by
  simp [lastRead, unread]

variable {row : Option WorkspacePolicyProvider}

/-- A fetch for the workspace ended at `loaded` with a bundle of the App that was
not below the hint which the fetching call had read. -/
def Served (encodedLen : WorkspacePolicyDocument → Nat) (history : List ProviderEntry)
    (workspace appId : String) (bundle : PolicyProviderBundle) (loaded : Nat) : Prop :=
  ∃ entry ∈ history, ∃ replies provider previous,
    entry.action = .fetched workspace replies ∧
    entry.before.calls.get? workspace = some (.fetching provider previous) ∧
    provider.appId = appId ∧ provider.revisionHint ≤ bundle.revision ∧
    fetchBundle encodedLen (replies appId) workspace = .ok bundle ∧
    entry.before.now = loaded

section
variable {encodedLen : WorkspacePolicyDocument → Nat} {slot : Slot}
  {cached : CachedProviderPolicy} {provider : WorkspacePolicyProvider}
  {now : Nat} {previous : Option CachedProviderPolicy}
variable {result : Except ProtocolError (Option CompiledWorkspacePolicy)}

theorem Served.mono {appId : String} {bundle : PolicyProviderBundle} {loaded : Nat}
    (served : Served encodedLen history workspace appId bundle loaded) :
    Served encodedLen (history ++ [entry]) workspace appId bundle loaded := by
  rcases served with ⟨fetch, mem, rest⟩
  exact ⟨fetch, List.mem_append_left _ mem, rest⟩

/-- A bundle that an entry was loaded from was served by its App. -/
def Sourced (encodedLen : WorkspacePolicyDocument → Nat) (workspace : String)
    (history : List ProviderEntry) (cached : CachedProviderPolicy) : Prop :=
  ∀ loaded, cached.loadedAt = some loaded →
    ∃ bundle, Served encodedLen history workspace cached.appId bundle loaded ∧
      cached.policy = some (bundle.compiled workspace)

theorem Sourced.mono (sourced : Sourced encodedLen workspace history cached) :
    Sourced encodedLen workspace (history ++ [entry]) cached := by
  intro loaded loadedAt
  rcases sourced loaded loadedAt with ⟨bundle, served, policy⟩
  exact ⟨bundle, served.mono, policy⟩

/-- The entry is what a check against the row of the provider leaves. -/
structure Checked (provider : WorkspacePolicyProvider) (cached : CachedProviderPolicy) : Prop where
  app : cached.appId = provider.appId
  recent : ∀ loaded, cached.loadedAt = some loaded →
    asSecs (elapsed cached.checkedAt loaded) ≤ provider.maxStaleSeconds
  closed : cached.loadedAt = none → provider.failureMode = .failClosed → cached.policy = none

/-- What the history says about a workspace: where its entries come from, and that a fresh entry and
the call under way rest on the row last read. -/
structure Traced (encodedLen : WorkspacePolicyDocument → Nat) (workspace : String)
    (history : List ProviderEntry) (slot : Slot) : Prop where
  sourced : ∀ cached, slot.cached = some cached → Sourced encodedLen workspace history cached
  checked : ∀ cached provider, slot.fresh = some cached →
    lastRead workspace history = some (some provider) → Checked provider cached
  found : ∀ row, slot.call = some (.found row) →
    lastRead workspace history = some row ∧ slot.fresh = none
  fetching : ∀ provider previous, slot.call = some (.fetching provider previous) →
    lastRead workspace history = some (some provider) ∧ slot.cached = none ∧
      ∀ cached, previous = some cached → Sourced encodedLen workspace history cached

theorem Slot.fresh_eq_some_iff : slot.fresh = some cached ↔
      slot.cached = some cached ∧ elapsed slot.now cached.checkedAt < policyCacheTtl := by
  simp [fresh, filter_eq_some_iff]

/-- An entry does not become fresh by waiting. -/
theorem Slot.fresh_of_later {later : Nat} (passes : slot.now ≤ later)
    (fresh : ({ slot with now := later } : Slot).fresh = some cached) :
    slot.fresh = some cached := by
  rw [fresh_eq_some_iff] at fresh ⊢
  have less : elapsed slot.now cached.checkedAt ≤ elapsed later cached.checkedAt :=
    Nat.sub_le_sub_right passes _
  exact ⟨fresh.1, Nat.lt_of_le_of_lt less fresh.2⟩

/-- A provider that was just asked leaves an entry checked against its row. -/
theorem checked_of_finished {fetched : Except ProtocolError PolicyProviderBundle}
    (finished : Finished now workspace provider previous fetched result (some cached)) :
    Checked provider cached := by
  cases finished with
  | loaded =>
    refine ⟨rfl, ?_, nofun⟩
    simp [loadedEntry, elapsed, asSecs]
  | stale kept =>
    rcases staleEntry_eq_some_iff.mp kept with ⟨_, app, _, loadedAt, recent⟩
    refine ⟨app, ?_, ?_⟩
    · intro instant instantAt
      cases some.inj (loadedAt.symm.trans instantAt)
      exact recent
    · intro never
      cases loadedAt.symm.trans never
  | failOpen mode => exact ⟨rfl, nofun, fun _ closed => nomatch mode.symm.trans closed⟩
  | failClosed => exact ⟨rfl, nofun, fun _ _ => rfl⟩

/-- The answer is an error, or the policy of a bundle that the App of the provider
served, of an age within its bound and the TTL. -/
def HeldTo (encodedLen : WorkspacePolicyDocument → Nat) (history : List ProviderEntry)
    (workspace : String) (provider : WorkspacePolicyProvider) (now : Nat)
    (result : Except ProtocolError (Option CompiledWorkspacePolicy)) : Prop :=
  (∃ error, result = .error error) ∨
    ∃ bundle loaded, result = .ok (some (bundle.compiled workspace)) ∧
      Served encodedLen history workspace provider.appId bundle loaded ∧
      asSecs (elapsed now loaded) ≤ provider.maxStaleSeconds + asSecs policyCacheTtl

section
variable {replies : String → ProviderReplies}
  (call : entry.before.calls.get? workspace = some (.fetching provider previous))
  (action : entry.action = .fetched workspace replies)
  (kept : ∀ cached, previous = some cached → Sourced encodedLen workspace history cached)
include call action kept

/-- A provider that was just asked leaves an entry from a bundle of this fetch or
of an earlier one. -/
theorem sourced_of_finished
    (finished : Finished entry.before.now workspace provider previous
      (fetchBundle encodedLen (replies provider.appId) workspace) result (some cached)) :
    Sourced encodedLen workspace (history ++ [entry]) cached := by
  cases finished with
  | loaded served announced =>
    rintro loaded ⟨⟩
    exact ⟨_, ⟨entry, by simp, replies, provider, previous, action, call, rfl, announced, served,
      rfl⟩, rfl⟩
  | stale had =>
    have sourced := kept _ (staleEntry_eq_some_iff.mp had).1
    intro loaded loadedAt
    rcases sourced loaded loadedAt with ⟨bundle, served, policy⟩
    exact ⟨bundle, served.mono, policy⟩
  | failOpen | failClosed => exact nofun

/-- A fetch that ends answers as its provider has to. -/
theorem heldTo_of_finished {left : Option CachedProviderPolicy}
    (finished : Finished entry.before.now workspace provider previous
      (fetchBundle encodedLen (replies provider.appId) workspace) result left)
    (closed : provider.failureMode = .failClosed) :
    HeldTo encodedLen (history ++ [entry]) workspace provider entry.before.now result := by
  have sourced : ∀ cached, left = some cached →
      Sourced encodedLen workspace (history ++ [entry]) cached := by
    rintro _ rfl
    exact sourced_of_finished call action kept finished
  cases finished with
  | loaded served =>
    rcases sourced _ rfl _ rfl with ⟨bundle, served, policy⟩
    exact .inr ⟨bundle, _, congrArg Except.ok policy, served, by simp [elapsed, asSecs]⟩
  | contract | failClosed => exact .inl ⟨_, rfl⟩
  | stale had =>
    rcases staleEntry_eq_some_iff.mp had with ⟨_, app, loaded, loadedAt, recent⟩
    rcases sourced _ rfl loaded loadedAt with ⟨bundle, served, policy⟩
    exact .inr ⟨bundle, loaded, congrArg Except.ok policy, app ▸ served,
      Nat.le_add_right_of_le recent⟩
  | failOpen mode => cases mode.symm.trans closed

end

theorem Traced.of_moves (moves : Moves encodedLen workspace entry)
    (traced : Traced encodedLen workspace history (entry.before.slot workspace)) :
    Traced encodedLen workspace (history ++ [entry]) (entry.after.slot workspace) := by
  cases moves with
  | stays passes unread after =>
    rw [after]
    constructor
    · intro cached stored
      exact (traced.sourced cached stored).mono
    · intro cached provider fresh read
      rw [lastRead_of_unread unread] at read
      exact traced.checked cached provider (Slot.fresh_of_later passes fresh) read
    · intro row call
      rw [lastRead_of_unread unread]
      rcases traced.found row call with ⟨read, expired⟩
      refine ⟨read, eq_none_iff_forall_ne_some.mpr fun cached fresh => ?_⟩
      rw [Slot.fresh_of_later passes fresh] at expired
      cases expired
    · intro provider previous call
      rw [lastRead_of_unread unread]
      rcases traced.fetching provider previous call with ⟨read, absent, kept⟩
      exact ⟨read, absent, fun cached had => (kept cached had).mono⟩
  | reads free expired stored read after =>
    rw [after]
    constructor
    · intro cached stored
      exact (traced.sourced cached stored).mono
    · intro cached provider fresh _
      have impossible := expired.symm.trans fresh
      cases impossible
    · rintro row ⟨⟩
      exact ⟨by simp [lastRead, read], expired⟩
    · rintro provider previous ⟨⟩
  | marksAbsent call unread after =>
    rw [after]
    constructor
    · rintro cached ⟨⟩ _ ⟨⟩
    · intro cached provider _ read
      rw [lastRead_of_unread unread, (traced.found none call).1] at read
      cases read
    · rintro row ⟨⟩
    · rintro provider previous ⟨⟩
  | takes call unread after =>
    rw [after]
    constructor
    · rintro cached ⟨⟩
    · rintro cached provider ⟨⟩
    · rintro row ⟨⟩
    rintro provider previous ⟨⟩
    rw [lastRead_of_unread unread]
    exact ⟨(traced.found _ call).1, rfl, fun cached had => (traced.sourced cached had).mono⟩
  | finishes call action outcome finished unread after =>
    rcases traced.fetching _ _ call with ⟨read, absent, kept⟩
    rw [after absent]
    constructor
    · rintro cached ⟨⟩
      exact sourced_of_finished call action kept finished
    · intro cached provider fresh read'
      rw [lastRead_of_unread unread, read] at read'
      cases read'
      rcases Slot.fresh_eq_some_iff.mp fresh with ⟨⟨⟩, _⟩
      exact checked_of_finished finished
    · rintro row ⟨⟩
    · rintro provider previous ⟨⟩
  | drops unread after =>
    rw [after]
    constructor
    · intro cached stored
      exact (traced.sourced cached stored).mono
    · intro cached provider fresh read
      rw [lastRead_of_unread unread] at read
      exact traced.checked cached provider fresh read
    · rintro row ⟨⟩
    · rintro provider previous ⟨⟩
  | forgets unread after =>
    rw [after]
    constructor
    · rintro cached ⟨⟩
    · rintro cached provider ⟨⟩
    · intro row call
      rw [lastRead_of_unread unread]
      exact ⟨(traced.found row call).1, rfl⟩
    · intro provider previous call
      rw [lastRead_of_unread unread]
      rcases traced.fetching provider previous call with ⟨read, _, kept⟩
      exact ⟨read, rfl, fun cached had => (kept cached had).mono⟩

/-- A fresh entry answers as its provider has to. -/
theorem heldTo_of_fresh
    (traced : Traced encodedLen workspace history slot) (fresh : slot.fresh = some cached)
    (read : lastRead workspace history = some (some provider))
    (closed : provider.failureMode = .failClosed) (named : provider.appId ≠ "") :
    HeldTo encodedLen history workspace provider slot.now (cachedProviderResult cached) := by
  have checked := traced.checked cached provider fresh read
  rcases Slot.fresh_eq_some_iff.mp fresh with ⟨stored, young⟩
  cases loadedAt : cached.loadedAt with
  | none =>
    left
    simp [cachedProviderResult, checked.closed loadedAt closed, checked.app, named]
  | some loaded =>
    rcases traced.sourced cached stored loaded loadedAt with ⟨bundle, served, policy⟩
    rw [checked.app] at served
    refine .inr ⟨bundle, loaded, by simp [cachedProviderResult, policy], served, ?_⟩
    -- An age in whole seconds grows by less than the whole seconds of the TTL and one more.
    have recent := checked.recent loaded loadedAt
    simp only [asSecs, elapsed, policyCacheTtl, second] at recent young ⊢
    omega

/-- Every answer of a call rests on the row that was last read. -/
theorem heldTo_of_answer {state : ProviderState} {action : ProviderAction}
    (traced : Traced encodedLen workspace history (state.slot workspace))
    (called : action.caller = some workspace)
    (read : lastRead workspace history = some (some provider))
    (closed : provider.failureMode = .failClosed) (named : provider.appId ≠ "")
    (answered : (state.step encodedLen action).1 = .answer result) :
    HeldTo encodedLen
      (history ++ [⟨state, action, (state.step encodedLen action).1,
        (state.step encodedLen action).2⟩]) workspace provider state.now result := by
  cases action with
  | look =>
    cases called
    dsimp only [step, look] at answered
    split at answered
    · rename_i cached fresh
      cases answered
      rcases heldTo_of_fresh traced fresh read closed named with failed | served
      · exact .inl failed
      · obtain ⟨bundle, loaded, policy, served, recent⟩ := served
        exact .inr ⟨bundle, loaded, policy, served.mono, recent⟩
    · cases answered
  | readRow =>
    dsimp only [step, readRow] at answered
    split at answered
    · cases answered
    split at answered
    · cases answered
      exact .inl ⟨_, rfl⟩
    · cases answered
  | takeOut =>
    cases called
    dsimp only [step, takeOut] at answered
    split at answered
    · rename_i call
      -- No row was found, but the last one read is that of the provider.
      cases read.symm.trans (traced.found none call).1
    · cases answered
    · cases answered
  | fetched caller replies =>
    cases called
    have answered' : (state.fetched encodedLen workspace replies).1 = .answer result := answered
    unfold fetched at answered'
    split at answered'
    · rename_i asked previous call
      rcases traced.fetching asked previous call with ⟨readByCall, _, kept⟩
      cases some.inj (some.inj (read.symm.trans readByCall))
      cases answered'
      rcases finished_of_finish rfl with ⟨_, finished, _⟩
      exact heldTo_of_finished call rfl kept finished closed
    · cases answered'
  | tick | abandon | invalidate | set | clear | advanceRevision => cases called

/-- A run traces every workspace. -/
theorem traced_of_run (now : Nat) (rows : ProviderRows) (actions : List ProviderAction) :
    Traced encodedLen workspace
      (trace (step encodedLen) (initial now rows) actions)
      ((exec (step encodedLen) (initial now rows) actions).slot workspace) := by
  apply trace_invariant fun history state =>
    Traced encodedLen workspace history (state.slot workspace)
  · intro history state action traced
    exact traced.of_moves (moves_of_step state action)
  constructor
  · rintro cached ⟨⟩
  · rintro _ provider ⟨⟩
  · rintro _ ⟨⟩
  · rintro _ _ ⟨⟩

/-- The row that was last read was the stored one. -/
theorem stored_of_lastRead {rows : ProviderRows} {actions : List ProviderAction}
    (read : lastRead workspace
      (trace (step encodedLen) (initial now rows) actions) = some row) :
    ∃ entry ∈ trace (step encodedLen) (initial now rows) actions,
      rowRead workspace entry = some row ∧ entry.before.rows.get? workspace = row := by
  rcases List.exists_of_findSome?_eq_some read with ⟨entry, mem, readHere⟩
  rw [List.mem_reverse] at mem
  refine ⟨entry, mem, readHere, ?_⟩
  rcases of_mem_trace mem with ⟨_, _, _, _, stepped⟩
  have moved : Moves encodedLen workspace entry := by
    have := @moves_of_step encodedLen workspace entry.before entry.action
    rw [stepped] at this
    exact this
  cases moved with
  | reads free expired stored readNow =>
    cases some.inj (readHere.symm.trans readNow)
    exact stored
  | stays _ unread
  | marksAbsent _ unread
  | takes _ unread
  | finishes _ _ _ _ unread
  | drops unread
  | forgets unread => cases readHere.symm.trans unread

end

/-- While the row last read is fail-closed, calls answer with errors or with the policy of its App,
not older than the row and the TTL allow; a contract error is always the answer and leaves no entry;
and what counts as read was the stored row then. -/
theorem failClosed_never_degrades (encodedLen : WorkspacePolicyDocument → Nat) (now : Nat)
    (rows : ProviderRows) (earlier : List ProviderAction) (action : ProviderAction)
    (workspace : String) :
    let start := initial now rows
    let history := trace (step encodedLen) start earlier
    let state := exec (step encodedLen) start earlier
    let ended := state.step encodedLen action
    (∀ provider result, action.caller = some workspace →
      lastRead workspace history = some (some provider) →
      provider.failureMode = .failClosed → provider.appId ≠ "" →
      ended.1 = .answer result →
      (∃ error, result = .error error) ∨
        ∃ bundle loaded, result = .ok (some (bundle.compiled workspace)) ∧
          Served encodedLen (trace (step encodedLen) start (earlier ++ [action]))
            workspace provider.appId bundle loaded ∧
          asSecs (elapsed state.now loaded) ≤ provider.maxStaleSeconds + asSecs policyCacheTtl) ∧
    (∀ provider previous replies error, action = .fetched workspace replies →
      state.calls.get? workspace = some (.fetching provider previous) →
      fetchBundle encodedLen (replies provider.appId) workspace = .error error →
      providerContractError error = true →
      ended.1 = .answer (.error error) ∧ ended.2.cache.get? workspace = none) ∧
    (∀ row, lastRead workspace history = some row →
      ∃ entry ∈ history, rowRead workspace entry = some row ∧
        entry.before.rows.get? workspace = row) := by
  intro start history state ended
  have traced : Traced encodedLen workspace history (state.slot workspace) :=
    traced_of_run now rows earlier
  refine ⟨?_, ?_, fun row => stored_of_lastRead⟩
  · intro provider result called read closed named answered
    rw [trace_append]
    exact heldTo_of_answer traced called read closed named answered
  · rintro _ _ replies error rfl call failed isContract
    have absent : state.cache.get? workspace = none := (traced.fetching _ _ call).2.1
    have answers : state.fetched encodedLen workspace replies =
        (.answer (.error error), { state with calls := state.calls.erase workspace }) := by
      unfold fetched
      rw [call]
      simp [finish, failed, isContract]
    have stepped : ended = state.fetched encodedLen workspace replies := rfl
    rw [stepped, answers]
    exact ⟨rfl, absent⟩

namespace Sample

def failClosedProvider : WorkspacePolicyProvider where
  workspaceId := "ws_1"
  appId := "app_1"
  serviceId := "svc_1"
  failureMode := .failClosed
  maxStaleSeconds := 5
  revisionHint := 1

def servedBundle : PolicyProviderBundle where
  protocol := policyProviderProtocolV1
  workspaceId := "ws_1"
  revision := 1
  mode := .enforce
  document := { schemaVersion := 1 }

/-- The Policy App serves its bundle. -/
def serves (_ : String) : ProviderReplies where
  app := .ok ()
  manifest := .ok (some {
    protocol := policyProviderProtocolV1, capabilities := [policyProviderBundleCapabilityV1] })
  bundle _ := .ok (some servedBundle)

/-- The Policy App cannot be reached. -/
def offline (_ : String) : ProviderReplies where
  app := .error ⟨"app_offline", "App is offline", none⟩
  manifest := .error ⟨"app_offline", "App is offline", none⟩
  bundle _ := .error ⟨"app_offline", "App is offline", none⟩

/-- A whole call that misses the cache. -/
def call (replies : String → ProviderReplies) : List ProviderAction :=
  [.readRow "ws_1" none, .takeOut "ws_1", .fetched "ws_1" replies]

def after (actions : List ProviderAction) : ProviderState :=
  exec (step fun _ => 0) (initial 0 Table.empty) actions

/-- The row is set after a call has found none. -/
def configuredLate : ProviderState :=
  after [.readRow "ws_1" none, .takeOut "ws_1", .set failClosedProvider]

def namelessProvider : WorkspacePolicyProvider :=
  { failClosedProvider with appId := "" }

/-- A fetch has failed for a row without an App ID. -/
def nameless : ProviderState :=
  after (.set namelessProvider :: call offline)

/-- The App serves its bundle once and then goes away. -/
def outage : ProviderState :=
  after ([.set failClosedProvider] ++ call serves ++ [.tick (6 * second - 1)] ++ call offline ++
    [.tick (5 * second - 1)])

end Sample

open Sample

/-- A bundle that was loaded answers the next look. -/
theorem failClosed_never_degrades_cached :
    (∃ error, cachedProviderResult
        (loadedEntry "app_1" 0 (servedBundle.compiled "ws_1")) = .error error) ∨
      ∃ bundle loaded, cachedProviderResult
          (loadedEntry "app_1" 0 (servedBundle.compiled "ws_1")) =
          .ok (some (bundle.compiled "ws_1")) ∧
        Served (fun _ => 0)
          (trace (step fun _ => 0) (initial 0 Table.empty)
            (.set failClosedProvider :: call serves ++ [.look "ws_1"]))
          "ws_1" "app_1" bundle loaded ∧
        asSecs (elapsed 0 loaded) ≤ 5 + asSecs policyCacheTtl :=
  (failClosed_never_degrades (fun _ => 0) 0 Table.empty
    (.set failClosedProvider :: call serves) (.look "ws_1") "ws_1").1
    failClosedProvider _ rfl rfl rfl (by decide) rfl

/-- The stored row alone does not keep the answers: an entry checked before the provider was set
lets requests through, a fail-closed row without an App ID is remembered as no provider, and in
exact time an old bundle can be used longer than its bound and the TTL. -/
theorem stored_row_is_not_enough :
    (configuredLate.rows.get? "ws_1" = some failClosedProvider ∧
      (configuredLate.step (fun _ => 0) (.look "ws_1")).1 = .answer (.ok none)) ∧
    (nameless.rows.get? "ws_1" = some namelessProvider ∧
      (nameless.step (fun _ => 0) (.look "ws_1")).1 = .answer (.ok none)) ∧
    (outage.rows.get? "ws_1" = some failClosedProvider ∧
      (outage.step (fun _ => 0) (.look "ws_1")).1 =
        .answer (.ok (some (servedBundle.compiled "ws_1"))) ∧
      failClosedProvider.maxStaleSeconds * second + policyCacheTtl < elapsed outage.now 0) := by
  refine ⟨⟨rfl, rfl⟩, ⟨rfl, rfl⟩, ⟨rfl, rfl, by decide⟩⟩

end Treer.Policy
