import Treer.Foundation.Run
import Treer.Policy.Provider

/-!
# Calls of the Provider evaluator over time

Calls of `compiled` overlap. Between two of its waits a call looks at the cache,
reads the row of its workspace, takes the old entry out, or ends with what the
fetch brought; each of these is one action here. Other calls, invalidations and
changes of the rows can come between any two of them. The fetch lock of a
workspace admits one call past the looks at the cache.
-/

namespace Treer.Policy

open Foundation Protocol KeyedMap ProviderPolicyEvaluator

/-- Where the call that holds the fetch lock of a workspace stands. -/
inductive Phase where
  | found (row : Option WorkspacePolicyProvider)
  | fetching (provider : WorkspacePolicyProvider) (previous : Option CachedProviderPolicy)

structure ProviderState where
  now : Nat
  rows : ProviderRows
  cache : ProviderCache
  calls : KeyedMap String Phase

inductive ProviderAction where
  /-- Time passes. -/
  | tick (duration : Nat)
  /-- A call looks at the cache, before or after it waits for the lock. -/
  | look (workspace : String)
  /-- A call that holds the lock and found no fresh entry reads the row; the
  database can fail. -/
  | readRow (workspace : String) (failure : Option String)
  /-- The call goes on with the row it found. -/
  | takeOut (workspace : String)
  /-- The fetch of the call ends; every App answers it as `replies` says. -/
  | fetched (workspace : String) (replies : String → ProviderReplies)
  /-- The call is dropped by its caller. -/
  | abandon (workspace : String)
  | invalidate (workspace : String)
  | set (provider : WorkspacePolicyProvider)
  | clear (workspace : String)
  | advanceRevision (workspace appId : String) (revision : Nat)

/-- The workspace of an action of a call. -/
def ProviderAction.caller : ProviderAction → Option String
  | .look workspace => some workspace
  | .readRow workspace _ => some workspace
  | .takeOut workspace => some workspace
  | .fetched workspace _ => some workspace
  | _ => none

inductive ProviderOutcome where
  | quiet
  /-- The row that a call read. -/
  | found (row : Option WorkspacePolicyProvider)
  /-- What a call of `compiled` returns. -/
  | answer (result : Except ProtocolError (Option CompiledWorkspacePolicy))

namespace ProviderState

/-- Nothing is cached and no call is under way. -/
def initial (now : Nat) (rows : ProviderRows) : ProviderState where
  now
  rows
  cache := Table.empty
  calls := Table.empty

variable (state : ProviderState) (workspace : String)

def look : ProviderOutcome × ProviderState :=
  match freshEntry state.cache workspace state.now with
  | some cached => (.answer (cachedProviderResult cached), state)
  | none => (.quiet, state)

def readRow (failure : Option String) : ProviderOutcome × ProviderState :=
  if (state.calls.get? workspace).isSome || (freshEntry state.cache workspace state.now).isSome then
    (.quiet, state)
  else
    match failure with
    | some text =>
      (.answer (.error ⟨"policy_provider_store_failed", text, none⟩), state)
    | none =>
      let row := state.rows.get? workspace
      (.found row, { state with calls := state.calls.insert workspace (.found row) })

def takeOut : ProviderOutcome × ProviderState :=
  match state.calls.get? workspace with
  | some (.found none) =>
    (.answer (.ok none),
      { state with
        cache := state.cache.insert workspace (absentEntry state.now)
        calls := state.calls.erase workspace })
  | some (.found (some provider)) =>
    (.quiet,
      { state with
        cache := state.cache.erase workspace
        calls := state.calls.insert workspace (.fetching provider (state.cache.get? workspace)) })
  | _ => (.quiet, state)

variable (encodedLen : WorkspacePolicyDocument → Nat)

def fetched (state : ProviderState) (workspace : String) (replies : String → ProviderReplies) :
    ProviderOutcome × ProviderState :=
  match state.calls.get? workspace with
  | some (.fetching provider previous) =>
    let ended := finish state.now workspace provider previous
      (fetchBundle encodedLen (replies provider.appId) workspace) state.cache
    (.answer ended.1, { state with cache := ended.2, calls := state.calls.erase workspace })
  | _ => (.quiet, state)

/-- One action. A change of the rows that the database refuses changes nothing. -/
def step (state : ProviderState) : ProviderAction → ProviderOutcome × ProviderState
  | .tick duration => (.quiet, { state with now := state.now + duration })
  | .look workspace => state.look workspace
  | .readRow workspace failure => state.readRow workspace failure
  | .takeOut workspace => state.takeOut workspace
  | .fetched workspace replies => state.fetched encodedLen workspace replies
  | .abandon workspace => (.quiet, { state with calls := state.calls.erase workspace })
  | .invalidate workspace =>
    (.quiet, { state with cache := ProviderPolicyEvaluator.invalidate workspace state.cache })
  | .set provider => (.quiet, { state with rows := (state.rows.set provider).getD state.rows })
  | .clear workspace => (.quiet, { state with rows := state.rows.clear workspace })
  | .advanceRevision workspace appId revision =>
    (.quiet,
      { state with rows := (state.rows.advanceRevision workspace appId revision).getD state.rows })

end ProviderState

open ProviderState

/-! ## One workspace -/

/-- What concerns one workspace: the clock, its entry and the call that holds its
fetch lock. -/
structure Slot where
  now : Nat
  cached : Option CachedProviderPolicy
  call : Option Phase

def ProviderState.slot (state : ProviderState) (workspace : String) : Slot where
  now := state.now
  cached := state.cache.get? workspace
  call := state.calls.get? workspace

/-- The entry, if it was checked less than the TTL ago. -/
def Slot.fresh (slot : Slot) : Option CachedProviderPolicy :=
  slot.cached.filter fun cached => elapsed slot.now cached.checkedAt < policyCacheTtl

abbrev ProviderEntry := Entry ProviderState ProviderAction ProviderOutcome

/-- The row of a workspace that was read, if the action is such a read. -/
def rowRead (workspace : String) (entry : ProviderEntry) :
    Option (Option WorkspacePolicyProvider) :=
  match entry.action, entry.outcome with
  | .readRow caller _, .found row => if caller = workspace then some row else none
  | _, _ => none

/-- What an action does to a workspace. -/
inductive Moves (encodedLen : WorkspacePolicyDocument → Nat) (workspace : String)
    (entry : ProviderEntry) : Prop where
  | stays {later} (passes : entry.before.now ≤ later)
      (unread : rowRead workspace entry = none)
      (after : entry.after.slot workspace = { entry.before.slot workspace with now := later })
  | reads {row} (free : (entry.before.slot workspace).call = none)
      (expired : (entry.before.slot workspace).fresh = none)
      (stored : entry.before.rows.get? workspace = row)
      (read : rowRead workspace entry = some row)
      (after : entry.after.slot workspace =
        { entry.before.slot workspace with call := some (.found row) })
  | marksAbsent (call : (entry.before.slot workspace).call = some (.found none))
      (unread : rowRead workspace entry = none)
      (after : entry.after.slot workspace =
        { now := entry.before.now, cached := some (absentEntry entry.before.now), call := none })
  | takes {provider} (call : (entry.before.slot workspace).call = some (.found (some provider)))
      (unread : rowRead workspace entry = none)
      (after : entry.after.slot workspace =
        { now := entry.before.now
          cached := none
          call := some (.fetching provider (entry.before.slot workspace).cached) })
  | finishes {provider previous left replies result}
      (call : (entry.before.slot workspace).call = some (.fetching provider previous))
      (action : entry.action = .fetched workspace replies)
      (outcome : entry.outcome = .answer result)
      (finished : Finished entry.before.now workspace provider previous
        (fetchBundle encodedLen (replies provider.appId) workspace) result left)
      (unread : rowRead workspace entry = none)
      (after : (entry.before.slot workspace).cached = none →
        entry.after.slot workspace = { now := entry.before.now, cached := left, call := none })
  | drops (unread : rowRead workspace entry = none)
      (after : entry.after.slot workspace = { entry.before.slot workspace with call := none })
  | forgets (unread : rowRead workspace entry = none)
      (after : entry.after.slot workspace = { entry.before.slot workspace with cached := none })

section
variable {encodedLen : WorkspacePolicyDocument → Nat} {workspace caller : String}
  {state next : ProviderState} {outcome : ProviderOutcome}

theorem moves_readRow {failure : Option String}
    (ran : state.readRow caller failure = (outcome, next)) :
    Moves encodedLen workspace ⟨state, .readRow caller failure, outcome, next⟩ := by
  unfold readRow at ran
  split at ran
  · cases ran
    exact .stays (Nat.le_refl _) rfl rfl
  rename_i admitted
  cases failure with
  | some =>
    cases ran
    exact .stays (Nat.le_refl _) rfl rfl
  | none =>
    cases ran
    by_cases same : caller = workspace
    · subst same
      simp only [Bool.or_eq_true, not_or, Bool.not_eq_true, Option.isSome_eq_false_iff,
        Option.isNone_iff_eq_none] at admitted
      refine Moves.reads admitted.1 admitted.2 rfl ?_ ?_
      · simp [rowRead]
      · simp [slot, get?_insert]
    · apply Moves.stays (Nat.le_refl _)
      · simp [rowRead, same]
      · simp [slot, get?_insert, Ne.symm same]

theorem moves_takeOut (ran : state.takeOut caller = (outcome, next)) :
    Moves encodedLen workspace ⟨state, .takeOut caller, outcome, next⟩ := by
  unfold takeOut at ran
  by_cases same : caller = workspace
  · subst same
    split at ran
    · rename_i call
      cases ran
      refine Moves.marksAbsent call rfl ?_
      simp [slot, get?_insert, get?_erase]
    · rename_i provider call
      cases ran
      refine Moves.takes call rfl ?_
      simp [slot, get?_insert, get?_erase]
    · cases ran
      exact .stays (Nat.le_refl _) rfl rfl
  · apply Moves.stays (Nat.le_refl _) rfl
    split at ran <;> cases ran <;>
      simp [slot, get?_insert, get?_erase, Ne.symm same]

theorem moves_fetched {replies : String → ProviderReplies}
    (ran : state.fetched encodedLen caller replies = (outcome, next)) :
    Moves encodedLen workspace ⟨state, .fetched caller replies, outcome, next⟩ := by
  unfold fetched at ran
  split at ran
  · rename_i provider previous call
    cases ran
    rcases ran : finish state.now caller provider previous
        (fetchBundle encodedLen (replies provider.appId) caller) state.cache with ⟨_, cache⟩
    rcases finished_of_finish ran with ⟨_, finished, ended⟩
    by_cases same : caller = workspace
    · subst same
      refine Moves.finishes call rfl rfl finished rfl fun absent => ?_
      have assigned := assigned_of_absent absent ended
      simp [slot, get?_erase, assigned.get?_self]
    · refine Moves.stays (Nat.le_refl _) rfl ?_
      have kept : cache.get? workspace = state.cache.get? workspace := by
        rcases ended with assigned | ⟨_, rfl⟩
        · rw [assigned workspace, if_neg (Ne.symm same)]
        · rfl
      simp [slot, get?_erase, kept, Ne.symm same]
  · cases ran
    exact .stays (Nat.le_refl _) rfl rfl

/-- Every action moves every workspace in one of these ways. -/
theorem moves_of_step (state : ProviderState) (action : ProviderAction) : Moves encodedLen workspace
      ⟨state, action, (state.step encodedLen action).1, (state.step encodedLen action).2⟩ := by
  cases action with
  | tick => exact .stays (Nat.le_add_right _ _) rfl rfl
  | look =>
    refine .stays (Nat.le_refl _) rfl ?_
    dsimp only [step, look]
    split <;> rfl
  | readRow => exact moves_readRow rfl
  | takeOut => exact moves_takeOut rfl
  | fetched => exact moves_fetched rfl
  | abandon caller =>
    by_cases same : caller = workspace
    · subst same
      refine .drops rfl ?_
      simp [step, slot, get?_erase]
    · refine .stays (Nat.le_refl _) rfl ?_
      simp [step, slot, get?_erase, Ne.symm same]
  | invalidate caller =>
    by_cases same : caller = workspace
    · subst same
      refine .forgets rfl ?_
      simp [step, slot, get?_erase, ProviderPolicyEvaluator.invalidate]
    · refine .stays (Nat.le_refl _) rfl ?_
      simp [step, slot, get?_erase, ProviderPolicyEvaluator.invalidate, Ne.symm same]
  | set | clear | advanceRevision => exact .stays (Nat.le_refl _) rfl rfl

end
end Treer.Policy
