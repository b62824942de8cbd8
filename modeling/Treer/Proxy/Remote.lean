import Treer.Foundation.Run
import Treer.Proxy.Workspace

/-!
# The status of a machine that is connected elsewhere

The last lease of the machine stands under one lock, and its status under another. A call
records what it has heard and sets the status later, and other calls can come between.
-/

namespace Treer.Proxy.Remote

open Foundation List

structure Shared where
  /-- The revision of the lease, and when it was seen if it has not ended. -/
  lease : Option (Nat × Option Int)
  status : ServerStatus
  lastSeenAt : Int
  revision : Nat
  /-- The revisions of the leases that were accepted as live. -/
  live : List Nat

/-- Where a call waits for a lock. -/
inductive Call where
  | noteClusterLease (revision : Nat)
  | applyClusterDisconnect (revision : Nat)
  | expireClusterLeases (maxAge : Int)
  | setOnline (revision : Nat)
  | setOffline (revision : Nat)
  deriving DecidableEq

/-- The machine has no connection here, so that every call goes on to the lock of the leases. -/
def Call.begins : Call → Bool
  | setOnline _ | setOffline _ => false
  | _ => true

namespace Shared

variable (shared : Shared)

def outdates (revision : Nat) : Bool :=
  shared.lease.any (revision < ·.1)

def setStatus (status : ServerStatus) (now : Int) : Shared :=
  if shared.status = status then shared
  else { shared with status, lastSeenAt := now, revision := shared.revision + 1 }

/-- What a call does under the lock, and where it goes on. -/
def run (now : Int) : Call → Option Call × Shared
  | .noteClusterLease revision =>
    if shared.outdates revision then (none, shared)
    else (some (.setOnline revision),
      { shared with lease := some (revision, some now), live := revision :: shared.live })
  | .applyClusterDisconnect revision =>
    if shared.outdates revision then (none, shared)
    else (some (.setOffline revision), { shared with lease := some (revision, none) })
  | .expireClusterLeases maxAge =>
    match shared.lease with
    | some (revision, some seenAt) =>
      if maxAge ≤ now - seenAt then
        (some (.applyClusterDisconnect revision), { shared with lease := some (revision, none) })
      else (none, shared)
    | _ => (none, shared)
  | .setOnline _ => (none, shared.setStatus .online now)
  | .setOffline _ => (none, shared.setStatus .offline now)

end Shared

structure Calls where
  shared : Shared
  waiting : List Call

inductive Move where
  | start (call : Call)
  | advance (call : Call) (now : Int)

def step (calls : Calls) : Move → Unit × Calls
  | .start call =>
    ((), if call.begins then { calls with waiting := call :: calls.waiting } else calls)
  | .advance call now =>
    ((), if call ∈ calls.waiting then
        let (next, shared) := calls.shared.run now call
        ⟨shared, next.toList ++ calls.waiting.erase call⟩
      else calls)

/-- The machine is offline if its newest lease has ended. -/
def Agrees (shared : Shared) : Prop :=
  ∀ lease ∈ shared.lease, shared.status = .offline ↔ lease.2 = none

/-- The call is to set the status that the lease tells. -/
def Owes (shared : Shared) : Call → Prop
  | .setOnline revision => ∃ seenAt, shared.lease = some (revision, some seenAt)
  | .setOffline revision | .applyClusterDisconnect revision => shared.lease = some (revision, none)
  | _ => False

/-- When a call sets the status, the lease is still what it has recorded. -/
def InTime (calls : Calls) : Move → Prop
  | .start _ => True
  | .advance call _ => call ∈ calls.waiting → call.begins = false → Owes calls.shared call

/-- A call does not set a machine offline of which a newer lease was live. -/
def NotStale (calls : Calls) : Move → Prop
  | .advance (.setOffline revision) _ => .setOffline revision ∈ calls.waiting →
    ∀ live ∈ calls.shared.live, live ≤ revision
  | _ => True

structure Sound (calls : Calls) : Prop where
  newest : ∀ live ∈ calls.shared.live, ∃ lease ∈ calls.shared.lease, live ≤ lease.1
  owed : Agrees calls.shared ∨ ∃ call ∈ calls.waiting, Owes calls.shared call

variable {calls : Calls} {shared : Shared} {revision : Nat} {now : Int}

theorem Sound.le_of_not_outdates (sound : Sound calls)
    (newer : ¬calls.shared.outdates revision = true) :
    ∀ live ∈ calls.shared.live, live ≤ revision := by
  intro live mem
  obtain ⟨lease, found, le⟩ := sound.newest live mem
  by_contra older
  exact newer (Option.any_eq_true _ _ |>.mpr ⟨lease, found, decide_eq_true (by omega)⟩)

theorem agrees_setStatus {lease : Nat × Option Int} {status : ServerStatus}
    (recorded : shared.lease = some lease) (told : status = .offline ↔ lease.2 = none) :
    Agrees (shared.setStatus status now) := by
  unfold Shared.setStatus
  split <;> simp_all [Agrees]

theorem sound_step (calls : Calls) (move : Move) (sound : Sound calls)
    (inTime : InTime calls move) : Sound (step calls move).2 := by
  cases move with
  | start call =>
    simp only [step]
    split
    · refine ⟨sound.newest, sound.owed.imp_right ?_⟩
      rintro ⟨other, mem, owes⟩
      exact ⟨other, mem_cons_of_mem call mem, owes⟩
    · exact sound
  | advance call now =>
    simp only [step]
    split
    · rename_i waits
      have others : ¬Owes calls.shared call → Agrees calls.shared ∨
          ∃ other ∈ calls.waiting.erase call, Owes calls.shared other := by
        refine fun unowed => sound.owed.imp_right ?_
        rintro ⟨other, mem, owes⟩
        refine ⟨other, (mem_erase_of_ne ?_).mpr mem, owes⟩
        rintro rfl
        exact unowed owes
      cases call with
      | noteClusterLease revision =>
        simp only [Shared.run]
        split
        · exact ⟨sound.newest, others id⟩
        rename_i newer
        have newest : ∀ live ∈ revision :: calls.shared.live, live ≤ revision :=
          forall_mem_cons.mpr ⟨le_rfl, sound.le_of_not_outdates newer⟩
        exact ⟨fun live mem => ⟨_, rfl, newest live mem⟩, .inr ⟨_, mem_cons_self, _, rfl⟩⟩
      | applyClusterDisconnect revision =>
        simp only [Shared.run]
        split
        · rename_i outdated
          refine ⟨sound.newest, others fun owes => ?_⟩
          simp [Shared.outdates, show calls.shared.lease = _ from owes] at outdated
        · rename_i newer
          exact ⟨fun live mem => ⟨_, rfl, sound.le_of_not_outdates newer live mem⟩,
            .inr ⟨_, mem_cons_self, rfl⟩⟩
      | expireClusterLeases maxAge =>
        simp only [Shared.run]
        split
        · rename_i revision seenAt recorded
          split
          · refine ⟨fun live mem => ?_, .inr ⟨_, mem_cons_self, rfl⟩⟩
            obtain ⟨_, found, le⟩ := sound.newest live mem
            cases recorded.symm.trans found
            exact ⟨_, rfl, le⟩
          · exact ⟨sound.newest, others id⟩
        · exact ⟨sound.newest, others id⟩
      | setOnline revision =>
        obtain ⟨_, recorded⟩ := inTime waits rfl
        refine ⟨?_, .inl (agrees_setStatus recorded (by simp))⟩
        simp only [Shared.run, Shared.setStatus]
        split <;> exact sound.newest
      | setOffline revision =>
        refine ⟨?_, .inl (agrees_setStatus (inTime waits rfl) (by simp))⟩
        simp only [Shared.run, Shared.setStatus]
        split <;> exact sound.newest
    · exact sound

theorem notStale_of_inTime (calls : Calls) (move : Move) (sound : Sound calls)
    (inTime : InTime calls move) : NotStale calls move := by
  rcases move with _ | ⟨_ | _ | _ | _ | revision, _⟩
  any_goals trivial
  intro waits live mem
  obtain ⟨_, found, le⟩ := sound.newest live mem
  cases (inTime waits rfl).symm.trans found
  exact le

/-- In every run whose calls set the status in time, the status is the one of the newest lease
whenever no call is left. -/
theorem status_follows_newest_lease (shared : Shared) (unheard : shared.lease = none)
    (none : shared.live = []) (moves : List Move)
    (inTime : AllSteps step InTime ⟨shared, []⟩ moves) :
    (∀ earlier later, moves = earlier ++ later →
      (exec step ⟨shared, []⟩ earlier).waiting = [] →
        Agrees (exec step ⟨shared, []⟩ earlier).shared) ∧
    AllSteps step NotStale ⟨shared, []⟩ moves := by
  have start : Sound ⟨shared, []⟩ := by constructor <;> simp [Agrees, unheard, none]
  refine ⟨?_, inTime.mono sound_step notStale_of_inTime start⟩
  rintro earlier later rfl finished
  have sound := AllSteps.invariant sound_step start inTime
  refine sound.owed.resolve_right ?_
  simp [finished]

namespace Sample

/-- Nothing was heard of the machine. -/
def unheard : Shared := ⟨none, .online, 0, 0, []⟩

/-- The machine connects and disconnects. Other calls come between the halves of both, but none
that sets the status. -/
def disconnected : List Move :=
  [.start (.noteClusterLease 5), .start (.applyClusterDisconnect 6),
    .advance (.noteClusterLease 5) 1, .start (.expireClusterLeases 30),
    .advance (.expireClusterLeases 30) 2, .advance (.setOnline 5) 3,
    .advance (.applyClusterDisconnect 6) 4, .start (.noteClusterLease 4),
    .advance (.noteClusterLease 4) 5, .advance (.setOffline 6) 6]

/-- The machine connects again before the disconnect has set its status. -/
def overtaken : List Move :=
  [.start (.applyClusterDisconnect 5), .advance (.applyClusterDisconnect 5) 1,
    .start (.noteClusterLease 6), .advance (.noteClusterLease 6) 2, .advance (.setOnline 6) 3,
    .advance (.setOffline 5) 4]

end Sample

open Proxy.Remote.Sample

theorem disconnected_machine_is_offline :
    (exec step ⟨unheard, []⟩ disconnected).shared.status = .offline := by
  have inTime : AllSteps step InTime ⟨unheard, []⟩ disconnected :=
    ⟨trivial, trivial, nofun, trivial, nofun, fun _ _ => ⟨1, rfl⟩, nofun, trivial, nofun,
      fun _ _ => rfl, trivial⟩
  have agrees := (status_follows_newest_lease unheard rfl rfl disconnected inTime).1 disconnected
    [] rfl (by decide)
  exact (agrees (6, none) rfl).mpr rfl

theorem overtaken_disconnect_sets_offline : (exec step ⟨unheard, []⟩ overtaken).waiting = [] ∧
    (exec step ⟨unheard, []⟩ overtaken).shared.lease = some (6, some 2) ∧
    (exec step ⟨unheard, []⟩ overtaken).shared.status = .offline ∧
    ¬Agrees (exec step ⟨unheard, []⟩ overtaken).shared :=
  ⟨by decide, by decide, by decide, fun agrees => by
    cases (agrees (6, some 2) (by decide)).mp (by decide)⟩

end Treer.Proxy.Remote
