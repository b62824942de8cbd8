import Treer.Foundation.Run

/-!
# The lease of an upload

A part or commit of an upload takes the lease of the row and gives it back at its end. The
row says how long it is leased, but not to which request, so a request that ran past its
lease gives back the lease of whoever came after it.
-/

namespace Treer.Proxy.Upload

open Foundation List

/-- The length of a lease, in microseconds. -/
def lease : Int := 150 * 1000000

/-- The state of an upload. -/
inductive UploadState where
  | pending
  | active
  | committing
  | committed
  | aborted
  | expired
  | failed
  deriving DecidableEq

/-- The row of an upload. -/
structure UploadRow where
  state : UploadState
  leaseUntil : Option Int

/-- The guard of a request, and how long its lease is. -/
structure LeaseGuard where
  request : Nat
  leaseUntil : Int
  deriving DecidableEq

/-- The row and its requests. -/
structure Leases where
  row : UploadRow
  now : Int
  /-- The guards that are armed. -/
  guards : List LeaseGuard

/-- The row after the update, if the upload takes parts and nobody has its lease. -/
def UploadRow.acquireLease (row : UploadRow) (now : Int) : Option UploadRow :=
  if row.state ∈ [.pending, .active] ∧ ∀ leaseUntil ∈ row.leaseUntil, leaseUntil < now then
    some { row with leaseUntil := some (now + lease) }
  else none

/-- Whoever has the lease. -/
def UploadRow.releaseLease (row : UploadRow) : UploadRow :=
  { row with leaseUntil := none }

/-- What happens to the lease. -/
inductive Action where
  | lapse (time : Nat)
  /-- The request looked at its clock some time before the update. -/
  | acquireLease (request delay : Nat)
  /-- A request ends, or is dropped. -/
  | releaseLease (guard : LeaseGuard)

namespace Leases

variable {leases : Leases}

/-- The row that a request gets. -/
def step (leases : Leases) : Action → Option UploadRow × Leases
  | .lapse time => (none, { leases with now := leases.now + time })
  | .acquireLease request delay =>
    let now := leases.now - delay
    match leases.row.acquireLease now with
    | none => (none, leases)
    | some row => (some row, { leases with row, guards := ⟨request, now + lease⟩ :: leases.guards })
  | .releaseLease guard =>
    if guard ∈ leases.guards then
      (none, { leases with row := leases.row.releaseLease, guards := leases.guards.erase guard })
    else (none, leases)

/-- No two requests are within their leases. -/
def Exclusive (leases : Leases) : Prop :=
  leases.guards.Pairwise fun first second =>
    first.leaseUntil < leases.now ∨ second.leaseUntil < leases.now
deriving Decidable

/-- The row has the lease of a request that is within it. -/
structure Sound (leases : Leases) : Prop where
  exclusive : leases.Exclusive
  held : ∀ guard ∈ leases.guards, leases.now ≤ guard.leaseUntil →
    leases.row.leaseUntil = some guard.leaseUntil

/-- A request ends when no other is within its lease. -/
def InTime (leases : Leases) : Action → Prop
  | .releaseLease guard => guard ∈ leases.guards →
    ∀ other ∈ leases.guards.erase guard, other.leaseUntil < leases.now
  | _ => True

theorem Sound.lapse (sound : leases.Sound) (time : Nat) : (leases.step (.lapse time)).2.Sound := by
  constructor
  · apply sound.exclusive.imp
    simp only [step]
    omega
  · intro guard mem within
    apply sound.held guard mem
    simp only [step] at within
    omega

theorem Sound.acquireLease (sound : leases.Sound) (request delay : Nat) :
    (leases.step (.acquireLease request delay)).2.Sound := by
  simp only [step, UploadRow.acquireLease]
  split
  · exact sound
  rename_i row acquired
  split at acquired
  · rename_i free
    cases acquired
    -- The row would have the lease of a request that is within it.
    have past : ∀ guard ∈ leases.guards, guard.leaseUntil < leases.now := by
      intro guard mem
      by_contra within
      have := free.2 _ (sound.held guard mem (Int.not_lt.mp within))
      omega
    constructor
    · exact .cons (fun guard mem => .inr (past guard mem)) sound.exclusive
    intro guard mem within
    rcases mem_cons.mp mem with rfl | old
    · rfl
    · exact absurd (past guard old) (Int.not_lt.mpr within)
  · cases acquired

theorem Sound.step_iff (sound : leases.Sound) (action : Action) :
    (leases.step action).2.Sound ↔ leases.InTime action := by
  cases action with
  | lapse time => exact iff_of_true (sound.lapse time) trivial
  | acquireLease request delay => exact iff_of_true (sound.acquireLease request delay) trivial
  | releaseLease guard =>
    by_cases armed : guard ∈ leases.guards
    · simp only [step, if_pos armed]
      constructor
      · intro after _ other mem
        by_contra within
        cases after.held other mem (Int.not_lt.mp within)
      · intro inTime
        constructor
        · exact sound.exclusive.sublist erase_sublist
        · intro other mem within
          exact absurd (inTime armed other mem) (Int.not_lt.mpr within)
    · simp [step, InTime, armed, sound]

/-- Every run of requests on an upload: no two are ever within their leases and none gives back the
lease of another, exactly if requests end only when no other is within its lease. -/
theorem leases_exclude_iff (row : UploadRow) (now : Int) (actions : List Action) :
    (∀ earlier later, actions = earlier ++ later → (exec step ⟨row, now, []⟩ earlier).Sound) ↔
      AllSteps step InTime ⟨row, now, []⟩ actions := by
  have initial : Sound ⟨row, now, []⟩ := ⟨.nil, nofun⟩
  exact @allSteps_iff _ _ _ step _ Sound InTime (fun _ => True) (fun _ _ _ => trivial)
    (fun _ action _ sound => sound.step_iff action) trivial initial actions

/-- The lease of the first request runs out, and its end gives back that of the second. -/
theorem late_release_frees_other_lease :
    ¬ ∀ row now actions, (exec step ⟨row, now, []⟩ actions).Exclusive := by
  intro always
  have exclusive := always ⟨.active, none⟩ 0
    [.acquireLease 1 0, .lapse 150000001, .acquireLease 2 0, .releaseLease ⟨1, 150000000⟩,
      .acquireLease 3 0]
  revert exclusive
  decide

end Leases
end Treer.Proxy.Upload
