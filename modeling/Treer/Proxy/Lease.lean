import Treer.Foundation.Pool
import Treer.Foundation.Versioned
import Treer.Proxy.Workspace

/-!
# Ownership leases

All Proxies share one key for each machine that tells which connection owns it, and one with
the last snapshot of the owner. A claim writes the lease whatever it says. A renewal and a
release first read it, and write only if it is still what they have read.
-/

namespace Treer.Proxy.Lease

open Foundation Protocol Procedure Versioned Program List Option Pool
open Foundation.Procedure (call attempt settle)

/-- `ConnectionOwner` -/
structure Owner where
  (proxyId connectionId : String)
  deriving DecidableEq

/-- The keys of one machine. -/
structure Shared where
  lease : Versioned Owner
  /-- The owner that published the snapshot. -/
  snapshot : Versioned Owner

def Shared.owner? (shared : Shared) : Option Owner :=
  shared.lease.value?

/-- A conditional write finds the key changed, or fails. -/
inductive WriteError where
  | changed
  | failed (error : ProtocolError)

inductive Call : Type → Type where
  | leaseEntry : Call (Except ProtocolError (Option (Stored Owner)))
  | leasePut (owner : Owner) : Call (Except ProtocolError Nat)
  | leaseUpdate (owner : Owner) (revision : Nat) : Call (Except WriteError Nat)
  | leaseCreate (owner : Owner) : Call (Except WriteError Nat)
  | leaseDelete (revision : Nat) : Call (Except WriteError Nat)
  | leaseExpire : Call Unit
  | snapshotEntry : Call (Except ProtocolError (Option (Stored Owner)))
  | snapshotPut (owner : Owner) : Call (Except ProtocolError Nat)
  | snapshotDelete (revision : Nat) : Call (Except WriteError Nat)
  | snapshotExpire : Call Unit
  | broadcast : Call (Except ProtocolError Unit)
  /-- What a renewal answers. -/
  | report (renewed : Except ProtocolError Bool) : Call Unit

/-- What becomes of a request to the store. -/
inductive Outcome where
  | answered
  /-- It is not carried out. -/
  | refused (message : String)
  /-- It is carried out, and the answer is lost. -/
  | lost (message : String)

structure World where
  outcome : Outcome
  /-- Writes to other keys of the store in the meantime. -/
  others : Nat

def clusterError (message : String) : ProtocolError :=
  ⟨"cluster_error", message, none⟩

def Outcome.deliver {ε α σ : Type} (failed : ProtocolError → ε) (result : Except ε α × σ)
    (before : σ) : Outcome → Except ε α × σ
  | .answered => result
  | .refused message => (.error (failed (clusterError message)), before)
  | .lost message => (.error (failed (clusterError message)), result.2)

/-- The answer to a conditional write. -/
def conditional (store : Versioned Owner) (written : Option (Versioned Owner)) :
    Except WriteError Nat × Versioned Owner :=
  match written with
  | some next => (.ok next.last, next)
  | none => (.error .changed, store)

namespace Shared

def onLease {α : Type} (shared : Shared) (result : α × Versioned Owner) : α × Shared :=
  (result.1, { shared with lease := result.2 })

def onSnapshot {α : Type} (shared : Shared) (result : α × Versioned Owner) : α × Shared :=
  (result.1, { shared with snapshot := result.2 })

end Shared

def machine : Machine Call Shared World
  | _, .leaseEntry, world, shared =>
    world.outcome.deliver id (.ok shared.lease.entry, shared) shared
  | _, .leasePut owner, world, shared =>
    let next := shared.lease.write (some owner) world.others
    world.outcome.deliver id (shared.onLease (.ok next.last, next)) shared
  | _, .leaseUpdate owner revision, world, shared =>
    world.outcome.deliver .failed (shared.onLease (conditional shared.lease
      (shared.lease.writeAt revision (some owner) world.others))) shared
  | _, .leaseCreate owner, world, shared =>
    world.outcome.deliver .failed (shared.onLease (conditional shared.lease
      (shared.lease.create owner world.others))) shared
  | _, .leaseDelete revision, world, shared =>
    world.outcome.deliver .failed (shared.onLease (conditional shared.lease
      (shared.lease.writeAt revision none world.others))) shared
  | _, .leaseExpire, _, shared => ((), { shared with lease := shared.lease.expire })
  | _, .snapshotEntry, world, shared =>
    world.outcome.deliver id (.ok shared.snapshot.entry, shared) shared
  | _, .snapshotPut owner, world, shared =>
    let next := shared.snapshot.write (some owner) world.others
    world.outcome.deliver id (shared.onSnapshot (.ok next.last, next)) shared
  | _, .snapshotDelete revision, world, shared =>
    world.outcome.deliver .failed (shared.onSnapshot (conditional shared.snapshot
      (shared.snapshot.writeAt revision none world.others))) shared
  | _, .snapshotExpire, _, shared => ((), { shared with snapshot := shared.snapshot.expire })
  | _, .broadcast, world, shared => world.outcome.deliver id (.ok (), shared) shared
  | _, .report _, _, shared => ((), shared)

abbrev Procedure := Foundation.Procedure Call ProtocolError

/-- The snapshot of the owner goes with its lease. -/
def releaseSnapshot (owner : Owner) : Procedure Unit := do
  let entry ← call .snapshotEntry
  match entry with
  | .ok (some ⟨revision, some published⟩) =>
    if published = owner then
      let _ ← call (.snapshotDelete revision)
    else return ()
  | _ => return ()

def release (owner : Owner) : Procedure Unit := do
  let entry ← call .leaseEntry
  match entry with
  | .ok (some ⟨revision, some current⟩) =>
    if current = owner then
      let deleted ← call (.leaseDelete revision)
      match deleted with
      | .ok _ => releaseSnapshot owner
      | .error _ => return ()
    else return ()
  | _ => return ()

/-- The names of the machine and its agents, one broadcast after the other. -/
def broadcastNames (owner : Owner) : Nat → Procedure Unit
  | 0 => return ()
  | names + 1 => do
    let sent ← call .broadcast
    match sent with
    | .ok _ => broadcastNames owner names
    | .error error =>
      release owner
      throw error

/-- `claim` of a machine with `agents` agents. -/
def claim (owner : Owner) (agents : Nat) : Procedure Unit := do
  let _ ← attempt (.leasePut owner)
  broadcastNames owner (agents + 1)
  let _ ← attempt (.snapshotPut owner)

/-- A write that finds the key changed is tried again. -/
def retryChanged (again : Procedure Bool) : Except WriteError Nat → Procedure Bool
  | .ok _ => return true
  | .error .changed => again
  | .error (.failed error) => throw error

def renewAttempts (serverId : String) (owner : Owner) : Nat → Procedure Bool
  | 0 =>
    throw ⟨"cluster_unavailable",
      "ownership lease for " ++ serverId ++ " kept changing; retry renewal", none⟩
  | attempts + 1 => do
    let entry ← attempt .leaseEntry
    match entry with
    | some ⟨revision, some current⟩ =>
      if current = owner then
        call (.leaseUpdate owner revision) >>= retryChanged (renewAttempts serverId owner attempts)
      else return false
    | _ => call (.leaseCreate owner) >>= retryChanged (renewAttempts serverId owner attempts)

def renew (serverId : String) (owner : Owner) : Procedure Bool :=
  renewAttempts serverId owner 3

def publishSnapshot (serverId : String) (owner : Owner) : Procedure Unit := do
  let entry ← attempt .leaseEntry
  match entry with
  | none => throw ⟨"server_offline", "server " ++ serverId ++ " has no owner", none⟩
  | some ⟨_, none⟩ => throw ⟨"cluster_decode_error", "failed to decode cluster message", none⟩
  | some ⟨_, some current⟩ =>
    if current = owner then
      let _ ← attempt (.snapshotPut owner)
    else
      throw ⟨"stale_connection", "connection for " ++ serverId ++ " is no longer current", none⟩

inductive Operation where
  | claim (owner : Owner) (agents : Nat)
  | renew (serverId : String) (owner : Owner)
  | release (owner : Owner)
  | publishSnapshot (serverId : String) (owner : Owner)
  | expireLease
  | expireSnapshot

def finish {α : Type} (procedure : Procedure α) : Program Call Unit := do
  let _ ← procedure.run
  return ()

def answering (procedure : Procedure Bool) : Program Call Unit := do
  let renewed ← procedure.run
  .perform (.report renewed)

def Operation.code : Operation → Program Call Unit
  | claim owner agents => finish (Lease.claim owner agents)
  | renew serverId owner => answering (Lease.renew serverId owner)
  | release owner => finish (Lease.release owner)
  | publishSnapshot serverId owner => finish (Lease.publishSnapshot serverId owner)
  | expireLease => .perform .leaseExpire
  | expireSnapshot => .perform .snapshotExpire

/-- The connection for which the operation is carried out. -/
def Operation.owner? : Operation → Option Owner
  | claim owner _ | renew _ owner | release owner | publishSnapshot _ owner => some owner
  | expireLease | expireSnapshot => none

abbrev Operations := Pool Call Operation Shared

def Operations.step (operations : Operations) (move : Move Operation World) : Unit × Operations :=
  Pool.step machine Operation.code (fun _ _ => true) operations move

section
variable {ε α σ : Type} {failed : ProtocolError → ε} {result : Except ε α × σ} {before : σ}

theorem deliver_state (outcome : Outcome) : (outcome.deliver failed result before).2 = before ∨
      (outcome.deliver failed result before).2 = result.2 := by
  cases outcome with
  | answered | lost => exact .inr rfl
  | refused => exact .inl rfl

/-- What is answered was carried out. -/
theorem deliver_of_ok {outcome : Outcome} {answer : α}
    (ok : (outcome.deliver failed result before).1 = .ok answer) :
    result.1 = .ok answer ∧ (outcome.deliver failed result before).2 = result.2 := by
  cases outcome with
  | answered => exact ⟨ok, rfl⟩
  | refused | lost => cases ok

end

variable {shared : Shared}

/-- The call changes the lease. -/
def Writes (shared : Shared) (world : World) {β : Type} : Call β → Versioned Owner → Prop
  | .leasePut owner, next => next = shared.lease.write (some owner) world.others
  | .leaseUpdate owner revision, next =>
    (∃ current ∈ shared.lease.entry, current.revision = revision) ∧
      next = shared.lease.write (some owner) world.others
  | .leaseCreate owner, next =>
    shared.owner? = none ∧ next = shared.lease.write (some owner) world.others
  | .leaseDelete revision, next =>
    (∃ current ∈ shared.lease.entry, current.revision = revision) ∧
      next = shared.lease.write none world.others
  | .leaseExpire, next => next = shared.lease.expire
  | _, _ => False

theorem deliver_conditional (shared : Shared) (outcome : Outcome)
    (written : Option (Versioned Owner)) :
    (outcome.deliver WriteError.failed (shared.onLease (conditional shared.lease written))
        shared).2.lease = shared.lease ∨
      written = some (outcome.deliver WriteError.failed
        (shared.onLease (conditional shared.lease written)) shared).2.lease := by
  rcases deliver_state outcome with same | done
  · left
    rw [same]
  · rw [done]
    cases written with
    | none => exact .inl rfl
    | some => exact .inr rfl

variable {β : Type}

theorem lease_machine (call : Call β) (world : World) (shared : Shared) :
    (machine call world shared).2.lease = shared.lease ∨
      Writes shared world call (machine call world shared).2.lease := by
  cases call with
  | leaseEntry | snapshotEntry | broadcast | snapshotPut _ | snapshotDelete _ =>
    left
    rcases deliver_state world.outcome with same | done
    · exact congrArg Shared.lease same
    · exact (congrArg Shared.lease done).trans rfl
  | leasePut =>
    rcases deliver_state world.outcome with same | done
    · exact .inl (congrArg Shared.lease same)
    · exact .inr (congrArg Shared.lease done)
  | leaseUpdate | leaseDelete =>
    refine (deliver_conditional shared world.outcome _).imp_right fun written => ?_
    obtain ⟨matching, next⟩ := writeAt_eq_some_iff.mp written
    exact ⟨matching, next.symm⟩
  | leaseCreate =>
    refine (deliver_conditional shared world.outcome _).imp_right fun written => ?_
    obtain ⟨free, next⟩ := create_eq_some_iff.mp written
    exact ⟨free, next.symm⟩
  | leaseExpire => exact .inr rfl
  | snapshotExpire | report => exact .inl rfl

theorem Writes.follows {world : World} {call : Call β} {next : Versioned Owner}
    (writes : Writes shared world call next) :
    shared.lease.Follows next := by
  cases call with
  | leasePut =>
    cases writes
    exact follows_write _ _ _
  | leaseUpdate _ _ | leaseCreate _ | leaseDelete _ =>
    obtain ⟨_, rfl⟩ := writes
    exact follows_write _ _ _
  | leaseExpire =>
    cases writes
    exact follows_expire _
  | _ => exact writes.elim

theorem follows_machine (call : Call β) (world : World) (shared : Shared) :
    shared.lease.Follows (machine call world shared).2.lease := by
  rcases lease_machine call world shared with same | writes
  · rw [same]
    exact Versioned.Follows.refl _
  · exact writes.follows

variable {owner : Owner}

/-- What a successful write or creation leaves. -/
theorem owner_of_written {world : World} {written : Option (Versioned Owner)} {answer : Nat}
    (writes : ∀ next, written = some next → next.value? = some owner)
    (ok : (world.outcome.deliver WriteError.failed
      (shared.onLease (conditional shared.lease written)) shared).1 = .ok answer) :
    (world.outcome.deliver WriteError.failed
      (shared.onLease (conditional shared.lease written)) shared).2.owner? = some owner := by
  obtain ⟨done, state⟩ := deliver_of_ok ok
  rw [state]
  cases written with
  | none => cases done
  | some next => exact writes next rfl

/-! ## What an operation does to the lease of another -/

namespace Operation

variable {before after : Shared} {revision : Nat}

def claims : Operation → Bool
  | claim _ _ => true
  | _ => false

def Respects (owner : Owner) (before after : Shared) : Prop :=
  ∀ other ∈ before.owner?, other ≠ owner → after.lease = before.lease

def Rely (_ : Operation) (before after : Shared) : Prop :=
  before.lease.Follows after.lease

structure Guarantee (operation : Operation) (before after : Shared) : Prop where
  /-- Only a claim replaces the lease of another connection. -/
  respects : ∀ owner ∈ operation.owner?, Respects owner before after ∨
    operation.claims = true ∧ after.owner? = some owner
  written : after.owner? = before.owner? ∨ after.owner? = none ∨ after.owner? = operation.owner?

theorem guarantee_of_same (operation : Operation)
    (same : after.lease = before.lease) : operation.Guarantee before after where
  respects _ _ := Or.inl fun _ _ _ => same
  written := Or.inl (by rw [Shared.owner?, same, Shared.owner?])

/-- An entry with this revision is one of the owner. -/
def Seen (owner : Owner) (revision : Nat) (shared : Shared) : Prop :=
  ∀ current ∈ shared.lease.entry, current.revision = revision → current.value = some owner

/-- What a read of the lease answers was there, and only a later entry has another number. -/
theorem seen_of_read {world : World}
    (read : (machine .leaseEntry world before).1 = .ok (some ⟨revision, some owner⟩))
    (follows : (machine .leaseEntry world before).2.lease.Follows after.lease) :
    Seen owner revision after := by
  obtain ⟨there, -⟩ := deliver_of_ok read
  rw [(lease_machine .leaseEntry world before).resolve_right id] at follows
  intro current found same
  rw [follows.eq_of_revision (Except.ok.inj there) found same]

/-- A call that writes nothing but the own lease or a free one. -/
def Mine (owner : Owner) (shared : Shared) {β : Type} : Call β → Prop
  | .leasePut _ | .leaseExpire => False
  | .leaseUpdate writer revision => writer = owner ∧ Seen owner revision shared
  | .leaseCreate writer => writer = owner
  | .leaseDelete revision => Seen owner revision shared
  | _ => True

theorem owner_of_seen {current : Stored Owner}
    (seen : Seen owner revision shared) (found : current ∈ shared.lease.entry)
    (same : current.revision = revision) : shared.owner? = some owner := by
  rw [Shared.owner?, value?, mem_def.mp found]
  exact seen current found same

variable {operation : Operation}

theorem guarantee_of_mine (own : operation.owner? = some owner) (call : Call β) (world : World)
    (mine : Mine owner shared call) :
    operation.Guarantee shared (machine call world shared).2 := by
  rcases lease_machine call world shared with same | writes
  · exact operation.guarantee_of_same same
  -- The lease is free or the own one, so that it is none of another connection.
  have respects : (shared.owner? = none ∨ shared.owner? = some owner) →
      ∀ owner' ∈ operation.owner?, Respects owner' shared (machine call world shared).2 := by
    intro free owner' mem other held differs
    rw [own] at mem
    cases mem
    rcases free with none | some
    · rw [none] at held
      cases held
    · rw [some] at held
      cases held
      exact absurd rfl differs
  generalize (machine call world shared).2 = after at writes respects ⊢
  obtain ⟨_, _⟩ := after
  cases call with
  | leasePut _ | leaseExpire => exact mine.elim
  | leaseUpdate =>
    obtain ⟨rfl, seen⟩ := mine
    obtain ⟨⟨current, found, same⟩, rfl⟩ := writes
    exact ⟨fun owner' mem => .inl
      (respects (Or.inr (owner_of_seen seen found same)) owner' mem), .inr (.inr own.symm)⟩
  | leaseCreate =>
    cases mine
    obtain ⟨free, rfl⟩ := writes
    exact ⟨fun owner' mem => .inl (respects (Or.inl free) owner' mem), Or.inr (.inr own.symm)⟩
  | leaseDelete =>
    obtain ⟨⟨_, found, same⟩, rfl⟩ := writes
    exact ⟨fun owner' mem => .inl
      (respects (Or.inr (owner_of_seen mine found same)) owner' mem), .inr (.inl rfl)⟩
  | _ => exact writes.elim

section
theorem rely_refl (operation : Operation) (shared : Shared) : operation.Rely shared shared :=
  Versioned.Follows.refl _

/-- A program keeps the guarantee and promises nothing about its end. -/
abbrev Safe (operation : Operation) {α : Type} (program : Program Call α) (shared : Shared) :
    Prop :=
  program.Keeps machine operation.Rely operation.Guarantee (fun _ _ => True) shared

/-- A call that is the owner's own whenever it is made. -/
def AlwaysMine (owner : Owner) {β : Type} (call : Call β) : Prop :=
  ∀ shared, Mine owner shared call

theorem safe_of_every (own : operation.owner? = some owner) {α : Type} {program : Program Call α}
    (every : program.Every (AlwaysMine owner)) : operation.Safe program shared := by
  refine Program.Keeps.of_every (fun _ _ _ => id) ?_ every trivial
  intro β call world state mine _
  exact ⟨guarantee_of_mine own call world (mine state), trivial⟩

theorem every_releaseSnapshot {condition : {β : Type} → Call β → Prop}
    (entry : condition .snapshotEntry) (delete : ∀ revision, condition (.snapshotDelete revision))
    (owner : Owner) : (releaseSnapshot owner).run.Every condition := by
  refine every_bind (every_call entry) fun entry => ?_
  split
  · split
    · exact every_bind (every_call (delete _)) fun _ => trivial
    · trivial
  · trivial

theorem safe_release (own : operation.owner? = some owner) :
    operation.Safe (Lease.release owner).run shared := by
  refine keeps_call_bind fun state world _ => ⟨guarantee_of_mine own _ world trivial, ?_⟩
  split
  · rename_i revision current answered
    split
    · rename_i mine
      subst mine
      refine keeps_call_bind fun later world' follows => ⟨?_, ?_⟩
      · exact guarantee_of_mine own _ world' (seen_of_read answered follows)
      split
      · exact safe_of_every own
          (every_releaseSnapshot (fun _ => trivial) (fun _ _ => trivial) current)
      · exact .done trivial
    · exact .done trivial
  · exact .done trivial

theorem safe_broadcastNames (own : operation.owner? = some owner) (names : Nat) :
    operation.Safe (broadcastNames owner names).run shared := by
  induction names generalizing shared with
  | zero => exact .done trivial
  | succ names ih =>
    refine keeps_call_bind fun state world _ => ⟨guarantee_of_mine own _ world trivial, ?_⟩
    split
    · exact ih
    · exact keeps_bind (safe_release own) (fun _ _ _ => trivial) fun _ _ _ => .done trivial

theorem safe_claim (owner : Owner) (agents : Nat) :
    (claim owner agents).Safe (Lease.claim owner agents).run shared := by
  refine keeps_attempt_bind ?_ (fun _ _ _ _ _ => trivial) ?_
  · intro state world _
    rcases lease_machine (.leasePut owner) world state with same | writes
    · exact guarantee_of_same _ same
    generalize (machine (.leasePut owner) world state).2 = after at writes ⊢
    obtain ⟨_, _⟩ := after
    cases writes
    refine ⟨?_, .inr (.inr rfl)⟩
    intro owner' mem
    cases mem
    exact .inr ⟨rfl, rfl⟩
  · intro state world _ _ _
    refine keeps_bind (safe_broadcastNames rfl _) (fun _ _ _ => trivial) fun _ _ _ => ?_
    refine safe_of_every rfl ?_
    exact every_bind (every_attempt fun _ => trivial) fun _ => trivial

theorem safe_retryChanged {again : Procedure Bool}
    (safe : ∀ shared, operation.Safe again.run shared)
    (answer : Except WriteError Nat) : operation.Safe (retryChanged again answer).run shared := by
  unfold retryChanged
  split
  · exact .done trivial
  · exact safe shared
  · exact .done trivial

theorem safe_renewAttempts (own : operation.owner? = some owner) (serverId : String)
    (attempts : Nat) (shared : Shared) :
    operation.Safe (renewAttempts serverId owner attempts).run shared := by
  induction attempts generalizing shared with
  | zero => exact .done trivial
  | succ attempts ih =>
    refine keeps_attempt_bind (fun _ world _ => guarantee_of_mine own _ world trivial)
      (fun _ _ _ _ _ => trivial) ?_
    intro state world entry _ read
    split
    · split
      · rename_i mine
        subst mine
        refine keeps_call_bind fun later world' follows => ⟨?_, safe_retryChanged ih _⟩
        exact guarantee_of_mine own _ world' ⟨rfl, seen_of_read read follows⟩
      · exact .done trivial
    · exact keeps_call_bind fun later world' _ =>
        ⟨guarantee_of_mine own _ world' rfl, safe_retryChanged ih _⟩

theorem safe_publishSnapshot (own : operation.owner? = some owner) (serverId : String) :
    operation.Safe (Lease.publishSnapshot serverId owner).run shared := by
  refine safe_of_every own ?_
  refine every_bind (every_attempt fun _ => trivial) fun entry => ?_
  split
  · trivial
  · trivial
  split
  · exact every_bind (every_attempt fun _ => trivial) fun _ => trivial
  · trivial

end

theorem safe_code (operation : Operation) (shared : Shared) :
    operation.Safe operation.code shared := by
  cases operation with
  | claim owner agents => exact (safe_claim owner agents).bind fun _ _ _ => .done trivial
  | renew serverId =>
    refine (safe_renewAttempts rfl serverId 3 shared).bind fun renewed _ _ => ?_
    exact keeps_perform fun state world _ => ⟨guarantee_of_same _ rfl, trivial⟩
  | release => exact (safe_release rfl).bind fun _ _ _ => .done trivial
  | publishSnapshot serverId =>
    exact (safe_publishSnapshot rfl serverId).bind fun _ _ _ => .done trivial
  | expireLease =>
    refine keeps_perform fun state world _ => ⟨⟨?_, ?_⟩, trivial⟩
    · intro owner mem
      cases mem
    · exact .inr (.inl rfl)
  | expireSnapshot =>
    exact keeps_perform fun state world _ => ⟨guarantee_of_same _ rfl, trivial⟩

end Operation

/-- The connection that the call makes the owner, whatever the lease says. -/
def Call.puts {β : Type} : Call β → Option Owner
  | .leasePut owner => some owner
  | _ => none

def Call.updates {β : Type} : Call β → Bool
  | .leaseUpdate _ _ => true
  | _ => false

/-- A call that is no conditional write of the lease with a value. -/
abbrev Call.Blunt {β : Type} (call : Call β) : Prop :=
  call.updates = false

theorem blunt_release (owner : Owner) : (release owner).run.Every Call.Blunt := by
  refine every_bind (every_call rfl) fun entry => ?_
  split
  · split
    · refine every_bind (every_call rfl) fun deleted => ?_
      split
      · exact Operation.every_releaseSnapshot rfl (fun _ => rfl) owner
      · trivial
    · trivial
  · trivial

theorem blunt_broadcastNames (owner : Owner) (names : Nat) :
    (broadcastNames owner names).run.Every Call.Blunt := by
  induction names with
  | zero => trivial
  | succ names ih =>
    refine every_bind (every_call rfl) fun sent => ?_
    split
    · exact ih
    · exact every_bind (blunt_release owner) fun _ => trivial

theorem blunt_claim (owner : Owner) (agents : Nat) : (claim owner agents).run.Every Call.Blunt := by
  refine every_bind (every_attempt rfl) fun _ => ?_
  refine every_bind (blunt_broadcastNames owner _) fun _ => ?_
  exact every_bind (every_attempt rfl) fun _ => trivial

/-! ## What a renewal answers -/

/-- A renewal is about to answer. -/
def Call.answers (renewed : Bool) {β : Type} : Call β → Bool
  | .report (.ok answer) => answer == renewed
  | _ => false

def answersNext (renewed : Bool) : Program Call Unit → Bool
  | .call instruction _ => instruction.answers renewed
  | .done _ => false

def Call.reads {β : Type} : Call β → Bool
  | .leaseEntry => true
  | _ => false

def readsNext : Program Call Unit → Bool
  | .call instruction _ => instruction.reads
  | .done _ => false

/-- The places in a renewal at which others can come between. -/
inductive RenewPoint where
  | reading (attempts : Nat)
  | updating (attempts revision : Nat)
  | creating (attempts : Nat)
  | reporting (renewed : Except ProtocolError Bool)
  | finished

namespace RenewPoint

variable (serverId : String) (owner : Owner) {point : RenewPoint}

/-- What is left of the renewal. -/
def rest : RenewPoint → Program Call Unit
  | reading attempts => answering (renewAttempts serverId owner attempts)
  | updating attempts revision => .call (.leaseUpdate owner revision) fun answer =>
    answering (retryChanged (renewAttempts serverId owner attempts) answer)
  | creating attempts => .call (.leaseCreate owner) fun answer =>
    answering (retryChanged (renewAttempts serverId owner attempts) answer)
  | reporting renewed => .perform (.report renewed)
  | finished => .done ()

variable (attempts : Nat)

/-- Where a read leads. -/
def afterRead : Except ProtocolError (Option (Stored Owner)) → RenewPoint
  | .error error => reporting (.error error)
  | .ok (some ⟨revision, some current⟩) =>
    if current = owner then updating attempts revision else reporting (.ok false)
  | .ok _ => creating attempts

/-- Where a conditional write leads. -/
def afterWrite : Except WriteError Nat → RenewPoint
  | .ok _ => reporting (.ok true)
  | .error .changed => reading attempts
  | .error (.failed error) => reporting (.error error)

theorem rest_reading_succ : (reading (attempts + 1)).rest serverId owner =
      .call .leaseEntry fun answer => (afterRead owner attempts answer).rest serverId owner := by
  change call _ _ = call _ _
  congr 1
  funext answer
  rcases answer with _ | _ | ⟨_, _ | current⟩
  · rfl
  · rfl
  · rfl
  change answering (if current = owner then _ else _) =
    (if current = owner then _ else _ : RenewPoint).rest serverId owner
  split <;> rfl

theorem answering_retryChanged (answer : Except WriteError Nat) :
    answering (retryChanged (renewAttempts serverId owner attempts) answer) =
      (afterWrite attempts answer).rest serverId owner := by
  rcases answer with (_ | _) | _
  · rfl
  · rfl
  · rfl

variable {serverId owner}

theorem answersNext_rest {renewed : Bool}
    (answers : answersNext renewed (point.rest serverId owner) = true) :
    point = reporting (.ok renewed) := by
  cases point with
  | reading attempts =>
    cases attempts with
    | zero | succ => cases answers
  | updating | creating | finished => cases answers
  | reporting outcome =>
    cases outcome with
    | error => cases answers
    | ok answer => rw [show answer = renewed from beq_iff_eq.mp answers]

theorem ok_of_afterWrite {attempts : Nat} {answer : Except WriteError Nat}
    (reports : afterWrite attempts answer = reporting (.ok true)) :
    ∃ revision, answer = .ok revision := by
  rcases answer with (_ | _) | revision
  · cases reports
  · cases reports
  · exact ⟨revision, rfl⟩

/-- One step of a renewal: it goes on, answers true only when the lease is its own, and answers
false when it reads that of another connection. -/
theorem step {call : Call β} {next : β → Program Call Unit}
    (here : point.rest serverId owner = .call call next) (world : World) (shared : Shared) :
    ∃ later : RenewPoint,
      next (machine call world shared).1 = later.rest serverId owner ∧
      (later = reporting (.ok true) → (machine call world shared).2.owner? = some owner) ∧
      (call.reads = true → world.outcome = .answered →
        ∀ other ∈ shared.owner?, other ≠ owner → later = reporting (.ok false)) := by
  cases point with
  | reading attempts =>
    cases attempts with
    | zero =>
      cases here
      exact ⟨finished, rfl, nofun, nofun⟩
    | succ attempts =>
      rw [rest_reading_succ] at here
      cases here
      refine ⟨afterRead owner attempts (machine .leaseEntry world shared).1, rfl, ?_, ?_⟩
      · intro reports
        revert reports
        rcases (machine .leaseEntry world shared).1 with _ | _ | ⟨revision, _ | _⟩
        · exact nofun
        · exact nofun
        · exact nofun
        · simp only [afterRead]
          split <;> exact nofun
      · intro _ answered other held differs
        have read : (machine .leaseEntry world shared).1 = .ok shared.lease.entry := by
          simp only [machine, answered, Outcome.deliver]
        obtain ⟨⟨_, _⟩, found, rfl⟩ := bind_eq_some_iff.mp held
        rw [read, found]
        simp only [afterRead, if_neg differs]
  | updating =>
    cases here
    refine ⟨_, answering_retryChanged serverId owner _ _, ?_, nofun⟩
    intro reports
    obtain ⟨written, ok⟩ := ok_of_afterWrite reports
    refine owner_of_written ?_ ok
    intro next matched
    obtain ⟨_, rfl⟩ := writeAt_eq_some_iff.mp matched
    rfl
  | creating =>
    cases here
    refine ⟨_, answering_retryChanged serverId owner _ _, ?_, nofun⟩
    intro reports
    obtain ⟨_, ok⟩ := ok_of_afterWrite reports
    refine owner_of_written ?_ ok
    intro next created
    obtain ⟨_, rfl⟩ := create_eq_some_iff.mp created
    rfl
  | reporting =>
    cases here
    exact ⟨finished, rfl, nofun, nofun⟩
  | finished => cases here

end RenewPoint

/-! ## Runs -/

namespace Operations

variable {operations : Operations}

/-- Every operation keeps its guarantee, and every renewal is at one of its points. -/
structure Sound (operations : Operations) : Prop where
  keeps : operations.AllKeep machine Operation.Rely Operation.Guarantee
  points : ∀ task ∈ operations.tasks, ∀ serverId owner, task.label = .renew serverId owner →
    ∃ point : RenewPoint, task.rest = point.rest serverId owner
  blunt : ∀ task ∈ operations.tasks, task.label.claims = true → task.rest.Every Call.Blunt

theorem sound_init (shared : Shared) : Sound (init shared) where
  keeps := fun _ mem => absurd mem not_mem_nil
  points := fun _ mem => absurd mem not_mem_nil
  blunt := fun _ mem => absurd mem not_mem_nil

theorem sound_step (operations : Operations) (move : Move Operation World)
    (sound : operations.Sound) : (operations.step move).2.Sound := by
  constructor
  · cases move with
    | start operation => exact sound.keeps.start (operation.safe_code operations.shared)
    | advance place world =>
      rcases advance_cases operations place with idle | ⟨operation, β, call, next, task⟩
      · change (advance machine operations place world).AllKeep _ _ _
        rw [idle world]
        exact sound.keeps
      · exact sound.keeps.advance Operation.rely_refl Versioned.Follows.trans task world
          fun _ _ _ _ _ => follows_machine call world operations.shared
  · apply forall_tasks_step sound.points
    · rintro operation rfl serverId owner rfl
      exact ⟨.reading 3, rfl⟩
    · rintro place world operation β call next rfl task serverId owner rfl
      obtain ⟨_, here⟩ := sound.points _ (mem_of_getElem? task) serverId owner rfl
      obtain ⟨later, same, _⟩ := RenewPoint.step here.symm world operations.shared
      exact ⟨later, same⟩
  · apply forall_tasks_step sound.blunt
    · rintro operation rfl claims
      cases operation with
      | claim owner agents => exact (blunt_claim owner agents).bind fun _ => trivial
      | _ => cases claims
    · intro place world operation β call next _ task claims
      exact (sound.blunt _ (mem_of_getElem? task) claims).2 _

/-- Only a claim takes the lease of another connection, and a renewal answers true only when
the lease is its own. -/
def LeaseKept (operations : Operations) : Move Operation World → Prop
  | .start _ => True
  | .advance place world =>
    ∀ task ∈ operations.tasks[place]?, ∀ owner ∈ task.label.owner?,
      (Operation.Respects owner operations.shared
          (operations.step (.advance place world)).2.shared ∨
        task.label.claims = true ∧
          (operations.step (.advance place world)).2.shared.owner? = some owner) ∧
      ∀ serverId, task.label = .renew serverId owner →
        ∀ later ∈ (operations.step (.advance place world)).2.tasks[place]?,
          answersNext true later.rest = true →
            (operations.step (.advance place world)).2.shared.owner? = some owner

/-- A renewal for the connection does not answer true, and answers false when it can read. -/
def Refused (owner : Owner) (operations : Operations) : Move Operation World → Prop
  | .start _ => True
  | .advance place world =>
    ∀ task ∈ operations.tasks[place]?, ∀ serverId, task.label = .renew serverId owner →
      ∀ later ∈ (operations.step (.advance place world)).2.tasks[place]?,
        answersNext true later.rest = false ∧
          (readsNext task.rest = true → world.outcome = .answered →
            answersNext false later.rest = true)

/-- The lease is not released and does not expire, and the connection does not claim it. -/
def Held (owner : Owner) (operations : Operations) (move : Move Operation World) : Prop :=
  (operations.step move).2.shared.owner?.isSome = true ∧
    operations.Makes (fun call => call.puts ≠ some owner) move
deriving Decidable

theorem leaseKept_of_sound (operations : Operations) (move : Move Operation World)
    (sound : operations.Sound) : operations.LeaseKept move := by
  cases move with
  | start => trivial
  | advance place world =>
    rintro ⟨_, _⟩ found owner own
    rcases advance_of_found machine found world with
      ⟨ended, idle⟩ | ⟨β, call, next, goesOn, advanced⟩
    · change (operations.step (.advance place world)).2 = operations at idle
      rw [idle]
      refine ⟨.inl fun _ _ _ => rfl, ?_⟩
      intro serverId _ later same answers
      cases found.symm.trans same
      rw [ended] at answers
      cases answers
    · change (operations.step (.advance place world)).2 = _ at advanced
      rw [advanced]
      cases goesOn
      refine ⟨(sound.keeps.within_guarantee Operation.rely_refl found world).respects owner own, ?_⟩
      rintro serverId rfl _ same answers
      obtain ⟨_, here⟩ := sound.points _ (mem_of_getElem? found) serverId owner rfl
      obtain ⟨_, reached, true, _⟩ := RenewPoint.step here.symm world operations.shared
      rw [List.getElem?_set_self (List.getElem?_eq_some_iff.mp found).1] at same
      cases same
      rw [reached] at answers
      exact true (RenewPoint.answersNext_rest answers)

/-- A call that changes the lease of another connection and makes its own the owner is a
claim or a conditional write. -/
theorem not_taken_over (call : Call β) (world : World)
    (changed : (machine call world shared).2.lease ≠ shared.lease) {other : Owner}
    (before : shared.owner? = some other)
    (after : (machine call world shared).2.owner? = some owner)
    (unclaimed : call.puts ≠ some owner) (blunt : call.Blunt) : False := by
  have writes := (lease_machine call world shared).resolve_left changed
  generalize (machine call world shared).2 = next at writes after
  obtain ⟨_, _⟩ := next
  cases call with
  | leasePut =>
    cases writes
    exact unclaimed after
  | leaseUpdate => cases blunt
  | leaseCreate =>
    rw [writes.1] at before
    cases before
  | leaseDelete =>
    obtain ⟨_, rfl⟩ := writes
    cases after
  | leaseExpire =>
    cases writes
    cases after
  | _ => exact writes

variable {move : Move Operation World}

section
variable (sound : operations.Sound)
  (held : ∃ other, operations.shared.owner? = some other ∧ other ≠ owner)
  (stays : Held owner operations move)
include sound held stays

/-- No step makes a connection the owner of a lease that another one holds, without a claim. -/
theorem owner_ne_of_held :
    ∃ other, (operations.step move).2.shared.owner? = some other ∧ other ≠ owner := by
  obtain ⟨next, present⟩ := isSome_iff_exists.mp stays.1
  refine ⟨next, present, ?_⟩
  rintro rfl
  obtain ⟨other, before, differs⟩ := held
  rw [step] at present
  rcases shared_cases operations move with
    same | ⟨place, world, operation, _, call, _, rfl, task, made⟩
  · rw [same, before] at present
    exact differs (some.inj present)
  rw [made] at present
  have guarantee := sound.keeps.within_guarantee Operation.rely_refl task world
  have changed : (machine call world operations.shared).2.lease ≠ operations.shared.lease := by
    intro same
    rw [Shared.owner?, same, ← Shared.owner?, before] at present
    exact differs (some.inj present)
  have own : operation.owner? = some next := by
    rcases guarantee.written with same | none | own
    · rw [same, before] at present
      exact absurd (some.inj present) differs
    · rw [none] at present
      cases present
    · rw [← own, present]
  rcases guarantee.respects next own with respects | ⟨claims, _⟩
  · exact changed (respects other before differs)
  · have blunt := (sound.blunt _ (mem_of_getElem? task) claims).1
    exact not_taken_over call world changed before present (stays.2 _ task) blunt

theorem refused_of_held : Refused owner operations move := by
  obtain ⟨_, present, differsAfter⟩ := owner_ne_of_held sound held stays
  obtain ⟨other, before, differs⟩ := held
  cases move with
  | start => trivial
  | advance place world =>
    rintro ⟨_, _⟩ found serverId rfl _ same
    rcases advance_of_found machine found world with
      ⟨ended, idle⟩ | ⟨β, call, following, goesOn, advanced⟩
    · change (operations.step (.advance place world)).2 = operations at idle
      rw [idle, found] at same
      cases same
      cases ended
      exact ⟨rfl, nofun⟩
    · change (operations.step (.advance place world)).2 = _ at advanced
      rw [advanced] at same present
      cases goesOn
      obtain ⟨_, here⟩ := sound.points _ (mem_of_getElem? found) serverId owner rfl
      obtain ⟨_, reached, answersTrue, answersFalse⟩ :=
        RenewPoint.step here.symm world operations.shared
      rw [List.getElem?_set_self (List.getElem?_eq_some_iff.mp found).1] at same
      cases same
      rw [reached]
      refine ⟨?_, ?_⟩
      · rw [Bool.eq_false_iff]
        intro answers
        have mine := answersTrue (RenewPoint.answersNext_rest answers)
        rw [present] at mine
        exact differsAfter (some.inj mine)
      · intro reads answered
        rw [answersFalse reads answered other before differs]
        rfl

end

structure HeldByOther (owner : Owner) (operations : Operations) : Prop where
  sound : operations.Sound
  held : ∃ other, operations.shared.owner? = some other ∧ other ≠ owner

/-- Leases change hands only by claim. Renewals and releases leave the lease of another connection
alone, a renewal answers true only when the lease is its own then, and while others hold the lease
the renewals of a connection that does not claim it are refused. -/
theorem leases_change_hands_only_by_claim (shared : Shared) (moves : List (Move Operation World)) :
    AllSteps step LeaseKept (init shared) moves ∧
      ∀ earlier later owner other, moves = earlier ++ later →
        (exec step (init shared) earlier).shared.owner? = some other → other ≠ owner →
        AllSteps step (Held owner) (exec step (init shared) earlier) later →
          AllSteps step (Refused owner) (exec step (init shared) earlier) later := by
  constructor
  · exact AllSteps.of_invariant sound_step leaseKept_of_sound (sound_init shared) moves
  intro earlier later owner other _ held differs stays
  have start : HeldByOther owner (exec step (init shared) earlier) :=
    ⟨exec_invariant sound_step (sound_init shared) earlier, other, held, differs⟩
  refine AllSteps.mono ?_ ?_ start stays
  · intro operations move before stays
    exact ⟨sound_step operations move before.sound, owner_ne_of_held before.sound before.held stays⟩
  · intro operations move before stays
    exact refused_of_held before.sound before.held stays

end Operations

namespace Sample

def first : Owner := ⟨"proxy-1", "c1"⟩

def second : Owner := ⟨"proxy-2", "c2"⟩

def world : World := ⟨.answered, 0⟩

def unowned : Shared := ⟨.empty, .empty⟩

/-- The second connection claims the machine after the first one has read its own lease. -/
def takenOver : List (Move Operation World) :=
  .start (.claim first 0) :: List.replicate 3 (.advance 0 world) ++
    [.start (.renew "srv_1" first), .advance 1 world, .start (.claim second 0), .advance 2 world]

/-- The renewal finds the lease changed and reads it again. -/
def renewed : List (Move Operation World) :=
  List.replicate 3 (.advance 1 world)

end Sample

open Proxy.Lease.Sample

theorem replaced_connection_is_refused : AllSteps Operations.step (Operations.Refused first)
      (exec Operations.step (init unowned) takenOver) renewed :=
  (Operations.leases_change_hands_only_by_claim unowned
    (takenOver ++ renewed)).2 takenOver renewed first
    second rfl (by decide +kernel) (by decide) (by decide +kernel)

end Treer.Proxy.Lease
