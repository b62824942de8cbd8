import Mathlib.Data.List.Sort
import Treer.Foundation.Outcome
import Treer.Foundation.Run
import Treer.Foundation.Table
import Treer.Protocol.Workload

/-!
# Members of an organization

The operations on the members of one organization are transactions under `READ COMMITTED`:
the statements of one can come between those of another. `lock_member_roles` waits until
nobody else has locked one of the rows that were there when it began, and returns them as they
are then. Nobody else changes a locked row until the transaction ends, so what was decided on
the locked rows still holds at the commit. The role of an actor who changes another role, or
removes a member, was read before that.
-/

namespace Treer.Auth

open Foundation Protocol KeyedMap List Except

/-- The role of a member. -/
inductive Role where
  | owner
  | admin
  | member
  deriving DecidableEq

def Role.parse : String → Option Role
  | "owner" => some .owner
  | "admin" => some .admin
  | "member" => some .member
  | _ => none

inductive AdminActor where
  | user (userId : String)
  /-- An Agent, with the answer to whether its scope allows the call. -/
  | agent (scope : Except ProtocolError Unit)

/-- A request on the members. -/
inductive Operation where
  | leaveOrganization (userId : String)
  | transferOrganization (userId targetUserId : String)
  | updateMemberRoleAs (actor : AdminActor) (targetUserId role : String)
  | removeMemberAs (actor : AdminActor) (targetUserId : String)
  /-- With the role that the invitation gives. -/
  | acceptInvitation (userId : String) (role : Role)

def accessDenied : ProtocolError :=
  ⟨"organization_access_denied", "you are not a member of this organization", none⟩

def ownerRequired : ProtocolError :=
  ⟨"organization_owner_required", "organization owner access required", none⟩

def invalidMemberRole : ProtocolError :=
  ⟨"invalid_member_role", "member role must be owner, admin or member", none⟩

def memberNotFound : ProtocolError :=
  ⟨"member_not_found", "member does not exist", none⟩

def lastOwner : ProtocolError :=
  ⟨"last_owner", "an organization must keep at least one owner", none⟩

/-- `ok_or_else`. -/
def required {α : Type} (error : ProtocolError) : Option α → Except ProtocolError α
  | some value => .ok value
  | none => .error error

@[simp]
theorem required_eq_ok_iff {α : Type} {error : ProtocolError} {found : Option α} {value : α} :
    required error found = .ok value ↔ found = some value := by
  cases found <;> simp [required]

/-- The role of the actor; an Agent has none. -/
def requireMemberAs (members : KeyedMap String Role) :
    AdminActor → Except ProtocolError (Option Role)
  | .user userId => (required accessDenied (members.get? userId)).map some
  | .agent scope => scope.map fun _ => none

def requireManagerAs (members : KeyedMap String Role) (actor : AdminActor) :
    Except ProtocolError (Option Role) := do
  let role ← requireMemberAs members actor
  refuse (role == some .member)
    ⟨"organization_manager_required", "organization owner or administrator access required", none⟩
  .ok role

def requireOwnerAs (members : KeyedMap String Role) (actor : AdminActor) :
    Except ProtocolError (Option Role) := do
  let role ← requireMemberAs members actor
  refuse (role == some .admin || role == some .member) ownerRequired
  .ok role

/-- What is checked before the transaction begins. -/
def Operation.authorize (members : KeyedMap String Role) :
    Operation → Except ProtocolError (Option Role)
  | .updateMemberRoleAs actor _ role => do
    let actorRole ← requireOwnerAs members actor
    refuse (Role.parse role).isNone invalidMemberRole
    .ok actorRole
  | .removeMemberAs actor _ => requireManagerAs members actor
  | _ => .ok none

/-- A statement that writes a row of the members. -/
inductive Write where
  | update (userId : String) (role : Role)
  | delete (userId : String)
  /-- `ON CONFLICT DO NOTHING`. -/
  | insert (userId : String) (role : Role)

def Write.userId : Write → String
  | .update userId _ | .delete userId | .insert userId _ => userId

def Write.apply (members : KeyedMap String Role) : Write → KeyedMap String Role
  | .update userId role =>
    if (members.get? userId).isSome then members.insert userId role else members
  | .delete userId => members.erase userId
  | .insert userId role =>
    if (members.get? userId).isSome then members else members.insert userId role

def ownerCount (roles : List (String × Role)) : Nat :=
  roles.countP (·.2 == .owner)

/-- What an operation decides on the rows that it has locked. -/
def Operation.writes (actorRole : Option Role) (roles : List (String × Role)) :
    Operation → Except ProtocolError (List Write)
  | .leaveOrganization userId => do
    let role ← required accessDenied (roles.lookup userId)
    refuse (role == .owner && ownerCount roles ≤ 1) lastOwner
    .ok [.delete userId]
  | .transferOrganization userId targetUserId => do
    let role ← required accessDenied (roles.lookup userId)
    refuse (role != .owner) ownerRequired
    refuse (targetUserId == userId)
      ⟨"invalid_transfer_target", "choose another member to receive ownership", none⟩
    let _ ← required memberNotFound (roles.lookup targetUserId)
    .ok [.update targetUserId .owner, .update userId .admin]
  | .updateMemberRoleAs _ targetUserId role => do
    let role ← required invalidMemberRole (Role.parse role)
    let oldRole ← required memberNotFound (roles.lookup targetUserId)
    refuse (oldRole == .owner && role != .owner && ownerCount roles ≤ 1) lastOwner
    .ok [.update targetUserId role]
  | .removeMemberAs _ targetUserId => do
    let targetRole ← required memberNotFound (roles.lookup targetUserId)
    refuse (targetRole == .owner && actorRole == some .admin)
      ⟨"owner_cannot_be_removed", "only an organization owner can remove an owner", none⟩
    refuse (targetRole == .owner && ownerCount roles ≤ 1) lastOwner
    .ok [.delete targetUserId]
  | .acceptInvitation userId role => .ok [.insert userId role]

inductive Phase where
  | idle
  | authorized
  /-- `lock_member_roles` waits for the rows. -/
  | selected (rows : List String)
  /-- Nobody sees the writes before the commit. -/
  | decided (writes : List Write)

/-- A request while it runs. -/
structure Transaction where
  operation : Operation
  actorRole : Option Role
  phase : Phase
  /-- The rows that are locked, as they were read. -/
  roles : List (String × Role)

/-- The members and transactions. -/
structure Organization where
  /-- The committed rows. -/
  members : KeyedMap String Role
  locks : String → Option Nat
  transactions : Nat → Transaction

inductive Action where
  | authorize (place : Nat) (operation : Operation)
  | select (place : Nat)
  | lock (place : Nat)
  | commit (place : Nat)
  | rollback (place : Nat)

namespace Organization

def start (members : KeyedMap String Role) : Organization where
  members
  locks _ := none
  transactions _ := ⟨.leaveOrganization "", none, .idle, []⟩

variable (state : Organization)

def set (place : Nat) (transaction : Transaction) : Organization :=
  { state with transactions := Function.update state.transactions place transaction }

/-- The transaction ends, and its locks with it. -/
def finish (place : Nat) : Organization :=
  { state.set place ⟨.leaveOrganization "", none, .idle, []⟩ with
    locks := fun userId => if state.locks userId = some place then none else state.locks userId }

/-- The rows that `lock_member_roles` sees. -/
def rowsToLock (members : KeyedMap String Role) : Operation → List String
  | .acceptInvitation _ _ => []
  | _ => (members.rows.map (·.1)).insertionSort (· ≤ ·)

/-- The operation is the outcome of its commit. -/
def step : Action → Option Operation × Organization
  | .authorize place operation =>
    match (state.transactions place).phase, operation.authorize state.members with
    | .idle, .ok actorRole => (none, state.set place ⟨operation, actorRole, .authorized, []⟩)
    | _, _ => (none, state)
  | .select place =>
    let transaction := state.transactions place
    match transaction.phase with
    | .authorized =>
      let rows := rowsToLock state.members transaction.operation
      (none, state.set place { transaction with phase := .selected rows })
    | _ => (none, state)
  | .lock place =>
    let transaction := state.transactions place
    match transaction.phase with
    | .selected rows =>
      if ∀ userId ∈ rows, state.locks userId = none then
        -- A row that was deleted meanwhile is passed over.
        let roles := rows.filterMap fun userId => (state.members.get? userId).map (userId, ·)
        match transaction.operation.writes transaction.actorRole roles with
        | .ok writes =>
          (none, { state.set place { transaction with phase := .decided writes, roles } with
            locks := fun userId => if userId ∈ rows then some place else state.locks userId })
        | .error _ => (none, state.finish place)
      else (none, state)
    | _ => (none, state)
  | .commit place =>
    match (state.transactions place).phase with
    | .decided writes =>
      (some (state.transactions place).operation,
        { state with members := writes.foldl Write.apply state.members }.finish place)
    | _ => (none, state)
  | .rollback place => (none, state.finish place)

end Organization

/-- The row of its user after a write. -/
def Write.value : Write → Option Role → Option Role
  | .update _ role, old => old.map fun _ => role
  | .delete _, _ => none
  | .insert _ role, old => some (old.getD role)

theorem Write.get?_apply (members : KeyedMap String Role) (write : Write) (userId : String) :
    (write.apply members).get? userId =
      if userId = write.userId then write.value (members.get? userId)
      else members.get? userId := by
  cases write with
  | delete removed => exact get?_erase members removed userId
  | update changed role | insert changed role =>
    cases found : members.get? changed with
    | none => grind [Write.apply, Write.userId, Write.value, get?_insert]
    | some => grind [Write.apply, Write.userId, Write.value, get?_insert]

variable {operation : Operation} {writes : List Write} {members : KeyedMap String Role}
  {roles : List (String × Role)}

section
variable {actorRole : Option Role} {userId : String} {role : Role}

theorem get?_foldl_of_forall_ne (untouched : ∀ write ∈ writes, write.userId ≠ userId) :
    (writes.foldl Write.apply members).get? userId = members.get? userId := by
  induction writes generalizing members with
  | nil => rfl
  | cons write rest ih =>
    rw [forall_mem_cons] at untouched
    rw [foldl_cons, ih untouched.2, Write.get?_apply, if_neg untouched.1.symm]

/-- What an operation has decided to write, with the locked rows that it rests on. -/
inductive Decision (roles : List (String × Role)) : List Write → Prop where
  | joined (userId : String) (role : Role) : Decision roles [.insert userId role]
  | transferred {userId targetUserId role} (own : (userId, .owner) ∈ roles)
      (target : (targetUserId, role) ∈ roles) (different : targetUserId ≠ userId) :
      Decision roles [.update targetUserId .owner, .update userId .admin]
  | changed {write role} (found : (write.userId, role) ∈ roles)
      (several : role = .owner → write.value (some role) ≠ some .owner → 1 < ownerCount roles) :
      Decision roles [write]

theorem mem_of_lookup (found : roles.lookup userId = some role) : (userId, role) ∈ roles := by
  obtain ⟨_, _, rfl, _⟩ := lookup_eq_some_iff.mp found
  simp

theorem Operation.decision (decided : operation.writes actorRole roles = .ok writes) :
    Decision roles writes := by
  cases operation with
  | acceptInvitation userId role =>
    cases decided
    exact .joined userId role
  | leaveOrganization =>
    simp only [Operation.writes, bind_eq_ok_iff, required_eq_ok_iff, ok.injEq] at decided
    obtain ⟨role, own, _, last, rfl⟩ := decided
    refine .changed (mem_of_lookup own) ?_
    rintro rfl _
    simpa using last
  | transferOrganization =>
    simp only [Operation.writes, bind_eq_ok_iff, required_eq_ok_iff, ok.injEq] at decided
    obtain ⟨role, own, _, isOwner, _, different, _, target, rfl⟩ := decided
    simp only [refuse_eq_ok_iff, bne_eq_false_iff_eq, beq_eq_false_iff_ne] at isOwner different
    exact .transferred (isOwner ▸ mem_of_lookup own) (mem_of_lookup target) different
  | updateMemberRoleAs =>
    simp only [Operation.writes, bind_eq_ok_iff, required_eq_ok_iff, ok.injEq] at decided
    obtain ⟨role, _, _, target, _, last, rfl⟩ := decided
    refine .changed (mem_of_lookup target) ?_
    rintro rfl demoted
    have other : role ≠ .owner := by simpa [Write.value] using demoted
    simpa [other] using last
  | removeMemberAs =>
    simp only [Operation.writes, bind_eq_ok_iff, required_eq_ok_iff, ok.injEq] at decided
    obtain ⟨_, target, _, _, _, last, rfl⟩ := decided
    refine .changed (mem_of_lookup target) ?_
    rintro rfl _
    simpa using last

/-- A member whose row another transaction has locked stays as it is. -/
theorem Decision.get?_foldl (decision : Decision roles writes)
    (unlocked : ∀ row ∈ roles, row.1 ≠ userId) (found : members.get? userId = some role) :
    (writes.foldl Write.apply members).get? userId = some role := by
  cases decision with
  | joined => grind [Write.get?_apply, Write.value]
  | transferred own target =>
    rw [get?_foldl_of_forall_ne, found]
    simpa using ⟨unlocked _ target, unlocked _ own⟩
  | changed locked =>
    rw [get?_foldl_of_forall_ne, found]
    simpa using unlocked _ locked

/-- Of two owners one is another than a given user. -/
theorem exists_other_owner (distinct : (roles.map (·.1)).Nodup) (several : 1 < ownerCount roles)
    (userId : String) : ∃ row ∈ roles, row.2 = .owner ∧ row.1 ≠ userId := by
  by_contra none
  push Not at none
  have once : ((roles.filter (·.2 == .owner)).map (·.1)).Nodup :=
    distinct.sublist (filter_sublist.map _)
  have only : (roles.filter (·.2 == .owner)).map (·.1) ⊆ [userId] := by
    intro name mem
    simp only [mem_map, mem_filter, beq_iff_eq] at mem
    obtain ⟨row, ⟨rowMem, owns⟩, rfl⟩ := mem
    exact mem_singleton.mpr (none row rowMem owns)
  have few := (subperm_of_subset once only).length_le
  rw [length_map, ← countP_eq_length_filter] at few
  exact Nat.not_lt.mpr few several

/-- The locked rows still say at the commit that an owner is left. -/
theorem Decision.keeps_owner (decision : Decision roles writes) (distinct : (roles.map (·.1)).Nodup)
    (locked : ∀ row ∈ roles, members.get? row.1 = some row.2)
    (owned : ∃ userId, members.get? userId = some .owner) :
    ∃ userId, (writes.foldl Write.apply members).get? userId = some .owner := by
  obtain ⟨owner, _⟩ := owned
  cases decision with
  | joined =>
    refine ⟨owner, ?_⟩
    grind [Write.get?_apply, Write.value]
  | @transferred userId targetUserId role own target different =>
    refine ⟨targetUserId, ?_⟩
    have present : members.get? targetUserId = some role := locked _ target
    simp [Write.get?_apply, Write.userId, Write.value, different, present]
  | @changed write role found several =>
    have present := locked _ found
    by_cases kept : write.value (some role) = some .owner
    · refine ⟨write.userId, ?_⟩
      grind [Write.get?_apply]
    by_cases isOwner : role = .owner
    · obtain ⟨row, mem, isOwner, _⟩ :=
        exists_other_owner distinct (several isOwner kept) write.userId
      have stays := locked row mem
      refine ⟨row.1, ?_⟩
      grind [Write.get?_apply]
    · refine ⟨owner, ?_⟩
      grind [Write.get?_apply]

end

/-- The user who changes or removes another member. -/
def Operation.actor? : Operation → Option String
  | .updateMemberRoleAs (.user userId) _ _ | .removeMemberAs (.user userId) _ => some userId
  | _ => none

/-- The user who acts has the role that the operation requires. -/
def Operation.Rightful (members : KeyedMap String Role) : Operation → Prop
  | .transferOrganization userId _ | .updateMemberRoleAs (.user userId) _ _ =>
    members.get? userId = some .owner
  | .removeMemberAs (.user userId) targetUserId =>
    members.get? userId = some .owner ∨
      members.get? userId = some .admin ∧ members.get? targetUserId ≠ some .owner
  | _ => True

theorem Operation.authorize_congr {first second : KeyedMap String Role}
    (same : ∀ userId, operation.actor? = some userId → first.get? userId = second.get? userId) :
    operation.authorize first = operation.authorize second := by
  match operation with
  | .updateMemberRoleAs (.user userId) _ _ | .removeMemberAs (.user userId) _ =>
    have same := same userId rfl
    simp only [authorize, requireOwnerAs, requireManagerAs, requireMemberAs, same]
  | .updateMemberRoleAs (.agent _) _ _ | .removeMemberAs (.agent _) _
  | .leaveOrganization _ | .transferOrganization _ _ | .acceptInvitation _ _ => rfl

theorem Operation.rightful {actorRole : Option Role}
    (locked : ∀ row ∈ roles, members.get? row.1 = some row.2)
    (authorized : operation.authorize members = .ok actorRole)
    (decided : operation.writes actorRole roles = .ok writes) : operation.Rightful members := by
  match operation with
  | .transferOrganization userId _ =>
    simp only [Operation.writes, bind_eq_ok_iff, required_eq_ok_iff] at decided
    obtain ⟨role, own, _, isOwner, _⟩ := decided
    have present : members.get? userId = some role := locked _ (mem_of_lookup own)
    simpa [Operation.Rightful, present] using isOwner
  | .updateMemberRoleAs (.user userId) _ _ =>
    simp only [authorize, requireOwnerAs, requireMemberAs, bind_eq_ok_iff, map_eq_ok_iff,
      required_eq_ok_iff] at authorized
    obtain ⟨_, ⟨_, ⟨role, present, rfl⟩, _, isOwner, _⟩, _⟩ := authorized
    cases role with
    | owner => exact present
    | admin | member => simp [refuse] at isOwner
  | .removeMemberAs (.user userId) targetUserId =>
    simp only [authorize, requireManagerAs, requireMemberAs, bind_eq_ok_iff, map_eq_ok_iff,
      required_eq_ok_iff, ok.injEq] at authorized
    obtain ⟨_, ⟨role, present, rfl⟩, _, manager, rfl⟩ := authorized
    simp only [Operation.writes, bind_eq_ok_iff, required_eq_ok_iff] at decided
    obtain ⟨targetRole, target, _, removable, _⟩ := decided
    have targetPresent : members.get? targetUserId = some targetRole :=
      locked _ (mem_of_lookup target)
    cases role with
    | owner => exact .inl present
    | admin => exact .inr ⟨present, by simpa [targetPresent] using removable⟩
    | member => simp [refuse] at manager
  | .updateMemberRoleAs (.agent _) _ _ | .removeMemberAs (.agent _) _
  | .leaveOrganization _ | .acceptInvitation _ _ => trivial

/-! ## What holds between the statements -/

namespace Organization

/-- No commit writes the row of a user whose own change or removal of a member is under
way. -/
def Undisturbed (state : Organization) : Action → Prop
  | .commit place => ∀ writes, (state.transactions place).phase = .decided writes →
    ∀ other, other ≠ place → (state.transactions other).phase ≠ .idle →
      ∀ write ∈ writes, (state.transactions other).operation.actor? ≠ some write.userId
  | _ => True

/-- The rows that a transaction has locked are as it has read them; with `guarded` actors the check
before it would answer the same. -/
structure Fits (guarded : Prop) (state : Organization) (place : Nat)
    (transaction : Transaction) : Prop where
  locked : ∀ row ∈ transaction.roles,
    state.locks row.1 = some place ∧ state.members.get? row.1 = some row.2
  distinct : (transaction.roles.map (·.1)).Nodup
  selected : ∀ rows, transaction.phase = .selected rows → rows.Nodup
  decided : ∀ writes, transaction.phase = .decided writes →
    transaction.operation.writes transaction.actorRole transaction.roles = .ok writes
  warranted : guarded → transaction.phase ≠ .idle →
    transaction.operation.authorize state.members = .ok transaction.actorRole

def Sound (guarded : Prop) (state : Organization) : Prop :=
  ∀ place, state.Fits guarded place (state.transactions place)

variable {guarded : Prop} {state next : Organization} {place : Nat} {transaction : Transaction}

theorem fits_idle : state.Fits guarded place ⟨.leaveOrganization "", none, .idle, []⟩ :=
  ⟨nofun, nodup_nil, nofun, nofun, fun _ busy => absurd rfl busy⟩

theorem nodup_rowsToLock (members : KeyedMap String Role) (operation : Operation) :
    (rowsToLock members operation).Nodup := by
  cases operation with
  | acceptInvitation => exact nodup_nil
  | _ => exact (perm_insertionSort _ _).nodup_iff.mpr members.nodup

section
variable (sound : state.Sound guarded)
include sound

/-- A step of one transaction leaves the rows that others have locked, and those of their
actors. -/
theorem Sound.update
    (changed : next.transactions = Function.update state.transactions place transaction)
    (own : next.Fits guarded place transaction)
    (others : ∀ other, other ≠ place → ∀ row ∈ (state.transactions other).roles,
      next.locks row.1 = state.locks row.1 ∧ next.members.get? row.1 = state.members.get? row.1)
    (actors : guarded → ∀ other, other ≠ place → (state.transactions other).phase ≠ .idle →
      ∀ userId, (state.transactions other).operation.actor? = some userId →
        next.members.get? userId = state.members.get? userId) : next.Sound guarded := by
  intro other
  rw [changed]
  by_cases here : other = place
  · subst here
    rw [Function.update_self]
    exact own
  · rw [Function.update_of_ne here]
    obtain ⟨locked, distinct, selected, decided, warranted⟩ := sound other
    refine ⟨fun row mem => ?_, distinct, selected, decided, fun holds busy => ?_⟩
    · rw [(others other here row mem).1, (others other here row mem).2]
      exact locked row mem
    · rw [Operation.authorize_congr (actors holds other here busy)]
      exact warranted holds busy

theorem Sound.finish : (state.finish place).Sound guarded := by
  refine sound.update rfl fits_idle (fun other here row mem => ⟨?_, rfl⟩) fun _ _ _ _ _ _ => rfl
  have held := ((sound other).locked row mem).1
  exact if_neg (by simpa [held] using here)

theorem Sound.lock {rows : List String} (phase : (state.transactions place).phase = .selected rows)
    (free : ∀ userId ∈ rows, state.locks userId = none)
    (decided : (state.transactions place).operation.writes (state.transactions place).actorRole
      (rows.filterMap fun userId => (state.members.get? userId).map (userId, ·)) = .ok writes) :
    Sound guarded { state.set place { state.transactions place with
        phase := .decided writes
        roles := rows.filterMap fun userId => (state.members.get? userId).map (userId, ·) } with
      locks := fun userId => if userId ∈ rows then some place else state.locks userId } := by
  refine sound.update rfl ⟨fun row mem => ?_, ?_, nofun, ?_, fun holds _ => ?_⟩
    (fun other _ row mem => ⟨if_neg fun locked => ?_, rfl⟩) fun _ _ _ _ _ _ => rfl
  · obtain ⟨_, listed, found⟩ := mem_filterMap.mp mem
    obtain ⟨_, present, rfl⟩ := Option.map_eq_some_iff.mp found
    exact ⟨if_pos listed, present⟩
  · rw [map_filterMap]
    refine ((sound place).selected rows phase).filterMap fun first second name => ?_
    simp only [Option.mem_def, Option.map_map, Option.map_eq_some_iff]
    rintro ⟨_, _, rfl⟩ ⟨_, _, rfl⟩
    rfl
  · rintro _ ⟨⟩
    exact decided
  · exact (sound place).warranted holds (by simp [phase])
  · cases (free row.1 locked).symm.trans ((sound other).locked row mem).1

theorem Sound.commit (allowed : guarded → state.Undisturbed (.commit place))
    (phase : (state.transactions place).phase = .decided writes) :
    ({ state with members := writes.foldl Write.apply state.members }.finish place).Sound
      guarded := by
  refine sound.update rfl fits_idle (fun other here row mem => ⟨?_, ?_⟩)
    fun holds other here busy userId acts => ?_
  · have held := ((sound other).locked row mem).1
    exact if_neg (by simpa [held] using here)
  · have decision := Operation.decision ((sound place).decided writes phase)
    obtain ⟨held, present⟩ := (sound other).locked row mem
    rw [present]
    refine decision.get?_foldl (fun own ownMem same => ?_) present
    have ownHeld := ((sound place).locked own ownMem).1
    rw [same, held] at ownHeld
    exact here (Option.some.inj ownHeld)
  · refine get?_foldl_of_forall_ne fun write mem same => ?_
    exact allowed holds writes phase other here busy write mem (same ▸ acts)

end

theorem sound_step (state : Organization) (action : Action) (sound : state.Sound guarded)
    (allowed : guarded → state.Undisturbed action) : (state.step action).2.Sound guarded := by
  cases action with
  | authorize =>
    unfold step
    dsimp only
    split
    · next authorized =>
        exact sound.update rfl ⟨nofun, nodup_nil, nofun, nofun, fun _ _ => authorized⟩
          (fun _ _ _ _ => ⟨rfl, rfl⟩) fun _ _ _ _ _ _ => rfl
    · exact sound
  | select place =>
    unfold step
    dsimp only
    split
    · next phase =>
        have own := sound place
        refine sound.update rfl ⟨own.locked, own.distinct, ?_, nofun, fun holds _ => ?_⟩
          (fun _ _ _ _ => ⟨rfl, rfl⟩) fun _ _ _ _ _ _ => rfl
        · rintro _ ⟨⟩
          exact nodup_rowsToLock _ _
        · exact own.warranted holds (by simp [phase])
    · exact sound
  | lock =>
    unfold step
    dsimp only
    split
    · next phase =>
        split
        · next free =>
            split
            · next decided => exact sound.lock phase free decided
            · exact sound.finish
        · exact sound
    · exact sound
  | commit =>
    unfold step
    dsimp only
    split
    · next phase => exact sound.commit allowed phase
    · exact sound
  | rollback => exact sound.finish

def Owned (state : Organization) : Prop :=
  ∃ userId, state.members.get? userId = some .owner

/-- Only a commit changes the members, and it has an outcome. -/
theorem step_cases (state : Organization) (action : Action) :
    (state.step action).1 = none ∧ (state.step action).2.members = state.members ∨
      ∃ place writes, (state.transactions place).phase = .decided writes ∧
        (state.step action).1 = some (state.transactions place).operation ∧
        (state.step action).2.members = writes.foldl Write.apply state.members := by
  cases action with
  | commit place =>
    unfold step
    dsimp only
    split
    · next writes phase => exact .inr ⟨place, writes, phase, rfl, rfl⟩
    · exact .inl ⟨rfl, rfl⟩
  | _ =>
    left
    unfold step
    dsimp only
    repeat' split
    all_goals exact ⟨rfl, rfl⟩

theorem sound_start (members : KeyedMap String Role) : (start members).Sound guarded :=
  fun _ => fits_idle

theorem owned_step (state : Organization) (action : Action) (sound : state.Sound guarded)
    (owned : state.Owned) : (state.step action).2.Owned := by
  rcases step_cases state action with ⟨_, same⟩ | ⟨place, writes, phase, _, written⟩
  · rw [Owned, same]
    exact owned
  · rw [Owned, written]
    exact (Operation.decision ((sound place).decided writes phase)).keeps_owner
      (sound place).distinct (fun row mem => ((sound place).locked row mem).2) owned

/-- Whatever the order of the statements, an organization that has an owner keeps one. -/
theorem organization_keeps_an_owner (members : KeyedMap String Role)
    (owned : (start members).Owned) (actions : List Action) :
    (exec step (start members) actions).Owned := by
  have kept : ∀ (state : Organization) action, state.Sound False ∧ state.Owned →
      (state.step action).2.Sound False ∧ (state.step action).2.Owned :=
    fun state action ⟨sound, owned⟩ =>
      ⟨sound_step state action sound nofun, owned_step state action sound owned⟩
  exact (exec_invariant kept ⟨sound_start members, owned⟩ actions).2

/-- As long as no commit writes the row of a user who is changing or removing a member, who commits
an operation has the role for it. -/
theorem committed_operation_is_rightful (members : KeyedMap String Role) (actions : List Action)
    (undisturbed : AllSteps step Undisturbed (start members) actions) :
    ∀ entry ∈ trace step (start members) actions, ∀ operation,
      entry.outcome = some operation → operation.Rightful entry.before.members := by
  intro entry mem operation done
  obtain ⟨_, _, rfl, reached, stepped⟩ := of_mem_trace mem
  have sound : entry.before.Sound True := by
    rw [← reached]
    exact AllSteps.invariant (fun state action sound allowed =>
      sound_step state action sound fun _ => allowed) (sound_start members) undisturbed
  have outcome := congrArg Prod.fst stepped
  rcases step_cases entry.before entry.action with ⟨none, _⟩ | ⟨place, writes, phase, some, _⟩
  · cases none.symm.trans (outcome.trans done)
  cases some.symm.trans (outcome.trans done)
  exact Operation.rightful (fun row mem => ((sound place).locked row mem).2)
    ((sound place).warranted trivial (by simp [phase])) ((sound place).decided writes phase)

/-- Three owners, two of whom take the role from each other. -/
def owners : KeyedMap String Role where
  rows := [("ada", .owner), ("bob", .owner), ("eve", .owner)]
  nodup := by decide

def demotion (actor target : String) : Operation :=
  .updateMemberRoleAs (.user actor) target "member"

/-- A demotion that nothing comes between. -/
def demotes (actor target : String) : List Action :=
  [.authorize 0 (demotion actor target), .select 0, .lock 0, .commit 0]

theorem owners_keep_an_owner : (exec step (start owners) (demotes "ada" "bob")).Owned :=
  organization_keeps_an_owner owners ⟨"ada", by decide⟩ _

/-- Both demotions are committed; whichever comes first, the other is not rightful after it. -/
theorem owners_demote_each_other :
    (trace step (start owners)
      [.authorize 0 (demotion "ada" "bob"), .authorize 1 (demotion "bob" "ada"), .select 0,
        .lock 0, .commit 0, .select 1, .lock 1, .commit 1]).filterMap (·.outcome) =
      [demotion "ada" "bob", demotion "bob" "ada"] ∧
    ¬ (demotion "bob" "ada").Rightful (exec step (start owners) (demotes "ada" "bob")).members ∧
    ¬ (demotion "ada" "bob").Rightful (exec step (start owners) (demotes "bob" "ada")).members := by
  refine ⟨by rfl, ?_, ?_⟩
  · change ¬ get? _ "bob" = some Role.owner
    decide
  · change ¬ get? _ "ada" = some Role.owner
    decide

/-- While one owner demotes a member, another removes the same member and waits for the rows. -/
def crossing : List Action :=
  [.authorize 0 (demotion "ada" "bob"), .authorize 1 (.removeMemberAs (.user "eve") "bob"),
    .select 0, .select 1, .lock 0, .lock 1, .commit 0, .lock 1, .commit 1]

theorem undisturbed_demotion_is_rightful :
    (trace step (start owners) crossing).filterMap (·.outcome) =
      [demotion "ada" "bob", .removeMemberAs (.user "eve") "bob"] ∧
    ∀ entry ∈ trace step (start owners) crossing, ∀ operation,
      entry.outcome = some operation → operation.Rightful entry.before.members := by
  refine ⟨by rfl, committed_operation_is_rightful owners crossing ?_⟩
  refine ⟨trivial, trivial, trivial, trivial, trivial, trivial, ?_, trivial, ?_, trivial⟩
  · rintro _ ⟨⟩ other here busy
    rcases other with _ | _ | _
    · exact absurd rfl here
    · decide
    · exact absurd rfl busy
  · rintro _ ⟨⟩ other here busy
    rcases other with _ | _ | _
    · exact absurd rfl busy
    · exact absurd rfl here
    · exact absurd rfl busy

end Organization
end Treer.Auth
