import Treer.Foundation.Run
import Treer.Foundation.Table
import Treer.Protocol.Workload

/-!
# Password changes beside logins

`login_with_client` reads the password hash and inserts a session some statements later, outside
of a transaction. `reset_password` and `change_password` delete the sessions of the account in
the transaction that writes the new hash. A step is a statement of one of any number of such
calls for one account; statements on other tables than `users` and `sessions` are left out.
-/

namespace Treer.Auth.Passwords

open Foundation Protocol Table List

/-- The row of `users`, and how many password changes have been committed. -/
structure User where
  passwordHash : String
  changes : Nat := 0

/-- `sessions`, with the number of changes that the login has read, and the number of the last
change that has kept the session. -/
structure Session where
  token : String
  (expiresAt changes : Nat)
  kept : Option Nat := none
  deriving DecidableEq

/-- A new hash, and the token and the new token of the session to keep. -/
structure Change where
  passwordHash : String
  kept : Option (String × String) := none

/-- The next statement of a transaction that has written `users`. -/
inductive Stage where
  | updateSessions
  | deleteSessions
  | commit (deleted : List String)

/-- The transaction that has locked the row of `users`. -/
structure Transaction where
  owner : Nat
  change : Change
  stage : Stage

/-- The account in the database. -/
structure Shared where
  user : User
  sessions : Table Session (·.token) := .empty
  transaction : Option Transaction := none

/-- The next statement of a call, with what the call has read. -/
inductive Phase where
  | returned (result : Except ProtocolError Unit)
  | loginSelect (password : String)
  | loginDelete (user : User)
  | loginInsert (user : User)
  | changeSelect (password : String) (change : Change)
  | transaction (change : Change)

/-- The calls, when the checks of their other arguments have passed. -/
inductive Call where
  | login (password : String)
  | resetPassword (passwordHash : String)
  | changePassword (password passwordHash token newToken : String)

/-- The first statement of a call. -/
def Call.start : Call → Phase
  | .login password => .loginSelect password
  | .resetPassword passwordHash => .transaction { passwordHash }
  | .changePassword password passwordHash token newToken =>
    .changeSelect password { passwordHash, kept := some (token, newToken) }

/-- `SESSION_TTL_DAYS` in seconds. -/
def sessionTtl : Nat := 30 * 24 * 3600

namespace Shared

variable (shared : Shared)

/-- The rows that the `DELETE` has found go, and the session to keep gets its new token. -/
def commit (change : Change) (deleted : List String) : Shared :=
  let left := shared.sessions.delete (deleted.contains ·.token)
  { user := ⟨change.passwordHash, shared.user.changes + 1⟩
    sessions := match change.kept with
      | none => left
      | some (token, newToken) => match left.find? token with
        | none => left
        | some row => (left.delete (·.token == token)).put
            { row with token := newToken, kept := some (shared.user.changes + 1) } }

/-- It waits while another transaction has the row of `users`. -/
def statement (place : Nat) (change : Change) : Phase × Shared :=
  let next (stage : Stage) : Phase × Shared :=
    (.transaction change, { shared with transaction := some ⟨place, change, stage⟩ })
  match shared.transaction with
  | none => next .updateSessions
  | some own =>
    if own.owner = place then
      match own.stage with
      | .updateSessions =>
        if change.kept.all fun kept => (shared.sessions.find? kept.1).isSome then
          next .deleteSessions
        else (.returned (.error
          ⟨"authentication_required", "the current session ended; sign in again", none⟩),
          { shared with transaction := none })
      | .deleteSessions => next (.commit ((shared.sessions.rows.map (·.token)).filter fun token =>
          some token != change.kept.map Prod.fst))
      | .commit deleted => (.returned (.ok ()), shared.commit own.change deleted)
    else (.transaction change, shared)

end Shared

variable (verifyPassword : (password hash : String) → Bool)

/-- The next statement of a call, at a time and with a new random token. -/
def advance (place now : Nat) (newToken : String) (shared : Shared) : Phase → Phase × Shared
  | .loginSelect password =>
    if verifyPassword password shared.user.passwordHash then (.loginDelete shared.user, shared)
    else (.returned (.error ⟨"invalid_credentials", "invalid email or password", none⟩), shared)
  | .loginDelete user => (.loginInsert user,
      { shared with sessions := shared.sessions.delete (·.expiresAt ≤ now) })
  | .loginInsert user =>
    match shared.sessions.insert? ⟨newToken, now + sessionTtl, user.changes, none⟩ with
    | none => (.returned (.error ⟨"database_error", "database operation failed", none⟩), shared)
    | some sessions => (.returned (.ok ()), { shared with sessions })
  | .changeSelect password change =>
    if verifyPassword password shared.user.passwordHash then (.transaction change, shared)
    else (.returned (.error
      ⟨"invalid_current_password", "current password is incorrect", none⟩), shared)
  | .transaction change => shared.statement place change
  | .returned result => (.returned result, shared)

/-- The account, and where each call has got to. -/
structure State where
  shared : Shared
  phases : Nat → Phase := fun _ => .returned (.ok ())

/-- A call starts, or a call that runs makes its next statement. -/
inductive Action where
  | start (place : Nat) (call : Call)
  | advance (place now : Nat) (newToken : String)
  /-- A statement fails, and with it the transaction of its call. -/
  | fail (place : Nat) (error : ProtocolError)

/-- A call starts at a place whose last call has returned. -/
def step (state : State) : Action → Unit × State
  | .start place call => ((), match state.phases place with
    | .returned _ => { state with phases := Function.update state.phases place call.start }
    | _ => state)
  | .advance place now newToken =>
    let next := advance verifyPassword place now newToken state.shared (state.phases place)
    ((), ⟨next.2, Function.update state.phases place next.1⟩)
  | .fail place error =>
    ((), { shared.user := state.shared.user
           shared.sessions := state.shared.sessions
           shared.transaction := state.shared.transaction.filter (·.owner != place)
           phases := Function.update state.phases place (.returned (.error error)) })

/-- A session is inserted only while the verified password is the current one and no transaction is
between its `DELETE` and its end. -/
def Allowed (state : State) : Action → Prop
  | .advance place _ _ => ∀ user, state.phases place = .loginInsert user →
    user.changes = state.shared.user.changes ∧
      ∀ own deleted, state.shared.transaction = some own → own.stage ≠ .commit deleted
  | _ => True

/-- Each session comes from the current password or was kept when it was set, and the `DELETE` of
a transaction has found every session but the one to keep. -/
structure Shared.Sound (shared : Shared) : Prop where
  current : ∀ session ∈ shared.sessions,
    session.kept = some shared.user.changes ∨ session.changes = shared.user.changes
  found : ∀ own deleted, shared.transaction = some own → own.stage = .commit deleted →
    ∀ session ∈ shared.sessions,
      session.token ∈ deleted ∨ some session.token = own.change.kept.map Prod.fst

variable {shared : Shared}

/-- Rows may go, and the transaction may end or make another statement than the `DELETE`. -/
theorem Shared.Sound.of_subset (sound : shared.Sound) {next : Shared}
    (userEq : next.user = shared.user)
    (fewer : ∀ session ∈ next.sessions, session ∈ shared.sessions)
    (same : ∀ own deleted, next.transaction = some own → own.stage = .commit deleted →
      shared.transaction = some own) : next.Sound := by
  constructor
  · intro session mem
    rw [userEq]
    exact sound.current session (fewer session mem)
  · intro own deleted transaction stage session mem
    exact sound.found own deleted (same own deleted transaction stage) stage session
      (fewer session mem)

theorem Shared.Sound.commit (sound : shared.Sound) {own : Transaction} {deleted : List String}
    (transaction : shared.transaction = some own) (stage : own.stage = .commit deleted) :
    (shared.commit own.change deleted).Sound := by
  have only : ∀ session ∈ shared.sessions.delete (deleted.contains ·.token),
      some session.token = own.change.kept.map Prod.fst := by
    intro session mem
    rcases mem_delete_iff.mp mem with ⟨old, spared⟩
    apply (sound.found own deleted transaction stage session old).resolve_left
    simpa using spared
  refine ⟨fun session mem => .inl ?_, nofun⟩
  dsimp only [Shared.commit] at mem
  cases kept : own.change.kept with
  | none =>
    rw [kept] at mem only
    cases only session mem
  | some =>
    rw [kept] at mem only
    dsimp only at mem
    split at mem
    · rename_i missing
      exact absurd (Option.some.inj (only session mem)) (find?_eq_none_iff.mp missing session mem)
    · rcases mem_put_iff.mp mem with ⟨old, -⟩ | rfl
      · rcases mem_delete_iff.mp old with ⟨there, other⟩
        simp [Option.some.inj (only session there)] at other
      · rfl

theorem Shared.Sound.statement (sound : shared.Sound) (place : Nat) (change : Change) :
    (shared.statement place change).2.Sound := by
  unfold Shared.statement
  dsimp only
  split
  · exact sound.of_subset rfl (fun _ mem => mem) (by rintro _ _ ⟨⟩ ⟨⟩)
  rename_i own transaction
  split
  · split
    · split
      · exact sound.of_subset rfl (fun _ mem => mem) (by rintro _ _ ⟨⟩ ⟨⟩)
      · exact sound.of_subset rfl (fun _ mem => mem) nofun
    · refine ⟨sound.current, ?_⟩
      rintro _ _ ⟨⟩ ⟨⟩ session mem
      by_cases spared : some session.token = change.kept.map Prod.fst
      · exact .inr spared
      · exact .inl (mem_filter.mpr ⟨mem_map_of_mem mem, bne_iff_ne.mpr spared⟩)
    · rename_i stage
      exact sound.commit transaction stage
  · exact sound

theorem sound_step (state : State) (action : Action) (sound : state.shared.Sound)
    (allowed : Allowed state action) : (step verifyPassword state action).2.shared.Sound := by
  cases action with
  | start =>
    dsimp only [step]
    split <;> exact sound
  | fail =>
    exact sound.of_subset rfl (fun _ mem => mem) fun _ _ same _ =>
      (Option.filter_eq_some_iff.mp same).1
  | advance place =>
    dsimp only [step]
    cases phase : state.phases place with
    | loginSelect | changeSelect =>
      dsimp only [advance]
      split <;> exact sound
    | returned => exact sound
    | transaction change => exact sound.statement place change
    | loginDelete =>
      exact sound.of_subset rfl (fun _ mem => (mem_delete_iff.mp mem).1) fun _ _ same _ => same
    | loginInsert user =>
      rcases allowed user phase with ⟨changes, undeleted⟩
      dsimp only [advance]
      split
      · exact sound
      rename_i sessions inserted
      have rows := (insert?_eq_some inserted).2
      refine ⟨fun session mem => ?_, fun own deleted same stage => ?_⟩
      · rcases (mem_of_rows_append rows).mp mem with old | new
        · exact sound.current session old
        · cases mem_singleton.mp new
          exact .inr changes
      · exact absurd stage (undeleted own deleted same)

/-- An account without sessions. -/
def initial (passwordHash : String) : State where
  shared.user := { passwordHash }

/-- In a run that keeps to the condition, a session from before the last committed password change
is the one that this very change has kept. -/
theorem password_change_ends_sessions (passwordHash : String) (actions : List Action)
    (allowed : AllSteps (step verifyPassword) Allowed (initial passwordHash) actions) :
    let shared := (exec (step verifyPassword) (initial passwordHash) actions).shared
    ∀ session ∈ shared.sessions, session.changes < shared.user.changes →
      session.kept = some shared.user.changes := by
  intro shared session mem before
  rw [← append_nil actions] at allowed
  have start : (initial passwordHash).shared.Sound := ⟨nofun, nofun⟩
  have sound : shared.Sound := AllSteps.invariant (sound_step verifyPassword) start allowed
  exact (sound.current session mem).resolve_right before.ne

section

/-- A password is its own hash. -/
def plainPassword (password hash : String) : Bool := password == hash

/-- So many statements of the call at a place. -/
def statements (place count : Nat) : List Action :=
  List.replicate count (.advance place 0 "session")

/-- A login, and a change that keeps its session. -/
def loginAndChange (password passwordHash newToken : String) : List Action :=
  .start 0 (.login password) :: statements 0 3 ++
    .start 1 (.changePassword password passwordHash "session" newToken) :: statements 1 5

/-- The second change ends the session that the first has kept. -/
def keeping : List Action :=
  loginAndChange "old" "new" "first" ++ loginAndChange "new" "newer" "second"

theorem change_keeps_its_session :
    let shared := (exec (step plainPassword) (initial "old") keeping).shared
    ∃ session, shared.sessions.rows = [session] ∧ session.kept = some shared.user.changes := by
  have rows : (exec (step plainPassword) (initial "old") keeping).shared.sessions.rows =
    [⟨"second", sessionTtl, 1, some 2⟩] := by decide +kernel
  refine ⟨_, rows, password_change_ends_sessions plainPassword "old" keeping ?_ _
    (mem_rows.mp (rows ▸ mem_cons_self)) (by decide +kernel)⟩
  refine ⟨trivial, nofun, nofun, ?_, trivial, nofun, nofun, nofun, nofun, nofun,
    trivial, nofun, nofun, ?_, trivial, nofun, nofun, nofun, nofun, nofun, trivial⟩
  all_goals
    rintro _ ⟨⟩
    exact ⟨rfl, nofun⟩

theorem login_outlives_reset :
    let state := exec (step plainPassword) (initial "old") (.start 0 (.login "old") ::
      statements 0 1 ++ .start 1 (.resetPassword "new") :: statements 1 4 ++ statements 0 2)
    state.phases 0 = .returned (.ok ()) ∧ state.phases 1 = .returned (.ok ()) ∧
      state.shared.user.changes = 1 ∧
      state.shared.sessions.rows = [⟨"session", sessionTtl, 0, none⟩] := by
  refine ⟨rfl, rfl, ?_⟩
  decide +kernel

end
end Treer.Auth.Passwords
