import Mathlib.Data.List.Sort
import Treer.Foundation.Outcome
import Treer.Foundation.Run
import Treer.Foundation.Table
import Treer.Ingress.ReturnPath

/-!
# Codes for ingress sessions

A browser gets a session on an ingress for a code that the Console made: a plain code for a
page of its own, an embed code for a frame. Both kinds are rows of one table. A code is
marked as used by the statement that finds it, so each creation is redeemed at most once. Only
one of the two ways to redeem a code asks for its kind.
-/

namespace Treer.Ingress

open Foundation Protocol Table List

structure ServiceIngress where
  (ingressId workspaceId hostname : String)
  enabled : Bool

/-- `ingress_browser_auth_codes` -/
structure AuthCode where
  (code ingressId userId returnPath browserNonceHash : String)
  expiresAt : Nat
  usedAt : Option Nat := none
  embed : Bool := false
  agentId : Option String := none
  prewarm : Bool := false

/-- `ingress_sessions` -/
structure IngressSession where
  (token ingressId userId : String)
  (createdAt expiresAt : Nat)
  embed : Bool := false
  prewarm : Bool := false
  rotated : Bool := false
  deriving DecidableEq

abbrev Sessions := Table IngressSession (·.token)

structure Store where
  codes : Table AuthCode (·.code) := .empty
  sessions : Sessions := .empty

/-- What a call gets from outside; times are in seconds. -/
structure Env where
  now : Nat
  /-- When `insert_embed_session` looks at the clock. -/
  insertNow : Nat
  /-- Two UUIDs. -/
  unique : String
  requireWorkspaceMember : (workspaceId userId : String) → Except ProtocolError Unit
  serviceIngresses : List ServiceIngress

def ingressAuthCodeTtl : Nat := 5 * 60
def ingressSessionTtl : Nat := 12 * 3600
def ingressEmbedCodeTtl : Nat := 30
def ingressPrewarmSessionTtl : Nat := 600
def embedSessionsPerUserAgent : Nat := 8

def invalidIngressAuthorization : ProtocolError :=
  ⟨"invalid_ingress_authorization", "ingress authorization is invalid or expired", none⟩

def databaseError : ProtocolError :=
  ⟨"database_error", "database operation failed", none⟩

def validIngressNonce (value : String) : Bool :=
  value.utf8ByteSize == 64 && value.toList.all fun char => char.isDigit || 'a' ≤ char && char ≤ 'f'

inductive Reply where
  | code (code : String)
  | authorized (sessionToken returnPath : String)
  | embedSession (token : String) (maxAgeSeconds : Nat)
  deriving DecidableEq

def Reply.token : Reply → String
  | .code token | .authorized token _ | .embedSession token _ => token

abbrev Answer := Except ProtocolError Reply × Store

/-- The end of both ways to create a code. -/
def Store.insertCode (store : Store) (now : Nat) (row : AuthCode) : Answer :=
  let kept := store.codes.delete fun other => other.expiresAt ≤ now || other.usedAt.isSome
  match kept.insert? row with
  | none => (.error databaseError, { store with codes := kept })
  | some codes => (.ok (.code row.code), { store with codes })

def createIngressAuthCode (env : Env) (ingress : ServiceIngress)
    (userId returnPath browserNonceHash : String) (store : Store) : Answer :=
  let checked := do
    refuse (!validIngressNonce browserNonceHash) invalidIngressAuthorization
    env.requireWorkspaceMember ingress.workspaceId userId
    validateIngressReturnPath returnPath
  match checked with
  | .error error => (.error error, store)
  | .ok returnPath => store.insertCode env.now {
      code := "iac_v2_" ++ env.unique, ingressId := ingress.ingressId, userId, returnPath
      browserNonceHash, expiresAt := env.now + ingressAuthCodeTtl }

def createEmbedAuthCode (env : Env) (ingress : ServiceIngress)
    (userId agentId browserNonceHash : String) (prewarm : Bool) (store : Store) : Answer :=
  let checked := do
    refuse (!validIngressNonce browserNonceHash) invalidIngressAuthorization
    env.requireWorkspaceMember ingress.workspaceId userId
  match checked with
  | .error error => (.error error, store)
  | .ok _ => store.insertCode env.now {
      code := "iec_v1_" ++ env.unique, ingressId := ingress.ingressId, userId, returnPath := "/"
      browserNonceHash, expiresAt := env.now + ingressEmbedCodeTtl
      embed := true, agentId := some agentId, prewarm }

def lower (name : String) : List Char := name.toList.map Char.toLower

/-- The `UPDATE` of a code that is joined with its ingress, and what it returns. -/
def Store.markUsed (store : Store) (env : Env) (hostname code : String)
    (selected : AuthCode → Bool) : Option ((AuthCode × ServiceIngress) × Store) := do
  let row ← store.codes.find? code
  let ingress ← env.serviceIngresses.find? fun ingress =>
    lower ingress.hostname == lower hostname && ingress.enabled &&
      ingress.ingressId == row.ingressId
  if row.usedAt.isNone && env.now < row.expiresAt && selected row then
    let codes := store.codes.update (·.code == code) ({ · with usedAt := some env.now })
      fun _ => rfl
    some ((row, ingress), { store with codes })
  else none

variable (nonceHash : String → String)

/-- The beginning of both ways to redeem a code. -/
def consumeAuthCode (env : Env) (hostname code : String) (selected : AuthCode → Bool)
    (browserNonce : Option String)
    (openSession : AuthCode → Sessions → Except ProtocolError Reply × Sessions) (store : Store) :
    Answer :=
  match store.markUsed env hostname code selected with
  | none => (.error invalidIngressAuthorization, store)
  | some ((row, ingress), store) =>
    let checked := do
      refuse (!(browserNonce.filter validIngressNonce).any
        (nonceHash · == row.browserNonceHash)) invalidIngressAuthorization
      env.requireWorkspaceMember ingress.workspaceId row.userId
    match checked with
    | .error error => (.error error, store)
    | .ok _ =>
      let (reply, sessions) := openSession row store.sessions
      (reply, { store with sessions })

def consumeIngressAuthCode (env : Env) (hostname code : String) (browserNonce : Option String) :
    Store → Answer :=
  consumeAuthCode nonceHash env hostname code (fun _ => true) browserNonce
    fun row sessions =>
      let sessionToken := "ias_" ++ env.unique
      let kept := sessions.delete (·.expiresAt ≤ env.now)
      match kept.insert? {
          token := sessionToken, ingressId := row.ingressId, userId := row.userId
          createdAt := env.now, expiresAt := env.now + ingressSessionTtl } with
      | none => (.error databaseError, kept)
      | some sessions => (.ok (.authorized sessionToken row.returnPath), sessions)

/-- `ORDER BY prewarm DESC, created_at ASC` -/
def EvictedBefore (first second : IngressSession) : Prop :=
  second.prewarm < first.prewarm ∨
    first.prewarm = second.prewarm ∧ first.createdAt ≤ second.createdAt
deriving Decidable

def insertEmbedSession (env : Env) (ingressId userId : String) (prewarm : Bool)
    (sessions : Sessions) : Except ProtocolError (String × Sessions) :=
  let token := "ies_" ++ env.unique
  let expiresAt := env.insertNow + if prewarm then ingressPrewarmSessionTtl else ingressSessionTtl
  let counts (session : IngressSession) : Bool :=
    session.userId == userId && session.ingressId == ingressId && session.embed &&
      env.insertNow < session.expiresAt && !session.rotated
  match sessions.insert? {
      token, ingressId, userId, createdAt := env.insertNow, expiresAt, embed := true, prewarm } with
  | none => .error databaseError
  | some sessions =>
    let others := sessions.rows.filter fun session =>
      counts session && session.token != token && (!prewarm || session.prewarm)
    let evicted := (others.insertionSort EvictedBefore).take
      (sessions.rows.countP counts - embedSessionsPerUserAgent)
    let kept := sessions.delete fun session => (evicted.map (·.token)).contains session.token
    -- Only sessions that are no prewarms are left, and a prewarm evicts none of those.
    if prewarm && embedSessionsPerUserAgent < kept.rows.countP counts then
      .error invalidIngressAuthorization
    else .ok (token, kept)

def consumeEmbedAuthCode (env : Env) (hostname agentId code browserNonce : String) :
    Store → Answer :=
  consumeAuthCode nonceHash env hostname code
    (fun row => row.embed && row.agentId == some agentId) (some browserNonce)
    fun row sessions =>
      let kept := sessions.delete (·.expiresAt ≤ env.now)
      match insertEmbedSession env row.ingressId row.userId row.prewarm kept with
      | .error error => (.error error, sessions)
      | .ok (token, sessions) =>
        (.ok (.embedSession token
          (if row.prewarm then ingressPrewarmSessionTtl else ingressSessionTtl)), sessions)

inductive Call where
  | createIngress (ingress : ServiceIngress) (userId returnPath browserNonceHash : String)
  | createEmbed (ingress : ServiceIngress) (userId agentId browserNonceHash : String)
      (prewarm : Bool)
  | consumeIngress (hostname code : String) (browserNonce : Option String)
  | consumeEmbed (hostname agentId code browserNonce : String)

def step (store : Store) : Env × Call → Answer
  | (env, .createIngress ingress userId returnPath hash) =>
    createIngressAuthCode env ingress userId returnPath hash store
  | (env, .createEmbed ingress userId agentId hash prewarm) =>
    createEmbedAuthCode env ingress userId agentId hash prewarm store
  | (env, .consumeIngress hostname code nonce) =>
    consumeIngressAuthCode nonceHash env hostname code nonce store
  | (env, .consumeEmbed hostname agentId code nonce) =>
    consumeEmbedAuthCode nonceHash env hostname agentId code nonce store

/-- What a code is made for. -/
structure Grant where
  (ingressId userId browserNonceHash : String)
  (embed prewarm : Bool)

def AuthCode.grant (row : AuthCode) : Grant :=
  ⟨row.ingressId, row.userId, row.browserNonceHash, row.embed, row.prewarm⟩

def Call.grant? : Call → Option Grant
  | .createIngress ingress userId _ hash => some ⟨ingress.ingressId, userId, hash, false, false⟩
  | .createEmbed ingress userId _ hash prewarm =>
    some ⟨ingress.ingressId, userId, hash, true, prewarm⟩
  | _ => none

/-- The code that a call wants to redeem, and the nonce it comes with. -/
def Call.redeems? : Call → Option (String × Option String)
  | .consumeIngress _ code nonce => some (code, nonce)
  | .consumeEmbed _ _ code nonce => some (code, some nonce)
  | _ => none

def Call.isConsumeEmbed : Call → Bool
  | .consumeEmbed .. => true
  | _ => false

/-- A session is of the kind that its code was created for. -/
def IngressSession.Fits (session : IngressSession) (grant : Grant) : Prop :=
  session.embed = grant.embed ∧ (grant.embed = true → grant.prewarm = true →
    session.expiresAt ≤ session.createdAt + ingressPrewarmSessionTtl)

abbrev Happened := Entry Store (Env × Call) (Except ProtocolError Reply)

def happening (store : Store) (action : Env × Call) : Happened :=
  ⟨store, action, (step nonceHash store action).1, (step nonceHash store action).2⟩

def Creates (entry : Happened) (code : String) (grant : Grant) : Prop :=
  entry.action.2.grant? = some grant ∧ entry.outcome = .ok (.code code)

def Redeems (entry : Happened) (code : String) (nonce : Option String) (token : String) : Prop :=
  entry.action.2.redeems? = some (code, nonce) ∧
    ∃ reply, entry.outcome = .ok reply ∧ reply.token = token

/-- A code was created with a grant, and nobody has redeemed it since. -/
def Outstanding (history : List Happened) (code : String) (grant : Grant) : Prop :=
  ∃ earlier creation later, history = earlier ++ creation :: later ∧ Creates creation code grant ∧
    ∀ entry ∈ later, ∀ nonce token, ¬ Redeems entry code nonce token

/-! ## One call -/

variable {nonceHash} {store : Store} {env : Env} {row : AuthCode}

theorem Store.of_mem_insertCode {now : Nat} {new : AuthCode}
    (mem : row ∈ (store.insertCode now new).2.codes) :
    row ∈ store.codes ∧ (store.insertCode now new).1 ≠ .ok (.code row.code) ∨
      row = new ∧ (store.insertCode now new).1 = .ok (.code new.code) := by
  unfold insertCode at mem ⊢
  dsimp only at mem ⊢
  split at mem
  · exact .inl ⟨(mem_delete_iff.mp mem).1, nofun⟩
  rename_i codes inserted
  rcases insert?_eq_some inserted with ⟨fresh, rows⟩
  rcases (mem_of_rows_append rows).mp mem with old | new
  · refine .inl ⟨(mem_delete_iff.mp old).1, fun same => fresh row old ?_⟩
    simpa using same.symm
  · exact .inr ⟨mem_singleton.mp new, rfl⟩

section
variable {hostname code : String} {selected : AuthCode → Bool} {nonce : Option String}
  {openSession : AuthCode → Sessions → Except ProtocolError Reply × Sessions}

theorem Store.markUsed_eq_some {ingress : ServiceIngress} {next : Store}
    (marked : store.markUsed env hostname code selected = some ((row, ingress), next)) :
    row ∈ store.codes ∧ row.code = code ∧ row.usedAt = none ∧ selected row = true ∧
      next.sessions = store.sessions ∧
      ∀ other ∈ next.codes, other.usedAt = none → other ∈ store.codes ∧ other.code ≠ code := by
  simp only [markUsed, Option.bind_eq_bind, Option.bind_eq_some_iff] at marked
  rcases marked with ⟨_, foundEq, _, -, selects⟩
  split at selects
  case isFalse => cases selects
  case isTrue live =>
    cases selects
    simp only [Bool.and_eq_true, Option.isNone_iff_eq_none] at live
    rcases find?_eq_some_iff.mp foundEq with ⟨mem, codeEq⟩
    refine ⟨mem, codeEq, live.1.1, live.2, rfl, ?_⟩
    intro other otherMem unused
    dsimp only at otherMem
    rcases mem_update_iff.mp otherMem with ⟨_, oldMem, rfl⟩
    split at unused
    · cases unused
    rename_i differs
    rw [if_neg differs]
    exact ⟨oldMem, by simpa using differs⟩

/-- A code that is unused after the call was so before, and the call has not redeemed it. -/
theorem unused_of_consumeAuthCode
    (mem : row ∈ (consumeAuthCode nonceHash env hostname code selected nonce openSession
      store).2.codes) (unused : row.usedAt = none) :
    row ∈ store.codes ∧ (row.code = code → ∀ reply, (consumeAuthCode nonceHash env hostname
      code selected nonce openSession store).1 ≠ .ok reply) := by
  unfold consumeAuthCode at mem ⊢
  cases marked : store.markUsed env hostname code selected with
  | none =>
    rw [marked] at mem
    exact ⟨mem, nofun⟩
  | some returned =>
    rcases returned with ⟨⟨_, _⟩, next⟩
    have others := (Store.markUsed_eq_some marked).2.2.2.2.2
    rw [marked] at mem
    have kept : row ∈ next.codes := by
      dsimp only at mem
      split at mem <;> exact mem
    exact ⟨(others row kept unused).1, fun same => absurd same (others row kept unused).2⟩

theorem consumeAuthCode_cases {answer : Answer}
    (done : consumeAuthCode nonceHash env hostname code selected nonce openSession store = answer) :
    ((∃ error, answer.1 = .error error) ∧ answer.2.sessions = store.sessions) ∨
    ∃ row ∈ store.codes, row.code = code ∧ row.usedAt = none ∧ selected row = true ∧
      nonce.map nonceHash = some row.browserNonceHash ∧
      openSession row store.sessions = (answer.1, answer.2.sessions) := by
  subst done
  unfold consumeAuthCode
  split
  · exact .inl ⟨⟨_, rfl⟩, rfl⟩
  rename_i row ingress next marked
  rcases Store.markUsed_eq_some marked with ⟨mem, codeEq, unused, selects, sessions, -⟩
  dsimp only
  split
  · exact .inl ⟨⟨_, rfl⟩, sessions⟩
  rename_i checked
  rcases bind_eq_ok_iff.mp checked with ⟨_, fits, -⟩
  refine .inr ⟨row, mem, codeEq, unused, selects, ?_, by rw [sessions]⟩
  rw [refuse_eq_ok_iff, Bool.not_eq_false', Option.any_eq_true] at fits
  rcases fits with ⟨_, given, same⟩
  rw [(Option.filter_eq_some_iff.mp given).1, Option.map_some, beq_iff_eq.mp same]

end

theorem insertEmbedSession_eq_ok {ingressId userId token : String} {prewarm : Bool}
    {before after : Sessions}
    (done : insertEmbedSession env ingressId userId prewarm before = .ok (token, after)) :
    ∃ session ∈ after, session.token = token ∧ session.ingressId = ingressId ∧
      session.userId = userId ∧ session.embed = true ∧ (prewarm = true →
        session.expiresAt ≤ session.createdAt + ingressPrewarmSessionTtl) ∧
      ∀ other ∈ after, other ∈ before ∨ other = session := by
  unfold insertEmbedSession at done
  dsimp only at done
  split at done
  · cases done
  rename_i sessions inserted
  split at done
  · cases done
  cases done
  have rows := (insert?_eq_some inserted).2
  refine ⟨_, mem_delete_iff.mpr ⟨(mem_of_rows_append rows).mpr (.inr mem_cons_self), ?_⟩,
    rfl, rfl, rfl, rfl, ?_, fun other mem => ?_⟩
  · rw [← Bool.not_eq_true, contains_iff_mem, mem_map]
    rintro ⟨_, mem, same⟩
    have other := mem_filter.mp ((perm_insertionSort _ _).mem_iff.mp (mem_of_mem_take mem))
    simp [same] at other
  · intro short
    dsimp only
    rw [if_pos short]
  · exact ((mem_of_rows_append rows).mp (mem_delete_iff.mp mem).1).imp_right mem_singleton.mp

/-- A code that is unused after a call was so before and is not redeemed, or is new. -/
theorem unused_of_step {action : Env × Call}
    (mem : row ∈ (step nonceHash store action).2.codes) (unused : row.usedAt = none) :
    row ∈ store.codes ∧ (∀ nonce token,
        ¬ Redeems (happening nonceHash store action) row.code nonce token) ∧
        (∀ grant, ¬ Creates (happening nonceHash store action) row.code grant) ∨
      Creates (happening nonceHash store action) row.code row.grant := by
  rcases action with ⟨_, call⟩
  cases call with
  | createIngress | createEmbed =>
    dsimp only [happening, step, createIngressAuthCode, createEmbedAuthCode] at mem ⊢
    split at mem
    · exact .inl ⟨mem, nofun, nofun⟩
    rcases Store.of_mem_insertCode mem with ⟨old, differs⟩ | ⟨rfl, created⟩
    · exact .inl ⟨old, nofun, fun _ created => differs created.2⟩
    · exact .inr ⟨rfl, created⟩
  | consumeIngress | consumeEmbed =>
    rcases unused_of_consumeAuthCode mem unused with ⟨old, fails⟩
    refine .inl ⟨old, ?_, nofun⟩
    rintro _ _ ⟨named, reply, replied, -⟩
    cases named
    exact fails rfl reply replied

/-- A call opens no session, or it redeems a code and opens one for it. -/
theorem opens_of_step (action : Env × Call) :
    ((∀ session ∈ (step nonceHash store action).2.sessions, session ∈ store.sessions) ∧
      ∀ code nonce token, ¬ Redeems (happening nonceHash store action) code nonce token) ∨
    ∃ row ∈ store.codes, row.usedAt = none ∧ ∃ nonce,
      nonce.map nonceHash = some row.browserNonceHash ∧
      ∃ session ∈ (step nonceHash store action).2.sessions,
        Redeems (happening nonceHash store action) row.code nonce session.token ∧
        session.ingressId = row.ingressId ∧ session.userId = row.userId ∧
        (session.Fits row.grant ↔ (row.embed = true → action.2.isConsumeEmbed = true)) ∧
        ∀ other ∈ (step nonceHash store action).2.sessions,
          other ∈ store.sessions ∨ other = session := by
  have refused : ∀ error, (step nonceHash store action).1 = .error error → ∀ code nonce token,
      ¬ Redeems (happening nonceHash store action) code nonce token := by
    rintro error failed _ _ _ ⟨-, _, replied, -⟩
    cases failed.symm.trans replied
  rcases action with ⟨env, call⟩
  cases call with
  | createIngress | createEmbed =>
    refine .inl ⟨fun session mem => ?_, nofun⟩
    dsimp only [step, createIngressAuthCode, createEmbedAuthCode, Store.insertCode] at mem
    split at mem
    · exact mem
    · split at mem <;> exact mem
  | consumeIngress hostname code nonce =>
    have done : consumeIngressAuthCode nonceHash env hostname code nonce store =
      step nonceHash store (env, .consumeIngress hostname code nonce) := rfl
    rw [consumeIngressAuthCode] at done
    rcases consumeAuthCode_cases done with
      ⟨⟨error, failed⟩, same⟩ | ⟨row, mem, rfl, unused, -, fits, opened⟩
    · exact .inl ⟨fun _ mem => same ▸ mem, refused error failed⟩
    dsimp only at opened
    split at opened
    all_goals
      rw [Prod.mk.injEq] at opened
      rw [← opened.2]
    · exact .inl ⟨fun _ mem => (mem_delete_iff.mp mem).1, refused _ opened.1.symm⟩
    rename_i sessions inserted
    have rows := (insert?_eq_some inserted).2
    have added := (mem_of_rows_append rows).mpr (.inr mem_cons_self)
    refine .inr ⟨row, mem, unused, nonce, fits, _, added, ⟨rfl, _, opened.1.symm, rfl⟩, rfl, rfl,
      ?_, fun other otherMem => ?_⟩
    · cases kind : row.embed <;>
        simp [IngressSession.Fits, AuthCode.grant, Call.isConsumeEmbed, kind]
    · exact ((mem_of_rows_append rows).mp otherMem).imp (fun old => (mem_delete_iff.mp old).1)
        mem_singleton.mp
  | consumeEmbed hostname agentId code nonce =>
    have done : consumeEmbedAuthCode nonceHash env hostname agentId code nonce store =
      step nonceHash store (env, .consumeEmbed hostname agentId code nonce) := rfl
    rw [consumeEmbedAuthCode] at done
    rcases consumeAuthCode_cases done with
      ⟨⟨error, failed⟩, same⟩ | ⟨row, mem, rfl, unused, selects, fits, opened⟩
    · exact .inl ⟨fun _ mem => same ▸ mem, refused error failed⟩
    dsimp only at opened
    split at opened
    all_goals
      rw [Prod.mk.injEq] at opened
      rw [← opened.2]
    · exact .inl ⟨fun _ mem => mem, refused _ opened.1.symm⟩
    rename_i token sessions inserted
    rcases insertEmbedSession_eq_ok inserted with
      ⟨session, sessionMem, rfl, ingressEq, userEq, embed, short, others⟩
    rw [Bool.and_eq_true] at selects
    exact .inr ⟨row, mem, unused, some nonce, fits, session, sessionMem,
      ⟨rfl, _, opened.1.symm, rfl⟩, ingressEq, userEq,
      iff_of_true ⟨embed.trans selects.1.symm, fun _ => short⟩ fun _ => rfl,
      fun other otherMem => (others other otherMem).imp_left fun old => (mem_delete_iff.mp old).1⟩

theorem outstanding_of_unused (actions : List (Env × Call)) :
    ∀ row ∈ (exec (step nonceHash) {} actions).codes, row.usedAt = none →
      Outstanding (trace (step nonceHash) {} actions) row.code row.grant := by
  refine trace_invariant (fun history store => ∀ row ∈ store.codes, row.usedAt = none →
    Outstanding history row.code row.grant) ?_ ?_ actions
  case refine_2 => exact fun _ mem => absurd mem not_mem_nil
  intro history store action owned row mem unused
  rcases unused_of_step mem unused with ⟨old, quiet, -⟩ | created
  · rcases owned row old unused with ⟨earlier, creation, later, rfl, created, since⟩
    refine ⟨earlier, creation, later ++ [happening nonceHash store action],
      by simp [happening], created, ?_⟩
    intro entry entryMem
    rcases mem_append.mp entryMem with before | last
    · exact since entry before
    · cases mem_singleton.mp last
      exact quiet
  · exact ⟨history, _, [], rfl, created, by simp⟩

/-- Each successful redemption is the first since its code was created, and its session is for
the ingress, the user and the nonce of that creation. It is of the kind of the code unless an
embed code was redeemed as a plain one. -/
theorem redemption_fits_iff (actions : List (Env × Call)) (action : Env × Call)
    {code token : String} {nonce : Option String}
    (redeems : Redeems (happening nonceHash (exec (step nonceHash) {} actions) action) code nonce
      token) :
    ∃ grant, Outstanding (trace (step nonceHash) {} actions) code grant ∧
      nonce.map nonceHash = some grant.browserNonceHash ∧
      ∃ session ∈ (step nonceHash (exec (step nonceHash) {} actions) action).2.sessions,
        session.token = token ∧ session.ingressId = grant.ingressId ∧
        session.userId = grant.userId ∧
        (session.Fits grant ↔ (grant.embed = true → action.2.isConsumeEmbed = true)) := by
  rcases opens_of_step action with ⟨-, none⟩ |
    ⟨row, mem, unused, given, fits, session, sessionMem, ⟨named, reply, replied, tokenEq⟩, facts⟩
  · exact absurd redeems (none _ _ _)
  rcases redeems with ⟨same, _, repeats, rfl⟩
  cases named.symm.trans same
  cases replied.symm.trans repeats
  exact ⟨row.grant, outstanding_of_unused actions row mem unused, fits, session, sessionMem,
    tokenEq.symm, facts.1, facts.2.1, facts.2.2.1⟩

section

/-- A frame of one Agent. -/
def frameEnv : Env where
  now := 0
  insertNow := 0
  unique := "u"
  requireWorkspaceMember _ _ := .ok ()
  serviceIngresses := [⟨"ingress", "workspace", "agent.treer", true⟩]

def frameNonce : String := String.ofList (List.replicate 64 '0')

/-- Like SHA-256 on the nonce of the frame. -/
def frameNonceHash : String → String :=
  fun _ => "60e05bd1b195af2f94112fa7197a5c88289058840ce7c6df9693756bc6250f55"

def framePrewarm : Env × Call :=
  (frameEnv, .createEmbed ⟨"ingress", "workspace", "agent.treer", true⟩ "user" "agent"
    (frameNonceHash frameNonce) true)

theorem prewarm_fits_in_frame : ∃ grant,
    Outstanding (trace (step frameNonceHash) {} [framePrewarm]) "iec_v1_u" grant ∧
    ∃ session ∈ (step frameNonceHash (exec (step frameNonceHash) {} [framePrewarm])
      (frameEnv, .consumeEmbed "agent.treer" "agent" "iec_v1_u" frameNonce)).2.sessions,
      session.Fits grant := by
  rcases @redemption_fits_iff frameNonceHash [framePrewarm]
    (frameEnv, .consumeEmbed "agent.treer" "agent" "iec_v1_u" frameNonce) "iec_v1_u" "ies_u"
    (some frameNonce) ⟨rfl, .embedSession "ies_u" 600, by decide +kernel, rfl⟩ with
    ⟨grant, outstanding, -, session, mem, -, -, -, fits⟩
  exact ⟨grant, outstanding, session, mem, fits.mpr fun _ => rfl⟩

theorem prewarm_opens_standalone : ∃ creation redemption grant session,
    trace (step frameNonceHash) {} [framePrewarm,
      (frameEnv, .consumeIngress "agent.treer" "iec_v1_u" (some frameNonce))] =
        [creation, redemption] ∧
    Creates creation "iec_v1_u" grant ∧
    Redeems redemption "iec_v1_u" (some frameNonce) session.token ∧
    redemption.after.sessions.rows = [session] ∧ ¬ session.Fits grant := by
  refine ⟨_, _, _, ⟨"ias_u", "ingress", "user", 0, 43200, false, false, false⟩, rfl, ⟨rfl, ?_⟩,
    ⟨rfl, .authorized "ias_u" "/", ?_, rfl⟩, ?_, ?_⟩
  · decide +kernel
  · decide +kernel
  · decide +kernel
  · rintro ⟨⟨⟩, _⟩

end
end Treer.Ingress
