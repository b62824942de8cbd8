import Treer.Ingress.Codes

/-!
# The end of Console sessions

A session on an ingress is derived from a session of the Console, and `logout` ends it with
that one. The other ways to end a session of the Console leave the sessions on ingresses, and
no way touches the codes that are not redeemed yet.
-/

namespace Treer.Ingress

open Foundation Protocol Table

/-- `sessions`; the random `session_id` is a number that no other session has. -/
structure ConsoleSession where
  token : String
  sessionId : Nat
  userId : String
  expiresAt : Nat

/-- The table, and the next number for a session. -/
structure Consoles where
  rows : Table ConsoleSession (·.token) := .empty
  nextSessionId : Nat := 0

/-- `SESSION_TTL_DAYS` in seconds. -/
def sessionTtl : Nat := 30 * 24 * 3600

/-- The password is checked first: `checked` is what that has given. -/
inductive ConsoleCall where
  | login (checked : Except ProtocolError Unit) (now : Nat) (token userId : String)
  | revokeSession (userId : String) (sessionId : Nat)
  | changePassword (checked : Except ProtocolError Unit) (userId token newToken : String)
  | resetPassword (checked : Except ProtocolError String)

namespace Consoles

variable (consoles : Consoles)

/-- `DELETE FROM sessions`. -/
def delete (selected : ConsoleSession → Bool) : Consoles :=
  { consoles with rows := consoles.rows.delete selected }

/-- `create_session`: expired sessions go, and a new one is inserted. -/
def createSession (now : Nat) (token userId : String) : Except ProtocolError Unit × Consoles :=
  let kept := consoles.delete (·.expiresAt ≤ now)
  match kept.rows.insert? ⟨token, kept.nextSessionId, userId, now + sessionTtl⟩ with
  | none => (.error databaseError, kept)
  | some rows => (.ok (), ⟨rows, kept.nextSessionId + 1⟩)

/-- `revoke_session`. -/
def revokeSession (userId : String) (sessionId : Nat) : Except ProtocolError Unit × Consoles :=
  let selected (console : ConsoleSession) : Bool :=
    console.userId == userId && console.sessionId == sessionId
  if consoles.rows.rows.any selected then (.ok (), consoles.delete selected)
  else (.error ⟨"session_not_found", "session does not exist", none⟩, consoles)

/-- The transaction of `change_password`. -/
def changePassword (userId token newToken : String) : Except ProtocolError Unit × Consoles :=
  match (consoles.rows.find? token).filter (·.userId == userId) with
  | none => (.error
    ⟨"authentication_required", "the current session ended; sign in again", none⟩, consoles)
  | some console =>
    match (consoles.rows.delete (·.token == token)).insert? { console with token := newToken } with
    | none => (.error databaseError, consoles)
    | some rows => (.ok (), { consoles with rows }.delete fun other =>
        other.userId == userId && other.token != newToken)

/-- A call that has checked its password or token. -/
def step : ConsoleCall → Except ProtocolError Unit × Consoles
  | .login (.ok _) now token userId => consoles.createSession now token userId
  | .revokeSession userId sessionId => consoles.revokeSession userId sessionId
  | .changePassword (.ok _) userId token newToken => consoles.changePassword userId token newToken
  | .resetPassword (.ok userId) => (.ok (), consoles.delete (·.userId == userId))
  | .login (.error error) .. | .changePassword (.error error) .. | .resetPassword (.error error) =>
    (.error error, consoles)

end Consoles

/-- The tables, and for each code and session the Console sessions that its user had when the code
was created. -/
structure World where
  store : Store := {}
  consoles : Consoles := {}
  codeParents : String → List Nat := fun _ => []
  sessionParents : String → List Nat := fun _ => []

/-- A call on codes and ingress sessions, a logout, or another call on Console sessions. -/
inductive Act where
  | ingress (action : Env × Call)
  | logout (token : String)
  | console (call : ConsoleCall)

variable (nonceHash : String → String)

namespace World

variable (world : World)

/-- `logout`. -/
def logout (token : String) : World :=
  let userId := (world.consoles.rows.find? token).map (·.userId)
  { world with
    store.sessions := world.store.sessions.delete fun session => userId == some session.userId
    consoles := world.consoles.delete (·.token == token) }

/-- A call on codes and ingress sessions, with the Console sessions that it counts on. -/
def ingress (action : Env × Call) : World :=
  let outcome := (Ingress.step nonceHash world.store action).1
  { world with
    store := (Ingress.step nonceHash world.store action).2
    codeParents code := match action.2.grant?, outcome with
      | some grant, .ok (.code made) => if made = code
        then (world.consoles.rows.rows.filter (·.userId == grant.userId)).map (·.sessionId)
        else world.codeParents code
      | _, _ => world.codeParents code
    sessionParents token := match action.2.redeems?, outcome with
      | some (code, _), .ok reply => if reply.token = token then world.codeParents code
        else world.sessionParents token
      | _, _ => world.sessionParents token }

/-- One call. -/
def step : Act → Except ProtocolError Unit × World
  | .ingress action => ((Ingress.step nonceHash world.store action).1.map fun _ => (),
      world.ingress nonceHash action)
  | .logout token => (.ok (), world.logout token)
  | .console call => ((world.consoles.step call).1,
      { world with consoles := (world.consoles.step call).2 })

/-- `authenticate_ingress_session_kind`: the user of a session that is answered. -/
def authenticateIngressSessionKind (env : Env) (hostname token : String) (embed : Bool) :
    Option String := do
  let session ← world.store.sessions.find? token
  let ingress ← env.serviceIngresses.find? fun ingress =>
    lower ingress.hostname == lower hostname && ingress.enabled &&
      ingress.ingressId == session.ingressId
  if env.now < session.expiresAt && session.embed == embed then
    match env.requireWorkspaceMember ingress.workspaceId session.userId with
    | .ok _ => some session.userId
    | .error _ => none
  else none

/-- A session of the Console is left that the user had then. -/
def Supported (userId : String) (parents : List Nat) : Prop :=
  ∃ console ∈ world.consoles.rows, console.userId = userId ∧ console.sessionId ∈ parents

/-- Whether a call ends a session of the Console, as the tables are before the call. -/
def ends (console : ConsoleSession) : Act → Bool
  | .logout token => console.token == token
  | .console (.login (.ok _) now _ _) => console.expiresAt ≤ now
  | .console (.revokeSession userId sessionId) =>
    console.userId == userId && console.sessionId == sessionId
  | .console (.changePassword (.ok _) userId token _) =>
    console.userId == userId && console.token != token &&
      (world.consoles.rows.find? token).any (·.userId == userId)
  | .console (.resetPassword (.ok userId)) => console.userId == userId
  | _ => false

/-- The user has a session of the Console from then that the call does not end. -/
def Spared (act : Act) (userId : String) (parents : List Nat) : Prop :=
  ∃ console ∈ world.consoles.rows.rows, console.userId = userId ∧ console.sessionId ∈ parents ∧
    world.ends console act = false
deriving Decidable

/-- Codes are created for users with a session of the Console. No call ends the last one of an
unused code, and none but `logout` the last one of a session. -/
def Allowed : Act → Prop
  | .ingress action => ∀ grant ∈ action.2.grant?,
    ∃ console ∈ world.consoles.rows.rows, console.userId = grant.userId
  | .logout token => ∀ row ∈ world.store.codes.rows, row.usedAt = none →
    world.Spared (.logout token) row.userId (world.codeParents row.code)
  | .console call =>
    (∀ row ∈ world.store.codes.rows, row.usedAt = none →
      world.Spared (.console call) row.userId (world.codeParents row.code)) ∧
    ∀ session ∈ world.store.sessions.rows,
      world.Spared (.console call) session.userId (world.sessionParents session.token)

instance (act : Act) : Decidable (world.Allowed act) := by
  unfold Allowed
  split <;> infer_instance

/-- Unused codes and sessions have a session of the Console from when the code was created. -/
structure Live : Prop where
  codes : ∀ row ∈ world.store.codes, row.usedAt = none →
    world.Supported row.userId (world.codeParents row.code)
  sessions : ∀ session ∈ world.store.sessions,
    world.Supported session.userId (world.sessionParents session.token)

variable {nonceHash} {world} {console : ConsoleSession}

theorem left_of_changePassword (mem : console ∈ world.consoles.rows)
    {userId token newToken : String} (spared : world.ends console
      (.console (.changePassword (.ok ()) userId token newToken)) = false) :
    ∃ left ∈ (world.consoles.changePassword userId token newToken).2.rows,
      left.userId = console.userId ∧ left.sessionId = console.sessionId := by
  unfold Consoles.changePassword
  split
  · exact ⟨console, mem, rfl, rfl⟩
  rename_i current found
  split
  · exact ⟨console, mem, rfl, rfl⟩
  rename_i inserted
  have rows := (insert?_eq_some inserted).2
  rcases Option.filter_eq_some_iff.mp found with ⟨found, own⟩
  by_cases same : console.token = token
  · -- The session of the caller: its row is replaced by one with the new token.
    cases (find?_eq_some_iff.mpr ⟨mem, same⟩).symm.trans found
    have new := (mem_of_rows_append rows).mpr (.inr (List.mem_singleton.mpr rfl))
    exact ⟨_, mem_delete_iff.mpr ⟨new, by simp⟩, rfl, rfl⟩
  · have other : (console.userId == userId) = false := by
      simpa [World.ends, found, own, same] using spared
    have old : console ∈ world.consoles.rows.delete (·.token == token) :=
      mem_delete_iff.mpr ⟨mem, beq_eq_false_iff_ne.mpr same⟩
    exact ⟨console, mem_delete_iff.mpr ⟨(mem_of_rows_append rows).mpr (.inl old), by simp [other]⟩,
      rfl, rfl⟩

/-- A call leaves the sessions that it does not end, though with a new token in
`change_password`. -/
theorem left_of_step (mem : console ∈ world.consoles.rows)
    {act : Act} (spared : world.ends console act = false) :
    ∃ left ∈ (world.step nonceHash act).2.consoles.rows,
      left.userId = console.userId ∧ left.sessionId = console.sessionId := by
  cases act with
  | ingress => exact ⟨console, mem, rfl, rfl⟩
  | logout => exact ⟨console, mem_delete_iff.mpr ⟨mem, spared⟩, rfl, rfl⟩
  | console call =>
    cases call with
    | login checked now token userId =>
      cases checked with
      | error => exact ⟨console, mem, rfl, rfl⟩
      | ok =>
        refine ⟨console, ?_, rfl, rfl⟩
        have kept : console ∈ (world.consoles.delete (·.expiresAt ≤ now)).rows :=
          mem_delete_iff.mpr ⟨mem, spared⟩
        dsimp only [World.step, Consoles.step, Consoles.createSession]
        split
        · exact kept
        · rename_i inserted
          exact (mem_of_rows_append (insert?_eq_some inserted).2).mpr (.inl kept)
    | revokeSession =>
      refine ⟨console, ?_, rfl, rfl⟩
      dsimp only [World.step, Consoles.step, Consoles.revokeSession]
      split
      · exact mem_delete_iff.mpr ⟨mem, spared⟩
      · exact mem
    | resetPassword checked =>
      cases checked with
      | error => exact ⟨console, mem, rfl, rfl⟩
      | ok => exact ⟨console, mem_delete_iff.mpr ⟨mem, spared⟩, rfl, rfl⟩
    | changePassword checked userId token newToken =>
      cases checked with
      | error => exact ⟨console, mem, rfl, rfl⟩
      | ok => exact left_of_changePassword mem spared

theorem Spared.step {act : Act} {userId : String} {parents : List Nat}
    (spared : world.Spared act userId parents) :
    (world.step nonceHash act).2.Supported userId parents := by
  rcases spared with ⟨console, mem, rfl, parent, kept⟩
  rcases left_of_step mem kept with ⟨left, leftMem, userEq, sessionEq⟩
  exact ⟨left, leftMem, userEq, sessionEq ▸ parent⟩

theorem Live.ingress (live : world.Live) {action : Env × Call}
    (allowed : world.Allowed (.ingress action)) :
    (world.ingress nonceHash action).Live := by
  constructor
  · intro row mem unused
    rcases unused_of_step mem unused with ⟨old, -, others⟩ | ⟨named, made⟩
    · have same : (world.ingress nonceHash action).codeParents row.code =
          world.codeParents row.code := by
        dsimp only [World.ingress]
        split
        · rename_i grant made named outcome
          apply if_neg
          rintro rfl
          exact others grant ⟨named, outcome⟩
        · rfl
      rw [same]
      exact live.codes row old unused
    · rcases allowed row.grant named with ⟨console, consoleMem, userEq⟩
      refine ⟨console, consoleMem, userEq, ?_⟩
      dsimp only [happening] at named made
      dsimp only [World.ingress]
      rw [named, made]
      dsimp only
      rw [if_pos rfl]
      exact List.mem_map_of_mem (List.mem_filter.mpr ⟨consoleMem, beq_iff_eq.mpr userEq⟩)
  · intro session mem
    rcases opens_of_step action with ⟨kept, none⟩ | ⟨row, rowMem, unused, nonce, -, opened,
      openedMem, ⟨named, reply, replied, tokenEq⟩, -, userEq, -, others⟩
    · have same : (world.ingress nonceHash action).sessionParents session.token =
          world.sessionParents session.token := by
        dsimp only [World.ingress]
        split
        · rename_i code nonce reply named outcome
          exact if_neg fun tokenEq => none code nonce _ ⟨named, reply, outcome, tokenEq⟩
        · rfl
      rw [same]
      exact live.sessions session (kept session mem)
    · have parents : (world.ingress nonceHash action).sessionParents session.token =
          if opened.token = session.token then world.codeParents row.code
          else world.sessionParents session.token := by
        dsimp only [happening] at named replied
        dsimp only [World.ingress]
        rw [named, replied, ← tokenEq]
      rw [parents]
      split
      · rename_i same
        cases eq_of_key_eq openedMem mem same
        rw [userEq]
        exact live.codes row rowMem unused
      · rename_i differs
        rcases others session mem with old | rfl
        · exact live.sessions session old
        · exact absurd rfl differs

theorem Live.step (live : world.Live) {act : Act} (allowed : world.Allowed act) :
    (world.step nonceHash act).2.Live := by
  cases act with
  | ingress => exact live.ingress allowed
  | console call =>
    exact ⟨fun row mem unused => (allowed.1 row mem unused).step,
      fun session mem => (allowed.2 session mem).step⟩
  | logout token =>
    refine ⟨fun row mem unused => (allowed row mem unused).step, fun session mem => ?_⟩
    -- The sessions that are left belong to other users than the one who logs out.
    rcases mem_delete_iff.mp mem with ⟨old, other⟩
    rcases live.sessions session old with ⟨console, consoleMem, userEq, parent⟩
    refine ⟨console, mem_delete_iff.mpr ⟨consoleMem, beq_eq_false_iff_ne.mpr ?_⟩, userEq, parent⟩
    rintro rfl
    rw [find?_eq_some_iff.mpr ⟨consoleMem, rfl⟩, Option.map_some, userEq] at other
    simp at other

end World

/-- After a run of allowed steps, a session opens a page, and a code is redeemed, only while the
user has one of the Console sessions from when the code was created. -/
theorem access_ends_with_console (acts : List Act)
    (allowed : AllSteps (World.step nonceHash) World.Allowed {} acts) :
    let world := exec (World.step nonceHash) {} acts
    (∀ env hostname token embed userId,
      world.authenticateIngressSessionKind env hostname token embed = some userId →
        world.Supported userId (world.sessionParents token)) ∧
    ∀ action code nonce token, Redeems (happening nonceHash world.store action) code nonce token →
      ∃ userId, world.Supported userId (world.codeParents code) := by
  intro world
  rw [← List.append_nil acts] at allowed
  have live : world.Live := AllSteps.invariant (fun _ _ live => live.step) ⟨nofun, nofun⟩ allowed
  constructor
  · intro env hostname token embed userId authenticated
    simp only [World.authenticateIngressSessionKind, Option.bind_eq_bind,
      Option.bind_eq_some_iff] at authenticated
    rcases authenticated with ⟨session, found, _, -, answered⟩
    split at answered
    · split at answered
      · cases answered
        rcases find?_eq_some_iff.mp found with ⟨mem, rfl⟩
        exact live.sessions session mem
      · cases answered
    · cases answered
  · intro action code nonce token redeems
    rcases opens_of_step action with ⟨-, none⟩ | ⟨row, mem, unused, _, -, _, -, again, -⟩
    · exact absurd redeems (none _ _ _)
    · cases redeems.1.symm.trans again.1
      exact ⟨_, live.codes row mem unused⟩

section

/-- A login with a new token, at the time 0. -/
def frameLogin (token : String) : Act := .console (.login (.ok ()) 0 token "user")

/-- The redemption of the prewarmed code. -/
def frameRedemption : Act :=
  .ingress (frameEnv, .consumeEmbed "agent.treer" "agent" "iec_v1_u" frameNonce)

/-- One of two sessions of the Console is revoked before the code is redeemed, and the other one
gets a new token afterwards. -/
def frameRun : List Act :=
  [frameLogin "console", frameLogin "second", .ingress framePrewarm,
    .console (.revokeSession "user" 0), frameRedemption,
    .console (.changePassword (.ok ()) "user" "second" "third")]

theorem frame_opens_with_console :
    (exec (World.step frameNonceHash) {} frameRun).Supported "user" [0, 1] := by
  apply (access_ends_with_console frameNonceHash frameRun (by decide +kernel)).1 frameEnv
    "agent.treer" "ies_u" true
  decide +kernel

theorem frame_opens_after_logout :
    let world := exec (World.step frameNonceHash) {}
      [frameLogin "console", .ingress framePrewarm, .logout "console", frameRedemption]
    world.authenticateIngressSessionKind frameEnv "agent.treer" "ies_u" true = some "user" ∧
      world.sessionParents "ies_u" = [0] ∧ world.consoles.rows.rows = [] := by
  decide +kernel

end
end Treer.Ingress
