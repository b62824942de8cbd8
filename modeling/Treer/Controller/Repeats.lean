import Treer.Controller.Revisions

/-!
# Versions that come again

A version that is not newer than the stored one is refused or recognised by reads alone.
`update_app_startup` then ends without a change; `ensure_app_lifecycle` goes on to make
sure that the App runs as wanted, and counts a new attempt only if it has to start an App
that is not running.
-/

namespace Treer.Controller

open Foundation Protocol Host Startup Procedure Program.Stays List Option Shared
open Foundation.Procedure (call attempt settle)
variable {β : Type} {α γ : Type} {config : Config β} {shared : Shared β}

/-- The judgment of a part of an operation while nothing happens between its calls. -/
abbrev Alone (config : Config β) (guarantee : Shared β → Shared β → Prop)
    (post : α → Shared β → Prop) (program : Program Call α) (shared : Shared β) : Prop :=
  program.Keeps (machine config) Eq guarantee post shared

/-- The program changes nothing. -/
abbrev IsRead (config : Config β) (program : Program Call α) : Prop :=
  program.Stays (machine config) Eq

theorem IsRead.call {instruction : Call α} (reads : instruction.reads = true) :
    IsRead config (call instruction : Procedure α).run :=
  bind (.perform fun world _ => (machine_reads reads world).symm)
    fun answer => .done (Except.ok answer)

theorem isRead_requireNotDenied (agentId : String) :
    IsRead config (requireNotDenied agentId).run := by
  refine .seq (IsRead.call rfl) ?_
  intro denied
  exact .settle _

theorem isRead_resolveMachineDirectory (requested : String) :
    IsRead config (resolveMachineDirectory requested).run := by
  refine .seq (IsRead.call rfl) ?_
  intro world
  exact .settle _

theorem isRead_getStartup (agentId : String) : IsRead config (getStartup config agentId).run := by
  refine .seq (IsRead.call rfl) ?_
  intro entry
  split
  · exact .pure _
  · exact .throw _

variable {agentId : String} {guarantee : Shared β → Shared β → Prop}

section
variable [IsPreorder (Shared β) guarantee]
  {rest : α → Procedure γ} {goal : Except ProtocolError γ → Shared β → Prop}

theorem alone_read {instruction : Call α} (reads : instruction.reads = true)
    (follows : ∀ world,
      Alone config guarantee goal (rest (machine config instruction world shared).1).run shared) :
    Alone config guarantee goal (call instruction >>= rest).run shared := by
  apply keeps_call_bind
  rintro _ world rfl
  rw [machine_reads reads]
  exact ⟨refl_of guarantee shared, follows world⟩

variable {program : Procedure α}

/-- A part that only reads comes first. -/
theorem IsRead.seqAlone (reads : IsRead config program.run)
    (failed : ∀ error, goal (.error error) shared)
    (follows : ∀ result, Alone config guarantee goal (rest result).run shared) :
    Alone config guarantee goal (program >>= rest).run shared := by
  refine keeps_bind ((reads shared).weaken ?_) ?_ ?_
  · rintro before _ rfl
    exact refl_of guarantee before
  · rintro error _ rfl
    exact failed error
  · rintro result _ rfl
    exact follows result

/-- A part that stays within the guarantee comes first. -/
theorem alone_seq (stays : program.run.Stays (machine config) guarantee)
    (failed : ∀ error after, guarantee shared after → goal (.error error) after)
    (follows : ∀ result after, guarantee shared after →
      Alone config guarantee goal (rest result).run after) :
    Alone config guarantee goal (program >>= rest).run shared := by
  refine keeps_bind ((stays shared).narrow ?_) failed follows
  rintro before _ rfl
  exact refl_of guarantee before

theorem Alone.run {program : Program Call α} {post : α → Shared β → Prop}
    (alone : Alone config guarantee post program shared) (worlds : Nat → World) :
    guarantee shared (program.run (machine config) worlds shared).2 := by
  have reached := (Program.Keeps.run (fun state => rfl) alone worlds).1
  rwa [Relation.reflTransGen_eq_self] at reached

variable {entry : StoredAgentStartup} {revision : Nat}

theorem alone_checkedAppStartup (request : ReplaceAgentStartupRequest) : Alone config guarantee
      (fun result after => after = shared ∧
        ∀ found, result = .ok found → shared.startupStore.get agentId = some found)
      (checkedAppStartup config agentId request).run shared := by
  apply keeps_settle_bind
  · exact fun error _ => ⟨rfl, nofun⟩
  intro _ _
  apply alone_read rfl
  intro world
  dsimp only [machine]
  cases found : shared.startupStore.get agentId with
  | none => exact .done ⟨rfl, nofun⟩
  | some =>
    apply keeps_settle_bind
    · exact fun error _ => ⟨rfl, nofun⟩
    intro _ _
    apply (isRead_resolveMachineDirectory _).seqAlone
    · exact fun error => ⟨rfl, nofun⟩
    intro _
    refine .done ⟨rfl, ?_⟩
    rintro _ ⟨⟩
    rfl

theorem alone_saveAppStartupLocked (request : ReplaceAgentStartupRequest)
    (stored : shared.startupStore.get agentId = some entry)
    (notNewer : revision ≤ entry.appRevision) :
    Alone config guarantee
      (fun result after => after = shared ∧ ∀ saved, result = .ok saved → saved.2 = false)
      (saveAppStartupLocked config agentId request revision).run shared := by
  apply keeps_bind (alone_checkedAppStartup request)
  · rintro _ after ⟨rfl, _⟩
    exact ⟨rfl, nofun⟩
  rintro found _ ⟨rfl, known⟩
  cases stored.symm.trans (known found rfl)
  split
  · exact .done ⟨rfl, nofun⟩
  rename_i current
  split
  · split
    · refine .done ⟨rfl, ?_⟩
      rintro _ ⟨⟩
      rfl
    · exact .done ⟨rfl, nofun⟩
  · rename_i differs
    simp only [Bool.or_eq_true, decide_eq_true_eq, beq_iff_eq, not_or, not_lt] at current
    exact absurd (le_antisymm notNewer current.1) differs

theorem alone_acceptRevision (create : CreateAgentRequest)
    (stored : shared.startupStore.get agentId = some entry)
    (notNewer : revision ≤ entry.appRevision) :
    Alone config guarantee (fun result after => after = shared ∧ result ≠ .ok true)
      (acceptRevision config agentId create (some revision)).run shared := by
  apply keeps_settle_bind
  · exact fun error _ => ⟨rfl, nofun⟩
  intro _ _
  apply alone_read rfl
  intro world
  change Alone _ _ _ (if (shared.startupStore.get agentId).isSome then _ else _ :
    Procedure Bool).run _
  rw [stored, isSome_some, if_pos rfl]
  apply keeps_bind (alone_saveAppStartupLocked _ stored notNewer)
  · rintro _ after ⟨rfl, _⟩
    exact ⟨rfl, nofun⟩
  · rintro saved _ ⟨rfl, known⟩
    refine .done ⟨rfl, ?_⟩
    rw [known saved rfl]
    nofun

/-- A declaration that is there is not made again. -/
theorem alone_declareMissing (workloadCredential : Option String) (create : CreateAgentRequest)
    (enabled startMissing : Bool) (given : Option Nat)
    (declared : (shared.startupStore.get agentId).isSome = true) :
    Alone config guarantee (fun result after => after = shared ∧ result = .ok false)
      (declareMissing config agentId workloadCredential create enabled startMissing given).run
      shared := by
  apply alone_read rfl
  intro world
  change Alone _ _ _ (if (shared.startupStore.get agentId).isSome then _ else _ :
    Procedure Bool).run _
  rw [if_pos declared]
  exact .done ⟨rfl, rfl⟩

/-- `ensure_app_lifecycle` for a version that is not newer goes on with what is declared. -/
theorem alone_ensure_of_notNewer (operationId : String) (workloadCredential : Option String)
    (create : CreateAgentRequest) (enabled startMissing : Bool)
    (stored : shared.startupStore.get agentId = some entry)
    (notNewer : revision ≤ entry.appRevision)
    (follows : Alone config guarantee (fun _ _ => True)
      (ensureDeclared config operationId agentId workloadCredential create enabled startMissing
        (some revision)).run shared) :
    Alone config guarantee (fun _ _ => True)
      (ensureAppLifecycle config operationId agentId workloadCredential create enabled
        startMissing (some revision)).run shared := by
  apply (isRead_requireNotDenied agentId).seqAlone
  · intros
    trivial
  intro _
  apply keeps_bind (alone_acceptRevision create stored notNewer)
  · intros
    trivial
  rintro changed _ ⟨rfl, notChanged⟩
  cases changed with
  | false => exact follows
  | true => exact absurd rfl notChanged

end

/-! ## An App that runs -/

/-- The command starts or stops a process. -/
def movesProcess : HostCommand → Bool
  | .spawn _ | .stop _ => true
  | _ => false

namespace Shared

/-- Every request that starts or stops a process. -/
def orders (shared : Shared β) : List Sent :=
  shared.sent.filter (movesProcess ·.command)

/-- The record of the agent is that of a running process. -/
def isLive (shared : Shared β) (agentId : String) : Bool :=
  (shared.agents.get? agentId).any (!·.info.status.isTerminal)

end Shared

/-- Nothing is counted, started or stopped, and the agent does not stop running. -/
structure Calm (agentId : String) (before after : Shared β) : Prop where
  quiet : Quiet before after
  orders : after.orders = before.orders
  live : before.isLive agentId = true → after.isLive agentId = true

instance (agentId : String) : IsPreorder (Shared β) (Calm agentId) where
  refl shared := ⟨Quiet.refl shared, rfl, id⟩
  trans _ _ _ first second :=
    ⟨first.quiet.trans second.quiet, second.orders.trans first.orders,
      fun holds => second.live (first.live holds)⟩

theorem isTerminal_of_detectStatus {text : String} {status : AgentStatus}
    (detected : config.detectStatus text = some status) : status.isTerminal = false := by
  unfold Config.detectStatus at detected
  simp only at detected
  split at detected
  · cases detected
    rfl
  split at detected
  · cases detected
    rfl
  · split at detected
    · cases detected
      rfl
    · cases detected

variable {process : HostProcessInfo}

/-- The record of a running process is live. -/
theorem isTerminal_agentOfProcess (running : process.running = true) (metadata : AgentMetadata)
    (text : Option String) (now : Int) :
    (agentOfProcess config process metadata text now).info.status.isTerminal = false := by
  simp only [agentOfProcess, running, if_true]
  cases detected : config.detectStatus (text.getD "") with
  | some => exact isTerminal_of_detectStatus detected
  | none =>
    split
    · rfl
    · rfl

theorem Quiet.isSome_get {before after : Shared β} (quiet : Quiet before after) (agentId : String) :
    (after.startupStore.get agentId).isSome = (before.startupStore.get agentId).isSome := by
  have same := congrArg isSome (congrFun quiet.declarations agentId)
  rwa [Shared.declarations, Shared.declarations, isSome_map, isSome_map] at same

section
theorem calm_publish {agent : ControllerAgent} (live : agent.info.status.isTerminal = false)
    (world : World) (running : Bool) (port : Option Nat) (inventoryOnly : Bool)
    (shared : Shared β) :
    Calm agentId shared
      (machine config (.publish agent running port inventoryOnly) world shared).2 := by
  change Calm agentId shared (shared.publish world agent running port inventoryOnly).2
  rcases publish_cases shared world agent running port inventoryOnly with
    ⟨result, kept, _⟩ | ⟨stored, revision, info, _, published⟩
  · rw [kept]
    exact refl_of (Calm agentId) shared
  rw [published]
  refine ⟨quiet_of_store_eq rfl rfl, rfl, ?_⟩
  intro before
  rw [isLive, putAgent, KeyedMap.get?_insert]
  split
  · rw [any_some, info, live]
    rfl
  · exact before

theorem alone_publishProcess (running : process.running = true) (metadata : AgentMetadata)
    (text : Option String) :
    Alone config (Calm agentId) (fun _ after => Calm agentId shared after)
      (publishProcess config process metadata text).run shared := by
  apply keeps_settle_bind
  · exact fun error _ => refl_of (Calm agentId) shared
  intro _ _
  apply alone_read rfl
  intro world
  apply alone_seq
  · apply perform
    intro later state
    exact calm_publish (isTerminal_agentOfProcess running metadata text _) later _ _ _ state
  · exact fun error after calm => calm
  intro result after calm
  split
  · exact .done calm
  · simp only [running, Bool.not_true, Bool.false_and, Bool.false_eq_true, if_false]
    exact .done calm

theorem alone_upsertProcess (running : process.running = true) :
    Alone config (Calm agentId) (fun _ after => Calm agentId shared after)
      (upsertProcess config process none).run shared := by
  apply (isRead_requireNotDenied _).seqAlone
  · exact fun error => refl_of (Calm agentId) shared
  intro _
  apply keeps_settle_bind
  · exact fun error _ => refl_of (Calm agentId) shared
  intro metadata _
  apply alone_read rfl
  intro world
  split
  · exact .done (refl_of (Calm agentId) shared)
  · exact alone_publishProcess running metadata none

theorem alone_adoptRunning {processes : List HostProcessInfo}
    (running : ∀ process ∈ processes, process.running = true) :
    Alone config (Calm agentId) (fun _ after => Calm agentId shared after)
      (adoptRunning config processes).run shared := by
  induction processes generalizing shared with
  | nil => exact .done (refl_of (Calm agentId) shared)
  | cons process rest ih =>
    apply keeps_bind (alone_upsertProcess (running process mem_cons_self))
    · exact fun error after calm => calm
    intro _ after calm
    apply (ih fun other mem => running other (mem_cons_of_mem process mem)).mono
    intro _ final later
    exact trans_of (Calm agentId) calm later

theorem isCalm_syncProcesses : syncProcesses.run.Stays (machine config) (Calm agentId) := by
  apply seq
  · apply seq
    · refine bind (.perform ?_) fun answer => .done (Except.ok answer)
      intro world shared
      refine ⟨quiet_machine config rfl world shared, ?_, id⟩
      change (shared.sent ++ [_]).filter _ = _
      rw [filter_append, filter_cons_of_neg (by decide)]
      exact append_nil _
    · exact fun answer => .settle _
  · exact fun response => .pure _

theorem isCalm_holdBack (startMissing : Bool) :
    (holdBack agentId startMissing).run.Stays (machine config) (Calm agentId) := by
  unfold holdBack
  split
  · exact .pure ()
  apply perform
  intro world shared
  have kept : ∀ entry, declaration (disabled entry) = declaration entry := fun entry => rfl
  exact ⟨quiet_update config agentId kept world shared, rfl, id⟩

/-- An enabled declaration whose process is on record is left alone. -/
theorem alone_runDeclared (operationId : String) (startMissing newlyDeclared : Bool)
    (live : shared.isLive agentId = true) :
    Alone config (Calm agentId) (fun _ _ => True)
      (runDeclared config operationId agentId true startMissing newlyDeclared).run shared := by
  apply alone_seq (isCalm_holdBack startMissing)
  · intros
    trivial
  intro _ held calm
  apply alone_read rfl
  intro world
  have there := calm.live live
  obtain ⟨_, found, running⟩ := (any_eq_true _ _).mp there
  dsimp only [machine]
  rw [found, filter_some, running]
  exact .done trivial

/-- An App that is declared and runs is left alone by a version that is not newer. -/
theorem alone_ensureAppLifecycle {entry : StoredAgentStartup} {revision : Nat}
    (operationId : String) (workloadCredential : Option String) (create : CreateAgentRequest)
    (startMissing : Bool) (stored : shared.startupStore.get agentId = some entry)
    (notNewer : revision ≤ entry.appRevision) (live : shared.isLive agentId = true) :
    Alone config (Calm agentId) (fun _ _ => True)
      (ensureAppLifecycle config operationId agentId workloadCredential create true startMissing
        (some revision)).run shared := by
  apply alone_ensure_of_notNewer operationId workloadCredential create _ _ stored notNewer
  apply alone_seq isCalm_syncProcesses
  · intros
    trivial
  intro processes synced calmSynced
  apply keeps_bind (alone_adoptRunning ?_)
  · intros
    trivial
  · intro _ adopted calmAdopted
    have calm := trans_of (Calm agentId) calmSynced calmAdopted
    have declared : (adopted.startupStore.get agentId).isSome = true := by
      rw [calm.quiet.isSome_get, stored]
      rfl
    apply keeps_bind (alone_declareMissing workloadCredential create true startMissing _ declared)
    · intros
      trivial
    · rintro newlyDeclared _ ⟨rfl, _⟩
      exact alone_runDeclared operationId startMissing newlyDeclared (calm.live live)
  · intro process mem
    have kept := (mem_filter.mp mem).2
    exact (Bool.and_eq_true _ _ ▸ kept).2

end

section
variable {enabled startMissing : Bool}

theorem isQuiet_startDeclared (unwanted : (!enabled || !startMissing) = true)
    (newlyDeclared : Bool) :
    IsQuiet config (startDeclared config agentId enabled startMissing newlyDeclared).run := by
  refine .seq (IsQuiet.call rfl) ?_
  intro entry
  cases entry with
  | none => exact .throw _
  | some entry =>
    have held : (!entry.spec.enabled || !enabled || !startMissing) = true := by
      rw [Bool.or_assoc, unwanted, Bool.or_true]
    simp only [held, if_true]
    exact isQuiet_materializeStartup entry

theorem isQuiet_runDeclared (operationId : String)
    (unwanted : (!enabled || !startMissing) = true) (newlyDeclared : Bool) :
    IsQuiet config
      (runDeclared config operationId agentId enabled startMissing newlyDeclared).run := by
  refine .seq (isQuiet_holdBack agentId startMissing) ?_
  intro _
  refine .seq (isQuiet_stopUnlessEnabled operationId agentId enabled) ?_
  intro stopped
  cases stopped with
  | some info => exact .pure info
  | none =>
    refine .seq (IsQuiet.call rfl) ?_
    intro current
    split
    · exact .pure _
    · exact isQuiet_startDeclared unwanted newlyDeclared

/-- A version that is not newer and does not ask for a start counts no attempt. -/
theorem alone_ensureAppLifecycle_unwanted {entry : StoredAgentStartup} {revision : Nat}
    (operationId : String) (workloadCredential : Option String) (create : CreateAgentRequest)
    (unwanted : (!enabled || !startMissing) = true)
    (stored : shared.startupStore.get agentId = some entry)
    (notNewer : revision ≤ entry.appRevision) :
    Alone config Quiet (fun _ _ => True)
      (ensureAppLifecycle config operationId agentId workloadCredential create enabled
        startMissing (some revision)).run shared := by
  apply alone_ensure_of_notNewer operationId workloadCredential create _ _ stored notNewer
  apply alone_seq isQuiet_syncProcesses
  · intros
    trivial
  intro processes synced quietSynced
  apply alone_seq (isQuiet_adoptRunning _)
  · intros
    trivial
  intro _ adopted quietAdopted
  have declared : (adopted.startupStore.get agentId).isSome = true := by
    rw [(quietSynced.trans quietAdopted).isSome_get, stored]
    rfl
  apply keeps_bind (alone_declareMissing workloadCredential create enabled startMissing _ declared)
  · intros
    trivial
  rintro newlyDeclared _ ⟨rfl, _⟩
  refine Program.Keeps.mono (Program.Keeps.narrow
    (isQuiet_runDeclared operationId unwanted newlyDeclared _) ?_) fun _ _ _ => trivial
  rintro before _ rfl
  exact .refl before

end

/-! ## Every run -/

variable {request : ReplaceAgentStartupRequest}
variable {entry : Entry (Shared β) Turn (Option (Except ProtocolError Reply))} {turns : List Turn}

/-- The App, the launch fields and the revision that an operation carries. -/
def Operation.version? : Operation → Option (String × ReplaceAgentStartupRequest × Nat)
  | .ensureAppLifecycle _ agentId _ request _ _ (some revision) =>
    some (agentId, replacementOf request, revision)
  | .updateAppStartup _ agentId request revision => some (agentId, request, revision)
  | _ => none

/-- The turn is not one that registers or clears a startup. -/
def Turn.writesAllowed : Turn → Bool
  | .perform operation _ => operation.writesAllowed
  | .event _ _ => true

/-- The revision that a turn carries. -/
def Turn.revision : Turn → Option Nat
  | .perform operation _ => operation.revision
  | .event _ _ => none

theorem succeeds_turn {action : Turn} (allowed : action.writesAllowed = true) :
    Succeeds action.revision shared (turn config shared action).2 := by
  cases action with
  | event process worlds => exact .ofQuiet ((isQuiet_applyProcess process).run worlds shared)
  | perform operation worlds =>
    have judged : Judged config operation.revision False (fun _ _ => True)
        (operation.program config) shared :=
      judged_program operation allowed False.elim False.elim
    exact succeeds_of_runs (judged.run Quiet.refl worlds).1

/-- The operation carries the version, and succeeded or changed the stored revision. -/
structure AcceptedAt (agentId : String) (request : ReplaceAgentStartupRequest) (revision : Nat)
    (entry : Entry (Shared β) Turn (Option (Except ProtocolError Reply))) : Prop where
  carried : ∃ operation worlds, entry.action = .perform operation worlds ∧
    operation.version? = some (agentId, request, revision)
  accepted : (∃ reply, entry.outcome = some (.ok reply)) ∨
    entry.after.revision? agentId ≠ entry.before.revision? agentId

variable {procedure : Procedure α} {wrap : α → Reply}

theorem settled_answering {revision : Nat}
    (settled : Judged config (some revision) False (Settled agentId request revision shared)
      procedure.run shared) :
    Judged config (some revision) False (Settled agentId request revision shared)
      (answering wrap procedure) shared := by
  apply settled.bind
  intro result after known
  refine .done (known.imp_right fun refused => ⟨refused.1, ?_⟩)
  cases result with
  | error => nofun
  | ok value => exact absurd rfl (refused.2 value)

theorem settled_program {operation : Operation} {revision : Nat}
    (carried : operation.version? = some (agentId, request, revision)) :
    Judged config (some revision) False (Settled agentId request revision shared)
      (operation.program config) shared := by
  cases operation with
  | ensureAppLifecycle operationId ensured credential create enabled startMissing given =>
    cases given with
    | none => cases carried
    | some =>
      cases carried
      exact settled_answering
        (settled_ensureAppLifecycle operationId credential create enabled startMissing)
  | updateAppStartup operationId =>
    cases carried
    exact settled_answering (settled_updateAppStartup operationId)
  | _ => cases carried

/-- A version that was accepted is the stored one after its step. -/
theorem AcceptedAt.versioned {revision : Nat}
    (acceptedAt : AcceptedAt agentId request revision entry)
    (stepped : turn config entry.before entry.action = (entry.outcome, entry.after)) :
    Versioned agentId request revision entry.after := by
  obtain ⟨⟨operation, worlds, action, carried⟩, accepted⟩ := acceptedAt
  rw [action] at stepped
  have judged : Judged config (some revision) False
      (Settled agentId request revision entry.before) (operation.program config) entry.before :=
    settled_program carried
  have settled := (judged.run Quiet.refl worlds).2
  rw [← turn_perform, stepped] at settled
  dsimp only at settled
  rcases settled with versioned | ⟨quiet, notOk⟩
  · exact versioned
  exfalso
  rcases accepted with ⟨reply, succeeded⟩ | changed
  · exact notOk reply (some.inj ((congrArg Prod.fst stepped).trans succeeded))
  · apply changed
    rw [revision?, revision?, quiet.declarations]

/-- What the entries of a run with only such turns are. -/
theorem mem_trace_allowed (allowed : ∀ action ∈ turns, action.writesAllowed)
    (mem : entry ∈ trace (turn config) shared turns) :
    entry.action.writesAllowed = true ∧
      turn config entry.before entry.action = (entry.outcome, entry.after) := by
  obtain ⟨_, _, rfl, _, stepped⟩ := of_mem_trace mem
  exact ⟨allowed _ (by simp), stepped⟩

/-- A version that was stored once is remembered in every later state. -/
theorem Since.trace {revision : Nat} (allowed : ∀ action ∈ turns, action.writesAllowed)
    (since : Since agentId request revision shared)
    (mem : entry ∈ trace (turn config) shared turns) :
    Since agentId request revision entry.before ∧ Since agentId request revision entry.after := by
  induction turns generalizing shared with
  | nil => cases mem
  | cons action rest ih =>
    have kept : Succeeds action.revision shared (turn config shared action).2 :=
      succeeds_turn (allowed action mem_cons_self)
    rcases mem_cons.mp mem with rfl | later
    · exact ⟨since, since.succeeds kept⟩
    · exact ih (fun other otherMem => allowed other (mem_cons_of_mem _ otherMem))
        (since.succeeds kept) later

/-- A request with a smaller revision than one that was stored changes no launch fields. -/
theorem Since.launch_eq
    {accepted revision : Nat} {after : Shared β} (since : Since agentId request accepted shared)
    (smaller : revision < accepted) (kept : Succeeds (some revision) shared after) :
    after.launch? agentId = shared.launch? agentId := by
  obtain ⟨old, found, app, _, _⟩ := since
  obtain ⟨_, there, successor⟩ := kept agentId old found
  rw [launch?, launch?, there, found]
  rcases successor.launch app with ⟨same, _⟩ | ⟨given, _⟩
  · exact congrArg some same
  · have reached := some.inj given
    omega

/-- What a run makes of two requests, of which it has accepted the first. -/
structure InOrder (first later : Entry (Shared β) Turn (Option (Except ProtocolError Reply))) :
    Prop where
  stale : ∀ agentId request accepted revision, AcceptedAt agentId request accepted first →
    later.action.revision = some revision → revision < accepted →
    later.after.launch? agentId = later.before.launch? agentId
  same : ∀ agentId revision request other, AcceptedAt agentId request revision first →
    AcceptedAt agentId other revision later → SameFields request other

theorem pairwise_inOrder (allowed : ∀ action ∈ turns, action.writesAllowed) :
    (trace (turn config) shared turns).Pairwise InOrder := by
  induction turns generalizing shared with
  | nil => exact .nil
  | cons action rest ih =>
    have restAllowed : ∀ other ∈ rest, other.writesAllowed :=
      fun other mem => allowed other (mem_cons_of_mem action mem)
    refine Pairwise.cons ?_ (ih restAllowed)
    intro later mem
    obtain ⟨laterAllowed, stepped⟩ := mem_trace_allowed restAllowed mem
    have after : (turn config later.before later.action).2 = later.after :=
      congrArg Prod.snd stepped
    constructor
    · intro agentId request accepted revision first carried smaller
      have versioned : Versioned agentId request accepted (turn config shared action).2 :=
        AcceptedAt.versioned first rfl
      have kept : Succeeds later.action.revision later.before
          (turn config later.before later.action).2 := succeeds_turn laterAllowed
      rw [carried, after] at kept
      exact (versioned.since.trace restAllowed mem).1.launch_eq smaller kept
    · intro agentId revision request other first second
      have versioned : Versioned agentId request revision (turn config shared action).2 :=
        AcceptedAt.versioned first rfl
      exact (versioned.since.trace restAllowed mem).2.sameFields (second.versioned stepped)

theorem Alone.answering (alone : Alone config guarantee (fun _ _ => True) procedure.run shared) :
    Alone config guarantee (fun _ _ => True) (answering wrap procedure) shared :=
  Program.Keeps.bind alone fun _ _ _ => .done trivial

/-- In every run without `set_startup` and `clear_startup`: the stored revision of an agent does not
decrease; a request with a smaller revision than an accepted one changes no launch fields, and two
accepted requests of one revision carry the same; a revision that is not newer changes nothing in
`update_app_startup`, and in `ensure_app_lifecycle` it counts and starts nothing unless an App that
is to run is not on record as running. -/
theorem app_revisions_are_monotone (config : Config β) (shared : Shared β) (turns : List Turn)
    (allowed : ∀ action ∈ turns, action.writesAllowed = true) :
    (∀ entry ∈ trace (turn config) shared turns, ∀ agentId stored,
      entry.before.revision? agentId = some stored →
        (∃ later, entry.after.revision? agentId = some later ∧ stored ≤ later) ∧
        ∀ revision, revision ≤ stored →
          (∀ operationId request worlds, entry.action =
              .perform (.updateAppStartup operationId agentId request revision) worlds →
            entry.after = entry.before) ∧
          ∀ operationId credential request enabled startMissing worlds, entry.action =
              .perform (.ensureAppLifecycle operationId agentId credential request enabled
                startMissing (some revision)) worlds →
            ((enabled && startMissing) = false → Quiet entry.before entry.after) ∧
            (enabled = true → entry.before.isLive agentId = true →
              Calm agentId entry.before entry.after)) ∧
    (trace (turn config) shared turns).Pairwise InOrder := by
  refine ⟨?_, pairwise_inOrder allowed⟩
  intro entry mem agentId stored found
  obtain ⟨entryAllowed, stepped⟩ := mem_trace_allowed allowed mem
  have after : (turn config entry.before entry.action).2 = entry.after := congrArg Prod.snd stepped
  have kept : Succeeds entry.action.revision entry.before
      (turn config entry.before entry.action).2 := succeeds_turn entryAllowed
  rw [after] at kept
  constructor
  · obtain ⟨old, declared, rfl⟩ := map_eq_some_iff.mp found
    obtain ⟨new, there, successor⟩ := kept agentId old declared
    refine ⟨new.appRevision, ?_, successor.grows⟩
    rw [revision?, there]
    rfl
  · intro revision notNewer
    obtain ⟨_, declared, rfl⟩ := map_eq_some_iff.mp found
    obtain ⟨_, there, rfl⟩ := map_eq_some_iff.mp declared
    rw [← after]
    constructor
    · intro operationId request worlds action
      rw [action, turn_perform]
      have alone : Alone config Eq (fun _ _ => True)
          (updateAppStartup config operationId agentId request revision).run entry.before := by
        apply keeps_bind (alone_saveAppStartupLocked request there notNewer)
        · intros
          trivial
        · rintro ⟨_, _⟩ _ ⟨rfl, known⟩
          cases known _ rfl
          exact (isRead_getStartup agentId _).mono fun _ _ _ => trivial
      exact (alone.answering.run worlds).symm
    · intro operationId credential request enabled startMissing worlds action
      rw [action]
      constructor
      · intro unwanted
        have held : (!enabled || !startMissing) = true := by
          rw [← Bool.not_and, unwanted]
          rfl
        exact (alone_ensureAppLifecycle_unwanted operationId credential request held there
          notNewer).answering.run worlds
      · rintro rfl live
        exact (alone_ensureAppLifecycle operationId credential request startMissing there
          notNewer live).answering.run worlds

namespace Sample

def deploy : Operation :=
  .ensureAppLifecycle "op_1" "ag_1" (some credential) appRequest true true (some 1)

def deployed : List Turn :=
  [.perform deploy (startingAt 3)]

/-- The same revision comes again after the process has ended. -/
def redeployed : List Turn :=
  deployed ++ [.event (hostProcess "x" 20 false) starting, .perform deploy (startingAt 4)]

/-- The App registers a startup of its own. -/
def registered : List Turn :=
  deployed ++ [.perform (.setStartup "ag_1" ⟨".", "other", [], []⟩) starting]

def appRun (turns : List Turn) : Shared StoreFile :=
  exec (turn (settings "app")) nothing turns

end Sample

open Sample

/-- The accepted revision comes again: the App is started with a new generation. A startup that the
App registers takes its revision back to zero. -/
theorem repeated_revision_starts_missing : (appRun deployed).revision? "ag_1" = some 1 ∧
    (appRun deployed).generation? "ag_1" = some 1 ∧ (appRun redeployed).revision? "ag_1" = some 1 ∧
    (appRun redeployed).generation? "ag_1" = some 2 ∧
    (appRun redeployed).attempts = [("ag_1", 1), ("ag_1", 2)] ∧
    (appRun registered).revision? "ag_1" = some 0 := by
  decide +kernel

/-- A run that accepts a revision twice. -/
theorem redeployed_app_keeps_revision : (appRun redeployed).revision? "ag_1" = some 1 ∧
    (trace (turn (settings "app")) nothing redeployed).Pairwise InOrder := by
  refine ⟨by decide +kernel, ?_⟩
  have allowed : ∀ action ∈ redeployed, action.writesAllowed = true := by
    simp [redeployed, deployed, deploy, Turn.writesAllowed, Operation.writesAllowed]
  exact (app_revisions_are_monotone (settings "app") nothing redeployed allowed).2

end Treer.Controller
