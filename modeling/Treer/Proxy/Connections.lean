import Treer.Proxy.Fences

/-!
# Connections of one machine

A machine can connect again before its old connection is gone. What is done for the old
connection then leaves the new one alone, if no connection is registered between the first
and the last call of a registration or a disconnect of the connection registered before it.
-/

namespace Treer.Proxy

open Foundation Protocol Option Pool Program Shared WorkspaceState Operation
open Controller (AgentInfo)
open Foundation.Procedure

def WorkspaceState.isOffline (workspace : WorkspaceState) (serverId : String) : Bool :=
  (workspace.servers.find? serverId).any (·.status == .offline)

namespace Shared

variable (shared : Shared) (key : ServerKey)

/-- The connections of a machine, the last one first. -/
def registered : List String :=
  (shared.registrations.filter (·.1 == key)).map (·.2)

def newest : Option String :=
  (shared.registered key).head?

/-- The connections that were registered after the given one. -/
def registeredAfter (connectionId : String) : List String :=
  if connectionId ∈ shared.registered key then
    (shared.registered key).takeWhile (· != connectionId)
  else []

def isOffline : Bool :=
  (shared.workspaces.get? key.workspaceId).any (·.isOffline key.serverId)

/-- A connection that is registered is the last one of its machine. -/
def Ordered : Prop :=
  ∀ key connection, shared.connections.get? key = some connection →
    shared.newest key = some connection.connectionId

end Shared

/-- A step for one connection of a machine leaves those alone that were registered after
it. -/
structure Harmless (key : ServerKey) (connectionId : String) (before after : Shared) : Prop where
  registration : ∀ later ∈ after.registeredAfter key connectionId,
    before.isCurrent key later = true → after.isCurrent key later = true
  status : ∀ later ∈ after.registeredAfter key connectionId,
    before.isCurrent key later = true → after.isOffline key = true → before.isOffline key = true
  terminals : ∀ later ∈ after.registeredAfter key connectionId,
    ∀ session ∈ before.terminalSessions, session.key = key → session.carrier = some later →
      session ∈ after.terminalSessions
  streams : ∀ later ∈ after.registeredAfter key connectionId,
    ∀ stream ∈ before.browserNetworkStreams, stream.key = key → stream.carrier = some later →
      stream ∈ after.browserNetworkStreams

variable {shared : Shared} {connectionId : String}

namespace Shared

variable {before after : Shared} {key : ServerKey}

theorem newest_congr (same : after.registrations = before.registrations) (key : ServerKey) :
    after.newest key = before.newest key := by
  rw [newest, newest, registered, registered, same]

theorem not_mem_registeredAfter_self : connectionId ∉ shared.registeredAfter key connectionId := by
  unfold registeredAfter
  split
  · intro mem
    have differs := List.mem_takeWhile_imp mem
    simp at differs
  · exact List.not_mem_nil

theorem harmless_of_newest (last : after.newest key = some connectionId) :
    Harmless key connectionId before after := by
  have nothing : after.registeredAfter key connectionId = [] := by
    obtain ⟨_, list⟩ := List.head?_eq_some_iff.mp last
    unfold registeredAfter
    rw [list, List.takeWhile_cons_of_neg (by simp), ite_self]
  constructor <;> intro later mem <;> rw [nothing] at mem <;> cases mem

/-- A step that removes no connection or session and marks nothing offline. -/
theorem harmless_of_same (connections : after.connections = before.connections)
    (terminals : after.terminalSessions = before.terminalSessions)
    (streams : after.browserNetworkStreams = before.browserNetworkStreams)
    (status : after.isOffline key = true → before.isOffline key = true) :
    Harmless key connectionId before after where
  registration later _ current := by
    rw [isCurrent, connections]
    exact current
  status _ _ _ := status
  terminals _ _ session mem _ _ := terminals ▸ mem
  streams _ _ stream mem _ _ := streams ▸ mem

theorem harmless_refl (shared : Shared) : Harmless key connectionId shared shared :=
  harmless_of_same rfl rfl rfl id

theorem newest_connect (shared : Shared) (key : ServerKey) (connection : ServerConnection) :
    (shared.connect key connection).newest key = some connection.connectionId := by
  simp [newest, registered, connect]

theorem newest_connect_of_ne {other : ServerKey} (differs : other ≠ key)
    (connection : ServerConnection) :
    (shared.connect key connection).newest other = shared.newest other := by
  simp [newest, registered, connect, differs.symm]

theorem Ordered.disconnect (ordered : shared.Ordered) (key : ServerKey) :
    (shared.disconnect key).Ordered := by
  intro other connection found
  change (shared.connections.erase key).get? other = some connection at found
  rw [KeyedMap.get?_erase] at found
  split at found
  · cases found
  · exact ordered other connection found

theorem Ordered.connect (ordered : shared.Ordered) (key : ServerKey)
    (connection : ServerConnection) : (shared.connect key connection).Ordered := by
  intro other found lookup
  change (shared.connections.insert key connection).get? other = some found at lookup
  rw [KeyedMap.get?_insert] at lookup
  split at lookup
  · rename_i same
    cases lookup
    rw [same]
    exact newest_connect shared key connection
  · rename_i differs
    rw [newest_connect_of_ne differs]
    exact ordered other found lookup

/-- A connection removes itself and no other. -/
theorem harmless_disconnect_own (current : shared.isCurrent key connectionId = true) :
    Harmless key connectionId shared (shared.disconnect key) where
  registration later mem other := by
    rw [isCurrent, any_eq_true] at current other
    obtain ⟨_, found, same⟩ := current
    obtain ⟨_, found', same'⟩ := other
    cases found.symm.trans found'
    rw [beq_iff_eq.mp same] at same'
    rw [← beq_iff_eq.mp same'] at mem
    exact absurd mem not_mem_registeredAfter_self
  status _ _ _ := id
  terminals _ _ _ mem _ _ := mem
  streams _ _ _ mem _ _ := mem

end Shared

/-- A machine that is entered by the update is online. -/
def Update.Livens : Update → Prop
  | .registerServer server => server.status = .online
  | .serverSnapshot _ | .applySnapshot _ _ | .heartbeat _ | .applyAgentEvent _ => True
  | _ => False

variable {next : WorkspaceState} {workspace : WorkspaceState} {serverId : String}

namespace WorkspaceState

theorem isOffline_put {server : ServerInfo} (online : server.status = .online)
    (offline : ((workspace.servers.put server).find? serverId).any (·.status == .offline) = true) :
    workspace.isOffline serverId = true := by
  rw [Table.find?_put] at offline
  split at offline
  · rw [any_some, online] at offline
    cases offline
  · exact offline

theorem isOffline_heartbeat {beating : String} {now : Int}
    (beaten : workspace.heartbeat beating now = .ok next)
    (offline : next.isOffline serverId = true) : workspace.isOffline serverId = true := by
  unfold heartbeat at beaten
  split at beaten
  · cases beaten
  cases beaten
  unfold isOffline at offline ⊢
  rw [Table.find?_update, any_map] at offline
  rw [any_eq_true] at offline ⊢
  obtain ⟨server, found, marked⟩ := offline
  refine ⟨server, found, ?_⟩
  split at marked
  · cases marked
  · exact marked

end WorkspaceState

theorem Update.isOffline_of_run {now : Int} {update : Update}
    {answer : update.Answer} (livens : update.Livens)
    (done : update.run workspace now = .ok (answer, next))
    (offline : next.isOffline serverId = true) : workspace.isOffline serverId = true := by
  cases update with
  | registerServer =>
    cases done
    exact isOffline_put livens offline
  | serverSnapshot =>
    obtain ⟨_, _, same⟩ := map_eq_ok_iff.mp done
    cases same
    exact offline
  | applySnapshot =>
    obtain ⟨_, applied, same⟩ := map_eq_ok_iff.mp done
    cases same
    unfold WorkspaceState.applySnapshot at applied
    simp only at applied
    split at applied
    · cases applied
    cases applied
    refine isOffline_put ?_ offline
    split <;> rfl
  | heartbeat =>
    obtain ⟨_, beaten, same⟩ := map_eq_ok_iff.mp done
    cases same
    exact isOffline_heartbeat beaten offline
  | applyAgentEvent =>
    obtain ⟨_, applied, same⟩ := map_eq_ok_iff.mp done
    cases same
    unfold WorkspaceState.applyAgentEvent at applied
    split at applied
    · cases applied
    · split at applied <;> cases applied <;> exact offline
  | setOffline _ | restoreDeletedAgents _ | deleteAgent _ | deleteServer _
  | applyClusterSnapshot _ | applyProjection _ => cases livens

namespace Shared

variable {key : ServerKey}

/-- A workspace that is replaced by one with fewer machines offline. -/
theorem isOffline_insert {workspaceId : String}
    (fewer : next.isOffline key.serverId = true →
      ∃ workspace, shared.workspaces.get? workspaceId = some workspace ∧
        workspace.isOffline key.serverId = true)
    (offline : { shared with
      workspaces := shared.workspaces.insert workspaceId next }.isOffline key = true) :
    shared.isOffline key = true := by
  unfold isOffline at offline
  rw [KeyedMap.get?_insert] at offline
  split at offline
  · rename_i same
    obtain ⟨_, found, marked⟩ := fewer offline
    rw [isOffline, same, found]
    exact marked
  · exact offline

theorem harmless_ensureWorkspace (shared : Shared) (workspaceId : String) :
    Harmless key connectionId shared (shared.ensureWorkspace workspaceId) := by
  unfold ensureWorkspace
  split
  · refine harmless_of_same rfl rfl rfl (isOffline_insert ?_)
    intro offline
    cases offline
  · exact harmless_refl shared

theorem harmless_update (shared : Shared) (workspaceId : String) {update : Update}
    (livens : update.Livens) (now : Int) :
    Harmless key connectionId shared (shared.update workspaceId update now).2 := by
  unfold Shared.update
  split
  · exact harmless_refl shared
  rename_i workspace found
  split
  · exact harmless_refl shared
  rename_i result next done
  refine harmless_of_same rfl rfl rfl (isOffline_insert ?_)
  intro offline
  exact ⟨workspace, found, Update.isOffline_of_run livens done offline⟩

end Shared

/-- A call that leaves later connections of the machine alone whenever it is made. -/
def Call.Gentle (key : ServerKey) (connectionId : String) {β : Type} : Call β → Prop
  | .now | .ensureWorkspace _ | .isServerDeleted _ | .requireCurrent _ _ | .liveCapabilities _
  | .cluster _ => True
  | .update _ change => change.Livens
  | .disconnectCurrent other own => other = key ∧ own = connectionId
  | _ => False

variable {β : Type} (call : Call β) (world : World)

theorem harmless_of_gentle (shared : Shared) {key : ServerKey}
    (gentle : call.Gentle key connectionId) :
    Harmless key connectionId shared (machine call world shared).2 := by
  cases call with
  | ensureWorkspace workspaceId => exact shared.harmless_ensureWorkspace workspaceId
  | update workspaceId => exact shared.harmless_update workspaceId gentle world.now
  | disconnectCurrent =>
    obtain ⟨rfl, rfl⟩ := gentle
    simp only [machine]
    split
    · rename_i current
      exact harmless_disconnect_own current
    · exact shared.harmless_refl
  | now | isServerDeleted _ | requireCurrent _ _ | liveCapabilities _ | cluster _ =>
    exact shared.harmless_refl
  | upsertWorkspace _ _ | removeWorkspace _ | connect _ _ | disconnect _ | acceptRevision _ _
  | closeTerminals _ | closeStreams _ | agentTerminals _ _ | openTerminal _ | sendAttach _ _
  | dropTerminal _ | openStream _ | sendOpen _ _ | dropStream _ => cases gentle

/-- The machine that the call registers a connection of. -/
def Call.connects {β : Type} : Call β → Option ServerKey
  | .connect key _ => some key
  | _ => none

theorem registrations_machine (shared : Shared) (quiet : call.connects = none) :
    (machine call world shared).2.registrations = shared.registrations := by
  have effect := effect_machine call world shared
  generalize (machine call world shared).2 = next at effect ⊢
  cases effect with
  | other _ _ registrations => exact registrations
  | connect => cases quiet
  | _ => rfl

/-- The registration of a machine is changed by its own calls only. -/
theorem newest_machine (shared : Shared) {key : ServerKey} (other : call.connects ≠ some key) :
    (machine call world shared).2.newest key = shared.newest key := by
  cases connects : call.connects with
  | none => exact newest_congr (registrations_machine call world shared connects) key
  | some =>
    cases call with
    | connect =>
      apply newest_connect_of_ne
      rintro rfl
      exact other rfl
    | _ => cases connects

theorem ordered_machine (ordered : shared.Ordered) : (machine call world shared).2.Ordered := by
  have effect := effect_machine call world shared
  generalize (machine call world shared).2 = next at effect ⊢
  cases effect with
  | other _ connections registrations =>
    intro key connection found
    rw [newest_congr registrations]
    exact ordered key connection (connections ▸ found)
  | connect key connection => exact ordered.connect key connection
  | disconnect key => exact ordered.disconnect key
  | _ => exact ordered

/-! ## Operations -/

namespace Operation

/-- The connection for which the operation is carried out. -/
def connection : Operation → Option (ServerKey × String)
  | registerServer server connectionId _ _ => some (server.key, connectionId)
  | applySnapshot connectionId snapshot => some (snapshot.server.key, connectionId)
  | heartbeat key connectionId | disconnectServer key connectionId => some (key, connectionId)
  | applyAgentEvent connectionId agent => some (⟨agent.workspaceId, agent.serverId⟩, connectionId)
  | _ => none

/-- The connection that the operation enters or takes out. -/
def entering : Operation → Option (ServerKey × String)
  | registerServer server connectionId _ _ => some (server.key, connectionId)
  | disconnectServer key connectionId => some (key, connectionId)
  | _ => none

/-- The others do not register a connection after the last one, if it is that of the
operation. -/
structure Rely (operation : Operation) (before after : Shared) : Prop where
  ordered : before.Ordered → after.Ordered
  newest : ∀ key connectionId, operation.entering = some (key, connectionId) →
    before.newest key = some connectionId → after.newest key = some connectionId

def Guarantee (operation : Operation) (before after : Shared) : Prop :=
  ∀ key connectionId, operation.connection = some (key, connectionId) →
    Harmless key connectionId before after

theorem rely_refl (operation : Operation) (shared : Shared) : operation.Rely shared shared :=
  ⟨id, fun _ _ _ => id⟩

theorem rely_trans {operation : Operation} {first second third : Shared}
    (before : operation.Rely first second) (after : operation.Rely second third) :
    operation.Rely first third :=
  ⟨after.ordered ∘ before.ordered, fun key connectionId enters last =>
    after.newest key connectionId enters (before.newest key connectionId enters last)⟩

section
variable {operation : Operation} {α : Type} {program : Program Call α}

/-- A program of gentle calls. -/
theorem keeps_of_gentle {key : ServerKey} (own : operation.connection = some (key, connectionId))
    (gentle : program.Every (Call.Gentle key connectionId)) :
    program.Keeps machine operation.Rely operation.Guarantee (fun _ _ => True) shared := by
  refine Keeps.of_every (fun _ _ _ => id) ?_ gentle trivial
  intro β call world state met _
  refine ⟨?_, trivial⟩
  intro key' connectionId' same
  cases own.symm.trans same
  exact harmless_of_gentle call world state met

/-- Whatever is done for the last connection disturbs no later one. -/
theorem keeps_of_newest {key : ServerKey} (own : operation.connection = some (key, connectionId))
    (enters : operation.entering = some (key, connectionId))
    (quiet : program.Every (fun call => call.connects = none))
    (last : shared.newest key = some connectionId) :
    program.Keeps machine operation.Rely operation.Guarantee (fun _ _ => True) shared := by
  have relies : ∀ before after, operation.Rely before after →
      before.newest key = some connectionId → after.newest key = some connectionId :=
    fun _ _ rely => rely.newest key connectionId enters
  have each : ∀ {β : Type} (call : Call β) world (state : Shared), call.connects = none →
      state.newest key = some connectionId →
      operation.Guarantee state (machine call world state).2 ∧
        (machine call world state).2.newest key = some connectionId := by
    intro β call world state silent start
    have kept : (machine call world state).2.newest key = some connectionId := by
      rw [newest_machine call world state (by rw [silent]; exact nofun)]
      exact start
    refine ⟨?_, kept⟩
    intro key' connectionId' same
    cases own.symm.trans same
    exact harmless_of_newest kept
  exact (Keeps.of_every relies each quiet last).mono fun _ _ _ => trivial

end

/-- After the registration: nothing is registered any more. -/
theorem keeps_registerServer (server : ServerInfo) (connectionId controllerInstanceId : String)
    (capabilities : List String) (shared : Shared) :
    (Proxy.registerServer server connectionId controllerInstanceId capabilities).run.Keeps machine
      (registerServer server connectionId controllerInstanceId capabilities).Rely
      (registerServer server connectionId controllerInstanceId capabilities).Guarantee
      (fun _ _ => True) shared := by
  have gentle : ∀ {β : Type} (call : Call β) (world : World) (state : Shared),
      call.Gentle server.key connectionId →
      (registerServer server connectionId controllerInstanceId capabilities).Guarantee state
        (machine call world state).2 := by
    intro β call world state met key' connectionId' same
    cases same
    exact harmless_of_gentle call world state met
  refine keeps_call_bind fun state world _ => ⟨gentle _ world state trivial, ?_⟩
  refine keeps_call_bind fun state world _ => ⟨gentle _ world state trivial, ?_⟩
  refine keeps_settle_bind (fun _ _ => trivial) fun _ _ => ?_
  refine keeps_call_bind fun state world _ => ⟨gentle _ world state trivial, ?_⟩
  refine keeps_call_bind fun state world _ => ?_
  have last := state.newest_connect server.key { connectionId, controllerInstanceId, capabilities }
  refine ⟨?_, keeps_of_newest rfl rfl ?_ last⟩
  · intro key' connectionId' same
    cases same
    exact harmless_of_newest last
  · refine every_bind (every_attempt rfl) fun _ => ?_
    refine every_bind (every_attempt rfl) fun _ => ?_
    refine every_bind (every_call rfl) fun claimed => ?_
    split
    · trivial
    · exact every_bind (every_call rfl) fun _ => trivial

/-- A connection that is taken out was the last one. -/
theorem keeps_disconnectServer (key : ServerKey) (connectionId : String)
    (ordered : shared.Ordered) : (Proxy.disconnectServer key connectionId).run.Keeps machine
      (disconnectServer key connectionId).Rely (disconnectServer key connectionId).Guarantee
      (fun _ _ => True) shared := by
  refine keeps_call_bind fun state world rely => ⟨?_, ?_⟩
  · intro key' connectionId' same
    cases same
    exact harmless_of_gentle _ world state ⟨rfl, rfl⟩
  · split
    · rename_i removed
      have current : state.isCurrent key connectionId = true := by
        by_contra other
        simp only [machine, other, Bool.false_eq_true, if_false] at removed
      rw [isCurrent, any_eq_true] at current
      obtain ⟨connection, found, same⟩ := current
      have last : state.newest key = some connectionId := by
        rw [rely.ordered ordered key connection found, beq_iff_eq.mp same]
      refine keeps_of_newest rfl rfl ?_ ?_
      · refine every_bind (every_call rfl) fun _ => ?_
        refine every_bind (every_call rfl) fun _ => ?_
        exact every_bind (every_call rfl) fun _ => every_call rfl
      · rw [newest_machine _ world state fun connects => by cases connects]
        exact last
    · exact .done trivial

theorem keeps_code (operation : Operation) (ordered : shared.Ordered) :
    operation.code.Keeps machine operation.Rely operation.Guarantee (fun _ _ => True) shared := by
  have finishes : ∀ {α : Type} {procedure : Procedure α},
      procedure.run.Keeps machine operation.Rely operation.Guarantee (fun _ _ => True) shared →
      (finish procedure).Keeps machine operation.Rely operation.Guarantee (fun _ _ => True)
        shared :=
    fun keeps => keeps.bind fun _ _ _ => .done trivial
  cases operation with
  | registerServer server connectionId controllerInstanceId capabilities =>
    exact finishes (keeps_registerServer server connectionId controllerInstanceId capabilities _)
  | applySnapshot =>
    refine finishes (keeps_of_gentle rfl ?_)
    refine every_bind (every_attempt trivial) fun _ => ?_
    refine every_bind (every_call trivial) fun _ => ?_
    repeat refine every_bind (every_attempt trivial) fun _ => ?_
    trivial
  | heartbeat =>
    refine finishes (keeps_of_gentle rfl ?_)
    repeat refine every_bind (every_attempt trivial) fun _ => ?_
    trivial
  | disconnectServer key connectionId =>
    exact finishes (keeps_disconnectServer key connectionId ordered)
  | applyAgentEvent =>
    refine finishes (keeps_of_gentle rfl ?_)
    refine every_bind (every_attempt trivial) fun _ => ?_
    refine every_bind (every_attempt trivial) fun applied => ?_
    split
    · refine every_bind (every_attempt trivial) fun _ => ?_
      exact every_bind (every_attempt trivial) fun _ => trivial
    · trivial
  | attachTerminal _ _ _ | openNetworkStream _ _ | restoreDeletedAgents _ _ | deleteAgent _ _
  | deleteServer _ | applyClusterSnapshot _ _ | applyClusterProjection _ _
  | applyWorkspaceUpsert _ _ | applyWorkspaceDeleted _ =>
    -- They are for no connection.
    exact Keeps.of_every (fun _ _ _ => id) (fun _ _ _ _ _ => ⟨nofun, trivial⟩)
      (every_true _) trivial

end Operation

/-- The machine that the program registers a connection of next. -/
def connectsNext : Program Call Unit → Option ServerKey
  | .call instruction _ => instruction.connects
  | .done _ => none

namespace Operations

variable (operations : Operations)

/-- A connection of a machine is registered only while no registration and no disconnect of
the connection registered before it is under way. -/
def OneAtATime : Move Operation World → Prop
  | .start _ => True
  | .advance place _ =>
    ∀ task ∈ operations.tasks[place]?, ∀ key ∈ connectsNext task.rest,
      ∀ other ∈ operations.tasks.eraseIdx place, other.rest.finished = false →
        ∀ last ∈ operations.shared.newest key, other.label.entering ≠ some (key, last)

instance (move : Move Operation World) : Decidable (operations.OneAtATime move) := by
  unfold OneAtATime
  split <;> infer_instance

/-- The step leaves alone what was registered after the connection for which it is made. -/
def Undisturbed : Move Operation World → Prop
  | .start _ => True
  | .advance place world =>
    ∀ task ∈ operations.tasks[place]?, ∀ entry ∈ task.label.connection,
      Harmless entry.1 entry.2 operations.shared (operations.step (.advance place world)).2.shared

structure Sound (operations : Operations) : Prop where
  ordered : operations.shared.Ordered
  keeps : operations.AllKeep machine Operation.Rely Operation.Guarantee

theorem sound_init (ordered : shared.Ordered) : Sound (init shared) := by
  refine ⟨ordered, ?_⟩
  intro task mem
  cases mem

theorem sound_step (move : Move Operation World)
    (sound : operations.Sound) (oneAtATime : operations.OneAtATime move) :
    (operations.step move).2.Sound := by
  cases move with
  | start operation =>
    change Sound (start code (fun _ _ => true) operations operation)
    refine ⟨?_, sound.keeps.start (operation.keeps_code sound.ordered)⟩
    unfold start
    split <;> exact sound.ordered
  | advance place world =>
    change Sound (advance machine operations place world)
    rcases advance_cases operations place with idle | ⟨operation, β, call, _, task⟩
    · rw [idle world]
      exact sound
    refine ⟨?_, sound.keeps.advance rely_refl rely_trans task world ?_⟩
    · rw [advance_of_call task]
      exact ordered_machine call world sound.ordered
    intro other task' differs found unfinished
    -- The call is within the rely of every other operation.
    refine ⟨ordered_machine call world, ?_⟩
    intro key connectionId enters last
    have elsewhere : call.connects ≠ some key := by
      intro connects
      have among : task' ∈ operations.tasks.eraseIdx place :=
        List.mem_eraseIdx_iff_getElem?.mpr ⟨other, differs, found⟩
      exact oneAtATime _ task key connects task' among unfinished connectionId last enters
    rw [newest_machine call world operations.shared elsewhere]
    exact last

theorem undisturbed_of_sound (move : Move Operation World)
    (sound : operations.Sound) : operations.Undisturbed move := by
  cases move with
  | start => trivial
  | advance place world =>
    intro running found entry own
    rw [step]
    rcases shared_cases operations (.advance place world) with
      same | ⟨_, _, _, _, _, _, ⟨⟩, task, made⟩
    · rw [same]
      exact harmless_refl _
    · rw [made]
      cases task.symm.trans found
      exact sound.keeps.within_guarantee rely_refl task world entry.1 entry.2 own

/-- In a run in which a connection is registered only while no registration and no disconnect of the
one before it is under way, a step for one connection never removes a later one, marks its machine
offline or closes what was opened over it. -/
theorem connections_do_not_disturb_each_other {shared : Shared} (ordered : shared.Ordered)
    (moves : List (Move Operation World))
    (oneAtATime : AllSteps step OneAtATime (init shared) moves) :
    AllSteps step Undisturbed (init shared) moves :=
  AllSteps.mono sound_step
    (fun operations move sound _ => undisturbed_of_sound operations move sound)
    (sound_init ordered) oneAtATime

end Operations

theorem ordered_empty : empty.Ordered := by
  intro key connection found
  cases found

namespace Sample

/-- The cluster cannot be reached. -/
def refusing : World where
  now := 0
  cluster := .error ⟨"cluster_unavailable", "", none⟩

/-- The claim of the first connection fails when the second one is registered. -/
def replacedBeforeClaim : List (Move Operation World) :=
  whole 0 (registration "c1") 6 ++ whole 1 (registration "c2") 7

/-- The first connection waits for the release of its lease when the second one is registered
and a terminal and a stream are opened. -/
def replacedBeforeOffline : List (Move Operation World) :=
  whole 0 (registration "c1") 7 ++ whole 1 (.disconnectServer key "c1") 2 ++
    whole 2 (registration "c2") 7 ++ whole 3 (.attachTerminal "term_1" key "ag_1") 2 ++
    whole 4 (.openNetworkStream "stream_1" key) 2

/-- The second connection is registered once the first one is, which disconnects after that. -/
def oneAfterTheOther : List (Move Operation World) :=
  whole 0 (registration "c1") 7 ++ whole 1 (registration "c2") 7 ++
    whole 2 (.disconnectServer key "c1") 5

end Sample

open Sample (after replacedBeforeClaim key replacedBeforeOffline)

/-- A claim that fails takes the later connection out. A disconnect marks the machine of the
later connection offline and closes what was opened over it. -/
theorem old_connection_disturbs_new_one :
    ((after replacedBeforeClaim).registeredAfter key "c1" = ["c2"] ∧
      (after replacedBeforeClaim).isCurrent key "c2" = true ∧
      (after (replacedBeforeClaim ++
        List.replicate 2 (.advance 0 Sample.refusing))).isCurrent key "c2" = false) ∧
    ((after replacedBeforeOffline).isCurrent key "c2" = true ∧
      (after replacedBeforeOffline).isOffline key = false ∧
      (after replacedBeforeOffline).terminalSessions.rows.map (·.carrier) = [some "c2"] ∧
      (after replacedBeforeOffline).browserNetworkStreams.rows.map (·.carrier) = [some "c2"]) ∧
    ((after (replacedBeforeOffline ++
        List.replicate 3 (.advance 1 Sample.world))).isCurrent key "c2" = true ∧
      (after (replacedBeforeOffline ++
        List.replicate 3 (.advance 1 Sample.world))).isOffline key = true ∧
      (after (replacedBeforeOffline ++
        List.replicate 3 (.advance 1 Sample.world))).terminalSessions.rows = [] ∧
      (after (replacedBeforeOffline ++
        List.replicate 3 (.advance 1 Sample.world))).browserNetworkStreams.rows = []) := by
  refine ⟨⟨?_, ?_, ?_⟩, ⟨?_, ?_, ?_, ?_⟩, ?_, ?_, ?_, ?_⟩ <;> decide +kernel

theorem connections_one_after_the_other :
    AllSteps Operations.step Operations.Undisturbed (init empty) Sample.oneAfterTheOther ∧
      (after Sample.oneAfterTheOther).isCurrent key "c2" = true :=
  ⟨Operations.connections_do_not_disturb_each_other ordered_empty Sample.oneAfterTheOther
    (by decide +kernel), by decide +kernel⟩

end Treer.Proxy
