import Treer.Proxy.State
import Treer.Proxy.Control

/-!
# Deletion fences

A Proxy keeps the ids of deleted machines and agents, so that late messages do not bring them
back. What is deleted is not also there, as long as a machine is not entered after its
deletion on the strength of a check that was made before.
-/

namespace Treer.Proxy

open Foundation Protocol Table KeyedMap Finset
open Controller (AgentInfo)
variable {next : WorkspaceState} {workspace : WorkspaceState}

namespace WorkspaceState

variable {agent : AgentInfo} {serverId : String}

/-- What is deleted is not there. -/
@[mk_iff]
structure Fenced (workspace : WorkspaceState) : Prop where
  agents : ∀ agent ∈ workspace.agents.rows, agent.agentId ∉ workspace.deletedAgents
  servers : ∀ server ∈ workspace.servers.rows, server.serverId ∉ workspace.deletedServers
  owners : ∀ agent ∈ workspace.agents.rows, agent.serverId ∉ workspace.deletedServers

instance (workspace : WorkspaceState) : Decidable workspace.Fenced :=
  decidable_of_iff' _ (fenced_iff workspace)

theorem fenced_empty : empty.Fenced := by
  decide

/-- The agent has the place of an agent that was there. -/
def Continues (workspace : WorkspaceState) (agent : AgentInfo) : Prop :=
  ∃ old ∈ workspace.agents, old.agentId = agent.agentId ∧ old.serverId = agent.serverId

/-- Nothing is new and nothing is deleted. -/
theorem Fenced.of_continues (fenced : workspace.Fenced)
    (agents : ∀ agent ∈ next.agents, workspace.Continues agent)
    (servers : ∀ server ∈ next.servers, ∃ old ∈ workspace.servers, old.serverId = server.serverId)
    (deletedAgents : next.deletedAgents ⊆ workspace.deletedAgents)
    (deletedServers : next.deletedServers ⊆ workspace.deletedServers) : next.Fenced where
  agents agent mem deleted := by
    obtain ⟨old, oldMem, same, _⟩ := agents agent mem
    exact fenced.agents old oldMem (same ▸ deletedAgents deleted)
  servers server mem deleted := by
    obtain ⟨old, oldMem, same⟩ := servers server mem
    apply fenced.servers old oldMem
    rw [same]
    exact deletedServers deleted
  owners agent mem deleted := by
    obtain ⟨old, oldMem, _, same⟩ := agents agent mem
    exact fenced.owners old oldMem (same ▸ deletedServers deleted)

theorem continues_of_mem (mem : agent ∈ workspace.agents) : workspace.Continues agent :=
  ⟨agent, mem, rfl, rfl⟩

section
variable (fenced : workspace.Fenced)
include fenced

theorem Fenced.bump : workspace.bump.Fenced := { fenced with }

theorem Fenced.removeAgent (agentId : String) : (workspace.removeAgent agentId).Fenced where
  agents agent mem := by
    obtain ⟨old, other⟩ := mem_delete_iff.mp mem
    rw [beq_eq_false_iff_ne] at other
    exact mt (mem_insert.mp · |>.resolve_left other) (fenced.agents agent old)
  servers := fenced.servers
  owners agent mem := fenced.owners agent (mem_delete_iff.mp mem).1

theorem Fenced.removeServer (noAgents : ∀ agent ∈ workspace.agents, agent.serverId ≠ serverId) :
    (workspace.removeServer serverId).Fenced where
  agents := fenced.agents
  servers server mem := by
    obtain ⟨old, other⟩ := mem_delete_iff.mp mem
    rw [beq_eq_false_iff_ne] at other
    exact mt (mem_insert.mp · |>.resolve_left other) (fenced.servers server old)
  owners agent mem :=
    mt (mem_insert.mp · |>.resolve_left (noAgents agent mem)) (fenced.owners agent mem)

theorem Fenced.withoutAgentsOf (serverId : String) : (workspace.withoutAgentsOf serverId).Fenced :=
  fenced.of_continues (fun _ mem => continues_of_mem (mem_delete_iff.mp mem).1)
    (fun server mem => ⟨server, mem, rfl⟩) (Subset.refl _) (Subset.refl _)

/-- A machine is deleted together with its agents. -/
theorem Fenced.removeServer_withoutAgentsOf (serverId : String) :
    ((workspace.removeServer serverId).withoutAgentsOf serverId).Fenced := by
  apply (fenced.withoutAgentsOf serverId).removeServer
  intro agent mem
  exact beq_eq_false_iff_ne.mp (mem_delete_iff.mp mem).2

theorem Fenced.putServer {server : ServerInfo} (live : server.serverId ∉ workspace.deletedServers) :
    { workspace with servers := workspace.servers.put server }.Fenced where
  __ := fenced
  servers other mem := by
    rcases mem_put_iff.mp mem with ⟨old, _⟩ | rfl
    · exact fenced.servers other old
    · exact live

theorem Fenced.putAgent (live : agent.agentId ∉ workspace.deletedAgents)
    (liveServer : agent.serverId ∉ workspace.deletedServers) :
    { workspace with agents := workspace.agents.put agent }.Fenced where
  agents other mem := by
    rcases mem_put_iff.mp mem with ⟨old, _⟩ | rfl
    · exact fenced.agents other old
    · exact live
  servers := fenced.servers
  owners other mem := by
    rcases mem_put_iff.mp mem with ⟨old, _⟩ | rfl
    · exact fenced.owners other old
    · exact liveServer

end

variable {given : String → Option String} {accepted : AgentInfo → Bool} {agents : List AgentInfo}

/-- After a snapshot an agent is one of another machine, or one of the snapshot that is
accepted and not deleted. -/
theorem mem_replaceAgents
    (mem : agent ∈ (workspace.replaceAgents serverId accepted given agents).agents) :
    (agent ∈ workspace.agents ∧ agent.serverId ≠ serverId) ∨
      ∃ sent ∈ agents, accepted sent = true ∧ sent.agentId ∉ workspace.deletedAgents ∧
        sent.agentId = agent.agentId ∧ sent.serverId = agent.serverId := by
  rcases mem_of_mem_foldl_put_if mem with old | ⟨sent, sentMem, taken, rfl⟩
  · obtain ⟨kept, other⟩ := mem_delete_iff.mp old
    exact .inl ⟨kept, beq_eq_false_iff_ne.mp other⟩
  · rw [Bool.and_eq_true, decide_eq_true_eq] at taken
    exact .inr ⟨sent, sentMem, taken.1, taken.2, rfl, rfl⟩

theorem Fenced.replaceAgents (fenced : workspace.Fenced)
    (live : ∀ agent ∈ agents, accepted agent = true → agent.serverId ∉ workspace.deletedServers) :
    (workspace.replaceAgents serverId accepted given agents).Fenced where
  agents agent mem := by
    rcases mem_replaceAgents mem with ⟨old, _⟩ | ⟨sent, _, _, notDeleted, sameId, _⟩
    · exact fenced.agents agent old
    · rw [← sameId]
      exact notDeleted
  servers := fenced.servers
  owners agent mem := by
    rcases mem_replaceAgents mem with ⟨old, _⟩ | ⟨sent, sentMem, taken, _, _, sameServer⟩
    · exact fenced.owners agent old
    · rw [← sameServer]
      exact live sent sentMem taken

/-! ## Operations on a workspace -/

section
variable (fenced : workspace.Fenced) {now : Int}
include fenced
variable {snapshot : AgentServerSnapshot}

theorem Fenced.applySnapshot {live : Option (List String)}
    (applied : workspace.applySnapshot snapshot live now = .ok next) : next.Fenced := by
  unfold WorkspaceState.applySnapshot at applied
  simp only at applied
  split at applied
  · cases applied
  rename_i notDeleted
  cases applied
  refine ((fenced.putServer ?_).replaceAgents ?_).bump
  · split <;> exact notDeleted
  intro agent _ accepted
  rw [Bool.and_eq_true, beq_iff_eq, beq_iff_eq] at accepted
  rw [accepted.2]
  exact notDeleted

theorem Fenced.changeServer {assign : ServerInfo → ServerInfo}
    {keeps : ∀ server, (assign server).serverId = server.serverId} :
    { workspace with
      servers := workspace.servers.update (·.serverId == serverId) assign keeps }.Fenced := by
  refine fenced.of_continues (fun _ mem => continues_of_mem mem) ?_ (Subset.refl _) (Subset.refl _)
  intro server mem
  rw [mem_update_iff] at mem
  obtain ⟨old, oldMem, rfl⟩ := mem
  refine ⟨old, oldMem, ?_⟩
  split
  · exact (keeps old).symm
  · rfl

theorem Fenced.withAgentName (agentId name : String) (now : Int) :
    (workspace.withAgentName agentId name now).Fenced := by
  refine fenced.of_continues ?_ (fun server mem => ⟨server, mem, rfl⟩) (Subset.refl _)
    (Subset.refl _)
  intro agent mem
  rw [WorkspaceState.withAgentName, mem_update_iff] at mem
  obtain ⟨old, oldMem, rfl⟩ := mem
  refine ⟨old, oldMem, ?_⟩
  split <;> exact ⟨rfl, rfl⟩

theorem Fenced.heartbeat (beaten : workspace.heartbeat serverId now = .ok next) : next.Fenced := by
  unfold WorkspaceState.heartbeat at beaten
  split at beaten
  · cases beaten
  · cases beaten
    exact fenced.changeServer

theorem Fenced.applyAgentEvent {next : Option WorkspaceState}
    (applied : workspace.applyAgentEvent agent = .ok next) :
    (next.getD workspace).Fenced := by
  unfold WorkspaceState.applyAgentEvent at applied
  split at applied
  · cases applied
  rename_i liveServer
  split at applied
  · cases applied
    exact fenced
  rename_i live
  cases applied
  refine Fenced.bump (fenced.putAgent ?_ ?_)
  · exact live
  · exact liveServer

theorem Fenced.restoreDeletedAgents (agentIds : List String) :
    (workspace.restoreDeletedAgents agentIds).Fenced := by
  induction agentIds generalizing workspace with
  | nil => exact fenced
  | cons agentId rest ih => exact ih (fenced.removeAgent agentId)

theorem Fenced.deleteAgent {agentId : String} (deleted : workspace.deleteAgent agentId = .ok next) :
    next.Fenced := by
  unfold WorkspaceState.deleteAgent at deleted
  split at deleted
  · cases deleted
  · cases deleted
    exact (fenced.removeAgent agentId).bump

theorem Fenced.deleteServer (deleted : workspace.deleteServer serverId = .ok next) :
    next.Fenced := by
  unfold WorkspaceState.deleteServer at deleted
  split at deleted
  · cases deleted
  cases deleted
  have removed := fenced.removeServer_withoutAgentsOf serverId
  refine Fenced.bump ⟨?_, removed.servers, removed.owners⟩
  -- The ids of its agents are new among the deleted ones, and none of these is left.
  intro agent mem deleted
  rcases mem_union.mp deleted with before | now
  · exact removed.agents agent mem before
  obtain ⟨_, oldMem, sameId⟩ := List.mem_map.mp (List.mem_toFinset.mp now)
  obtain ⟨inAgents, onServer⟩ := List.mem_filter.mp oldMem
  obtain ⟨still, elsewhere⟩ := mem_delete_iff.mp mem
  cases eq_of_key_eq inAgents still sameId
  rw [onServer] at elsewhere
  cases elsewhere

theorem Fenced.renameKnownServer (serverId name : String) :
    (workspace.renameKnownServer serverId name).Fenced := by
  unfold WorkspaceState.renameKnownServer
  split
  · exact fenced
  split
  · exact fenced
  · exact fenced.changeServer.bump

theorem Fenced.renameKnownAgent (agentId name : String) (now : Int) :
    (workspace.renameKnownAgent agentId name now).Fenced := by
  unfold WorkspaceState.renameKnownAgent
  split
  · exact fenced
  split
  · exact fenced
  · exact (fenced.withAgentName agentId name now).bump

theorem Fenced.applyProjection (now : Int) (projection : Projection) :
    (workspace.applyProjection now projection).Fenced := by
  cases projection with
  | serverRenamed serverId name =>
    refine Fenced.renameKnownServer ?_ serverId name
    exact fenced.of_continues (fun _ mem => continues_of_mem mem)
      (fun server mem => ⟨server, mem, rfl⟩) (Subset.refl _) (erase_subset _ _)
  | agentRenamed agentId name =>
    refine Fenced.renameKnownAgent ?_ agentId name now
    exact fenced.of_continues (fun _ mem => continues_of_mem mem)
      (fun server mem => ⟨server, mem, rfl⟩) (erase_subset _ _) (Subset.refl _)
  | agentDeleted agentId =>
    unfold WorkspaceState.applyProjection
    simp only
    split
    · exact fenced.removeAgent agentId
    · exact (fenced.removeAgent agentId).bump
  | serverDeleted serverId =>
    unfold WorkspaceState.applyProjection
    simp only
    split
    · rename_i unchanged
      rw [Bool.and_eq_true, decide_eq_true_eq] at unchanged
      apply fenced.removeServer
      rintro agent mem rfl
      exact fenced.owners agent mem unchanged.2
    · exact (fenced.removeServer_withoutAgentsOf serverId).bump

/-- A snapshot of another Proxy takes its machine back, and nothing else that is deleted. -/
theorem Fenced.applyClusterSnapshot
    (own : ∀ agent ∈ snapshot.agents, agent.serverId ∈ workspace.deletedServers →
      agent.serverId = snapshot.server.serverId) :
    (workspace.applyClusterSnapshot snapshot).Fenced := by
  have restored : { workspace with
      deletedServers := workspace.deletedServers.erase snapshot.server.serverId }.Fenced :=
    fenced.of_continues (fun _ mem => continues_of_mem mem) (fun server mem => ⟨server, mem, rfl⟩)
      (Subset.refl _) (erase_subset _ _)
  refine ((restored.putServer ?_).replaceAgents ?_).bump
  · exact notMem_erase _ _
  intro agent mem _ deleted
  obtain ⟨other, before⟩ := mem_erase.mp deleted
  exact other (own agent mem before)

end
end WorkspaceState

/-! ## Updates and calls -/

variable {β : Type} {shared : Shared}

/-- The update enters nothing that is deleted. Every other update looks for itself, under
the same lock. -/
def Update.Respects (workspace : WorkspaceState) : Update → Prop
  | .registerServer server => server.serverId ∉ workspace.deletedServers
  | .applyClusterSnapshot snapshot =>
    ∀ agent ∈ snapshot.agents, agent.serverId ∈ workspace.deletedServers →
      agent.serverId = snapshot.server.serverId
  | _ => True

instance (workspace : WorkspaceState) (update : Update) :
    Decidable (update.Respects workspace) := by
  unfold Update.Respects
  split <;> infer_instance

theorem Update.fenced_run {now : Int} {update : Update}
    {answer : update.Answer} (fenced : workspace.Fenced) (respects : update.Respects workspace)
    (done : update.run workspace now = .ok (answer, next)) : next.Fenced := by
  cases update with
  | registerServer =>
    cases done
    exact (fenced.putServer respects).bump
  | serverSnapshot =>
    obtain ⟨_, _, same⟩ := map_eq_ok_iff.mp done
    cases same
    exact fenced
  | applySnapshot =>
    obtain ⟨_, applied, same⟩ := map_eq_ok_iff.mp done
    cases same
    exact fenced.applySnapshot applied
  | heartbeat =>
    obtain ⟨_, beaten, same⟩ := map_eq_ok_iff.mp done
    cases same
    exact fenced.heartbeat beaten
  | applyAgentEvent =>
    obtain ⟨_, applied, same⟩ := map_eq_ok_iff.mp done
    cases same
    exact fenced.applyAgentEvent applied
  | setOffline =>
    cases done
    exact fenced.changeServer.bump
  | restoreDeletedAgents agentIds =>
    cases done
    exact fenced.restoreDeletedAgents agentIds
  | deleteAgent =>
    obtain ⟨_, deleted, same⟩ := map_eq_ok_iff.mp done
    cases same
    exact fenced.deleteAgent deleted
  | deleteServer =>
    obtain ⟨_, deleted, same⟩ := map_eq_ok_iff.mp done
    cases same
    exact fenced.deleteServer deleted
  | applyClusterSnapshot =>
    cases done
    exact fenced.applyClusterSnapshot respects
  | applyProjection projection =>
    cases done
    exact fenced.applyProjection now projection

/-- What a call does to the workspaces, the connections and their registrations. -/
inductive Effect (shared : Shared) : {β : Type} → Call β → Shared → Prop where
  | other {β : Type} {call : Call β} {next : Shared}
      (workspaces : next.workspaces = shared.workspaces)
      (connections : next.connections = shared.connections)
      (registrations : next.registrations = shared.registrations) : Effect shared call next
  | add {β : Type} {call : Call β} {workspaceId : String}
      (absent : shared.workspaces.get? workspaceId = none) :
      Effect shared call
        { shared with workspaces := shared.workspaces.insert workspaceId WorkspaceState.empty }
  | bump {β : Type} {call : Call β} {workspaceId : String} {workspace : WorkspaceState}
      (found : shared.workspaces.get? workspaceId = some workspace) :
      Effect shared call
        { shared with workspaces := shared.workspaces.insert workspaceId workspace.bump }
  | remove (workspaceId : String) :
      Effect shared (.removeWorkspace workspaceId) (shared.removeWorkspace workspaceId).2
  | update {workspaceId : String} {update : Update} {workspace next : WorkspaceState} {now : Int}
      {answer : update.Answer} (found : shared.workspaces.get? workspaceId = some workspace)
      (done : update.run workspace now = .ok (answer, next)) :
      Effect shared (.update workspaceId update)
        { shared with workspaces := shared.workspaces.insert workspaceId next }
  | connect (key : ServerKey) (connection : ServerConnection) :
      Effect shared (.connect key connection) (shared.connect key connection)
  | disconnect {β : Type} {call : Call β} (key : ServerKey) :
      Effect shared call (shared.disconnect key)

theorem effect_machine (call : Call β) (world : World) (shared : Shared) :
    Effect shared call (machine call world shared).2 := by
  cases call with
  | ensureWorkspace workspaceId =>
    change Effect shared _ (shared.ensureWorkspace workspaceId)
    unfold Shared.ensureWorkspace
    split
    · rename_i absent
      exact .add absent
    · exact .other rfl rfl rfl
  | upsertWorkspace workspaceId renamed =>
    change Effect shared _ (shared.upsertWorkspace workspaceId renamed)
    unfold Shared.upsertWorkspace
    split
    · rename_i absent
      exact .add absent
    · rename_i workspace found
      split
      · exact .bump found
      · exact .other rfl rfl rfl
  | removeWorkspace workspaceId => exact .remove workspaceId
  | update workspaceId update =>
    change Effect shared _ (shared.update workspaceId update world.now).2
    unfold Shared.update
    split
    · exact .other rfl rfl rfl
    rename_i workspace found
    split
    · exact .other rfl rfl rfl
    · rename_i done
      exact .update found done
  | connect key connection => exact .connect key connection
  | disconnect key => exact .disconnect key
  | disconnectCurrent key =>
    simp only [machine]
    split
    · exact .disconnect key
    · exact .other rfl rfl rfl
  | acceptRevision key revision =>
    change Effect shared _ (shared.acceptRevision key revision).2
    unfold Shared.acceptRevision
    split <;> exact .other rfl rfl rfl
  | sendAttach sessionId key =>
    change Effect shared _ (shared.sendAttach sessionId key).2
    unfold Shared.sendAttach
    split <;> exact .other rfl rfl rfl
  | sendOpen streamId key =>
    change Effect shared _ (shared.sendOpen streamId key).2
    unfold Shared.sendOpen
    split <;> exact .other rfl rfl rfl
  | _ => exact .other rfl rfl rfl

def Shared.Fenced (shared : Shared) : Prop :=
  ∀ entry ∈ shared.workspaces.rows, entry.2.Fenced
deriving Decidable

theorem Shared.Fenced.insert (fenced : shared.Fenced) {workspaceId : String}
    (added : workspace.Fenced) :
    { shared with workspaces := shared.workspaces.insert workspaceId workspace }.Fenced := by
  rintro ⟨id, found⟩ mem
  have looked := get?_eq_some_iff.mpr mem
  rw [get?_insert] at looked
  split at looked
  · cases looked
    exact added
  · exact fenced (id, found) (get?_eq_some_iff.mp looked)

/-- The update of the call, if it makes one, respects the workspace that is there now. -/
def Call.Respects (shared : Shared) {β : Type} : Call β → Prop
  | .update workspaceId change =>
    ∀ workspace ∈ shared.workspaces.get? workspaceId, change.Respects workspace
  | _ => True

instance (shared : Shared) (β : Type) (call : Call β) : Decidable (call.Respects shared) := by
  unfold Call.Respects
  split <;> infer_instance

theorem fenced_machine (call : Call β) (world : World)
    (fenced : shared.Fenced) (respects : call.Respects shared) :
    (machine call world shared).2.Fenced := by
  have effect := effect_machine call world shared
  generalize (machine call world shared).2 = next at effect ⊢
  cases effect with
  | other workspaces =>
    intro entry mem
    exact fenced entry (workspaces ▸ mem)
  | add => exact fenced.insert WorkspaceState.fenced_empty
  | bump found => exact fenced.insert (fenced _ (get?_eq_some_iff.mp found)).bump
  | remove =>
    intro entry mem
    exact fenced entry (mem_delete_iff.mp mem).1
  | update found done =>
    have before := fenced _ (get?_eq_some_iff.mp found)
    exact fenced.insert (Update.fenced_run before (respects _ found) done)
  | connect | disconnect => exact fenced

namespace Operations

/-- `register_server` enters no machine that was deleted after the check, and a snapshot of another
Proxy has no agent of another machine that is deleted. -/
def Respectful (operations : Operations) (move : Move Operation World) : Prop :=
  operations.Makes (Call.Respects operations.shared) move
deriving Decidable

theorem fenced_step (operations : Operations) (move : Move Operation World)
    (fenced : operations.shared.Fenced) (respectful : operations.Respectful move) :
    (operations.step move).2.shared.Fenced :=
  Pool.shared_step Shared.Fenced (fun call world => fenced_machine call world fenced) fenced
    respectful

/-- In a run in which nothing deleted is entered by a registration or a snapshot of another
Proxy, what is deleted is not there. -/
theorem deletion_fences_hold {shared : Shared} (fenced : shared.Fenced)
    (moves : List (Move Operation World))
    (respectful : AllSteps step Respectful (Pool.init shared) moves) :
    ∀ earlier later, moves = earlier ++ later →
      (exec step (Pool.init shared) earlier).shared.Fenced := by
  rintro _ _ rfl
  exact AllSteps.invariant fenced_step fenced respectful

end Operations

namespace Sample

def key : ServerKey := ⟨"alpha", "srv_1"⟩

def world : World where
  now := 0
  cluster := .ok true

/-- All the calls of an operation. -/
def whole (place : Nat) (operation : Operation) (calls : Nat) : List (Move Operation World) :=
  .start operation :: List.replicate calls (.advance place world)

def registration (connectionId : String) : Operation :=
  .registerServer (server "srv_1") connectionId "controller" []

/-- A machine connects again, and is deleted after the check of that registration. -/
def deletedAfterCheck : List (Move Operation World) :=
  whole 0 (registration "c1") 7 ++ whole 1 (registration "c2") 2 ++ whole 2 (.deleteServer key) 1 ++
    List.replicate 3 (.advance 1 world)

/-- A machine that is deleted tries to connect again. -/
def deletedBeforeCheck : List (Move Operation World) :=
  whole 0 (registration "c1") 7 ++ whole 1 (.deleteServer key) 6 ++ whole 2 (registration "c2") 7

def after (moves : List (Move Operation World)) : Shared :=
  (exec Operations.step (Pool.init Shared.empty) moves).shared

end Sample

open Sample

/-- The second registration has seen the machine before it was deleted, and enters it again. -/
theorem registration_enters_deleted_server :
    ∃ workspace, (after deletedAfterCheck).workspaces.get? "alpha" = some workspace ∧
      (workspace.servers.find? "srv_1").isSome = true ∧ "srv_1" ∈ workspace.deletedServers ∧
      ¬ (after deletedAfterCheck).Fenced := by
  have looked : ∀ workspace ∈ (after deletedAfterCheck).workspaces.get? "alpha",
      (workspace.servers.find? "srv_1").isSome = true ∧ "srv_1" ∈ workspace.deletedServers := by
    decide +kernel
  obtain ⟨workspace, found⟩ := Option.isSome_iff_exists.mp
    (show ((after deletedAfterCheck).workspaces.get? "alpha").isSome = true by
      decide +kernel)
  exact ⟨workspace, found, (looked workspace found).1, (looked workspace found).2,
    by decide +kernel⟩

theorem deleted_server_stays_out : (after deletedBeforeCheck).Fenced :=
  Operations.deletion_fences_hold (by decide) deletedBeforeCheck (by decide +kernel)
    deletedBeforeCheck [] (List.append_nil _).symm

end Treer.Proxy
