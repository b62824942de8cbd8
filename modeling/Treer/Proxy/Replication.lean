import Treer.Proxy.Fences

/-!
# Deletions on a replica

A Proxy learns of the machines of other Proxies through snapshots, and of deletions through
projections. The two arrive in no common order. What was deleted does not come back if no
newer snapshot of the machine arrives after its deletion.
-/

namespace Treer.Proxy

open Foundation Protocol KeyedMap Pool Option Function Program WorkspaceState Call
open Controller (AgentInfo)
open Foundation.Procedure

/-- What a deletion is about. -/
inductive Identity where
  | server (serverId : String)
  | agent (agentId : String)

namespace Identity

def deletion : Identity → Projection
  | server serverId => .serverDeleted serverId
  | agent agentId => .agentDeleted agentId

def serverId? : Identity → Option String
  | server serverId => some serverId
  | agent _ => none

def agentId? : Identity → Option String
  | server _ => none
  | agent agentId => some agentId

end Identity

def Projection.renamedAgent? : Projection → Option String
  | .agentRenamed agentId _ => some agentId
  | _ => none

namespace Control

variable {control : Control} {serverId agentId : String}

/-- A projection adds no machine, and no agent to one. -/
theorem servers_project (absent : control.servers serverId = none) (projection : Projection) :
    (control.project projection).servers serverId = none := by
  cases projection with
  | serverRenamed renamed =>
    change update control.servers renamed _ serverId = none
    grind
  | agentRenamed | agentDeleted => exact absent
  | serverDeleted deleted =>
    have gone : update control.servers deleted none serverId = none := by grind
    rw [project]
    split <;> exact gone

theorem agents_project {agent : AgentInfo} (projection : Projection)
    (found : (control.project projection).agents agentId = some agent) :
    ∃ old, control.agents agentId = some old ∧ old.serverId = agent.serverId := by
  cases projection with
  | serverRenamed => exact ⟨agent, found, rfl⟩
  | agentRenamed renamed =>
    change update control.agents renamed _ agentId = some agent at found
    rw [update_apply] at found
    split at found
    · rename_i same
      obtain ⟨old, oldFound, rfl⟩ := map_eq_some_iff.mp found
      exact ⟨old, same ▸ oldFound, rfl⟩
    · exact ⟨agent, found, rfl⟩
  | agentDeleted deleted =>
    change update control.agents deleted none agentId = some agent at found
    grind
  | serverDeleted =>
    rw [project] at found
    split at found
    · exact ⟨agent, found, rfl⟩
    · exact ⟨agent, (filter_eq_some_iff.mp found).1, rfl⟩

end Control

variable {identity : Identity} {workspace : WorkspaceState}

namespace WorkspaceState

/-- Neither the agent, nor the machine or an agent of it, is there. -/
def Lacks (workspace : WorkspaceState) : Identity → Prop
  | .server serverId =>
    (∀ server ∈ workspace.servers.rows, server.serverId ≠ serverId) ∧
      ∀ agent ∈ workspace.agents.rows, agent.serverId ≠ serverId
  | .agent agentId => ∀ agent ∈ workspace.agents.rows, agent.agentId ≠ agentId

/-- The agent is not there and known as deleted. -/
structure Excludes (workspace : WorkspaceState) (agentId : String) : Prop where
  deleted : agentId ∈ workspace.deletedAgents
  lacks : workspace.Lacks (.agent agentId)

section
variable {serverId agentId : String}

theorem lacks_agent_iff :
    workspace.Lacks (.agent agentId) ↔ workspace.control.agents agentId = none :=
  (map_eq_none_iff.trans Table.find?_eq_none_iff).symm

theorem lacks_server_iff :
    workspace.Lacks (.server serverId) ↔ workspace.control.servers serverId = none ∧
      ∀ agentId, ¬ workspace.control.hosts serverId agentId := by
  refine and_congr Table.find?_eq_none_iff.symm ?_
  simp only [← mem_hosted_iff, List.mem_map, List.mem_filter, beq_iff_eq]
  grind

end

variable {agentId : String}

theorem lacks_applyProjection_of_deleted (fenced : workspace.Fenced) (now : Int)
    (serverId : String) :
    (workspace.applyProjection now (.serverDeleted serverId)).Lacks (.server serverId) := by
  rw [lacks_server_iff, control_applyProjection]
  rw [Control.project]
  split
  · rename_i known
    refine ⟨update_self .., fun agentId hosted => ?_⟩
    obtain ⟨agent, mem, _⟩ :=
      List.mem_map.mp ((workspace.mem_hosted_iff serverId agentId).mpr hosted)
    obtain ⟨inTable, own⟩ := List.mem_filter.mp mem
    exact fenced.owners agent inTable (beq_iff_eq.mp own ▸ known.2)
  · refine ⟨update_self .., ?_⟩
    rintro _ ⟨_, found, own⟩
    simpa [own] using (filter_eq_some_iff.mp found).2

theorem excludes_applyProjection_of_deleted (now : Int) (agentId : String) :
    (workspace.applyProjection now (.agentDeleted agentId)).Excludes agentId where
  deleted := by
    change agentId ∈ (workspace.applyProjection now _).control.deletedAgents
    rw [control_applyProjection]
    exact Set.mem_insert ..
  lacks := by
    rw [lacks_agent_iff, control_applyProjection]
    exact update_self ..

theorem lacks_applyProjection (lacks : workspace.Lacks identity) (now : Int)
    (projection : Projection) : (workspace.applyProjection now projection).Lacks identity := by
  cases identity with
  | server =>
    obtain ⟨absent, empty⟩ := lacks_server_iff.mp lacks
    rw [lacks_server_iff, control_applyProjection]
    refine ⟨Control.servers_project absent projection, ?_⟩
    rintro agentId ⟨agent, found, own⟩
    obtain ⟨old, oldFound, same⟩ := Control.agents_project projection found
    exact empty agentId ⟨old, oldFound, same.trans own⟩
  | agent =>
    rw [lacks_agent_iff] at lacks
    rw [lacks_agent_iff, control_applyProjection, eq_none_iff_forall_ne_some]
    intro agent found
    obtain ⟨_, oldFound, _⟩ := Control.agents_project projection found
    cases lacks.symm.trans oldFound

theorem deletedAgents_applyProjection (deleted : agentId ∈ workspace.deletedAgents)
    (now : Int) {projection : Projection} (other : projection.renamedAgent? ≠ some agentId) :
    agentId ∈ (workspace.applyProjection now projection).deletedAgents := by
  change agentId ∈ (workspace.applyProjection now projection).control.deletedAgents
  rw [control_applyProjection]
  cases projection with
  | serverRenamed => exact deleted
  | agentRenamed => exact ⟨deleted, fun same => other (congrArg some same.symm)⟩
  | agentDeleted => exact .inr deleted
  | serverDeleted =>
    rw [Control.project]
    split <;> exact deleted

theorem lacks_applyClusterSnapshot {snapshot : AgentServerSnapshot} {serverId : String}
    (lacks : workspace.Lacks (.server serverId)) (other : snapshot.server.serverId ≠ serverId)
    (own : ∀ agent ∈ snapshot.agents, agent.serverId = snapshot.server.serverId) :
    (workspace.applyClusterSnapshot snapshot).Lacks (.server serverId) := by
  refine ⟨?_, ?_⟩
  · intro server mem
    rcases Table.mem_put_iff.mp mem with ⟨old, _⟩ | rfl
    · exact lacks.1 server old
    · exact other
  · intro agent mem
    rcases mem_replaceAgents mem with ⟨old, _⟩ | ⟨sent, sentMem, _, _, _, sameServer⟩
    · exact lacks.2 agent old
    · rw [← sameServer, own sent sentMem]
      exact other

theorem excludes_applyClusterSnapshot (excludes : workspace.Excludes agentId)
    (snapshot : AgentServerSnapshot) :
    (workspace.applyClusterSnapshot snapshot).Excludes agentId := by
  refine ⟨excludes.deleted, ?_⟩
  intro agent mem
  rcases mem_replaceAgents mem with ⟨old, _⟩ | ⟨_, _, _, notDeleted, sameId, _⟩
  · exact excludes.lacks agent old
  rw [← sameId]
  rintro rfl
  exact notDeleted excludes.deleted

end WorkspaceState

variable {changed : String} {workspaceId : String} {shared : Shared}

namespace Shared

def Lacks (shared : Shared) (workspaceId : String) (identity : Identity) : Prop :=
  ∀ workspace ∈ shared.workspaces.get? workspaceId, workspace.Lacks identity

/-- The identity is not there, and an agent is known as deleted. -/
def Rid (shared : Shared) (workspaceId : String) : Identity → Prop
  | .server serverId => shared.Lacks workspaceId (.server serverId)
  | .agent agentId =>
    ∃ workspace, shared.workspaces.get? workspaceId = some workspace ∧ workspace.Excludes agentId

section
variable (rid : shared.Rid workspaceId identity)
include rid

theorem Rid.lacks : shared.Lacks workspaceId identity := by
  cases identity with
  | server => exact rid
  | agent =>
    obtain ⟨_, found, excludes⟩ := rid
    intro other foundOther
    cases found.symm.trans foundOther
    exact excludes.lacks

theorem Rid.congr {next : Shared}
    (same : next.workspaces.get? workspaceId = shared.workspaces.get? workspaceId) :
    next.Rid workspaceId identity := by
  cases identity with
  | server => exact fun workspace found => rid workspace (same ▸ found)
  | agent =>
    obtain ⟨workspace, found, excludes⟩ := rid
    exact ⟨workspace, same.trans found, excludes⟩

/-- A workspace is replaced by one that keeps what is excluded out. -/
theorem Rid.insert {next : WorkspaceState}
    (lacks : ∀ serverId, identity = .server serverId → changed = workspaceId →
      next.Lacks (.server serverId))
    (excludes : ∀ agentId, identity = .agent agentId → changed = workspaceId →
      next.Excludes agentId) :
    { shared with workspaces := shared.workspaces.insert changed next }.Rid workspaceId
      identity := by
  by_cases same : workspaceId = changed
  · have here := (get?_insert shared.workspaces _ _ next).trans (if_pos same)
    cases identity with
    | server serverId =>
      intro workspace found
      cases here.symm.trans found
      exact lacks serverId rfl same.symm
    | agent agentId => exact ⟨next, here, excludes agentId rfl same.symm⟩
  · exact rid.congr ((get?_insert ..).trans (if_neg same))

end
end Shared

/-- The update does not bring the identity back. -/
def Update.Spares (identity : Identity) : Update → Prop
  | .applyClusterSnapshot snapshot =>
    ∀ serverId ∈ identity.serverId?, snapshot.server.serverId ≠ serverId ∧
      ∀ agent ∈ snapshot.agents, agent.serverId = snapshot.server.serverId
  | .applyProjection projection =>
    ∀ agentId ∈ identity.agentId?, projection.renamedAgent? ≠ some agentId
  | _ => False

def Call.Spares (workspaceId : String) (identity : Identity) {β : Type} : Call β → Prop
  | .update changed change => changed = workspaceId → change.Spares identity
  | .removeWorkspace removed => removed = workspaceId → identity.agentId? = none
  | _ => True

theorem Shared.Rid.update {next : WorkspaceState} {now : Int} {update : Update}
    {answer : update.Answer} (rid : shared.Rid workspaceId identity)
    (spares : changed = workspaceId → update.Spares identity)
    (found : shared.workspaces.get? changed = some workspace)
    (done : update.run workspace now = .ok (answer, next)) :
    { shared with workspaces := shared.workspaces.insert changed next }.Rid workspaceId
      identity := by
  refine rid.insert ?_ ?_
  · rintro serverId rfl rfl
    have lacks : workspace.Lacks (.server serverId) := rid workspace found
    have spared := spares rfl
    cases update with
    | applyClusterSnapshot =>
      cases done
      obtain ⟨other, own⟩ := spared serverId rfl
      exact lacks_applyClusterSnapshot lacks other own
    | applyProjection projection =>
      cases done
      exact lacks_applyProjection lacks now projection
    | _ => cases spared
  · rintro agentId rfl rfl
    obtain ⟨_, found', excludes⟩ := rid
    cases found.symm.trans found'
    have spared := spares rfl
    cases update with
    | applyClusterSnapshot snapshot =>
      cases done
      exact excludes_applyClusterSnapshot excludes snapshot
    | applyProjection projection =>
      cases done
      exact ⟨deletedAgents_applyProjection excludes.deleted now (spared agentId rfl),
        lacks_applyProjection excludes.lacks now projection⟩
    | _ => cases spared

/-- A new workspace has nobody in it. -/
theorem Shared.Rid.add (rid : shared.Rid workspaceId identity)
    (absent : shared.workspaces.get? changed = none) :
    { shared with
      workspaces := shared.workspaces.insert changed WorkspaceState.empty }.Rid workspaceId
      identity := by
  refine rid.insert ?_ ?_
  · intro serverId _ _
    constructor
    · intro server mem
      cases mem
    · intro agent mem
      cases mem
  · rintro _ rfl rfl
    obtain ⟨_, found, _⟩ := rid
    cases absent.symm.trans found

variable {β : Type}

theorem rid_machine (call : Call β) (world : World) (rid : shared.Rid workspaceId identity)
    (spares : call.Spares workspaceId identity) :
    (machine call world shared).2.Rid workspaceId identity := by
  have effect := effect_machine call world shared
  generalize (machine call world shared).2 = next at effect ⊢
  cases effect with
  | other workspaces => exact rid.congr (workspaces ▸ rfl)
  | add absent => exact rid.add absent
  | @bump _ _ _ workspace found =>
    refine rid.insert ?_ ?_
    · rintro _ rfl rfl
      exact rid workspace found
    · rintro _ rfl rfl
      obtain ⟨_, found', excludes⟩ := rid
      cases found.symm.trans found'
      exact ⟨excludes.deleted, excludes.lacks⟩
  | remove removed =>
    by_cases same : workspaceId = removed
    · cases identity with
      | server =>
        intro workspace found
        cases ((get?_erase ..).trans (if_pos same)).symm.trans found
      | agent => cases spares same.symm
    · exact rid.congr ((get?_erase ..).trans (if_neg same))
  | update found done => exact rid.update spares found done
  | connect | disconnect => exact rid.congr rfl

/-! ## Operations of replication -/

namespace Operation

/-- What comes from other Proxies. A snapshot has only agents of its own machine. -/
def Replicates : Operation → Prop
  | applyClusterSnapshot snapshot _ =>
    ∀ agent ∈ snapshot.agents, agent.serverId = snapshot.server.serverId
  | applyClusterProjection _ _ | applyWorkspaceUpsert _ _ | applyWorkspaceDeleted _ => True
  | _ => False

instance (operation : Operation) : Decidable operation.Replicates := by
  unfold Replicates
  split <;> infer_instance

def snapshotKey : Operation → Option ServerKey
  | applyClusterSnapshot snapshot _ => some snapshot.server.key
  | _ => none

/-- The update that the operation makes. -/
def change : Operation → Option (String × Update)
  | applyClusterSnapshot snapshot _ =>
    some (snapshot.server.workspaceId, .applyClusterSnapshot snapshot)
  | applyClusterProjection workspaceId projection => some (workspaceId, .applyProjection projection)
  | _ => none

end Operation

def Call.accepts {β : Type} : Call β → Bool
  | .acceptRevision _ _ => true
  | _ => false

/-- A call of the operation after its revision was accepted. -/
def Call.From (operation : Operation) {β : Type} : Call β → Prop
  | .update changed change => operation.change = some (changed, change)
  | .acceptRevision _ _ => False
  | _ => True

variable {operation : Operation}

section
theorem from_dropTerminals (sessionIds : List String) :
    (dropTerminals sessionIds).run.Every (From operation) := by
  induction sessionIds with
  | nil => trivial
  | cons sessionId rest ih => exact every_bind (every_call trivial) fun _ => ih

theorem from_releaseServerRuntime (key : ServerKey) :
    (releaseServerRuntime key).run.Every (From operation) := by
  have closes : (closeServerSessions key).run.Every (From operation) :=
    every_bind (every_call trivial) fun _ => every_call trivial
  refine every_bind (every_call trivial) fun connection => ?_
  split
  · exact every_bind (every_call trivial) fun _ => closes
  · exact closes

theorem from_releaseServers (workspaceId : String) (serverIds : List String) :
    (releaseServers workspaceId serverIds).run.Every (From operation) := by
  induction serverIds with
  | nil => trivial
  | cons serverId rest ih => exact every_bind (from_releaseServerRuntime _) fun _ => ih

theorem from_applyClusterProjection (workspaceId : String) (projection : Projection) :
    (applyClusterProjection workspaceId projection).run.Every
      (From (.applyClusterProjection workspaceId projection)) := by
  refine every_bind (every_attempt rfl) fun changed => ?_
  cases projection with
  | agentDeleted =>
    simp only
    split
    · exact every_bind (every_call trivial) fun sessionIds => from_dropTerminals sessionIds
    · trivial
  | serverDeleted =>
    simp only
    split
    · exact from_releaseServerRuntime _
    · trivial
  | serverRenamed _ _ | agentRenamed _ _ => trivial

end

/-- A task of replication that has not begun a snapshot, or makes the calls that are left. -/
structure InOrder (task : Task Call Operation) : Prop where
  replicates : task.label.Replicates
  program : (task.label.snapshotKey ≠ none ∧ task.rest = task.label.code) ∨
    task.rest.Every (Call.From task.label)

theorem inOrder_start (replicates : operation.Replicates) :
    InOrder ⟨operation, operation.code⟩ := by
  refine ⟨replicates, ?_⟩
  cases operation with
  | applyClusterSnapshot => exact .inl ⟨nofun, rfl⟩
  | applyClusterProjection workspaceId projection =>
    exact .inr ((from_applyClusterProjection workspaceId projection).bind fun _ => trivial)
  | applyWorkspaceUpsert => exact .inr ⟨trivial, fun _ => trivial⟩
  | applyWorkspaceDeleted workspaceId =>
    right
    refine Every.bind ?_ fun _ => trivial
    exact every_bind (every_call trivial) fun serverIds => from_releaseServers workspaceId serverIds
  | _ => cases replicates

variable {next : β → Program Call Unit}

/-- The next call of a task is the check of a revision, or one after it. -/
theorem InOrder.call_cases {call : Call β} (inOrder : InOrder ⟨operation, .call call next⟩) :
    (∃ snapshot revision, operation = .applyClusterSnapshot snapshot revision ∧
      Program.call call next = (Operation.applyClusterSnapshot snapshot revision).code) ∨
      call.From operation ∧ ∀ answer, (next answer).Every (From operation) := by
  rcases inOrder.program with ⟨key, unbegun⟩ | every
  · cases operation with
    | applyClusterSnapshot snapshot revision => exact .inl ⟨snapshot, revision, rfl, unbegun⟩
    | _ => exact absurd rfl key
  · exact .inr every

/-- What is left of `apply_cluster_snapshot` after the check of the revision. -/
def writeSnapshot (snapshot : AgentServerSnapshot) : Bool → Program Call Unit
  | true => finish do
      call (.ensureWorkspace snapshot.server.workspaceId)
      attempt (.update snapshot.server.workspaceId (.applyClusterSnapshot snapshot))
  | false => .done ()

theorem code_applyClusterSnapshot (snapshot : AgentServerSnapshot) (revision : Nat) :
    (Operation.applyClusterSnapshot snapshot revision).code =
      .call (.acceptRevision snapshot.server.key revision) (writeSnapshot snapshot) := by
  change call _ _ = call _ _
  congr 1
  funext accepted
  cases accepted <;> rfl

theorem from_writeSnapshot (snapshot : AgentServerSnapshot) (revision : Nat) (accepted : Bool) :
    (writeSnapshot snapshot accepted).Every (From (.applyClusterSnapshot snapshot revision)) := by
  cases accepted with
  | false => trivial
  | true => exact every_bind (every_call trivial) fun _ => every_attempt rfl

def Update.deletes (identity : Identity) : Update → Bool
  | .applyProjection projection => projection == identity.deletion
  | _ => false

def Call.deletes (workspaceId : String) (identity : Identity) {β : Type} : Call β → Bool
  | .update changed change => changed == workspaceId && change.deletes identity
  | _ => false

/-- The program goes on with the deletion of the identity. -/
def deletesNext (workspaceId : String) (identity : Identity) : Program Call Unit → Bool
  | .call instruction _ => instruction.deletes workspaceId identity
  | .done _ => false

theorem Update.eq_of_deletes {update : Update}
    (deletes : update.deletes identity = true) : update = .applyProjection identity.deletion := by
  cases update with
  | applyProjection => rw [beq_iff_eq.mp deletes]
  | _ => cases deletes

/-- The call does not bring the identity back: a snapshot is not newer than the last one, the agent
is not renamed and its workspace not removed. -/
def Call.HeldBack (shared : Shared) (workspaceId : String) (identity : Identity) {β : Type} :
    Call β → Prop
  | .acceptRevision key revision =>
    ∀ serverId ∈ identity.serverId?, key = ⟨workspaceId, serverId⟩ →
      (shared.clusterSnapshotRevisions.get? key).any (revision ≤ ·) = true
  | .update changed (.applyProjection projection) =>
    changed = workspaceId → ∀ agentId ∈ identity.agentId?, projection.renamedAgent? ≠ some agentId
  | .removeWorkspace removed => removed = workspaceId → identity.agentId? = none
  | _ => True

instance (shared : Shared) (workspaceId : String) (identity : Identity) (β : Type)
    (call : Call β) : Decidable (call.HeldBack shared workspaceId identity) := by
  induction call using Call.casesOn
  case acceptRevision | removeWorkspace =>
    dsimp only [Call.HeldBack]
    infer_instance
  case update changed change =>
    induction change using Update.casesOn
    case applyProjection =>
      dsimp only [Call.HeldBack]
      infer_instance
    all_goals exact isTrue trivial
  all_goals exact isTrue trivial

namespace Operations

variable {operations : Operations} {call : Call β}

/-- Only operations of replication are started. -/
def Replicates (_ : Operations) : Move Operation World → Prop
  | .start operation => operation.Replicates
  | .advance _ _ => True

instance (operations : Operations) (move : Move Operation World) :
    Decidable (operations.Replicates move) := by
  induction move using Move.casesOn <;> dsimp only [Replicates] <;> infer_instance

structure Replicating (operations : Operations) : Prop where
  fenced : operations.shared.Fenced
  inOrder : ∀ task ∈ operations.tasks, InOrder task

theorem replicating_init (fenced : shared.Fenced) : Replicating (init shared) := by
  refine ⟨fenced, ?_⟩
  intro task mem
  cases mem

theorem inOrder_step (operations : Operations) (move : Move Operation World)
    (inOrder : ∀ task ∈ operations.tasks, InOrder task) (replicates : operations.Replicates move) :
    ∀ task ∈ (operations.step move).2.tasks, InOrder task := by
  apply forall_tasks_step inOrder
  · rintro operation rfl
    exact inOrder_start replicates
  intro place world operation β call next _ task
  have before := inOrder _ (List.mem_of_getElem? task)
  refine ⟨before.replicates, .inr ?_⟩
  rcases before.call_cases with ⟨snapshot, revision, rfl, unbegun⟩ | ⟨_, every⟩
  · rw [code_applyClusterSnapshot] at unbegun
    cases unbegun
    exact from_writeSnapshot snapshot revision _
  · exact every _

/-- The snapshots of replication enter nothing that is deleted, but for their machine. -/
theorem respectful_of_inOrder (inOrder : ∀ task ∈ operations.tasks, InOrder task)
    (move : Move Operation World) : operations.Respectful move := by
  cases move with
  | start => trivial
  | advance =>
    intro task found
    obtain ⟨operation, rest⟩ := task
    cases rest with
    | done => trivial
    | call call =>
      have before := inOrder _ (List.mem_of_getElem? found)
      rcases before.call_cases with ⟨_, _, rfl, unbegun⟩ | ⟨made, _⟩
      · cases unbegun
        trivial
      cases call with
      | update =>
        intro workspace _
        cases operation with
        | applyClusterSnapshot =>
          cases made
          intro agent mem _
          exact before.replicates agent mem
        | applyClusterProjection =>
          cases made
          trivial
        | _ => cases made
      | _ => trivial

/-! ### From the deletion on -/

/-- No snapshot of the machine is between the check of its revision and its writing. -/
def Settled (operations : Operations) (workspaceId : String) (identity : Identity) : Prop :=
  ∀ task ∈ operations.tasks, ∀ serverId ∈ identity.serverId?,
    task.label.snapshotKey = some ⟨workspaceId, serverId⟩ →
      task.rest.Begins fun call => call.accepts = true
deriving Decidable

/-- The next call of the task deletes the identity, in a known workspace if it is an agent, while no
snapshot of the machine is being written. -/
structure Deletes (operations : Operations) (workspaceId : String) (identity : Identity)
    (place : Nat) : Prop where
  next : (operations.tasks[place]?.any fun task =>
    deletesNext workspaceId identity task.rest) = true
  known : identity.agentId?.isSome = true →
    (operations.shared.workspaces.get? workspaceId).isSome = true
  settled : operations.Settled workspaceId identity

def HeldBack (workspaceId : String) (identity : Identity) (operations : Operations)
    (move : Move Operation World) : Prop :=
  operations.Replicates move ∧
    operations.Makes (Call.HeldBack operations.shared workspaceId identity) move
deriving Decidable

structure Deleted (workspaceId : String) (identity : Identity) (operations : Operations) :
    Prop where
  inOrder : ∀ task ∈ operations.tasks, InOrder task
  rid : operations.shared.Rid workspaceId identity
  settled : operations.Settled workspaceId identity

/-- What is held back does not bring the identity back. -/
theorem spares_of_heldBack (made : call.From operation) (replicates : operation.Replicates)
    (other : ∀ serverId ∈ identity.serverId?, operation.snapshotKey ≠ some ⟨workspaceId, serverId⟩)
    (heldBack : call.HeldBack shared workspaceId identity) :
    call.Spares workspaceId identity := by
  cases call with
  | update changed change =>
    intro same
    cases operation with
    | applyClusterSnapshot snapshot =>
      cases made
      intro serverId mem
      refine ⟨?_, replicates⟩
      intro sameServer
      apply other serverId mem
      change some (ServerKey.mk snapshot.server.workspaceId snapshot.server.serverId) = _
      rw [same, sameServer]
    | applyClusterProjection =>
      cases made
      exact heldBack same
    | _ => cases made
  | removeWorkspace => exact heldBack
  | _ => trivial

/-- The call of a task that is settled is the check of a revision, if it is of a snapshot of
the machine. -/
theorem snapshotKey_ne_of_settled (settled : operations.Settled workspaceId identity)
    (mem : ⟨operation, .call call next⟩ ∈ operations.tasks) (made : call.From operation) :
    ∀ serverId ∈ identity.serverId?, operation.snapshotKey ≠ some ⟨workspaceId, serverId⟩ := by
  intro serverId inIdentity key
  have accepts : call.accepts = true := settled _ mem serverId inIdentity key
  cases call with
  | acceptRevision => exact made
  | _ => cases accepts

theorem deleted_step (operations : Operations) (move : Move Operation World)
    (deleted : operations.Deleted workspaceId identity)
    (heldBack : HeldBack workspaceId identity operations move) :
    (operations.step move).2.Deleted workspaceId identity := by
  obtain ⟨replicates, calls⟩ := heldBack
  refine ⟨inOrder_step operations move deleted.inOrder replicates, ?_, ?_⟩
  · have spares : operations.Makes (Spares workspaceId identity) move := by
      cases move with
      | start => trivial
      | advance =>
        rintro ⟨operation, rest⟩ found
        have mem := List.mem_of_getElem? found
        cases rest with
        | done => trivial
        | call =>
          rcases (deleted.inOrder _ mem).call_cases with
            ⟨snapshot, revision, rfl, unbegun⟩ | ⟨made, _⟩
          · cases unbegun
            trivial
          · exact spares_of_heldBack made (deleted.inOrder _ mem).replicates
              (snapshotKey_ne_of_settled deleted.settled mem made) (calls _ found)
    exact shared_step (fun shared => shared.Rid workspaceId identity)
      (fun call world => rid_machine call world deleted.rid) deleted.rid spares
  · apply forall_tasks_step deleted.settled
    · rintro operation rfl serverId _ key
      cases operation with
      | applyClusterSnapshot => rfl
      | _ => cases key
    · rintro _ _ _ β _ _ rfl task serverId inIdentity key
      have mem := List.mem_of_getElem? task
      rcases (deleted.inOrder _ mem).call_cases with
        ⟨snapshot, revision, rfl, unbegun⟩ | ⟨made, _⟩
      · -- The revision of a snapshot of the machine is refused.
        rw [code_applyClusterSnapshot] at unbegun
        cases unbegun
        cases key
        have old := calls _ task _ inIdentity rfl
        change (writeSnapshot snapshot (operations.shared.acceptRevision _ revision).1).Begins _
        rw [Shared.acceptRevision, if_pos old]
        trivial
      · exact absurd key (snapshotKey_ne_of_settled deleted.settled mem made serverId inIdentity)

theorem rid_of_deletion (fenced : shared.Fenced)
    (known : identity.agentId?.isSome = true →
      (shared.workspaces.get? workspaceId).isSome = true) (now : Int) :
    (shared.update workspaceId (.applyProjection identity.deletion) now).2.Rid workspaceId
      identity := by
  unfold Shared.update
  split
  · rename_i absent
    cases identity with
    | server =>
      intro workspace found
      cases absent.symm.trans found
    | agent =>
      rw [absent] at known
      cases known rfl
  · rename_i workspace found
    simp only [Update.run]
    have before := fenced _ (get?_eq_some_iff.mp found)
    cases identity with
    | server serverId =>
      intro next lookup
      rw [mem_def, get?_insert, if_pos rfl] at lookup
      cases lookup
      exact lacks_applyProjection_of_deleted before now serverId
    | agent agentId =>
      refine ⟨workspace.applyProjection now (.agentDeleted agentId), ?_,
        excludes_applyProjection_of_deleted now agentId⟩
      rw [get?_insert, if_pos rfl]
      rfl

theorem deleted_of_deletes {place : Nat} (replicating : operations.Replicating)
    (deletes : operations.Deletes workspaceId identity place) (world : World) :
    (operations.step (.advance place world)).2.Deleted workspaceId identity := by
  have inOrder := inOrder_step operations (.advance place world) replicating.inOrder trivial
  have deletesHere := deletes.next
  rw [any_eq_true] at deletesHere
  obtain ⟨⟨operation, rest⟩, found, next⟩ := deletesHere
  have mem := List.mem_of_getElem? found
  have before := replicating.inOrder _ mem
  cases rest with
  | done => cases next
  | call call =>
    cases call with
    | update changed change =>
      obtain ⟨sameWorkspace, deletesIt⟩ := Bool.and_eq_true_iff.mp next
      cases beq_iff_eq.mp sameWorkspace
      cases Update.eq_of_deletes deletesIt
      refine ⟨inOrder, ?_, ?_⟩
      · change (advance machine operations place world).shared.Rid _ _
        rw [advance_of_call found]
        exact rid_of_deletion replicating.fenced deletes.known world.now
      · apply forall_tasks_step deletes.settled fun _ start => by cases start
        rintro _ _ _ β _ _ same task _ _ key
        cases same
        cases task.symm.trans found
        -- The task that deletes is none of a snapshot.
        rcases before.call_cases with ⟨_, _, rfl, unbegun⟩ | ⟨made, _⟩
        · cases next.symm.trans (congrArg (deletesNext workspaceId identity) unbegun)
        cases operation with
        | applyClusterSnapshot => cases made
        | _ => cases key
    | _ => cases next

/-- Once the deletion of a machine or an agent is applied, it and its agents do not come back, if no
newer snapshot of the machine is applied afterwards and the agent is not renamed. -/
theorem deleted_identity_stays_away {shared : Shared} (fenced : shared.Fenced)
    (earlier later : List (Move Operation World)) (place : Nat) (world : World)
    (replicates : AllSteps step Replicates (init shared) earlier)
    (deletes : (exec step (init shared) earlier).Deletes workspaceId identity place)
    (heldBack : AllSteps step (HeldBack workspaceId identity)
      (exec step (init shared) (earlier ++ [.advance place world])) later) :
    ∀ first rest, later = first ++ rest →
      (exec step (init shared) (earlier ++ [.advance place world] ++ first)).shared.Lacks
        workspaceId identity := by
  rintro _ _ rfl
  have reached : (exec step (init shared) earlier).Replicating := by
    rw [← List.append_nil earlier] at replicates
    refine AllSteps.invariant ?_ (replicating_init fenced) replicates
    intro operations move replicating replicates
    exact ⟨fenced_step operations move replicating.fenced
      (respectful_of_inOrder replicating.inOrder move),
      inOrder_step operations move replicating.inOrder replicates⟩
  have deleted := deleted_of_deletes reached deletes world
  rw [exec_append _ _ (earlier ++ _)]
  rw [exec_append] at heldBack ⊢
  exact (AllSteps.invariant deleted_step deleted heldBack).rid.lacks

end Operations

namespace Sample

def snapshot : AgentServerSnapshot where
  server := server "srv_1"
  agents := [agent "ag_1" "srv_1"]

/-- The deletion overtakes a snapshot that was published before it. -/
def deletionFirst : List (Move Operation World) :=
  whole 0 (.applyWorkspaceUpsert "alpha" false) 1 ++
    whole 1 (.applyClusterProjection "alpha" (.serverDeleted "srv_1")) 4 ++
    whole 2 (.applyClusterSnapshot snapshot 1) 3

def snapshotFirst : List (Move Operation World) :=
  whole 0 (.applyClusterSnapshot snapshot 2) 3 ++
    [.start (.applyClusterProjection "alpha" (.serverDeleted "srv_1"))]

def oldSnapshotLater : List (Move Operation World) :=
  List.replicate 3 (.advance 1 world) ++ whole 2 (.applyClusterSnapshot snapshot 1) 3

end Sample

open Sample

instance (workspace : WorkspaceState) (identity : Identity) :
    Decidable (workspace.Lacks identity) := by
  unfold Lacks
  split <;> infer_instance

instance (shared : Shared) (workspaceId : String) (identity : Identity) :
    Decidable (shared.Lacks workspaceId identity) :=
  inferInstanceAs (Decidable (∀ workspace ∈ shared.workspaces.get? workspaceId, _))

/-- A snapshot from before the deletion that arrives after it takes the machine back. -/
theorem overtaken_snapshot_restores_server :
    (after (deletionFirst.take 7)).Lacks "alpha" (.server "srv_1") ∧
      ∃ workspace, (after deletionFirst).workspaces.get? "alpha" = some workspace ∧
        workspace.servers.rows.map (·.serverId) = ["srv_1"] ∧
        workspace.agents.rows.map (·.agentId) = ["ag_1"] ∧
        workspace.deletedServers = ∅ := by
  refine ⟨by decide +kernel, ?_⟩
  change ∃ workspace ∈ (after deletionFirst).workspaces.get? "alpha", _
  decide +kernel

theorem old_snapshot_restores_nothing :
    (after (snapshotFirst ++ [.advance 1 world] ++
      oldSnapshotLater)).Lacks "alpha" (.server "srv_1") :=
  Operations.deleted_identity_stays_away (by decide) snapshotFirst oldSnapshotLater 1
    world (by decide +kernel) ⟨by decide +kernel, by decide, by decide +kernel⟩
    (by decide +kernel) oldSnapshotLater [] (List.append_nil _).symm

end Treer.Proxy
