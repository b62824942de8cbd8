import Treer.Proxy.Workspace

/-!
# Control changes on every Proxy

An operator renames or deletes a machine or an agent on one Proxy, which broadcasts the
change; the other Proxies apply the broadcast. `Control` is what such a change is about: the
machines and agents of a workspace, the names given to them, and the deleted ids, as sets and
functions. The operation and the broadcast are two functions on it.
-/

namespace Treer.Proxy

open Foundation Protocol KeyedMap List Table WorkspaceState
open Function (update update_eq_self update_self update_idem update_apply)
open Controller (AgentInfo)

/-- A workspace without its revision and the order of its tables; agents are without the time
of their last update. -/
structure Control where
  servers : String → Option ServerInfo
  agents : String → Option AgentInfo
  (serverNames agentNames : String → Option String)
  (deletedServers deletedAgents : Set String)

def timeless (agent : AgentInfo) : AgentInfo :=
  { agent with updatedAt := 0 }

def WorkspaceState.control (workspace : WorkspaceState) : Control where
  servers := workspace.servers.find?
  agents agentId := (workspace.agents.find? agentId).map timeless
  serverNames := workspace.serverNames.get?
  agentNames := workspace.agentNames.get?
  deletedServers := workspace.deletedServers
  deletedAgents := workspace.deletedAgents

namespace Control

variable {ν : Type} {id : String} {values : String → Option ν} {assign : ν → ν}

theorem ext_iff {first second : Control} :
    first = second ↔ first.servers = second.servers ∧ first.agents = second.agents ∧
      first.serverNames = second.serverNames ∧ first.agentNames = second.agentNames ∧
      first.deletedServers = second.deletedServers ∧
      first.deletedAgents = second.deletedAgents := by
  cases first
  cases second
  simp

variable (control : Control)

/-- The agent is on the machine. -/
def hosts (serverId agentId : String) : Prop :=
  ∃ agent, control.agents agentId = some agent ∧ agent.serverId = serverId

/-- A value under an id is changed, if there is one. -/
def change {ν : Type} (values : String → Option ν) (id : String) (assign : ν → ν) :
    String → Option ν :=
  update values id ((values id).map assign)

theorem change_of_none
    (absent : values id = none) (assign : ν → ν) : change values id assign = values := by
  rw [change, absent, Option.map_none, ← absent, update_eq_self]

theorem change_of_eq {value : ν} (found : values id = some value) (same : assign value = value) :
    change values id assign = values := by
  rw [change, found, Option.map_some, same, ← found, update_eq_self]

theorem change_change (values : String → Option ν) (id : String)
    (idempotent : ∀ value, assign (assign value) = assign value) :
    change (change values id assign) id assign = change values id assign := by
  rw [change, change, update_self, update_idem, Option.map_map]
  congr 2
  funext value
  exact idempotent value

def nameServer (name : String) (server : ServerInfo) : ServerInfo :=
  { server with name }

def nameAgent (name : String) (agent : AgentInfo) : AgentInfo :=
  { agent with name }

def renameServer (serverId name : String) : Control :=
  { control with
    servers := change control.servers serverId (nameServer name)
    serverNames := update control.serverNames serverId (some name) }

def renameAgent (agentId name : String) : Control :=
  { control with
    agents := change control.agents agentId (nameAgent name)
    agentNames := update control.agentNames agentId (some name) }

def deleteAgent (agentId : String) : Control :=
  { control with
    agents := update control.agents agentId none
    agentNames := update control.agentNames agentId none
    deletedAgents := insert agentId control.deletedAgents }

def deleteServer (serverId : String) : Control :=
  { control with
    servers := update control.servers serverId none
    serverNames := update control.serverNames serverId none
    deletedServers := insert serverId control.deletedServers }

def withoutAgentsOf (serverId : String) : Control :=
  { control with
    agents := fun agentId => (control.agents agentId).filter (·.serverId != serverId) }

open Classical in
/-- What a broadcast does to the state of a Proxy. A deletion that is known already leaves
the agents alone. -/
noncomputable def project (control : Control) : Projection → Control
  | .serverRenamed serverId name =>
    { control.renameServer serverId name with
      deletedServers := control.deletedServers \ {serverId} }
  | .agentRenamed agentId name =>
    { control.renameAgent agentId name with
      deletedAgents := control.deletedAgents \ {agentId} }
  | .agentDeleted agentId => control.deleteAgent agentId
  | .serverDeleted serverId =>
    if control.servers serverId = none ∧ serverId ∈ control.deletedServers then
      control.deleteServer serverId
    else (control.deleteServer serverId).withoutAgentsOf serverId

end Control

open Control (nameServer nameAgent ext_iff change_of_none change_of_eq project)

/-- The operations whose effect is broadcast. -/
inductive ControlChange where
  | renameServer (serverId name : String)
  | renameAgent (agentId name : String)
  | deleteAgent (agentId : String)
  | deleteServer (serverId : String)

namespace ControlChange

def run (change : ControlChange) (workspace : WorkspaceState) (now : Int) :
    Except ProtocolError WorkspaceState :=
  match change with
  | .renameServer serverId name => workspace.renameServer serverId name
  | .renameAgent agentId name => workspace.renameAgent agentId name now
  | .deleteAgent agentId => workspace.deleteAgent agentId
  | .deleteServer serverId => workspace.deleteServer serverId

/-- What the operation broadcasts. -/
def projection : ControlChange → Projection
  | .renameServer serverId name => .serverRenamed serverId name
  | .renameAgent agentId name => .agentRenamed agentId name
  | .deleteAgent agentId => .agentDeleted agentId
  | .deleteServer serverId => .serverDeleted serverId

open Classical in
/-- What the operation does on its own Proxy. The deletion of a machine also deletes its
agents. -/
noncomputable def meaning (change : ControlChange) (control : Control) : Control :=
  match change with
  | .renameServer serverId name => control.renameServer serverId name
  | .renameAgent agentId name => control.renameAgent agentId name
  | .deleteAgent agentId => control.deleteAgent agentId
  | .deleteServer serverId =>
    { (control.deleteServer serverId).withoutAgentsOf serverId with
      agentNames := fun agentId =>
        if control.hosts serverId agentId then none else control.agentNames agentId
      deletedAgents := control.deletedAgents ∪ { agentId | control.hosts serverId agentId } }

end ControlChange

open ControlChange
variable {change : ControlChange}

namespace WorkspaceState

/-! ## The model has these meanings -/

section
variable (workspace : WorkspaceState)

@[simp]
theorem control_bump : workspace.bump.control = workspace.control :=
  rfl

theorem servers_withServerName (serverId name : String) :
    (workspace.withServerName serverId name).control.servers =
      Control.change workspace.control.servers serverId (nameServer name) :=
  workspace.servers.find?_update_key serverId (nameServer name) fun _ => rfl

theorem agents_withAgentName (agentId name : String) (now : Int) :
    (workspace.withAgentName agentId name now).control.agents =
      Control.change workspace.control.agents agentId (nameAgent name) := by
  funext other
  change ((workspace.withAgentName agentId name now).agents.find? other).map timeless =
    update workspace.control.agents agentId _ other
  rw [withAgentName, find?_update_key, update_apply, update_apply]
  split
  · change ((workspace.agents.find? agentId).map _).map timeless =
      ((workspace.agents.find? agentId).map timeless).map (nameAgent name)
    rw [Option.map_map, Option.map_map]
    rfl
  · rfl

theorem control_removeAgent (agentId : String) :
    (workspace.removeAgent agentId).control = workspace.control.deleteAgent agentId := by
  rw [ext_iff]
  refine ⟨rfl, ?_, rfl, get?_erase_eq .., rfl, Finset.coe_insert ..⟩
  funext other
  change ((workspace.agents.delete (·.agentId == agentId)).find? other).map timeless =
    update workspace.control.agents agentId none other
  rw [find?_delete_key, update_apply, update_apply]
  split <;> rfl

theorem control_removeServer (serverId : String) :
    (workspace.removeServer serverId).control = workspace.control.deleteServer serverId := by
  rw [ext_iff]
  exact ⟨find?_delete_key .., rfl, get?_erase_eq .., rfl, Finset.coe_insert .., rfl⟩

theorem control_withoutAgentsOf (serverId : String) : (workspace.withoutAgentsOf serverId).control =
      workspace.control.withoutAgentsOf serverId := by
  rw [ext_iff]
  refine ⟨rfl, ?_, rfl, rfl, rfl, rfl⟩
  funext other
  change ((workspace.agents.delete (·.serverId == serverId)).find? other).map timeless =
    ((workspace.agents.find? other).map timeless).filter _
  rw [find?_delete]
  cases workspace.agents.find? other with
  | none => rfl
  | some agent => by_cases same : agent.serverId = serverId <;> simp [same, Option.filter, timeless]

end

theorem control_renameKnownServer (workspace : WorkspaceState) (serverId name : String) :
    (workspace.renameKnownServer serverId name).control =
      { workspace.control with
        servers := Control.change workspace.control.servers serverId (nameServer name) } := by
  rw [ext_iff, renameKnownServer]
  cases found : workspace.servers.find? serverId with
  | none => exact ⟨(change_of_none found _).symm, rfl, rfl, rfl, rfl, rfl⟩
  | some server =>
    dsimp only
    split
    case isTrue same =>
      have kept : nameServer name server = server := by rw [← same]; rfl
      exact ⟨(change_of_eq found kept).symm, rfl, rfl, rfl, rfl, rfl⟩
    case isFalse => exact ⟨workspace.servers_withServerName serverId name, rfl, rfl, rfl, rfl, rfl⟩

theorem control_renameKnownAgent (workspace : WorkspaceState) (agentId name : String) (now : Int) :
    (workspace.renameKnownAgent agentId name now).control =
      { workspace.control with
        agents := Control.change workspace.control.agents agentId (nameAgent name) } := by
  rw [ext_iff, renameKnownAgent]
  cases found : workspace.agents.find? agentId with
  | none =>
    have absent : workspace.control.agents agentId = none := congrArg (Option.map timeless) found
    exact ⟨rfl, (change_of_none absent _).symm, rfl, rfl, rfl, rfl⟩
  | some agent =>
    have present : workspace.control.agents agentId = some (timeless agent) :=
      congrArg (Option.map timeless) found
    dsimp only
    split
    case isTrue same =>
      have kept : nameAgent name (timeless agent) = timeless agent := by
        rw [← same]
        rfl
      exact ⟨rfl, (change_of_eq present kept).symm, rfl, rfl, rfl, rfl⟩
    case isFalse => exact ⟨rfl, workspace.agents_withAgentName agentId name now, rfl, rfl, rfl, rfl⟩

theorem control_applyProjection (workspace : WorkspaceState) (now : Int) (projection : Projection) :
    (workspace.applyProjection now projection).control = workspace.control.project projection := by
  cases projection with
  | serverRenamed =>
    rw [applyProjection, control_renameKnownServer, ext_iff]
    exact ⟨rfl, rfl, get?_insert_eq .., rfl, Finset.coe_erase .., rfl⟩
  | agentRenamed =>
    rw [applyProjection, control_renameKnownAgent, ext_iff]
    exact ⟨rfl, rfl, rfl, get?_insert_eq .., rfl, Finset.coe_erase ..⟩
  | agentDeleted agentId =>
    unfold applyProjection
    dsimp only
    split <;> exact workspace.control_removeAgent agentId
  | serverDeleted serverId =>
    unfold applyProjection project
    dsimp only
    have unchanged_iff : ((workspace.servers.find? serverId).isNone &&
        decide (serverId ∈ workspace.deletedServers)) = true ↔
        workspace.control.servers serverId = none ∧
          serverId ∈ workspace.control.deletedServers := by
      rw [Bool.and_eq_true, Option.isNone_iff_eq_none, decide_eq_true_eq]
      exact Iff.rfl
    by_cases known : workspace.control.servers serverId = none ∧
        serverId ∈ workspace.control.deletedServers
    · rw [if_pos known, if_pos (unchanged_iff.mpr known)]
      exact workspace.control_removeServer serverId
    · rw [if_neg known, if_neg (unchanged_iff.not.mpr known), control_bump,
        control_withoutAgentsOf, control_removeServer]

theorem foldl_erase_get? (names : KeyedMap String String) (ids : List String) (wanted : String) :
    (ids.foldl (fun names id => names.erase id) names).get? wanted =
      if wanted ∈ ids then none else names.get? wanted := by
  induction ids generalizing names with
  | nil => rfl
  | cons id rest ih =>
    rw [foldl_cons, ih, get?_erase]
    by_cases same : wanted = id <;> simp [same]

theorem mem_hosted_iff (workspace : WorkspaceState) (serverId agentId : String) :
    agentId ∈ (workspace.agents.rows.filter (·.serverId == serverId)).map (·.agentId) ↔
      workspace.control.hosts serverId agentId := by
  rw [mem_map]
  constructor
  · rintro ⟨agent, mem, rfl⟩
    obtain ⟨inTable, onServer⟩ := mem_filter.mp mem
    refine ⟨timeless agent, ?_, beq_iff_eq.mp onServer⟩
    exact congrArg (Option.map timeless) (find?_eq_some_iff.mpr ⟨inTable, rfl⟩)
  · rintro ⟨_, found, onServer⟩
    obtain ⟨agent, inTable, rfl⟩ := Option.map_eq_some_iff.mp found
    obtain ⟨mem, rfl⟩ := find?_eq_some_iff.mp inTable
    exact ⟨agent, mem_filter.mpr ⟨mem, beq_iff_eq.mpr onServer⟩, rfl⟩

open Classical in
/-- A change that succeeds does what it means. -/
theorem control_run {workspace after : WorkspaceState} {now : Int}
    (succeeded : change.run workspace now = .ok after) :
    after.control = change.meaning workspace.control := by
  cases change with
  | renameServer serverId name =>
    simp only [run, renameServer] at succeeded
    split at succeeded
    · cases succeeded
    cases succeeded
    rw [ext_iff]
    exact ⟨workspace.servers_withServerName serverId name, rfl, get?_insert_eq .., rfl, rfl, rfl⟩
  | renameAgent agentId name =>
    simp only [run, renameAgent] at succeeded
    split at succeeded
    · cases succeeded
    cases succeeded
    rw [ext_iff]
    exact ⟨rfl, workspace.agents_withAgentName agentId name now, rfl, get?_insert_eq .., rfl, rfl⟩
  | deleteAgent agentId =>
    simp only [run, deleteAgent] at succeeded
    split at succeeded
    · cases succeeded
    · cases succeeded
      exact workspace.control_removeAgent agentId
  | deleteServer serverId =>
    simp only [run, deleteServer] at succeeded
    split at succeeded
    · cases succeeded
    cases succeeded
    have removed : ((workspace.removeServer serverId).withoutAgentsOf serverId).control =
        (workspace.control.deleteServer serverId).withoutAgentsOf serverId := by
      rw [control_withoutAgentsOf, control_removeServer]
    obtain ⟨servers, agents, serverNames, _, deletedServers, _⟩ := ext_iff.mp removed
    rw [ext_iff]
    refine ⟨servers, agents, serverNames, ?_, deletedServers, ?_⟩
    · funext agentId
      refine (foldl_erase_get? workspace.agentNames _ agentId).trans ?_
      exact if_congr (workspace.mem_hosted_iff serverId agentId) rfl rfl
    · ext agentId
      change agentId ∈ ((workspace.deletedAgents ∪ toFinset _ : Finset String) : Set _) ↔ _
      rw [Finset.mem_coe, Finset.mem_union, mem_toFinset, mem_hosted_iff]
      rfl

end WorkspaceState

namespace Control

theorem deleteServer_eq_self {control : Control} {serverId : String}
    (absent : control.servers serverId = none) (nameless : control.serverNames serverId = none)
    (deleted : serverId ∈ control.deletedServers) : control.deleteServer serverId = control := by
  rw [ext_iff]
  refine ⟨?_, rfl, ?_, rfl, Set.insert_eq_of_mem deleted, rfl⟩
  · exact (congrArg (update control.servers serverId) absent.symm).trans (update_eq_self ..)
  · exact (congrArg (update control.serverNames serverId) nameless.symm).trans (update_eq_self ..)

/-- A broadcast that is applied twice. -/
theorem project_project (control : Control) (projection : Projection) :
    (control.project projection).project projection = control.project projection := by
  cases projection with
  | serverRenamed serverId =>
    rw [ext_iff]
    exact ⟨change_change control.servers serverId fun _ => rfl, rfl, update_idem ..,
      rfl, sdiff_idem, rfl⟩
  | agentRenamed agentId =>
    rw [ext_iff]
    exact ⟨rfl, change_change control.agents agentId fun _ => rfl, rfl,
      update_idem .., rfl, sdiff_idem⟩
  | agentDeleted =>
    rw [ext_iff]
    exact ⟨rfl, update_idem .., rfl, update_idem .., rfl, Set.insert_eq_of_mem (Set.mem_insert ..)⟩
  | serverDeleted serverId =>
    have gone : ∀ next : Control, next.servers = (control.deleteServer serverId).servers →
        next.serverNames = (control.deleteServer serverId).serverNames →
        next.deletedServers = (control.deleteServer serverId).deletedServers →
        next.project (.serverDeleted serverId) = next := by
      intro next servers serverNames deletedServers
      have absent : next.servers serverId = none := by
        rw [servers]
        exact update_self ..
      have nameless : next.serverNames serverId = none := by
        rw [serverNames]
        exact update_self ..
      have deleted : serverId ∈ next.deletedServers := by
        rw [deletedServers]
        exact Set.mem_insert ..
      rw [project, if_pos ⟨absent, deleted⟩, deleteServer_eq_self absent nameless deleted]
    rw [project.eq_def control]
    dsimp only
    split
    · exact gone _ rfl rfl rfl
    · exact gone _ rfl rfl rfl

end Control

namespace ControlChange

/-- The deleted ids do not have what is renamed; a machine that is deleted has no agents but
those that are deleted and nameless already. -/
def Agrees (change : ControlChange) (control : Control) : Prop :=
  match change with
  | .renameServer serverId _ => serverId ∉ control.deletedServers
  | .renameAgent agentId _ => agentId ∉ control.deletedAgents
  | .deleteAgent _ => True
  | .deleteServer serverId => ∀ agentId, control.hosts serverId agentId →
      agentId ∈ control.deletedAgents ∧ control.agentNames agentId = none

open Classical in
theorem meaning_eq_project_iff {control : Control}
    (known : ∀ serverId, change = .deleteServer serverId → control.servers serverId ≠ none) :
    change.meaning control = control.project change.projection ↔ change.Agrees control := by
  have kept_iff : ∀ (deleted : Set String) (id : String),
      deleted = deleted \ {id} ↔ id ∉ deleted := by
    intro deleted id
    rw [eq_comm, sdiff_eq_left, Set.disjoint_singleton_right]
  rw [ext_iff]
  cases change with
  | renameServer serverId =>
    refine Iff.trans ?_ (kept_iff control.deletedServers serverId)
    exact ⟨fun same => same.2.2.2.2.1, fun same => ⟨rfl, rfl, rfl, rfl, same, rfl⟩⟩
  | renameAgent agentId =>
    refine Iff.trans ?_ (kept_iff control.deletedAgents agentId)
    exact ⟨fun same => same.2.2.2.2.2, fun same => ⟨rfl, rfl, rfl, rfl, rfl, same⟩⟩
  | deleteAgent => exact iff_of_true ⟨rfl, rfl, rfl, rfl, rfl, rfl⟩ trivial
  | deleteServer serverId =>
    have unknown : ¬ (control.servers serverId = none ∧ serverId ∈ control.deletedServers) :=
      fun gone => known serverId rfl gone.1
    rw [projection, project, if_neg unknown]
    constructor
    · rintro ⟨_, _, _, names, _, deleted⟩ agentId hosted
      constructor
      · change control.deletedAgents ∪ _ = control.deletedAgents at deleted
        rw [← deleted]
        exact .inr hosted
      · have name := congrFun names agentId
        change (if control.hosts serverId agentId then none else control.agentNames agentId) =
          control.agentNames agentId at name
        rw [if_pos hosted] at name
        exact name.symm
    · intro agrees
      refine ⟨rfl, rfl, rfl, ?_, rfl, ?_⟩
      · funext agentId
        change (if control.hosts serverId agentId then none else control.agentNames agentId) =
          control.agentNames agentId
        split
        case isTrue hosted => exact (agrees agentId hosted).2.symm
        case isFalse => rfl
      · exact Set.union_eq_self_of_subset_right fun agentId hosted => (agrees agentId hosted).1

/-- The operation on one Proxy and its broadcast on another, from the same state, end in the same
state, and the broadcast changes nothing the second time, exactly when nothing renamed is among the
deleted ids and a deleted machine leaves no agent to delete. -/
theorem control_change_means_the_same {change : ControlChange} {workspace after : WorkspaceState}
    {now : Int} (succeeded : change.run workspace now = .ok after) (there again : Int) :
    (after.control = (workspace.applyProjection there change.projection).control ∧
      (after.applyProjection again change.projection).control = after.control ∧
      ((workspace.applyProjection there change.projection).applyProjection again
        change.projection).control = (workspace.applyProjection there change.projection).control) ↔
      change.Agrees workspace.control := by
  have known : ∀ serverId, change = .deleteServer serverId →
      workspace.control.servers serverId ≠ none := by
    rintro serverId rfl absent
    change workspace.servers.find? serverId = none at absent
    simp [run, WorkspaceState.deleteServer, absent] at succeeded
  rw [← meaning_eq_project_iff known]
  simp only [WorkspaceState.control_applyProjection, WorkspaceState.control_run succeeded]
  constructor
  · exact fun same => same.1
  intro same
  refine ⟨same, ?_, Control.project_project ..⟩
  rw [same, Control.project_project]

end ControlChange

namespace Sample

def server (serverId : String) : ServerInfo where
  serverId
  workspaceId := "alpha"
  name := serverId
  status := .online
  connectedAt := 0
  lastSeenAt := 0
  capabilities := []

def agent (agentId serverId : String) : AgentInfo where
  agentId
  runGeneration := 1
  workspaceId := "alpha"
  serverId
  kind := "shell"
  name := agentId
  cwd := "/"
  status := .idle
  pid := none
  startedAt := 0
  updatedAt := 0
  exitedAt := none
  exitCode := none
  outputRevision := 0

/-- One machine with one agent. -/
def inhabited : WorkspaceState :=
  { WorkspaceState.empty with
    servers := Table.empty.put (server "srv_1")
    agents := Table.empty.put (agent "ag_1" "srv_1") }

end Sample

open Sample

/-- The Proxy that deletes a machine keeps the ids of its agents as deleted; those that receive the
broadcast do not. -/
theorem remote_deletion_forgets_agents :
    ∃ after, (deleteServer "srv_1").run inhabited 1 = .ok after ∧
      "ag_1" ∈ after.deletedAgents ∧
      "ag_1" ∉ (inhabited.applyProjection 1 (.serverDeleted "srv_1")).deletedAgents ∧
      after.control ≠ (inhabited.applyProjection 1 (.serverDeleted "srv_1")).control := by
  refine ⟨_, rfl, by decide +kernel, by decide +kernel, ?_⟩
  intro same
  have deleted := congrArg Control.deletedAgents same
  have mem : "ag_1" ∈ (inhabited.applyProjection 1 (.serverDeleted "srv_1")).deletedAgents := by
    have inControl : "ag_1" ∈
        (inhabited.applyProjection 1 (.serverDeleted "srv_1")).control.deletedAgents := by
      rw [← deleted]
      exact Finset.mem_coe.mpr (by decide +kernel)
    exact Finset.mem_coe.mp inControl
  exact absurd mem (by decide +kernel)

theorem renamed_agent_is_the_same_everywhere :
    ∃ after, (renameAgent "ag_1" "helper").run inhabited 1 = .ok after ∧
      after.control = (inhabited.applyProjection 2 (.agentRenamed "ag_1" "helper")).control := by
  refine ⟨_, rfl, ?_⟩
  exact ((control_change_means_the_same
    (show (renameAgent "ag_1" "helper").run inhabited 1 = .ok _ from rfl)
    2 3).mpr (by
      change "ag_1" ∉ (inhabited.deletedAgents : Set String)
      decide)).1

end Treer.Proxy
