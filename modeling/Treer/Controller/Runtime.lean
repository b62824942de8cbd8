import Treer.Controller.Protocol
import Treer.Foundation.Program

/-!
# The state of a Controller and the calls on it

Every call of the startup store and every section that holds the lock of an agent is one
call. A request to the Host is one too: it is recorded, and the world gives the answer.
-/

namespace Treer.Controller

open Foundation Protocol Host Startup

structure AgentPrompt where
  (promptId text : String)
  createdAt : Int

/-- The cached state of an agent, without the status filter of its output. -/
structure ControllerAgent where
  streamEpoch : String
  info : AgentInfo
  (workloadCredential text : String)
  promptQueue : List AgentPrompt
  bracketedPaste : Bool

/-- The JSON text of the metadata. -/
structure MetadataCodec where
  toText : AgentMetadata → Except String String
  fromText : String → Except String AgentMetadata
  /-- What was written is read back. -/
  reads : ∀ metadata text, toText metadata = .ok text → fromText text = .ok metadata

/-- What the end of the text on a screen shows. -/
structure TailSignals where
  (blocked marker prompt : Bool)

/-- What does not change while a Controller runs. -/
structure Config (β : Type) where
  (workspaceId serverId hostEpoch : String)
  codec : Codec β
  metadata : MetadataCodec
  interactiveShell : String
  /-- The environment of an agent with a credential and a proxy port. -/
  environment : String → String → Nat → KeyedMap String String
  tailSignals : String → TailSignals

def Config.detectStatus {β : Type} (config : Config β) (text : String) : Option AgentStatus :=
  let signals := config.tailSignals text
  if signals.blocked then some .blocked
  else if signals.marker then some .working
  else if signals.prompt then some .idle
  else none

/-- What the world answers at one moment. -/
structure World where
  now : Int
  host : Except String HostResponse
  /-- Whether a path leads to a directory below the root, if it can be resolved. -/
  directory : Except String Bool
  command : Except ProtocolError String
  privateState : Except ProtocolError Unit
  proxyPort : Except ProtocolError Nat
  disk : DiskAnswers
  /-- The order in which a map is read. -/
  arrange : List StoredAgentStartup → List StoredAgentStartup
  arrange_perm : ∀ entries, (arrange entries).Perm entries

/-- The id of a Host operation: of an attempt to start a declared agent, or named after the command
that the Controller performs. -/
inductive OperationId where
  | startup (agentId : String) (generation : Nat)
  | named (text : String)

/-- A request to the Host. -/
structure Sent where
  command : HostCommand
  operationId : Option OperationId

structure Shared (β : Type) where
  startupStore : StartupStore β
  agents : KeyedMap String ControllerAgent
  /-- Every request to the Host so far. -/
  sent : List Sent

/-- The answer of the section that publishes a process. -/
inductive Published where
  /-- A newer run is already there. -/
  | superseded (info : AgentInfo)
  | stored (info : AgentInfo)

inductive Call : Type → Type where
  | world : Call World
  | request (command : HostCommand) (operationId : Option OperationId) :
      Call (Except String HostResponse)
  | get (agentId : String) : Call (Option StoredAgentStartup)
  | entries : Call (List StoredAgentStartup)
  | isDenied (agentId : String) : Call Bool
  | upsert (entry : StoredAgentStartup) : Call (Except ProtocolError Unit)
  | update (agentId : String) (mutate : StoredAgentStartup → StoredAgentStartup) :
      Call (Except ProtocolError Unit)
  | remove (agentId : String) : Call (Except ProtocolError Bool)
  | agent (agentId : String) : Call (Option ControllerAgent)
  | insert (agent : ControllerAgent) : Call Unit
  | publish (agent : ControllerAgent) (running : Bool) (httpProxyPort : Option Nat)
      (inventoryOnly : Bool) : Call (Except ProtocolError Published)
  | respond (process : HostProcessInfo) (status : Option AgentStatus) :
      Call (Except ProtocolError AgentInfo)
  | observe (process : HostProcessInfo) : Call Bool

variable {β : Type}

/-- The agent is of a newer run, or of one that started later. -/
def ControllerAgent.supersedes (current : ControllerAgent) (runGeneration : Nat)
    (startedAt : Int) : Bool :=
  runGeneration < current.info.runGeneration ||
    (current.info.pid.isSome && startedAt < current.info.startedAt)

/-- What the new state of an agent takes over from the old one. -/
def ControllerAgent.inherit (agent current : ControllerAgent) (inventoryOnly : Bool) :
    ControllerAgent :=
  if current.streamEpoch = agent.streamEpoch ∧
      current.info.runGeneration = agent.info.runGeneration then
    let agent :=
      -- Inventory describes process state, not a replacement of its output.
      if inventoryOnly || agent.info.outputRevision < current.info.outputRevision then
        { agent with
          text := current.text
          info.outputRevision := max agent.info.outputRevision current.info.outputRevision }
      else agent
    { agent with promptQueue := current.promptQueue }
  else agent

def identityDenied : ProtocolError :=
  ⟨"agent_identity_denied", "Agent identity was permanently denied", none⟩

def startupStoreError (error : IoError) : ProtocolError :=
  ⟨"startup_store_error", error.message, none⟩

namespace Shared

variable (shared : Shared β)

def putAgent (agentId : String) (agent : ControllerAgent) : Shared β :=
  { shared with agents := shared.agents.insert agentId agent }

/-- The last section of `upsert_process`, under the lock of the registry. -/
def publish (world : World) (agent : ControllerAgent) (running : Bool)
    (httpProxyPort : Option Nat) (inventoryOnly : Bool) :
    Except ProtocolError Published × Shared β :=
  let agentId := agent.info.agentId
  if shared.startupStore.isDenied agentId then (.error identityDenied, shared)
  else
    match if running && httpProxyPort.isSome then world.proxyPort else .ok 0 with
    | .error error => (.error error, shared)
    | .ok _ =>
      match shared.agents.get? agentId with
      | some current =>
        if current.supersedes agent.info.runGeneration agent.info.startedAt then
          (.ok (.superseded current.info), shared)
        else
          let agent := agent.inherit current inventoryOnly
          (.ok (.stored agent.info), shared.putAgent agentId agent)
      | none => (.ok (.stored agent.info), shared.putAgent agentId agent)

/-- The section of `process_response`. -/
def respond (world : World) (process : HostProcessInfo)
    (status : Option AgentStatus) : Except ProtocolError AgentInfo × Shared β :=
  match shared.agents.get? process.processId with
  | none => (.error ⟨"agent_not_found", process.processId, none⟩, shared)
  | some agent =>
    let changed := status.isSome || agent.info.exitedAt != process.exitedAt ||
      agent.info.exitCode != process.exitCode
    let info :=
      { agent.info with
        status := status.getD agent.info.status
        exitedAt := process.exitedAt
        exitCode := process.exitCode
        updatedAt := if changed then world.now else agent.info.updatedAt }
    (.ok info, shared.putAgent process.processId { agent with info })

/-- The last section of `apply_process`; the answer is whether there is an agent. -/
def observe (world : World) (process : HostProcessInfo) : Bool × Shared β :=
  match shared.agents.get? process.processId with
  | none => (false, shared)
  | some agent =>
    let info :=
      { agent.info with
        pid := process.pid
        exitedAt := process.exitedAt
        exitCode := process.exitCode
        status := if process.running then agent.info.status else .exited
        updatedAt := world.now }
    (true, shared.putAgent process.processId { agent with info })

/-- The result of an operation of the store. -/
def withStore {α : Type} (shared : Shared β) (result : Except IoError α × StartupStore β) :
    Except ProtocolError α × Shared β :=
  (result.1.mapError startupStoreError, { shared with startupStore := result.2 })

end Shared

/-- The meaning of the calls. -/
def machine (config : Config β) : Machine Call (Shared β) World
  | _, .world, world, shared => (world, shared)
  | _, .request command operationId, world, shared =>
    (world.host, { shared with sent := shared.sent ++ [⟨command, operationId⟩] })
  | _, .get agentId, _, shared => (shared.startupStore.get agentId, shared)
  | _, .entries, world, shared => (world.arrange shared.startupStore.state.entries.rows, shared)
  | _, .isDenied agentId, _, shared => (shared.startupStore.isDenied agentId, shared)
  | _, .upsert entry, world, shared =>
    shared.withStore (shared.startupStore.upsert config.codec entry world.disk)
  | _, .update agentId mutate, world, shared =>
    shared.withStore (shared.startupStore.update config.codec agentId mutate world.disk)
  | _, .remove agentId, world, shared =>
    shared.withStore (shared.startupStore.remove config.codec agentId world.disk)
  | _, .agent agentId, _, shared => (shared.agents.get? agentId, shared)
  | _, .insert agent, _, shared => ((), shared.putAgent agent.info.agentId agent)
  | _, .publish agent running httpProxyPort inventoryOnly, world, shared =>
    shared.publish world agent running httpProxyPort inventoryOnly
  | _, .respond process status, world, shared => shared.respond world process status
  | _, .observe process, world, shared => shared.observe world process

end Treer.Controller
