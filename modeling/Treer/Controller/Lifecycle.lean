import Treer.Controller.Runtime

/-!
# Lifecycle operations of the Controller

The operations that declare, start and stop agents, and the handler of the Host's process
events, as programs over the calls of `Runtime`. Each call is one line of the source that
takes a lock or waits for the Host; what stands between two calls is computed from their
answers.
-/

namespace Treer.Controller

open Foundation Protocol Host Startup
open Foundation.Procedure (call attempt settle)

abbrev Procedure := Foundation.Procedure Call ProtocolError

variable {β : Type} (config : Config β)

def generationLimit : Nat := 2 ^ 64

/-- `u64::saturating_add(1)`. -/
def nextGeneration (generation : Nat) : Nat :=
  if generation + 1 < generationLimit then generation + 1 else generation

variable (entry : StoredAgentStartup)

/-- The entry for the next attempt. -/
def nextAttempt : StoredAgentStartup :=
  { entry with spec.generation := nextGeneration entry.spec.generation }

/-- The entry of an agent that must not start by itself. -/
def disabled : StoredAgentStartup :=
  { entry with spec.enabled := false }

/-! ## Parts of the operations -/

variable (agentId : String)

def requireNotDenied : Procedure Unit := do
  let denied ← call (.isDenied agentId)
  settle (refuse denied identityDenied)

def resolveMachineDirectory (requested : String) : Procedure Unit := do
  let requested := if Text.trim requested == "" then "." else requested
  let world ← call .world
  settle (do
    refuse (Text.startsWith requested "/")
      ⟨"invalid_machine_path", "directory must be relative to the machine root", none⟩
    let inside ← world.directory.mapError fun error =>
      ⟨"invalid_machine_path", "directory is unavailable: " ++ error, none⟩
    refuse (!inside)
      ⟨"invalid_machine_path",
        "directory resolves outside the machine root or is not a directory", none⟩)

/-- A request to the Host, with the code its failures get. -/
def hostRequest (command : HostCommand) (operationId : Option OperationId)
    (failure : String → ProtocolError) : Procedure HostResponse := do
  let answer ← call (.request command operationId)
  settle (answer.mapError failure)

def hostError (text : String) : ProtocolError :=
  ⟨"host_error", text, none⟩

/-- The processes in the inventory of the Host. -/
def syncProcesses : Procedure (List HostProcessInfo) := do
  let response ← hostRequest (.sync Table.empty) none hostError
  return match response with
    | .synced _ _ processes _ => processes
    | _ => []

def processResponse (response : HostResponse) (status : Option AgentStatus) : Procedure AgentInfo :=
  match response with
  | .process process => attempt (.respond process status)
  | _ => throw ⟨"host_protocol_error", "operation returned an unexpected response", none⟩

/-- The exit code of a finished process has disabled its declaration. -/
def disableCompleted (info : AgentInfo) : Procedure Unit := do
  let entry ← call (.get info.agentId)
  match entry with
  | some entry =>
    if entry.spec.generation ≤ info.runGeneration then attempt (.upsert (disabled entry))
    else return ()
  | none => return ()

/-- In milliseconds. -/
def quietIdleAfter : Int := 4500

variable (process : HostProcessInfo)

/-- The record of a process, as `upsert_process` builds it. -/
def agentOfProcess (metadata : AgentMetadata)
    (restoredText : Option String) (now : Int) : ControllerAgent :=
  let text := restoredText.getD ""
  let status :=
    if process.running then
      (config.detectStatus text).getD
        (if quietIdleAfter ≤ now - process.lastOutputAt then .idle else .working)
    else .exited
  { streamEpoch := process.streamEpoch
    info :=
      { agentId := metadata.agentId
        runGeneration := metadata.runGeneration
        workspaceId := metadata.workspaceId
        serverId := metadata.serverId
        kind := metadata.kind
        name := metadata.name
        cwd := process.cwd
        status
        pid := process.pid
        startedAt := process.startedAt
        updatedAt := now
        exitedAt := process.exitedAt
        exitCode := process.exitCode
        outputRevision := process.nextRevision - 1 }
    workloadCredential := metadata.workloadCredential
    text
    promptQueue := []
    bracketedPaste := process.bracketedPaste }

/-- The second half of `upsert_process`, for a process that is not older than the record. -/
def publishProcess (metadata : AgentMetadata)
    (restoredText : Option String) : Procedure AgentInfo := do
  settle (refuse
    (metadata.workspaceId != config.workspaceId || metadata.serverId != config.serverId)
    ⟨"host_identity_mismatch", "host process metadata belongs to another controller", none⟩)
  let world ← call .world
  let published ← attempt (.publish
    (agentOfProcess config process metadata restoredText world.now) process.running
    metadata.httpProxyPort restoredText.isNone)
  match published with
  | .superseded info => return info
  | .stored info =>
    if !process.running && process.exitCode == some 0 && info.kind != "app" then do
      disableCompleted info
      return info
    else return info

def upsertProcess (restoredText : Option String) : Procedure AgentInfo := do
  requireNotDenied process.processId
  let metadata ← settle ((config.metadata.fromText process.metadata).mapError fun error =>
    ⟨"invalid_host_metadata", error, none⟩)
  let current ← call (.agent process.processId)
  match current.filter (·.supersedes metadata.runGeneration process.startedAt) with
  | some current => return current.info
  | none => publishProcess config process metadata restoredText

def metadataOf (proxyPort : Nat) : AgentMetadata where
  agentId := entry.spec.agentId
  runGeneration := entry.spec.generation
  workspaceId := config.workspaceId
  serverId := config.serverId
  kind := entry.spec.kind
  name := entry.spec.name
  cwd := entry.spec.cwd
  workloadCredential := entry.workloadCredential
  httpProxyPort := some proxyPort

/-- The text of an operation id. -/
def OperationId.text (hostEpoch : String) : OperationId → String
  | .startup agentId generation =>
    "startup:" ++ hostEpoch ++ ":" ++ agentId ++ ":" ++ toString generation
  | .named text => text

/-- The request that starts an entry, if the machine can start it. -/
def spawnRequest (world : World) : Except ProtocolError HostSpawnRequest := do
  let command ← world.command
  world.privateState
  let proxyPort ← world.proxyPort
  let metadata ← (config.metadata.toText (metadataOf config entry proxyPort)).mapError
    fun error => ⟨"metadata_error", error, none⟩
  return {
    processId := entry.spec.agentId
    command
    args := entry.spec.args
    cwd := entry.spec.cwd
    env := config.environment entry.spec.agentId entry.workloadCredential proxyPort
    cols := entry.cols
    rows := entry.rows
    metadata }

/-- Start the process of an entry. -/
def spawnStartup : Procedure AgentInfo := do
  settle (refuse (!entry.spec.publishPorts.isEmpty)
    ⟨"startup_migration_required",
      "legacy namespace port publications cannot be restored; update the startup command and " ++
        "register an explicit machine service",
      none⟩)
  let world ← call .world
  let request ← settle (spawnRequest config entry world)
  let operationId := OperationId.startup entry.spec.agentId entry.spec.generation
  let response ← hostRequest (.spawn request) (some operationId) hostError
  match response with
  | .process process => do
    let info ← upsertProcess config process none
    if entry.initialWrites.isEmpty then return info
    else do
      let _ ← hostRequest (.write entry.spec.agentId entry.initialWrites)
        (some (.named (operationId.text config.hostEpoch ++ ":launch"))) hostError
      return info
  | _ => throw ⟨"host_protocol_error", "startup spawn returned an unexpected response", none⟩

def materializeStartup : Procedure AgentInfo := do
  let current ← call (.agent entry.spec.agentId)
  match current with
  | some agent => return agent.info
  | none => do
    let world ← call .world
    let info : AgentInfo :=
      { agentId := entry.spec.agentId
        runGeneration := entry.spec.generation
        workspaceId := entry.workspaceId
        serverId := entry.spec.serverId
        kind := entry.spec.kind
        name := entry.spec.name
        cwd := entry.spec.cwd
        status := .exited
        pid := none
        startedAt := world.now
        updatedAt := world.now
        exitedAt := none
        exitCode := none
        outputRevision := 0 }
    call (.insert
      { streamEpoch := ""
        info
        workloadCredential := entry.workloadCredential
        text := ""
        promptQueue := []
        bracketedPaste := false })
    return info

/-- Adopt the running processes of the agent, and stop them for a restart. -/
def adoptOrStop (operationId agentId : String) (restart : Bool) :
    List HostProcessInfo → Procedure (Option AgentInfo)
  | [] => return none
  | process :: rest => do
    let info ← upsertProcess config process none
    if restart then do
      let response ← hostRequest (.stop agentId) (some (.named (operationId ++ ":stop"))) hostError
      let _ ← processResponse response (some .exited)
      adoptOrStop operationId agentId restart rest
    else do
      attempt (.update agentId fun entry =>
        { entry with spec.enabled := true, lastHostEpoch := config.hostEpoch })
      return some info

/-- Start or restart the saved launch. -/
def startLocked (operationId agentId : String) (restart : Bool) : Procedure AgentInfo := do
  let processes ← syncProcesses
  let adopted ← adoptOrStop config operationId agentId restart
    (processes.filter fun process => process.processId == agentId && process.running)
  match adopted with
  | some info => return info
  | none => do
    let entry ← call (.get agentId)
    match entry with
    | none => throw ⟨"startup_not_found", "no saved launch for workload", none⟩
    | some entry => do
      let entry := nextAttempt
        { entry with spec.enabled := true, lastHostEpoch := config.hostEpoch }
      attempt (.upsert entry)
      spawnStartup config entry

def start (operationId agentId : String) (restart : Bool) : Procedure AgentInfo :=
  startLocked config operationId agentId restart

def persistStoppedStartup : Procedure Unit := do
  let entry ← call (.get agentId)
  match entry with
  | some entry => attempt (.upsert (disabled entry))
  | none => return ()

/-- Adopt every process of the agent; the answer is whether the last one runs. -/
def adoptAll : List HostProcessInfo → Bool → Procedure Bool
  | [], running => return running
  | process :: rest, _ => do
    let _ ← upsertProcess config process none
    adoptAll rest process.running

/-- Stop the agent and keep it stopped. -/
def stop (operationId agentId : String) : Procedure AgentInfo := do
  persistStoppedStartup agentId
  let processes ← syncProcesses
  let running ← adoptAll config (processes.filter (·.processId == agentId)) false
  if running then do
    let response ← hostRequest (.stop agentId) (some (.named operationId)) hostStopError
    processResponse response (some .exited)
  else do
    let current ← call (.agent agentId)
    match current with
    | some agent => return agent.info
    | none => do
      let entry ← call (.get agentId)
      match entry with
      | some entry => materializeStartup entry
      | none => throw ⟨"agent_not_found", "no live process or saved launch for workload", none⟩

/-! ## Declarations -/

/-- An argument of the request contains the credential of the entry. -/
def leaksCredential (texts : List String) : Bool :=
  entry.workloadCredential != "" && texts.any (containsText · entry.workloadCredential)

variable (request : ReplaceAgentStartupRequest)

def checkedAppStartup : Procedure StoredAgentStartup := do
  settle request.validate
  let entry ← call (.get agentId)
  match entry with
  | none =>
    throw ⟨"startup_not_found",
      "App has no saved startup; retry after lifecycle synchronization", none⟩
  | some entry => do
    settle (do
      refuse
        (entry.spec.kind != "app" || entry.workspaceId != config.workspaceId ||
          entry.spec.serverId != config.serverId)
        ⟨"app_startup_mismatch", "startup does not belong to this App Controller", none⟩
      refuse (leaksCredential entry (request.command :: request.args ++ request.cwd.toList))
        ⟨"invalid_agent_startup", "startup must not contain the workload credential", none⟩)
    resolveMachineDirectory (request.cwd.getD entry.spec.cwd)
    return entry

/-- The entry with the launch fields of a new revision. -/
def withRevision (revision : Nat) : StoredAgentStartup :=
  { entry with
    spec.command := request.command
    spec.args := request.args
    spec.cwd := request.cwd.getD entry.spec.cwd
    appRevision := revision
    initialWrites := [] }

/-- The launch fields of the request are those of the entry. -/
def sameLaunch : Bool :=
  entry.spec.command == request.command && entry.spec.args == request.args &&
    request.cwd.all (· == entry.spec.cwd)

/-- The answer is the saved entry, and whether it is new. -/
def saveAppStartupLocked (revision : Nat) : Procedure (StoredAgentStartup × Bool) := do
  let entry ← checkedAppStartup config agentId request
  if revision < entry.appRevision || revision == 0 then
    throw ⟨"stale_app_startup", "a newer App startup specification is already saved", none⟩
  else if revision = entry.appRevision then
    -- Duplicate delivery must not allocate another generation or restart.
    if sameLaunch entry request then return (entry, false)
    else throw ⟨"app_revision_conflict", "App revision has conflicting launch fields", none⟩
  else do
    let entry := withRevision entry request revision
    attempt (.upsert entry)
    return (entry, true)

def getStartup : Procedure AgentStartupSpec := do
  let entry ← call (.get agentId)
  match entry.filter fun entry =>
      entry.workspaceId == config.workspaceId && entry.spec.serverId == config.serverId with
  | some entry => return entry.spec
  | none => throw ⟨"agent_startup_not_found", "Agent has not registered a startup command", none⟩

/-- A new revision of an App. -/
def updateAppStartup (operationId agentId : String) (request : ReplaceAgentStartupRequest)
    (revision : Nat) : Procedure AgentStartupSpec := do
  let saved ← saveAppStartupLocked config agentId request revision
  if saved.2 && saved.1.spec.enabled then do
    let _ ← startLocked config operationId agentId true
    getStartup config agentId
  else getStartup config agentId

/-- The entry that an agent without a declaration gets when its startup is replaced. -/
def entryOfAgent (agent : ControllerAgent) : StoredAgentStartup where
  appRevision := 0
  spec :=
    { agentId
      serverId := config.serverId
      kind := agent.info.kind
      name := agent.info.name
      cwd := agent.info.cwd
      command := ""
      args := []
      publishPorts := []
      enabled := !agent.info.status.isTerminal
      generation := agent.info.runGeneration }
  workspaceId := config.workspaceId
  workloadCredential := agent.workloadCredential
  lastHostEpoch := config.hostEpoch
  initialWrites := []
  cols := 120
  rows := 36

/-- The declared entry, or a new one for an agent that is there. -/
def entryToReplace : Procedure StoredAgentStartup := do
  let entry ← call (.get agentId)
  match entry with
  | some entry => return entry
  | none => do
    let current ← call (.agent agentId)
    match current with
    | some agent => return entryOfAgent config agentId agent
    | none => throw ⟨"agent_not_found", agentId, none⟩

/-- `"."` for a blank path. -/
def normalCwd (cwd : String) : String :=
  if Text.trim cwd == "" then "." else cwd

def resolveGivenDirectory : Option String → Procedure Unit
  | some cwd => resolveMachineDirectory cwd
  | none => return ()

/-- The entry with the launch fields of a replacement. -/
def withReplacement : StoredAgentStartup :=
  { entry with
    spec.cwd := (request.cwd.map normalCwd).getD entry.spec.cwd
    spec.command := request.command
    spec.args := request.args
    initialWrites := [] }

def replaceStartupLocked : Procedure AgentStartupSpec := do
  settle request.validate
  let entry ← entryToReplace config agentId
  settle (do
    refuse (entry.spec.kind == "app")
      ⟨"app_startup_managed",
        "App startup is managed by its deployment; edit the App deployment instead", none⟩
    refuse (entry.workspaceId != config.workspaceId || entry.spec.serverId != config.serverId)
      ⟨"host_identity_mismatch", "saved startup belongs to another workspace or Controller", none⟩
    refuse (leaksCredential entry (request.command :: request.args))
      ⟨"invalid_agent_startup", "startup argv must not contain the workload credential", none⟩)
  resolveGivenDirectory request.cwd
  attempt (.upsert (withReplacement entry request))
  return (withReplacement entry request).spec

def replaceStartup : Procedure AgentStartupSpec :=
  replaceStartupLocked config agentId request

def restartWithStartup (operationId agentId : String) (request : ReplaceAgentStartupRequest) :
    Procedure AgentInfo := do
  let _ ← replaceStartupLocked config agentId request
  startLocked config operationId agentId true

def setStartup (request : SetAgentStartupRequest) : Procedure AgentStartupSpec := do
  settle (refuse (Text.trim request.command == "")
    ⟨"invalid_agent_startup", "startup command cannot be empty", none⟩)
  resolveMachineDirectory request.cwd
  let publishPorts ← settle (validatePublishPorts request.publishPorts)
  let current ← call (.agent agentId)
  match current with
  | none => throw ⟨"agent_not_found", agentId, none⟩
  | some agent => do
    settle (refuse agent.info.status.isTerminal
      ⟨"agent_not_running", "only a running Agent can register its startup command", none⟩)
    let entry ← call (.get agentId)
    let spec : AgentStartupSpec :=
      { agentId
        serverId := config.serverId
        kind := agent.info.kind
        name := agent.info.name
        cwd := normalCwd request.cwd
        command := request.command
        args := request.args
        publishPorts
        enabled := true
        generation := (entry.map (·.spec.generation)).getD agent.info.runGeneration }
    attempt (.upsert
      { appRevision := 0
        spec
        workspaceId := config.workspaceId
        workloadCredential := agent.workloadCredential
        lastHostEpoch := config.hostEpoch
        initialWrites := []
        cols := 120
        rows := 36 })
    return spec

def clearStartup : Procedure Bool :=
  attempt (.remove agentId)

/-- The launch fields of a versioned declaration. -/
def replacementOf (request : CreateAgentRequest) : ReplaceAgentStartupRequest where
  cwd := some request.cwd
  command := request.args.headD ""
  args := request.args.drop 1

/-- Save the launch fields of a versioned declaration; the answer is whether they are new. -/
def acceptRevision (request : CreateAgentRequest) : Option Nat → Procedure Bool
  | none => return false
  | some revision => do
    settle (refuse (revision == 0 || request.kind != "app")
      ⟨"invalid_app_startup", "versioned lifecycle declaration must target an App", none⟩)
    let entry ← call (.get agentId)
    if entry.isSome then do
      let saved ← saveAppStartupLocked config agentId (replacementOf request) revision
      return saved.2
    else do
      settle (replacementOf request).validate
      resolveMachineDirectory request.cwd
      return false

/-- Adopt the given processes. -/
def adoptRunning : List HostProcessInfo → Procedure Unit
  | [] => return ()
  | process :: rest => do
    let _ ← upsertProcess config process none
    adoptRunning rest

/-- The first declaration of an agent. -/
def firstEntry (agentId kind credential : String) (request : CreateAgentRequest)
    (launch : AgentLaunch) (enabled : Bool) (generation revision : Nat) :
    StoredAgentStartup where
  appRevision := revision
  spec :=
    { agentId
      serverId := config.serverId
      kind
      name := request.name
      cwd := request.cwd
      command := launch.command
      args := launch.args
      publishPorts := launch.publishPorts
      enabled
      generation }
  workspaceId := config.workspaceId
  workloadCredential := credential
  lastHostEpoch := config.hostEpoch
  initialWrites := launch.initialWrites
  cols := request.cols
  rows := request.rows

/-- Declare an agent that has no entry; the answer is whether it had none. -/
def declareMissing (workloadCredential : Option String)
    (request : CreateAgentRequest) (enabled startMissing : Bool) (revision : Option Nat) :
    Procedure Bool := do
  let entry ← call (.get agentId)
  if entry.isSome then return false
  else do
    let launch ← settle (resolveLaunch config.interactiveShell request)
    let live ← call (.agent agentId)
    match (live.map (·.workloadCredential)).or workloadCredential with
    | none => throw ⟨"lifecycle_credential_missing", "no saved or live workload credential", none⟩
    | some credential => do
      settle (refuse (!validWorkloadCredential credential)
        ⟨"invalid_workload_credential", "invalid lifecycle credential", none⟩)
      let live ← call (.agent agentId)
      let generation :=
        (live.map (·.info.runGeneration)).getD (if startMissing then 1 else 0)
      attempt (.upsert (firstEntry config agentId launch.1 credential request launch.2 enabled
        generation (revision.getD 0)))
      return true

/-- Disable the declaration and stop the process of an agent that is not wanted. -/
def stopUnwanted (operationId agentId : String) : Procedure (Option AgentInfo) := do
  attempt (.update agentId disabled)
  let current ← call (.agent agentId)
  if current.any (!·.info.status.isTerminal) then do
    let response ← hostRequest (.stop agentId) (some (.named (operationId ++ ":stop")))
      hostStopError
    let info ← processResponse response (some .exited)
    return some info
  else return none

/-- Explicit lifecycle requests declare first, then start: the supervisor must not launch
between those commands. -/
def holdBack (startMissing : Bool) : Procedure Unit :=
  if startMissing then return () else attempt (.update agentId disabled)

def stopUnlessEnabled (operationId agentId : String) (enabled : Bool) :
    Procedure (Option AgentInfo) :=
  if enabled then return none else stopUnwanted operationId agentId

/-- Start the process of a declaration. -/
def startDeclared (enabled startMissing newlyDeclared : Bool) : Procedure AgentInfo := do
  let entry ← call (.get agentId)
  match entry with
  | none => throw ⟨"startup_not_found", agentId, none⟩
  | some entry =>
    if !entry.spec.enabled || !enabled || !startMissing then materializeStartup entry
    else if newlyDeclared then spawnStartup config entry
    else do
      attempt (.upsert (nextAttempt entry))
      spawnStartup config (nextAttempt entry)

/-- Stop an agent that is not wanted, and start one that is not there. -/
def runDeclared (operationId agentId : String) (enabled startMissing newlyDeclared : Bool) :
    Procedure AgentInfo := do
  holdBack agentId startMissing
  let stopped ← stopUnlessEnabled operationId agentId enabled
  match stopped with
  | some info => return info
  | none => do
    let current ← call (.agent agentId)
    match current.filter fun agent => !agent.info.status.isTerminal || !enabled with
    | some agent => return agent.info
    | none => startDeclared config agentId enabled startMissing newlyDeclared

/-- `ensure_app_lifecycle` after the revision was accepted. -/
def ensureDeclared (operationId agentId : String) (workloadCredential : Option String)
    (request : CreateAgentRequest) (enabled startMissing : Bool) (revision : Option Nat) :
    Procedure AgentInfo := do
  let processes ← syncProcesses
  adoptRunning config
    (processes.filter fun process => process.processId == agentId && process.running)
  let newlyDeclared ← declareMissing config agentId workloadCredential request enabled
    startMissing revision
  runDeclared config operationId agentId enabled startMissing newlyDeclared

def ensureAppLifecycle (operationId agentId : String) (workloadCredential : Option String)
    (request : CreateAgentRequest) (enabled startMissing : Bool) (revision : Option Nat) :
    Procedure AgentInfo := do
  requireNotDenied agentId
  let changed ← acceptRevision config agentId request revision
  if changed && enabled && startMissing then startLocked config operationId agentId true
  else
    ensureDeclared config operationId agentId workloadCredential request enabled startMissing
      revision

def ensureLifecycle (operationId agentId : String) (workloadCredential : Option String)
    (request : CreateAgentRequest) (enabled startMissing : Bool) : Procedure AgentInfo :=
  ensureAppLifecycle config operationId agentId workloadCredential request enabled startMissing none

/-- The executable of a new agent; a missing one is named when nothing is known of the agent. -/
def resolveNewCommand : Procedure String := do
  let world ← call .world
  match world.command with
  | .ok command => return command
  | .error error =>
    if error.code == "command_not_found" then do
      let entry ← call (.get agentId)
      let current ← call (.agent agentId)
      throw (if entry.isNone && current.isNone then
        { error with message := "Required executable is not installed on this machine" }
        else error)
    else throw error

/-- Persist the resolved launch of a new agent. -/
def declareNew (agentId kind credential : String) (request : CreateAgentRequest)
    (launch : AgentLaunch) : Procedure Unit := do
  let entry ← call (.get agentId)
  if entry.isSome then return ()
  else attempt (.upsert (firstEntry config agentId kind credential request launch true 1 0))

/-- The record of a process that was just created. -/
def adoptCreated : Procedure AgentInfo := do
  let current ← call (.agent process.processId)
  match current with
  | some agent => return agent.info
  | none => upsertProcess config process none

/-- Start a new agent. -/
def create (operationId agentId workloadCredential : String) (request : CreateAgentRequest) :
    Procedure AgentInfo := do
  requireNotDenied agentId
  settle (refuse (Text.trim request.name == "")
    ⟨"invalid_request", "agent name cannot be empty", none⟩)
  let launch ← settle (resolveLaunch config.interactiveShell request)
  settle (refuse (!validWorkloadCredential workloadCredential)
    ⟨"invalid_workload_credential", "Proxy supplied an invalid workload credential", none⟩)
  let command ← resolveNewCommand agentId
  declareNew config agentId launch.1 workloadCredential request launch.2
  let world ← call .world
  settle world.privateState
  let proxyPort ← settle world.proxyPort
  let entry ← call (.get agentId)
  let metadata ← settle ((config.metadata.toText
    { agentId
      runGeneration := (entry.map (·.spec.generation)).getD 1
      workspaceId := config.workspaceId
      serverId := config.serverId
      kind := launch.1
      name := request.name
      cwd := request.cwd
      workloadCredential
      httpProxyPort := some proxyPort }).mapError fun error => ⟨"metadata_error", error, none⟩)
  let response ← hostRequest
    (.spawn
      { processId := agentId
        command
        args := launch.2.args
        cwd := request.cwd
        env := config.environment agentId workloadCredential proxyPort
        cols := request.cols
        rows := request.rows
        metadata })
    (some (.named operationId)) hostError
  match response with
  | .process process => do
    let info ← adoptCreated config process
    if launch.2.initialWrites.isEmpty then return info
    else do
      let response ← hostRequest (.write info.agentId launch.2.initialWrites)
        (some (.named (operationId ++ ":launch"))) hostError
      processResponse response (some .working)
  | _ => throw ⟨"host_protocol_error", "spawn returned an unexpected response", none⟩

inductive StartupRestoreOutcome where
  | started (info : AgentInfo)
  | attached

abbrev Restored := String × Except ProtocolError StartupRestoreOutcome

/-- Adopt the inventory; the answer is the ids of the running processes. -/
def restoreInventory : List HostProcessInfo → Program Call (List String)
  | [] => return []
  | process :: rest => do
    let denied ← .perform (.isDenied process.processId)
    if denied then restoreInventory rest
    else if process.running then do
      let current ← .perform (.agent process.processId)
      if current.any fun agent =>
          agent.streamEpoch == process.streamEpoch && !agent.info.status.isTerminal then do
        let running ← restoreInventory rest
        return process.processId :: running
      else do
        let _ ← (upsertProcess config process none).run
        let running ← restoreInventory rest
        return process.processId :: running
    else do
      let _ ← (upsertProcess config process none).run
      restoreInventory rest

/-- Start one entry that is missing. -/
def restoreMissing : Procedure StartupRestoreOutcome := do
  attempt (.upsert (nextAttempt entry))
  let info ← spawnStartup config (nextAttempt entry)
  attempt (.update entry.spec.agentId fun current =>
    { current with lastHostEpoch := config.hostEpoch })
  return .started info

def restoreEntry (active running : List String) (entry : StoredAgentStartup) :
    Program Call (Option (Except ProtocolError StartupRestoreOutcome)) := do
  if entry.workspaceId != config.workspaceId || entry.spec.serverId != config.serverId ||
      !entry.spec.enabled || !active.contains entry.spec.agentId then return none
  else if running.contains entry.spec.agentId then do
    let current ← .perform (.agent entry.spec.agentId)
    if current.any (!·.info.status.isTerminal) then return some (.ok .attached)
    else do
      let result ← (restoreMissing config entry).run
      return some result
  else do
    let result ← (restoreMissing config entry).run
    return some result

def restoreEntries (active running : List String) :
    List StoredAgentStartup → Program Call (List Restored)
  | [] => return []
  | entry :: rest => do
    let result ← restoreEntry config active running entry
    let results ← restoreEntries active running rest
    return (result.map fun result => (entry.spec.agentId, result)).toList ++ results

/-- Start what should run. -/
def restoreStartupOutcomes (active : List String) : Program Call (List Restored) := do
  let answer ← .perform (.request (.sync Table.empty) none)
  match answer with
  | .error error => return [("host", .error (hostError error))]
  | .ok (.synced _ _ processes _) => do
    let running ← restoreInventory config processes
    let entries ← .perform .entries
    restoreEntries config active running entries
  | .ok _ =>
    return [("host", .error
      ⟨"host_protocol_error", "inventory returned an unexpected response", none⟩)]

/-- What the Host's event says of the record of the agent. -/
inductive EventKind where
  /-- A newer run is known. -/
  | stale
  | newRun
  | sameRun

def eventKind (generation : Nat) : Option ControllerAgent → EventKind
  | none => .sameRun
  | some agent =>
    if agent.supersedes generation process.startedAt ||
        (agent.streamEpoch != process.streamEpoch &&
          agent.info.startedAt == process.startedAt) then .stale
    else if agent.info.runGeneration < generation ||
        (process.running && agent.streamEpoch != process.streamEpoch) then .newRun
    else .sameRun

/-- Disable the declaration of a command that completed. -/
def disableExited : Program Call Unit := do
  let entry ← .perform (.get process.processId)
  if entry.any (·.spec.kind != "app") then do
    let entry ← .perform (.get process.processId)
    match entry with
    | some entry => do
      let _ ← .perform (.upsert (disabled entry))
      return ()
    | none => return ()
  else return ()

def runGenerationOf : Nat :=
  match config.metadata.fromText process.metadata with
  | .ok metadata => metadata.runGeneration
  | .error _ => 0

/-- The end of `apply_process` for the run that is on record. -/
def recordProcess : Program Call Unit := do
  let found ← .perform (.observe process)
  if found then return ()
  else do
    let _ ← (upsertProcess config process none).run
    return ()

def applyProcess : Program Call Unit := do
  let entry ← .perform (.get process.processId)
  -- A restart persists the next generation before its spawn ACK/event.
  if entry.any (runGenerationOf config process < ·.spec.generation) then return ()
  else do
    let current ← .perform (.agent process.processId)
    match eventKind process (runGenerationOf config process) current with
    | .stale => return ()
    | .newRun => do
      let _ ← (upsertProcess config process none).run
      return ()
    | .sameRun =>
      if !process.running && process.exitCode == some 0 then do
        disableExited process
        recordProcess config process
      else recordProcess config process

inductive Operation where
  | create (operationId agentId workloadCredential : String) (request : CreateAgentRequest)
  | ensureAppLifecycle (operationId agentId : String) (workloadCredential : Option String)
      (request : CreateAgentRequest) (enabled startMissing : Bool) (revision : Option Nat)
  | start (operationId agentId : String) (restart : Bool)
  | stop (operationId agentId : String)
  | updateAppStartup (operationId agentId : String) (request : ReplaceAgentStartupRequest)
      (revision : Nat)
  | replaceStartup (agentId : String) (request : ReplaceAgentStartupRequest)
  | restartWithStartup (operationId agentId : String) (request : ReplaceAgentStartupRequest)
  | setStartup (agentId : String) (request : SetAgentStartupRequest)
  | clearStartup (agentId : String)
  | restoreStartupOutcomes (active : List String)

inductive Reply where
  | agent (info : AgentInfo)
  | startup (spec : AgentStartupSpec)
  | cleared (found : Bool)
  | restored (results : List Restored)

/-- A procedure with its result presented as a reply. -/
def answering {α : Type} (wrap : α → Reply) (procedure : Procedure α) :
    Program Call (Except ProtocolError Reply) := do
  let result ← procedure.run
  return result.map wrap

def Operation.program : Operation → Program Call (Except ProtocolError Reply)
  | .create operationId agentId workloadCredential request =>
    answering .agent (Controller.create config operationId agentId workloadCredential request)
  | .ensureAppLifecycle operationId agentId workloadCredential request enabled startMissing
      revision =>
      answering .agent (Controller.ensureAppLifecycle config operationId agentId
        workloadCredential request enabled startMissing revision)
  | .start operationId agentId restart =>
    answering .agent (Controller.start config operationId agentId restart)
  | .stop operationId agentId => answering .agent (Controller.stop config operationId agentId)
  | .updateAppStartup operationId agentId request revision =>
    answering .startup (Controller.updateAppStartup config operationId agentId request revision)
  | .replaceStartup agentId request =>
    answering .startup (Controller.replaceStartup config agentId request)
  | .restartWithStartup operationId agentId request =>
    answering .agent (Controller.restartWithStartup config operationId agentId request)
  | .setStartup agentId request => answering .startup (Controller.setStartup config agentId request)
  | .clearStartup agentId => answering .cleared (Controller.clearStartup agentId)
  | .restoreStartupOutcomes active => do
    let results ← Controller.restoreStartupOutcomes config active
    return .ok (.restored results)

/-- The operation holds `recovery_lock` from its first call to its last. -/
def Operation.holdsRecoveryLock : Operation → Bool
  | .clearStartup _ => false
  | _ => true

/-- The revision an operation carries. -/
def Operation.revision : Operation → Option Nat
  | .ensureAppLifecycle _ _ _ _ _ _ revision => revision
  | .updateAppStartup _ _ _ revision => some revision
  | _ => none

end Treer.Controller
