import Treer.Protocol.Workload

/-!
# Commands to a Controller

The kinds of commands that the Proxy sends to a Controller, the capability each of them
needs, and the results that come back. What only the handler of a command reads is its
payload.
-/

namespace Treer.Protocol

namespace Capability

def workloadCreatePlacement : String := "workload.create-placement.v1"
def agentReservationFence : String := "agent.reservation-fence.v1"
def agentAbort : String := "agent.abort.v1"
def agentStartup : String := "agent.startup.v1"
def agentStartupAdmin : String := "agent.startup-admin.v1"
def appUpdate : String := "app.update.v1"
def agentPromptDelivery : String := "agent.prompt-delivery.v1"
def agentLifecycle : String := "agent.lifecycle.v1"
def machineExec : String := "machine.exec.v1"
def machineUpload : String := "machine.upload.v1"
def machineUploadV3 : String := "machine.upload.v3"
def machineFileTransfer : String := "machine.file-transfer.v1"
def machineMetrics : String := "machine.metrics.v1"
def runtimeRestore : String := "runtime.restore.v1"
def serviceHttpFetch : String := "service.http-fetch.v1"
def policyPathRules : String := "policy.path-rules.v2"
def controllerUpdate : String := "machine.controller-update.v2"

end Capability

/-- The kind of a command, with the fields that others than its handler read. -/
inductive CommandKind where
  | appEnsureLifecycle (agentId : String)
  | appStartupCheck
  | appStartupUpdate
  | controllerUpdateStart
  | controllerUpdateStatus
  | startupAdminGet
  | startupAdminSet
  | restartWithStartup
  | restoreRuntime
  | ensureLifecycle (agentId : String)
  | start
  | restart
  | create (agentId : String)
  | creationPlacementCheck
  | fenceAbsentAgentReservation
  | prompt
  | submitPrompt
  | queueRead
  | interfaceStatus
  | submissionRead
  | queueCancel
  | input
  | read
  | transcript
  | stop
  | abort
  | startupSet
  | startupGet
  | startupClear
  | probeNetwork
  | fetchServiceHttp (policySchemaVersion : Option Nat)
  | exec
  | uploadBegin (size : Option Nat)
  | uploadChunk (offset : Option Nat)
  | uploadPartCommit
  | uploadResult
  | uploadCommit
  | uploadAbort
  | fileTransfer
  | fileTransferInfo
  | machineMetrics
  | shutdownMachine
  deriving DecidableEq

structure AgentCommand (π : Type) where
  kind : CommandKind
  payload : π

def CommandKind.requiredCapability : CommandKind → Option String
  | .fenceAbsentAgentReservation => some Capability.agentReservationFence
  | .appStartupCheck | .appStartupUpdate | .appEnsureLifecycle _ => some Capability.appUpdate
  | .create _ | .creationPlacementCheck => some Capability.workloadCreatePlacement
  | .submitPrompt | .queueRead | .interfaceStatus | .submissionRead | .queueCancel =>
    some Capability.agentPromptDelivery
  | .startupAdminGet | .startupAdminSet | .restartWithStartup => some Capability.agentStartupAdmin
  | .ensureLifecycle _ | .start | .restart => some Capability.agentLifecycle
  | .restoreRuntime => some Capability.runtimeRestore
  | .abort => some Capability.agentAbort
  | .startupSet | .startupGet | .startupClear => some Capability.agentStartup
  | .exec => some Capability.machineExec
  | .controllerUpdateStart | .controllerUpdateStatus => some Capability.controllerUpdate
  | .fileTransfer | .fileTransferInfo => some Capability.machineFileTransfer
  | .machineMetrics => some Capability.machineMetrics
  | .uploadBegin (some _) | .uploadChunk (some _) | .uploadPartCommit | .uploadResult =>
    some Capability.machineUploadV3
  | .uploadBegin none | .uploadChunk none | .uploadCommit | .uploadAbort =>
    some Capability.machineUpload
  | .fetchServiceHttp (some 2) => some Capability.policyPathRules
  | .fetchServiceHttp _ => some Capability.serviceHttpFetch
  | .prompt | .input | .read | .transcript | .stop | .probeNetwork | .shutdownMachine => none

def AgentCommand.requiredCapability {π : Type} (command : AgentCommand π) : Option String :=
  command.kind.requiredCapability

structure CommandEnvelope (π : Type) where
  (commandId workspaceId : String)
  command : AgentCommand π

structure CommandResult (ν : Type) where
  commandId : String
  data : Option ν
  error : Option ProtocolError

namespace CommandResult

variable {ν : Type} (commandId : String)

def success (data : ν) : CommandResult ν :=
  ⟨commandId, some data, none⟩

def failure (error : ProtocolError) : CommandResult ν :=
  ⟨commandId, none, some error⟩

/-- The result of a handler. -/
def ofExcept : Except ProtocolError ν → CommandResult ν
  | .ok data => success commandId data
  | .error error => failure commandId error

@[simp]
theorem ofExcept_commandId (ended : Except ProtocolError ν) :
    (ofExcept commandId ended).commandId = commandId := by
  cases ended <;> rfl

end CommandResult
end Treer.Protocol
