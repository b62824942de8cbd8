import Treer.Protocol.Workload
import Treer.Startup.Store

/-!
# What the Controller is asked, and what it answers

The requests that declare and start agents, with their checks, and the record the
Controller publishes of an agent.
-/

namespace Treer.Controller

open Foundation Protocol Host

inductive AgentStatus where
  | starting
  | working
  | idle
  | blocked
  | exited
  | failed
  | unknown
  deriving DecidableEq

def AgentStatus.isTerminal : AgentStatus → Bool
  | .exited | .failed => true
  | _ => false

/-- Without the path, which the Controller leaves open, and the interface,
which another part of it keeps. -/
structure AgentInfo where
  agentId : String
  runGeneration : Nat
  (workspaceId serverId kind name cwd : String)
  status : AgentStatus
  pid : Option Nat
  (startedAt updatedAt : Int)
  (exitedAt exitCode : Option Int)
  outputRevision : Nat

/-- What the Controller gives the Host to keep with a process. -/
structure AgentMetadata where
  agentId : String
  runGeneration : Nat
  (workspaceId serverId kind name cwd workloadCredential : String)
  httpProxyPort : Option Nat
  deriving DecidableEq

/-- The fields of a `CreateAgentRequest` that the Controller reads. -/
structure CreateAgentRequest where
  (kind name cwd : String)
  args : List String
  (cols rows : Nat)
  publishPorts : List Nat

structure SetAgentStartupRequest where
  (cwd command : String)
  args : List String
  publishPorts : List Nat

structure ReplaceAgentStartupRequest where
  cwd : Option String
  command : String
  args : List String

structure AgentLaunch where
  command : String
  args : List String
  initialWrites : List HostWrite
  publishPorts : List Nat

/-- `u8::is_ascii_hexdigit`. -/
def isHexDigit (char : Char) : Bool :=
  char.isDigit || ('a' ≤ char && char ≤ 'f') || ('A' ≤ char && char ≤ 'F')

/-- `str::contains` for a string. -/
def containsText (text part : String) : Bool :=
  text.toList.tails.any part.toList.isPrefixOf

/-- A place in the text where a credential of this kind stands. -/
def holdsSecret (head text : String) : Bool :=
  text.toList.tails.any fun tail =>
    head.toList.isPrefixOf tail &&
      (let secret := (tail.drop 4).take 64
      secret.length == 64 && secret.all isHexDigit)

def validWorkloadCredential (credential : String) : Bool :=
  Text.startsWith credential "wlc_" && Text.len credential == 68 &&
    (credential.toList.drop 4).all isHexDigit

def ReplaceAgentStartupRequest.validate (request : ReplaceAgentStartupRequest) :
    Except ProtocolError Unit := do
  let argv := request.command :: request.args
  refuse
    (Text.trim request.command == "" || request.cwd.any (Text.containsChar · '\x00') ||
      argv.any (Text.containsChar · '\x00'))
    ⟨"invalid_agent_startup",
      "startup command must be nonempty and paths/argv must not contain NUL", none⟩
  refuse
    ((argv ++ request.cwd.toList).any fun text =>
      ["wlc_", "opc_"].any fun head => holdsSecret head text)
    ⟨"invalid_agent_startup",
      "startup spec must not contain workload or operator credentials", none⟩

def validatePublishPorts (ports : List Nat) : Except ProtocolError (List Nat) :=
  if ports.isEmpty then .ok []
  else
    .error ⟨"sandbox_ports_retired",
      "Namespace port publication is retired; bind a Controller-reachable port and register " ++
        "it with treer service register",
      none⟩

def resolveLaunch (interactiveShell : String) (request : CreateAgentRequest) :
    Except ProtocolError (String × AgentLaunch) := do
  refuse (!(["shell", "command", "app", "bridge"].contains request.kind))
    ⟨"agent_kind_retired",
      "Provider-specific and auto Agent kinds are retired; select a launch profile or pass " ++
        "kind=command with an explicit executable and argv",
      none⟩
  let _ ← validatePublishPorts request.publishPorts
  let (command, args) :=
    match request.args with
    | [] => (interactiveShell, ["-i"])
    | command :: args => (command, args)
  refuse (Text.trim command == "") ⟨"invalid_request", "Agent executable must not be empty", none⟩
  return (request.kind, { command, args, initialWrites := [], publishPorts := [] })

/-- An absent target keeps its code. -/
def hostStopError (text : String) : ProtocolError :=
  match ["process_not_found", "process_not_running"].find? fun code =>
      (Text.stripPrefix text code).any (Text.startsWith · ":") with
  | some code => ⟨code, text, none⟩
  | none => ⟨"host_error", text, none⟩

end Treer.Controller
