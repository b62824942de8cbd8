import Treer.Foundation.Table

/-!
# Messages between the Controller and the Host

Times are milliseconds since the epoch, as the protocol sends them.
-/

namespace Treer.Host

open Foundation

def hostProtocolVersion : Nat := 2

def maxHostFrameBytes : Nat := 16 * 1024 * 1024

structure HostBuildInfo where
  (version gitCommit : String)

/-- A process, as the Host tells of it. -/
structure HostProcessInfo where
  processId : String
  pid : Option Nat
  cwd : String
  running : Bool
  (startedAt lastOutputAt : Int)
  (exitedAt exitCode : Option Int)
  streamEpoch : String
  (firstRevision nextRevision : Nat)
  bracketedPaste : Bool
  metadata : String

/-- Output of a process. -/
structure HostOutputChunk where
  (processId streamEpoch : String)
  revision : Nat
  data : List UInt8
  bracketedPaste : Bool
  emittedAt : Int
  deriving DecidableEq

/-- What the ring still has. -/
structure HostOutputReplay where
  (processId streamEpoch : String)
  (firstAvailableRevision nextRevision : Nat)
  gap : Bool
  chunks : List HostOutputChunk

/-- The last chunk a client has. -/
structure OutputCursor where
  streamEpoch : String
  revision : Nat
  deriving DecidableEq

structure HostSpawnRequest where
  (processId command : String)
  args : List String
  cwd : String
  env : KeyedMap String String
  (cols rows : Nat)
  metadata : String
  deriving DecidableEq

structure HostWrite where
  data : List UInt8
  delayMs : Nat
  deriving DecidableEq

/-- What a client asks for. -/
inductive HostCommand where
  | sync (cursors : KeyedMap String OutputCursor)
  | spawn (request : HostSpawnRequest)
  | read (processId : String) (cursor : Option OutputCursor)
  | write (processId : String) (writes : List HostWrite)
  | resize (processId : String) (cols rows : Nat)
  | stop (processId : String)
  | restartController
  deriving DecidableEq

def HostCommand.isMutating : HostCommand → Bool
  | .spawn _ | .write _ _ | .resize _ _ _ | .stop _ | .restartController => true
  | .sync _ | .read _ _ => false

structure HostRequest where
  protocol : Nat
  requestId : String
  operationId : Option String
  command : HostCommand
  deriving DecidableEq

/-- The answer to a command. -/
inductive HostResponse where
  | synced (hostEpoch : String) (hostBuild : HostBuildInfo) (processes : List HostProcessInfo)
      (replay : List HostOutputReplay)
  | process (process : HostProcessInfo)
  | output (replay : HostOutputReplay)
  | ack

structure HostError where
  (code message : String)

/-- What the Host sends. -/
inductive HostMessage where
  | response (requestId : String) (response : Option HostResponse) (error : Option HostError)
  | output (chunk : HostOutputChunk)
  | process (process : HostProcessInfo)

end Treer.Host
