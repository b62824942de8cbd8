import Treer.Foundation.Pool
import Treer.PrivateState.Ledger

/-!
# Admission to private state

The Controller's operations on private state make one call after another: calls of the
ledger, under its lock, and measurements of a directory. Calls of other operations, and
writes of Agents, can come between them.
-/

namespace Treer.PrivateState

open Foundation Protocol
open Foundation.Procedure (call attempt settle)

inductive PrivateStateStatus where
  | available
  | unavailable
  deriving DecidableEq

def PrivateStateStatus.code : PrivateStateStatus → String
  | .available => "available"
  | .unavailable => "agent_private_state_unavailable"

structure PrivateStateReport where
  status : String
  usage : Option AgentUsage

structure PrivateStateReservation where
  reservationId : String
  (bytes expiresAt : Nat)

inductive Call : Type → Type where
  | isPurged (agentId : String) : Call Bool
  /-- The workload is known, and the state of its directory. -/
  | status (agentId : String) : Call (Except ProtocolError PrivateStateStatus)
  | inventoryIncomplete : Call Bool
  | agentIds : Call (Except ProtocolError (List String))
  | measure (agentId : String) : Call (Option Measurement)
  | replaceInventory (measured : List (String × Option Measurement)) : Call Unit
  | record (agentId : String) (measurement : Option Measurement) : Call Unit
  | freeBytes : Call (Except ProtocolError Nat)
  | reserve (agentId : String) (bytes freeBytes : Nat) : Call (Except ProtocolError Reservation)
  | commit (agentId id : String) : Call (Except ProtocolError Unit)
  | release (agentId id : String) : Call Bool
  | usage (agentId : String) : Call AgentUsage
  | checkedUsage (agentId : String) : Call (Except ProtocolError AgentUsage)
  /-- An Agent writes under a reservation of its own. -/
  | write (agentId id : String) (bytes : Nat) : Call Unit
  /-- An Agent removes content. -/
  | remove (agentId : String) (bytes : Nat) : Call Unit

/-- What the system around the Controller answers. -/
structure World where
  now : Nat
  /-- The id of a new reservation. -/
  newId : String
  status : Except ProtocolError PrivateStateStatus
  freeBytes : Except ProtocolError Nat
  /-- The directories can be listed. -/
  lists : Bool
  /-- The entries of the directory are read without an error. -/
  reads : Bool
  entries : Nat

def maxMeasuredEntries : Nat := 65536

structure Shared where
  ledger : QuotaLedger
  /-- The bytes in the directory of each Agent. -/
  directories : KeyedMap String Nat
  /-- The bytes that were written under each reservation. -/
  written : KeyedMap String Nat

namespace Shared

variable (shared : Shared)

def onDisk (agentId : String) : Nat :=
  (shared.directories.get? agentId).getD 0

def writtenUnder (id : String) : Nat :=
  (shared.written.get? id).getD 0

def write (agentId id : String) (bytes : Nat) : Shared :=
  match shared.ledger.reservations.find? id with
  | none => shared
  | some reservation =>
    if reservation.agentId = agentId ∧ shared.writtenUnder id + bytes ≤ reservation.bytes then
      { shared with
        directories := shared.directories.insert agentId (shared.onDisk agentId + bytes)
        written := shared.written.insert id (shared.writtenUnder id + bytes) }
    else shared

def remove (agentId : String) (bytes : Nat) : Shared :=
  { shared with
    directories := shared.directories.insert agentId (shared.onDisk agentId - bytes) }

/-- `measure_directory` of an existing directory; the walk stops at too many entries. -/
def measure (agentId : String) (world : World) : Option Measurement :=
  if world.reads then
    (shared.directories.get? agentId).map fun bytes =>
      { bytes, entries := world.entries, overflow := maxMeasuredEntries < world.entries }
  else none

def reserve (agentId : String) (bytes freeBytes : Nat) (world : World) :
    Except ProtocolError Reservation × Shared :=
  let (result, ledger) := shared.ledger.reserve agentId bytes freeBytes world.now world.newId
  match result with
  | .error error => (.error error, { shared with ledger })
  | .ok reservation =>
    (.ok reservation, { shared with ledger, written := shared.written.insert reservation.id 0 })

end Shared

def machine : Machine Call Shared World
  | _, .isPurged agentId, _, shared => (shared.ledger.purged.contains agentId, shared)
  | _, .status _, world, shared => (world.status, shared)
  | _, .inventoryIncomplete, _, shared => (shared.ledger.inventoryIncomplete, shared)
  | _, .agentIds, world, shared =>
    (if world.lists then .ok (shared.directories.rows.map (·.1))
      else .error ⟨"agent_private_state_unavailable",
        "Agent private state inventory is incomplete; reservations resume after a successful " ++
          "re-enumeration",
        none⟩,
      shared)
  | _, .measure agentId, world, shared => (shared.measure agentId world, shared)
  | _, .replaceInventory measured, _, shared =>
    ((), { shared with ledger := shared.ledger.replaceInventory measured })
  | _, .record agentId measurement, _, shared =>
    ((), { shared with ledger := shared.ledger.record agentId measurement })
  | _, .freeBytes, world, shared => (world.freeBytes, shared)
  | _, .reserve agentId bytes freeBytes, world, shared =>
    shared.reserve agentId bytes freeBytes world
  | _, .commit agentId id, world, shared =>
    let (result, ledger) := shared.ledger.commit agentId id world.now
    (result, { shared with ledger })
  | _, .release agentId id, world, shared =>
    let (released, ledger) := shared.ledger.release agentId id world.now
    (released, { shared with ledger })
  | _, .usage agentId, _, shared => (shared.ledger.usage agentId, shared)
  | _, .checkedUsage agentId, _, shared =>
    ((shared.ledger.checkCaps agentId).map fun _ => shared.ledger.usage agentId, shared)
  | _, .write agentId id bytes, _, shared => ((), shared.write agentId id bytes)
  | _, .remove agentId bytes, _, shared => ((), shared.remove agentId bytes)

abbrev Procedure := Foundation.Procedure Call ProtocolError

def measureAll : List String → Procedure (List (String × Option Measurement))
  | [] => return []
  | agentId :: rest => do
    let measurement ← call (.measure agentId)
    let others ← measureAll rest
    return (agentId, measurement) :: others

def completePrivateStateInventory : Procedure Unit := do
  let incomplete ← call .inventoryIncomplete
  if incomplete then
    let ids ← attempt .agentIds
    let measured ← measureAll ids
    call (.replaceInventory measured)
  else
    return ()

variable (agentId : String)

def refreshPrivateStateMeasurement : Procedure Unit := do
  completePrivateStateInventory
  let measurement ← call (.measure agentId)
  call (.record agentId measurement)

def requirePrivateStateAvailable : Procedure Unit := do
  let purged ← call (.isPurged agentId)
  settle (refuse purged
    ⟨"agent_private_state_unavailable", "Agent private state was removed after deletion", none⟩)
  let status ← attempt (.status agentId)
  settle (refuse (status != .available)
    ⟨status.code, "Agent private state is not available; attachments stay disabled", none⟩)

def privateStateReport : Procedure PrivateStateReport := do
  let purged ← call (.isPurged agentId)
  if purged then
    return { status := PrivateStateStatus.unavailable.code, usage := none }
  else
    let status ← attempt (.status agentId)
    match status with
    | .available =>
      refreshPrivateStateMeasurement agentId
      let usage ← call (.usage agentId)
      return { status := status.code, usage := some usage }
    | .unavailable => return { status := status.code, usage := none }

def reservePrivateState (bytes : Nat) : Procedure PrivateStateReservation := do
  requirePrivateStateAvailable agentId
  refreshPrivateStateMeasurement agentId
  let freeBytes ← attempt .freeBytes
  let reservation ← attempt (.reserve agentId bytes freeBytes)
  return {
    reservationId := reservation.id
    bytes := reservation.bytes
    expiresAt := reservation.expiresAt }

def commitPrivateStateReservation (agentId reservationId : String) : Procedure AgentUsage := do
  requirePrivateStateAvailable agentId
  attempt (.commit agentId reservationId)
  refreshPrivateStateMeasurement agentId
  attempt (.checkedUsage agentId)

def releasePrivateStateReservation (agentId reservationId : String) : Procedure Bool := do
  requirePrivateStateAvailable agentId
  let released ← call (.release agentId reservationId)
  refreshPrivateStateMeasurement agentId
  return released

/-- What an Agent asks of the Controller, and what it does in its directory. -/
inductive Request where
  | report (agentId : String)
  | reserve (agentId : String) (bytes : Nat)
  | commit (agentId reservationId : String)
  | release (agentId reservationId : String)
  | write (agentId reservationId : String) (bytes : Nat)
  | remove (agentId : String) (bytes : Nat)

/-- The operation without its answer. -/
def finish {α : Type} (procedure : Procedure α) : Program Call Unit := do
  let _ ← procedure.run
  return ()

def Request.program : Request → Program Call Unit
  | .report agentId => finish (privateStateReport agentId)
  | .reserve agentId bytes => finish (reservePrivateState agentId bytes)
  | .commit agentId reservationId => finish (commitPrivateStateReservation agentId reservationId)
  | .release agentId reservationId => finish (releasePrivateStateReservation agentId reservationId)
  | .write agentId reservationId bytes => .perform (.write agentId reservationId bytes)
  | .remove agentId bytes => .perform (.remove agentId bytes)

/-- Requests of all Agents, in any number and order. -/
abbrev Requests := Pool Call Request Shared

def Requests.step : Requests → Move Request World → Unit × Requests :=
  Pool.step machine Request.program fun _ _ => true

end Treer.PrivateState
