import Treer.Foundation.Outcome
import Treer.Foundation.Total
import Treer.Protocol.Workload

/-!
# The ledger of private state

Agents ask the Controller before they write private state. The ledger counts what the
Controller has measured of each Agent's directory, and the reservations that are open.
Numbers are `u64` and their sums stop at the largest one; times are nanoseconds.
-/

namespace Treer.PrivateState

open Foundation Protocol

def u64Max : Nat := 2 ^ 64 - 1

/-- `saturating_add` of `u64`. -/
abbrev satAdd := saturatingAdd u64Max

structure Measurement where
  (bytes entries : Nat)
  overflow : Bool

/-- The limits, in bytes and nanoseconds. -/
structure QuotaLimits where
  agentBytes : Nat := 256 * 1024 * 1024
  globalBytes : Nat := 4 * 1024 * 1024 * 1024
  reservationBytes : Nat := 64 * 1024 * 1024
  reservationsPerAgent : Nat := 16
  reservationTtl : Nat := 15 * 60 * 1000000000
  freeSpaceFloorBytes : Nat := 1024 * 1024 * 1024

/-- Bytes that an Agent may write. -/
structure Reservation where
  (id agentId : String)
  (bytes expiresAt : Nat)

structure AgentUsage where
  (usedBytes agentQuotaBytes availableBytes : Nat)
  reservationIds : List String

/-- Measurements and reservations. -/
structure QuotaLedger where
  limits : QuotaLimits
  inventoryIncomplete : Bool
  /-- The last measurement of each Agent; `none` if its directory could not be measured. -/
  measured : KeyedMap String (Option Nat)
  reservations : Table Reservation Reservation.id
  purged : List String

def reservationExpired : ProtocolError :=
  ⟨"private_state_reservation_expired",
    "the private state reservation is unknown, expired or not owned by this Agent", none⟩

namespace QuotaLedger

def new (limits : QuotaLimits) : QuotaLedger where
  limits
  inventoryIncomplete := false
  measured := Table.empty
  reservations := Table.empty
  purged := []

variable (ledger : QuotaLedger) (agentId : String)

/-- A directory was measured. -/
def record (measurement : Option Measurement) : QuotaLedger :=
  { ledger with
    purged := ledger.purged.filter (· != agentId)
    measured := ledger.measured.insert agentId
      (measurement.map fun measurement =>
        if measurement.overflow then u64Max else measurement.bytes) }

/-- The measurements of an enumeration of all directories. -/
def replaceInventory (measured : List (String × Option Measurement)) : QuotaLedger :=
  { measured.foldl (fun ledger entry => ledger.record entry.1 entry.2)
      { ledger with measured := Table.empty } with
    inventoryIncomplete := false }

def expire (now : Nat) : QuotaLedger :=
  { ledger with reservations := ledger.reservations.delete (·.expiresAt ≤ now) }

/-- An Agent that was never measured counts as empty. -/
def used : Option Nat :=
  (ledger.measured.get? agentId).getD (some 0)

def openOf : List Reservation :=
  ledger.reservations.rows.filter (·.agentId == agentId)

def openBytes (reservations : List Reservation) : Nat :=
  reservations.foldl (fun sum reservation => satAdd sum reservation.bytes) 0

/-- What a measurement counts in the total: an Agent has at most its own cap. -/
def counts (limits : QuotaLimits) (measured : Option Nat) : Nat :=
  measured.elim limits.agentBytes (min · limits.agentBytes)

def globalUsed : Nat :=
  ledger.measured.rows.foldl (fun sum entry => satAdd sum (counts ledger.limits entry.2)) 0

/-- What an Agent has and may have. -/
def usage : AgentUsage :=
  let used := counts ledger.limits (ledger.used agentId)
  let agentHeadroom := ledger.limits.agentBytes - used - openBytes (ledger.openOf agentId)
  let globalHeadroom :=
    ledger.limits.globalBytes - ledger.globalUsed - openBytes ledger.reservations.rows
  { usedBytes := used
    agentQuotaBytes := ledger.limits.agentBytes
    availableBytes := min agentHeadroom globalHeadroom
    reservationIds := (ledger.openOf agentId).map (·.id) }

/-- The checks of `reserve`, after what has expired is dropped. -/
def checkReservation (bytes freeBytes : Nat) : Except ProtocolError Unit := do
  refuse ledger.inventoryIncomplete
    ⟨"agent_private_state_unavailable",
      "Agent private state inventory is incomplete; reservations resume after a successful " ++
        "re-enumeration",
      none⟩
  refuse (ledger.purged.contains agentId)
    ⟨"agent_private_state_unavailable", "Agent private state was removed after deletion", none⟩
  refuse (bytes == 0 || ledger.limits.reservationBytes < bytes)
    ⟨"invalid_private_state_reservation",
      "reservation bytes must be between 1 and " ++ toString ledger.limits.reservationBytes, none⟩
  match ledger.used agentId with
  | none =>
    .error ⟨"agent_private_state_unavailable",
      "Agent private state could not be measured; inspect the Controller log", none⟩
  | some used =>
    refuse (ledger.limits.reservationsPerAgent ≤ (ledger.openOf agentId).length)
      ⟨"private_state_too_many_reservations",
        "too many open private state reservations; commit or release them first", none⟩
    refuse (ledger.limits.agentBytes <
        satAdd (satAdd used (openBytes (ledger.openOf agentId))) bytes)
      ⟨"private_state_agent_quota_exceeded", "the Agent private state quota would be exceeded",
        none⟩
    refuse (ledger.limits.globalBytes <
        satAdd (satAdd ledger.globalUsed (openBytes ledger.reservations.rows)) bytes)
      ⟨"private_state_global_quota_exceeded",
        "the machine-wide private state quota would be exceeded", none⟩
    refuse (freeBytes - openBytes ledger.reservations.rows - bytes <
        ledger.limits.freeSpaceFloorBytes)
      ⟨"private_state_disk_space_low",
        "the machine is low on disk space; no private state reservation was made", none⟩

/-- The id is a new one. -/
def reserve (bytes freeBytes now : Nat) (id : String) :
    Except ProtocolError Reservation × QuotaLedger :=
  let ledger := ledger.expire now
  match ledger.checkReservation agentId bytes freeBytes with
  | .error error => (.error error, ledger)
  | .ok () =>
    let reservation : Reservation :=
      { id, agentId, bytes, expiresAt := now + ledger.limits.reservationTtl }
    (.ok reservation, { ledger with reservations := ledger.reservations.put reservation })

def isOwn (agentId id : String) : Bool :=
  (ledger.reservations.find? id).any (·.agentId == agentId)

def close (id : String) : QuotaLedger :=
  { ledger with reservations := ledger.reservations.delete (·.id == id) }

def commit (agentId id : String) (now : Nat) : Except ProtocolError Unit × QuotaLedger :=
  let ledger := ledger.expire now
  if ledger.isOwn agentId id then (.ok (), ledger.close id)
  else (.error reservationExpired, ledger)

def release (agentId id : String) (now : Nat) : Bool × QuotaLedger :=
  let ledger := ledger.expire now
  if ledger.isOwn agentId id then (true, ledger.close id) else (false, ledger)

/-- What is on disk is within the caps. -/
def checkCaps : Except ProtocolError Unit := do
  refuse (!(ledger.used agentId).any (· ≤ ledger.limits.agentBytes))
    ⟨"private_state_agent_quota_exceeded",
      "the Agent private state exceeds its quota; remove the new content", none⟩
  refuse (ledger.limits.globalBytes < ledger.globalUsed)
    ⟨"private_state_global_quota_exceeded",
      "the machine-wide private state quota is exceeded; remove the new content", none⟩

end QuotaLedger
end Treer.PrivateState
