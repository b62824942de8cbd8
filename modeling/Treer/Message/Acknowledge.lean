import Treer.Message.Store
import Treer.Message.Validation

/-!
# Acknowledging deliveries

`acknowledge_with_policy_revision` looks its operation up, and otherwise walks
the named deliveries in order: each must belong to the principal, a delivery
that is already acknowledged is only reported, and every other one is stamped
and announced by one event.
-/

namespace Treer.Message

open Foundation Environment

/-- The arguments of one `acknowledge_with_policy_revision`. -/
structure AckCall where
  workspaceId : String
  principal : MessagePrincipal
  request : AcknowledgeMessagesRequest
  policyRevision : Option Nat

namespace AckCall

def validate (call : AckCall) : Except MessageStoreError Unit := do
  validateAck call.request
  validateEndpointScope call.request.appEndpoint

/-- The key of the call's operation record. -/
def scope (call : AckCall) : String × MessagePrincipalKind × String × String :=
  (call.workspaceId, call.principal.kind, call.principal.id, call.request.operationId)

/-- The condition of the `SELECT ... FOR UPDATE`: the named delivery belongs to
the principal and, for a scoped call, to the endpoint. -/
def owns (call : AckCall) (deliveryId : String) (row : DeliveryRow) : Bool :=
  row.workspaceId == call.workspaceId && row.deliveryId == deliveryId &&
    row.recipientKind == call.principal.kind && row.recipientId == call.principal.id &&
    call.request.appEndpoint.all fun endpoint => row.recipientEndpoint == endpoint

/-- The `message.acknowledged` event of the delivery that comes after `earlier` others. -/
def acknowledgedEvent (call : AckCall) (environment : Environment) (earlier : Nat)
    (deliveryId messageId : String) : DomainEventEnvelope where
  eventId := "evt_" ++ environment.uuid earlier
  schemaVersion := domainEventSchemaVersion
  organizationId := none
  workspaceId := call.workspaceId
  actorKind := call.principal.kind.asStr
  actorId := some call.principal.id
  action := "message.acknowledged"
  resourceKind := "message.delivery"
  resourceId := deliveryId
  occurredAt := environment.clock 0
  traceId := none
  causationId := none
  correlationId := some call.request.operationId
  workspaceRevision := call.policyRevision
  payload := .acknowledged deliveryId messageId

/-- The error of an operation ID that was used for another request. -/
def conflict : MessageStoreError :=
  .contract "message_ack_idempotency_conflict"
    "acknowledgement operation ID was used for a different delivery set"

def notFound : MessageStoreError :=
  .contract "message_delivery_not_found"
    "a delivery does not exist or is not owned by this principal"

section
variable {Digest : Type} [DecidableEq Digest] (requestHash : List JsonToken → Digest)
  (environment : Environment) (call : AckCall)

/-- An endpoint-scoped acknowledgement is a different operation from an unscoped
one. -/
def hash : Digest :=
  match call.request.appEndpoint with
  | some endpoint => requestHash (serialize (endpoint, call.request.deliveryIds))
  | none => requestHash (serialize call.request.deliveryIds)

/-- The loop over the delivery IDs; `index` counts its rounds. -/
def acknowledgeAll :
    Nat → AcknowledgeMessagesResponse → List String → StoreTx Digest AcknowledgeMessagesResponse
  | _, response, [] => pure response
  | index, response, deliveryId :: rest => do
    let found ← environment.query (.selectDelivery index) fun db =>
      db.deliveries.rows.find? (call.owns deliveryId)
    match found with
    | none => Tx.fail notFound
    | some row =>
      if row.acknowledgedAt.isSome then
        acknowledgeAll (index + 1)
          { response with
            alreadyAcknowledgedDeliveryIds :=
              response.alreadyAcknowledgedDeliveryIds ++ [deliveryId] } rest
      else do
        environment.execute (.updateDelivery index) fun db =>
          some (db.acknowledgeDelivery (environment.clock 0) call.workspaceId deliveryId)
        environment.execute (.insertOutbox index)
          (MessageDb.insertOutbox (call.acknowledgedEvent environment
            response.acknowledgedDeliveryIds.length deliveryId row.messageId))
        acknowledgeAll (index + 1)
          { response with
            acknowledgedDeliveryIds := response.acknowledgedDeliveryIds ++ [deliveryId] } rest

def operationRow (response : AcknowledgeMessagesResponse) : AckOperationRow Digest where
  workspaceId := call.workspaceId
  principalKind := call.principal.kind
  principalId := call.principal.id
  operationId := call.request.operationId
  requestHash := call.hash requestHash
  response := response
  createdAt := environment.clock 0

/-- The transaction of `acknowledge_with_policy_revision`. -/
def transaction : StoreTx Digest AcknowledgeMessagesResponse := do
  Tx.lift call.validate
  environment.check .begin
  environment.check .lock
  let found ← environment.query .lookup fun db => db.ackOperations.find? call.scope
  match found with
  | some row =>
    Tx.failIf (row.requestHash != call.hash requestHash) conflict
    environment.commit
    pure row.response
  | none =>
    let response ← call.acknowledgeAll environment 0 ⟨[], []⟩ call.request.deliveryIds
    environment.execute .insertOperation
      (MessageDb.insertAckOperation (call.operationRow requestHash environment response))
    environment.commit
    pure response

end
end AckCall

def acknowledgeWithPolicyRevision {Digest : Type} [DecidableEq Digest]
    (requestHash : List JsonToken → Digest) (environment : Environment) (call : AckCall)
    (db : MessageDb Digest) :
    Except MessageStoreError AcknowledgeMessagesResponse × MessageDb Digest :=
  (call.transaction requestHash environment).run db

namespace AckCall

variable {Digest : Type} {requestHash : List JsonToken → Digest}
  {environment : Environment} {call : AckCall}

/-- A finished walk over a list of deliveries. -/
inductive Walk (environment : Environment) (call : AckCall) :
    MessageDb Digest → List String → MessageDb Digest → Prop where
  | nil (db : MessageDb Digest) : Walk environment call db [] db
  | already {db after deliveryId rest row} (rowMem : row ∈ db.deliveries)
      (owned : call.owns deliveryId row = true) (acknowledged : row.acknowledgedAt.isSome)
      (next : Walk environment call db rest after) :
      Walk environment call db (deliveryId :: rest) after
  | fresh {db middle after deliveryId rest row} (earlier : Nat) (rowMem : row ∈ db.deliveries)
      (owned : call.owns deliveryId row = true) (pending : row.acknowledgedAt = none)
      (announced : (db.acknowledgeDelivery (environment.clock 0) call.workspaceId
        deliveryId).insertOutbox
          (call.acknowledgedEvent environment earlier deliveryId row.messageId) = some middle)
      (next : Walk environment call middle rest after) :
      Walk environment call db (deliveryId :: rest) after

variable {response : AcknowledgeMessagesResponse} {deliveryIds : List String}

theorem walk_of_succeeds {before after : Session (MessageDb Digest)} {index : Nat}
    {result : AcknowledgeMessagesResponse}
    (succeeds : Tx.Succeeds (call.acknowledgeAll environment index response deliveryIds)
      before result after) :
    Walk environment call before.working deliveryIds after.working := by
  induction deliveryIds generalizing index response before with
  | nil =>
    rcases succeeds with ⟨_, rfl⟩
    exact .nil _
  | cons deliveryId rest ih =>
    simp [acknowledgeAll] at succeeds
    rcases succeeds with ⟨_, branch⟩
    split at branch
    · simp at branch
    rename_i row foundEq
    have owned := List.find?_some foundEq
    have rowMem := List.mem_of_find?_eq_some foundEq
    by_cases acknowledged : row.acknowledgedAt.isSome = true
    · rw [if_pos acknowledged] at branch
      exact .already rowMem owned acknowledged (ih branch)
    rw [if_neg acknowledged] at branch
    simp at branch
    rcases branch with ⟨_, _, ⟨_, announced⟩, branch⟩
    have pending : row.acknowledgedAt = none := by simpa using acknowledged
    exact .fresh _ rowMem owned pending announced (ih branch)

theorem noCommit_acknowledgeAll {index : Nat} :
    Tx.NoCommit (call.acknowledgeAll environment index response deliveryIds :
      StoreTx Digest AcknowledgeMessagesResponse) := by
  induction deliveryIds generalizing index response with
  | nil => exact Tx.noCommit_pure
  | cons deliveryId rest ih =>
    refine Tx.noCommit_ask.bind fun found => ?_
    split
    · simp
    · split <;> simp [ih]

/-- The operation was recorded before, for the same request. -/
structure Replayed (requestHash : List JsonToken → Digest) (call : AckCall)
    (db : MessageDb Digest) (response : AcknowledgeMessagesResponse)
    (row : AckOperationRow Digest) : Prop where
  mem : row ∈ db.ackOperations
  scope : row.key = call.scope
  hash : row.requestHash = call.hash requestHash
  response : row.response = response

/-- The operation was carried out and recorded. -/
structure Performed (requestHash : List JsonToken → Digest) (environment : Environment)
    (call : AckCall) (before : MessageDb Digest) (response : AcknowledgeMessagesResponse)
    (walked after : MessageDb Digest) : Prop where
  unused : ∀ row ∈ before.ackOperations, row.key ≠ call.scope
  walk : Walk environment call before call.request.deliveryIds walked
  record : walked.insertAckOperation (call.operationRow requestHash environment response) =
    some after

variable [DecidableEq Digest]

/-- A successful acknowledgement repeats a recorded response and changes nothing, or walks its
deliveries and records its response. -/
theorem cases_of_ok {before after : MessageDb Digest}
    (done : acknowledgeWithPolicyRevision requestHash environment call before =
      (.ok response, after)) :
    call.validate = .ok () ∧
      ((∃ row, Replayed requestHash call before response row) ∧ after = before ∨
        ∃ walked, Performed requestHash environment call before response walked after) := by
  rcases Tx.run_eq_ok done with ⟨_, succeeds, rfl⟩
  simp [transaction] at succeeds
  rcases succeeds with ⟨⟨_, valid⟩, _, _, _, branch⟩
  refine ⟨valid, ?_⟩
  split at branch
  · rename_i row foundEq
    simp [commit_eq] at branch
    rcases branch with ⟨sameHash, ⟨_, rfl⟩, responseEq⟩
    rcases Table.find?_eq_some_iff.mp foundEq with ⟨rowMem, rowKey⟩
    exact .inl ⟨⟨row, rowMem, rowKey, sameHash, responseEq⟩, rfl⟩
  · rename_i foundEq
    simp [commit_eq] at branch
    rcases branch with ⟨walked, loop, _, ⟨_, recorded⟩, _, rfl⟩
    exact .inr ⟨walked.working, Table.find?_eq_none_iff.mp foundEq, walk_of_succeeds loop, recorded⟩

/-- A failed acknowledgement leaves every table as it was. -/
theorem eq_of_error {before after : MessageDb Digest} {error : MessageStoreError}
    (failed : acknowledgeWithPolicyRevision requestHash environment call before =
      (.error error, after)) : after = before := by
  refine Tx.RollsBack.run_eq_error ?_ failed
  repeat refine .bind (by simp) fun _ => ?_
  split <;> simp [noCommit_acknowledgeAll, commit_eq]

end AckCall
end Treer.Message
