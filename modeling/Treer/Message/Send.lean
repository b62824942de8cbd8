import Treer.Message.Store
import Treer.Message.Validation

/-!
# Sending a message

`send_with_policy_revision` validates, looks its idempotency key up, and then
either replays the stored message or inserts a message with its deliveries,
contexts, idempotency record and event. The digest of a request is an
argument: `requestHash` stands for SHA-256 over the serialized fingerprint.
-/

namespace Treer.Message

open Foundation Environment MessageDb

/-- What two sends under one key are compared by. -/
structure SendFingerprint where
  senderEndpoint : Option String
  recipients : List MessagePrincipal
  contextIds : List String
  body : String
  expiresAt : Option DateTime
  (correlationId traceId : Option String)
  externalSource : Option MessageExternalSource
  deriving DecidableEq

instance : Serialize SendFingerprint where
  serialize fingerprint :=
    .openObject ::
      (fieldUnlessNone "sender_endpoint" fingerprint.senderEndpoint ++
        (field "recipients" fingerprint.recipients ++
          (field "context_ids" fingerprint.contextIds ++
            (field "body" fingerprint.body ++
              (field "expires_at" fingerprint.expiresAt ++
                (field "correlation_id" fingerprint.correlationId ++
                  (field "trace_id" fingerprint.traceId ++
                    (field "external_source" fingerprint.externalSource ++ [.closeObject]))))))))

/-- The serialized form determines the fingerprint. -/
theorem serialize_sendFingerprint_injective :
    Function.Injective (serialize : SendFingerprint → List JsonToken) := by
  rintro ⟨⟩ ⟨⟩ same
  simpa only [serialize, List.cons.injEq, true_and, and_true, startsWith_field, String.reduceEq,
    not_false_eq_true, fieldUnlessNone_append_inj, field_append_inj,
    SendFingerprint.mk.injEq] using same

/-- The arguments of one `send_with_policy_revision`. -/
structure SendCall where
  workspaceId : String
  sender : MessagePrincipal
  recipients : List MessagePrincipal
  request : SendMessageRequest
  policyRevision : Option Nat

namespace SendCall

def subtreeAddressed (call : SendCall) : Bool :=
  call.sender.appEndpoint.isSome ||
    call.recipients.any fun recipient => recipient.appEndpoint.isSome

/-- Paths never count; names and roles count only between legacy addresses. -/
def fingerprintRecipient (subtreeAddressed : Bool) (recipient : MessagePrincipal) :
    MessagePrincipal :=
  { recipient with
    path := none
    name := if subtreeAddressed then "" else recipient.name
    role := if subtreeAddressed then none else recipient.role }

def fingerprint (call : SendCall) : SendFingerprint where
  senderEndpoint := call.sender.appEndpoint
  recipients := call.recipients.map (fingerprintRecipient call.subtreeAddressed)
  contextIds := call.request.contextIds
  body := call.request.body
  expiresAt := call.request.expiresAt
  correlationId := call.request.correlationId
  traceId := call.request.traceId
  externalSource := call.request.externalSource

/-- Both validations that precede the transaction. -/
def validate (call : SendCall) (now : DateTime) : Except MessageStoreError Unit := do
  validateWorkspaceAndPrincipal call.workspaceId call.sender
  validateSend now call.recipients call.request

/-- The scope of the call's idempotency key. -/
def scope (call : SendCall) (key : String) : String × MessagePrincipalKind × String × String :=
  (call.workspaceId, call.sender.kind, call.sender.id, key)

section
variable (environment : Environment) (call : SendCall)

def messageId : String := "msg_" ++ environment.uuid 0

/-- `let now = Utc::now()`, the second reading after the one of the validation. -/
def createdAt : DateTime := environment.clock 1

def messageRow : MessageRow where
  messageId := messageId environment
  workspaceId := call.workspaceId
  senderKind := call.sender.kind
  senderId := call.sender.id
  senderName := call.sender.name
  senderRole := call.sender.role
  body := call.request.body
  createdAt := createdAt environment
  expiresAt := call.request.expiresAt
  correlationId := call.request.correlationId
  traceId := call.request.traceId
  externalSource := call.request.externalSource
  senderPath := call.sender.path
  senderEndpoint := call.sender.appEndpoint

def deliveryRow (recipient : MessagePrincipal) (position : Nat) : DeliveryRow where
  deliveryId := "dlv_" ++ environment.uuid (position + 1)
  messageId := messageId environment
  workspaceId := call.workspaceId
  recipientKind := recipient.kind
  recipientId := recipient.id
  recipientName := recipient.name
  recipientRole := recipient.role
  position := position
  createdAt := createdAt environment
  acknowledgedAt := none
  expiresAt := call.request.expiresAt
  recipientPath := recipient.path
  recipientEndpoint := recipient.appEndpoint.getD ""

def deliveryRows : List DeliveryRow :=
  call.recipients.zipIdx.map fun (recipient, position) =>
    call.deliveryRow environment recipient position

def contextRows : List ContextRow :=
  call.request.contextIds.zipIdx.map fun (contextId, position) => {
    messageId := messageId environment
    workspaceId := call.workspaceId
    contextMessageId := contextId
    position := position }

def deliveryIds : List String :=
  (call.deliveryRows environment).map DeliveryRow.deliveryId

/-- The `message.created` event. -/
def createdEvent : DomainEventEnvelope where
  eventId := "evt_" ++ environment.uuid (call.recipients.length + 1)
  schemaVersion := domainEventSchemaVersion
  organizationId := none
  workspaceId := call.workspaceId
  actorKind := call.sender.kind.asStr
  actorId := some call.sender.id
  action := "message.created"
  resourceKind := "message"
  resourceId := messageId environment
  occurredAt := createdAt environment
  traceId := call.request.traceId
  causationId := none
  correlationId := call.request.correlationId
  workspaceRevision := call.policyRevision
  payload := .created (messageId environment) (call.deliveryIds environment)
    call.request.contextIds (call.recipients.map MessagePrincipal.id)

end

section
variable {Digest : Type} [DecidableEq Digest] (requestHash : List JsonToken → Digest)
  (environment : Environment) (call : SendCall)

/-- The digest the idempotency record is compared by. -/
def hash : Digest := requestHash (serialize call.fingerprint)

def idempotencyRow (key : String) : IdempotencyRow Digest where
  workspaceId := call.workspaceId
  senderKind := call.sender.kind
  senderId := call.sender.id
  idempotencyKey := key
  requestHash := call.hash requestHash
  messageId := messageId environment
  createdAt := createdAt environment

/-- The idempotency record of a call that carries a key. -/
def idempotencyRows : List (IdempotencyRow Digest) :=
  call.request.idempotencyKey.toList.map (call.idempotencyRow requestHash environment)

/-- The error of a key that was used for another request. -/
def conflict : MessageStoreError :=
  .contract "message_idempotency_conflict"
    "idempotency key was already used for a different message"

/-- The branch that finds the key: compare the digests and load the message. -/
def replay (row : IdempotencyRow Digest) : StoreTx Digest SendMessageResponse := do
  Tx.failIf (row.requestHash != call.hash requestHash) conflict
  let message ← environment.loadMessage 0 call.workspaceId row.messageId
  let deliveryIds ← environment.query (.selectDeliveries 0) fun db =>
    db.deliveryIds call.workspaceId row.messageId
  environment.commit
  pure { message, deliveryIds, idempotentReplay := true }

/-- The rest of the function: check the contexts and insert everything. -/
def create : StoreTx Digest SendMessageResponse := do
  Tx.requireAll (fun index => environment.down (.checkContext 0 index)) .database
    (.contract "message_context_not_found" "a context message does not exist or is not visible")
    (fun contextId db => db.visible call.workspaceId contextId call.sender.kind call.sender.id)
    0 call.request.contextIds
  environment.execute (.insertMessage 0) (insertMessage (call.messageRow environment))
  Tx.executeAll (fun index => environment.down (.insertDelivery 0 index)) .database
    insertDelivery 0 (call.deliveryRows environment)
  Tx.executeAll (fun index => environment.down (.insertContext 0 index)) .database
    insertContext 0 (call.contextRows environment)
  Tx.executeAll (fun _ => environment.down .insertIdempotency) .database
    insertIdempotency 0 (call.idempotencyRows requestHash environment)
  environment.execute (.insertOutbox 0) (insertOutbox (call.createdEvent environment))
  let message ← environment.loadMessage 0 call.workspaceId (messageId environment)
  environment.commit
  pure { message, deliveryIds := call.deliveryIds environment, idempotentReplay := false }

/-- The transaction of `send_with_policy_revision`. -/
def transaction : StoreTx Digest SendMessageResponse := do
  Tx.lift (call.validate (environment.clock 0))
  environment.check .begin
  match call.request.idempotencyKey with
  | none => call.create requestHash environment
  | some key =>
    environment.check .lock
    let found ← environment.query .lookup fun db => db.idempotency.find? (call.scope key)
    match found with
    | some row => call.replay requestHash environment row
    | none => call.create requestHash environment

end
end SendCall

def sendWithPolicyRevision {Digest : Type} [DecidableEq Digest]
    (requestHash : List JsonToken → Digest) (environment : Environment) (call : SendCall)
    (db : MessageDb Digest) : Except MessageStoreError SendMessageResponse × MessageDb Digest :=
  (call.transaction requestHash environment).run db

namespace SendCall

variable {Digest : Type} {requestHash : List JsonToken → Digest}
  {environment : Environment} {call : SendCall}
variable {response : SendMessageResponse}

/-- A send that inserted its message. -/
structure Created (requestHash : List JsonToken → Digest) (environment : Environment)
    (call : SendCall) (before : MessageDb Digest) (response : SendMessageResponse)
    (after : MessageDb Digest) : Prop where
  visible : ∀ contextId ∈ call.request.contextIds,
    before.visible call.workspaceId contextId call.sender.kind call.sender.id = true
  messages : after.messages.rows = before.messages.rows ++ [call.messageRow environment]
  deliveries : after.deliveries.rows = before.deliveries.rows ++ call.deliveryRows environment
  contexts : after.contexts.rows = before.contexts.rows ++ call.contextRows environment
  idempotency : after.idempotency.rows =
    before.idempotency.rows ++ call.idempotencyRows requestHash environment
  ackOperations : after.ackOperations = before.ackOperations
  importOperations : after.importOperations = before.importOperations
  outbox : after.outbox.rows = before.outbox.rows ++ [(call.createdEvent environment).outboxRow]
  loaded : after.loadMessage call.workspaceId (messageId environment) = .ok response.message
  deliveryIds : response.deliveryIds = call.deliveryIds environment
  original : response.idempotentReplay = false

/-- A send that found its key and returned the stored message. -/
structure Replayed (requestHash : List JsonToken → Digest) (call : SendCall)
    (db : MessageDb Digest) (response : SendMessageResponse) (row : IdempotencyRow Digest) :
    Prop where
  mem : row ∈ db.idempotency
  scope : call.request.idempotencyKey.map call.scope = some row.key
  hash : row.requestHash = call.hash requestHash
  loaded : db.loadMessage call.workspaceId row.messageId = .ok response.message
  deliveryIds : response.deliveryIds = db.deliveryIds call.workspaceId row.messageId
  replay : response.idempotentReplay = true

theorem created_of_succeeds {before after : Session (MessageDb Digest)}
    (succeeds : Tx.Succeeds (call.create requestHash environment) before response after) :
    Created requestHash environment call before.working response after.committed := by
  simp [create, commit_eq] at succeeds
  rcases succeeds with ⟨_, _, contextsChecked, _, ⟨_, messageWritten⟩, _, _, deliveriesWritten,
    _, _, contextsWritten, _, _, recordWritten, _, ⟨_, eventWritten⟩, _, ⟨_, loaded⟩, ⟨_, rfl⟩, rfl⟩
  rcases contextsChecked.forall_of_requireAll with ⟨visible, rfl⟩
  rcases deliveriesWritten.foldlM_of_executeAll with ⟨_, deliveriesEq, rfl⟩
  rcases contextsWritten.foldlM_of_executeAll with ⟨_, contextsEq, rfl⟩
  rcases recordWritten.foldlM_of_executeAll with ⟨_, recordEq, rfl⟩
  rcases Table.of_map_insert? messageWritten with ⟨messages, messageRows, rfl⟩
  rcases insertDeliveries_eq_some deliveriesEq with ⟨deliveries, deliveryRows, rfl⟩
  rcases insertContexts_eq_some contextsEq with ⟨contexts, contextRows, rfl⟩
  rcases insertIdempotencies_eq_some recordEq with ⟨_, recordRows, rfl⟩
  rcases Table.of_map_insert? eventWritten with ⟨outbox, outboxRows, rfl⟩
  exact {
    visible := visible
    messages := messageRows
    deliveries := deliveryRows
    contexts := contextRows
    idempotency := recordRows
    ackOperations := rfl
    importOperations := rfl
    outbox := outboxRows
    loaded := loaded
    deliveryIds := rfl
    original := rfl }

variable [DecidableEq Digest]

theorem replayed_of_succeeds {before after : Session (MessageDb Digest)}
    {row : IdempotencyRow Digest} {key : String}
    (keyEq : call.request.idempotencyKey = some key)
    (found : before.working.idempotency.find? (call.scope key) = some row)
    (succeeds : Tx.Succeeds (call.replay requestHash environment row) before response after) :
    Replayed requestHash call before.working response row ∧ after.committed = before.working := by
  simp [replay, commit_eq] at succeeds
  rcases succeeds with ⟨sameHash, _, ⟨_, loaded⟩, _, ⟨_, rfl⟩, rfl⟩
  rcases Table.find?_eq_some_iff.mp found with ⟨rowMem, rowKey⟩
  refine ⟨?_, rfl⟩
  exact {
    mem := rowMem
    scope := by rw [keyEq, rowKey]; rfl
    hash := sameHash
    loaded := loaded
    deliveryIds := rfl
    replay := rfl }

/-- A successful send replays a stored message and changes nothing, or finds its key unused and
inserts its message. -/
theorem cases_of_ok {before after : MessageDb Digest}
    (sent : sendWithPolicyRevision requestHash environment call before = (.ok response, after)) :
    call.validate (environment.clock 0) = .ok () ∧
      ((∃ row, Replayed requestHash call before response row) ∧ after = before ∨
        (∀ key, call.request.idempotencyKey = some key →
          ∀ row ∈ before.idempotency, row.key ≠ call.scope key) ∧
        Created requestHash environment call before response after) := by
  rcases Tx.run_eq_ok sent with ⟨_, succeeds, rfl⟩
  simp [transaction] at succeeds
  rcases succeeds with ⟨⟨_, valid⟩, _, body⟩
  refine ⟨valid, ?_⟩
  cases keyEq : call.request.idempotencyKey with
  | none =>
    rw [keyEq] at body
    exact .inr ⟨by simp, created_of_succeeds body⟩
  | some =>
    rw [keyEq] at body
    simp at body
    rcases body with ⟨_, _, branch⟩
    split at branch
    · rename_i row foundEq
      rcases replayed_of_succeeds keyEq foundEq branch with ⟨replayed, afterEq⟩
      exact .inl ⟨⟨row, replayed⟩, afterEq⟩
    · rename_i foundEq
      refine .inr ⟨?_, created_of_succeeds branch⟩
      rintro _ ⟨⟩
      exact Table.find?_eq_none_iff.mp foundEq

/-- A failed send leaves every table as it was. -/
theorem eq_of_error {before after : MessageDb Digest} {error : MessageStoreError}
    (failed : sendWithPolicyRevision requestHash environment call before =
      (.error error, after)) : after = before := by
  refine Tx.RollsBack.run_eq_error ?_ failed
  have created : Tx.RollsBack (call.create requestHash environment) := by
    repeat refine .bind (by simp) fun _ => ?_
    exact Tx.rollsBack_publish_pure
  repeat refine .bind (by simp) fun _ => ?_
  split
  · exact created
  repeat refine .bind (by simp) fun _ => ?_
  split
  · repeat refine .bind (by simp) fun _ => ?_
    exact Tx.rollsBack_publish_pure
  · exact created

end SendCall
end Treer.Message
