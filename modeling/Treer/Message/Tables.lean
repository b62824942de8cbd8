import Treer.Foundation.Table
import Treer.Message.Protocol
import Mathlib.Data.List.Sort

/-!
# Tables of the message store

The seven tables of the schema in `message_store.rs`, each keyed by its primary
key. A statement that would violate a unique or foreign key constraint is
refused. Columns restricted by a `CHECK` to the principal kinds hold the
enumeration, and timestamp columns hold the timestamp their text denotes.
-/

namespace Treer.Message

open Foundation Table

/-- A row of `core_messages`. -/
structure MessageRow where
  (messageId workspaceId : String)
  senderKind : MessagePrincipalKind
  (senderId senderName : String)
  senderRole : Option String
  body : String
  createdAt : DateTime
  expiresAt : Option DateTime
  (correlationId traceId : Option String)
  externalSource : Option MessageExternalSource
  (senderPath senderEndpoint : Option String)
  deriving DecidableEq

/-- A row of `core_message_deliveries`. -/
structure DeliveryRow where
  (deliveryId messageId workspaceId : String)
  recipientKind : MessagePrincipalKind
  (recipientId recipientName : String)
  recipientRole : Option String
  position : Nat
  createdAt : DateTime
  (acknowledgedAt expiresAt : Option DateTime)
  recipientPath : Option String
  recipientEndpoint : String

/-- A row of `core_message_contexts`. -/
structure ContextRow where
  (messageId workspaceId contextMessageId : String)
  position : Nat

/-- A row of `core_message_idempotency`. -/
structure IdempotencyRow (Digest : Type) where
  workspaceId : String
  senderKind : MessagePrincipalKind
  (senderId idempotencyKey : String)
  requestHash : Digest
  messageId : String
  createdAt : DateTime

/-- A row of `core_message_ack_operations`. -/
structure AckOperationRow (Digest : Type) where
  workspaceId : String
  principalKind : MessagePrincipalKind
  (principalId operationId : String)
  requestHash : Digest
  response : AcknowledgeMessagesResponse
  createdAt : DateTime

/-- A row of `core_message_import_operations`. -/
structure ImportOperationRow (Digest : Type) where
  (workspaceId operationId : String)
  requestHash : Digest
  response : ImportMessagesResponse
  createdAt : DateTime
  actorKind : MessagePrincipalKind
  actorId : String

/-- The JSON payloads the store attaches to its events. -/
inductive EventPayload where
  | created (messageId : String) (deliveryIds contextIds recipientIds : List String)
  | acknowledged (deliveryId messageId : String)
  | imported (imported existing : Nat)

/-- `DomainEventEnvelope`; `actor` and `resource` are flattened. -/
structure DomainEventEnvelope where
  eventId : String
  schemaVersion : Nat
  organizationId : Option String
  (workspaceId actorKind : String)
  actorId : Option String
  (action resourceKind resourceId : String)
  occurredAt : DateTime
  (traceId causationId correlationId : Option String)
  workspaceRevision : Option Nat
  payload : EventPayload

/-- A row of `core_message_outbox`. -/
structure OutboxRow where
  (eventId workspaceId action : String)
  envelope : DomainEventEnvelope
  createdAt : DateTime
  dispatchedAt : Option DateTime
  attempts : Nat

/-- The row `insert_outbox` writes. -/
def DomainEventEnvelope.outboxRow (envelope : DomainEventEnvelope) : OutboxRow where
  eventId := envelope.eventId
  workspaceId := envelope.workspaceId
  action := envelope.action
  envelope := envelope
  createdAt := envelope.occurredAt
  dispatchedAt := none
  attempts := 0

/-- `PRIMARY KEY(workspace_id, message_id)`. -/
def MessageRow.key (row : MessageRow) : String × String :=
  (row.workspaceId, row.messageId)

/-- `PRIMARY KEY(workspace_id, message_id, context_message_id)`. -/
def ContextRow.key (row : ContextRow) : String × String × String :=
  (row.workspaceId, row.messageId, row.contextMessageId)

/-- `PRIMARY KEY(workspace_id, sender_kind, sender_id, idempotency_key)`. -/
def IdempotencyRow.key {Digest : Type} (row : IdempotencyRow Digest) :
    String × MessagePrincipalKind × String × String :=
  (row.workspaceId, row.senderKind, row.senderId, row.idempotencyKey)

/-- `PRIMARY KEY(workspace_id, principal_kind, principal_id, operation_id)`. -/
def AckOperationRow.key {Digest : Type} (row : AckOperationRow Digest) :
    String × MessagePrincipalKind × String × String :=
  (row.workspaceId, row.principalKind, row.principalId, row.operationId)

/-- `PRIMARY KEY(workspace_id, operation_id)`. -/
def ImportOperationRow.key {Digest : Type} (row : ImportOperationRow Digest) : String × String :=
  (row.workspaceId, row.operationId)

/-- The database behind one `MessageStore`. -/
structure MessageDb (Digest : Type) where
  messages : Table MessageRow MessageRow.key
  deliveries : Table DeliveryRow DeliveryRow.deliveryId
  contexts : Table ContextRow ContextRow.key
  idempotency : Table (IdempotencyRow Digest) IdempotencyRow.key
  ackOperations : Table (AckOperationRow Digest) AckOperationRow.key
  importOperations : Table (ImportOperationRow Digest) ImportOperationRow.key
  outbox : Table OutboxRow OutboxRow.eventId

namespace MessageDb

variable {Digest : Type} {db : MessageDb Digest} {workspaceId messageId : String}

/-- The schema right after `initialize`. -/
def empty : MessageDb Digest :=
  ⟨.empty, .empty, .empty, .empty, .empty, .empty, .empty⟩

/-- `SELECT EXISTS(... core_messages WHERE workspace_id = $1 AND message_id = $2)`. -/
def messageExists (db : MessageDb Digest) (workspaceId messageId : String) : Bool :=
  (db.messages.find? (workspaceId, messageId)).isSome

theorem messageExists_iff : db.messageExists workspaceId messageId = true ↔
      ∃ row ∈ db.messages, row.workspaceId = workspaceId ∧ row.messageId = messageId := by
  rw [messageExists, Option.isSome_iff_exists]
  simp only [find?_eq_some_iff, MessageRow.key, Prod.mk.injEq]

/-- The test of the context check of a send and of `ensure_visible`: the principal sent the message
or received it. -/
def visible (db : MessageDb Digest) (workspaceId messageId : String)
    (kind : MessagePrincipalKind) (id : String) : Bool :=
  db.messages.rows.any fun message =>
    message.workspaceId == workspaceId && message.messageId == messageId &&
      ((message.senderKind == kind && message.senderId == id) ||
        db.deliveries.rows.any fun delivery =>
          delivery.workspaceId == message.workspaceId &&
            delivery.messageId == message.messageId &&
            delivery.recipientKind == kind && delivery.recipientId == id)

/-- The principal sent or received the message. -/
def SentOrReceived (db : MessageDb Digest) (workspaceId messageId : String)
    (kind : MessagePrincipalKind) (id : String) : Prop :=
  (∃ message ∈ db.messages, message.workspaceId = workspaceId ∧
      message.messageId = messageId ∧ message.senderKind = kind ∧ message.senderId = id) ∨
    ∃ delivery ∈ db.deliveries, delivery.workspaceId = workspaceId ∧
      delivery.messageId = messageId ∧ delivery.recipientKind = kind ∧
      delivery.recipientId = id

theorem exists_of_visible {id : String}
    {kind : MessagePrincipalKind} (seen : db.visible workspaceId messageId kind id = true) :
    (∃ message ∈ db.messages, message.workspaceId = workspaceId ∧
      message.messageId = messageId) ∧
      db.SentOrReceived workspaceId messageId kind id := by
  simp only [visible, List.any_eq_true, Bool.and_eq_true, Bool.or_eq_true, beq_iff_eq,
    mem_rows] at seen
  rcases seen with ⟨message, messageMem, ⟨rfl, rfl⟩, party⟩
  refine ⟨⟨message, messageMem, rfl, rfl⟩, ?_⟩
  rcases party with ⟨kindEq, idEq⟩ | ⟨delivery, deliveryMem, fields⟩
  · exact .inl ⟨message, messageMem, rfl, rfl, kindEq, idEq⟩
  · rcases fields with ⟨⟨⟨workspaceEq, messageEq⟩, kindEq⟩, idEq⟩
    exact .inr ⟨delivery, deliveryMem, workspaceEq, messageEq, kindEq, idEq⟩

/-- `... core_message_deliveries WHERE workspace_id = $1 AND message_id = $2
ORDER BY position`. -/
def deliveriesOf (db : MessageDb Digest) (workspaceId messageId : String) : List DeliveryRow :=
  (db.deliveries.rows.filter fun row =>
    row.workspaceId == workspaceId && row.messageId == messageId).insertionSort
      fun first second => first.position ≤ second.position

/-- `... core_message_contexts WHERE workspace_id = $1 AND message_id = $2
ORDER BY position`. -/
def contextsOf (db : MessageDb Digest) (workspaceId messageId : String) : List ContextRow :=
  (db.contexts.rows.filter fun row =>
    row.workspaceId == workspaceId && row.messageId == messageId).insertionSort
      fun first second => first.position ≤ second.position

def deliveryIds (db : MessageDb Digest) (workspaceId messageId : String) : List String :=
  (db.deliveriesOf workspaceId messageId).map DeliveryRow.deliveryId

def principalFromColumns (kind : MessagePrincipalKind) (id name : String)
    (role path appEndpoint : Option String) : MessagePrincipal where
  appEndpoint := appEndpoint.filter fun key => key != ""
  path := path
  kind := kind
  id := id
  name := name
  role := role

/-- The recipient a delivery row stands for. -/
def recipientOf (row : DeliveryRow) : MessagePrincipal :=
  principalFromColumns row.recipientKind row.recipientId row.recipientName row.recipientRole
    row.recipientPath (some row.recipientEndpoint)

def loadMessage (db : MessageDb Digest) (workspaceId messageId : String) :
    Except MessageStoreError CoreMessage :=
  match db.messages.find? (workspaceId, messageId) with
  | none => .error (.contract "message_not_found" "message does not exist")
  | some row => .ok {
      schemaVersion := messageSchemaVersion
      messageId := row.messageId
      workspaceId := row.workspaceId
      sender := principalFromColumns row.senderKind row.senderId row.senderName row.senderRole
        row.senderPath row.senderEndpoint
      recipients := (db.deliveriesOf workspaceId messageId).map recipientOf
      contextIds := (db.contextsOf workspaceId messageId).map ContextRow.contextMessageId
      body := row.body
      createdAt := row.createdAt
      expiresAt := row.expiresAt
      correlationId := row.correlationId
      traceId := row.traceId
      externalSource := row.externalSource }

/-- A loaded message carries the identity it was asked for. -/
theorem messageId_of_loadMessage
    {message : CoreMessage} (loaded : db.loadMessage workspaceId messageId = .ok message) :
    message.messageId = messageId := by
  unfold loadMessage at loaded
  cases found : db.messages.find? (workspaceId, messageId) with
  | none =>
    rw [found] at loaded
    cases loaded
  | some =>
    rw [found] at loaded
    cases loaded
    have keyEq := (find?_eq_some_iff.mp found).2
    exact congrArg Prod.snd keyEq

def insertMessage (row : MessageRow) (db : MessageDb Digest) : Option (MessageDb Digest) :=
  (db.messages.insert? row).map fun messages => { db with messages }

/-- Besides the primary key: `UNIQUE(workspace_id, message_id, position)`, the
index `core_message_delivery_address`, and the message it belongs to. -/
def insertDelivery (row : DeliveryRow) (db : MessageDb Digest) : Option (MessageDb Digest) :=
  if db.messageExists row.workspaceId row.messageId &&
      db.deliveries.rows.all (fun other =>
        other.workspaceId != row.workspaceId || other.messageId != row.messageId ||
          (other.position != row.position &&
            (other.recipientKind != row.recipientKind || other.recipientId != row.recipientId ||
              other.recipientEndpoint != row.recipientEndpoint))) then
    (db.deliveries.insert? row).map fun deliveries => { db with deliveries }
  else none

/-- Besides the primary key: `UNIQUE(workspace_id, message_id, position)` and
both messages of the edge. -/
def insertContext (row : ContextRow) (db : MessageDb Digest) : Option (MessageDb Digest) :=
  if db.messageExists row.workspaceId row.messageId &&
      db.messageExists row.workspaceId row.contextMessageId &&
      db.contexts.rows.all (fun other =>
        other.workspaceId != row.workspaceId || other.messageId != row.messageId ||
          other.position != row.position) then
    (db.contexts.insert? row).map fun contexts => { db with contexts }
  else none

def insertIdempotency (row : IdempotencyRow Digest) (db : MessageDb Digest) :
    Option (MessageDb Digest) :=
  if db.messageExists row.workspaceId row.messageId then
    (db.idempotency.insert? row).map fun idempotency => { db with idempotency }
  else none

def insertAckOperation (row : AckOperationRow Digest) (db : MessageDb Digest) :
    Option (MessageDb Digest) :=
  (db.ackOperations.insert? row).map fun ackOperations => { db with ackOperations }

def insertImportOperation (row : ImportOperationRow Digest) (db : MessageDb Digest) :
    Option (MessageDb Digest) :=
  (db.importOperations.insert? row).map fun importOperations => { db with importOperations }

def insertOutbox (envelope : DomainEventEnvelope) (db : MessageDb Digest) :
    Option (MessageDb Digest) :=
  (db.outbox.insert? envelope.outboxRow).map fun outbox => { db with outbox }

section
variable {db next : MessageDb Digest}

theorem insertDeliveries_eq_some {rows : List DeliveryRow}
    (written : rows.foldlM (fun state row => insertDelivery row state) db = some next) :
    ∃ deliveries, deliveries.rows = db.deliveries.rows ++ rows ∧ next = { db with deliveries } := by
  refine foldlM_appends deliveries (fun state deliveries => { state with deliveries })
    (fun _ _ => rfl) (fun _ => rfl) (fun _ _ _ => rfl) ?_ written
  intro state row after added
  exact of_map_insert? (Option.ite_none_right_eq_some.mp added).2

theorem insertContexts_eq_some {rows : List ContextRow}
    (written : rows.foldlM (fun state row => insertContext row state) db = some next) :
    ∃ contexts, contexts.rows = db.contexts.rows ++ rows ∧ next = { db with contexts } := by
  refine foldlM_appends contexts (fun state contexts => { state with contexts })
    (fun _ _ => rfl) (fun _ => rfl) (fun _ _ _ => rfl) ?_ written
  intro state row after added
  exact of_map_insert? (Option.ite_none_right_eq_some.mp added).2

theorem insertIdempotencies_eq_some {rows : List (IdempotencyRow Digest)}
    (written : rows.foldlM (fun state row => insertIdempotency row state) db = some next) :
    ∃ idempotency, idempotency.rows = db.idempotency.rows ++ rows ∧
      next = { db with idempotency } := by
  refine foldlM_appends idempotency (fun state idempotency => { state with idempotency })
    (fun _ _ => rfl) (fun _ => rfl) (fun _ _ _ => rfl) ?_ written
  intro state row after added
  exact of_map_insert? (Option.ite_none_right_eq_some.mp added).2

end

/-- `UPDATE core_message_deliveries SET acknowledged_at = $1 WHERE workspace_id
= $2 AND delivery_id = $3`. -/
def acknowledgeDelivery (now : DateTime) (workspaceId deliveryId : String)
    (db : MessageDb Digest) : MessageDb Digest :=
  { db with
    deliveries := db.deliveries.update
      (fun row => row.workspaceId == workspaceId && row.deliveryId == deliveryId)
      (fun row => { row with acknowledgedAt := some now }) fun _ => rfl }

end MessageDb
end Treer.Message
