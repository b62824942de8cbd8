import Treer.Message.Store
import Treer.Message.Validation

/-!
# Importing legacy mail

`import_legacy_mail` takes a batch of messages whose IDs and contexts the
caller chose. A message that is already stored must agree with the batch; any
other one is inserted, provided the messages it refers to are stored by then.
`sha256Hex` stands for the hexadecimal SHA-256 behind legacy delivery IDs.
-/

namespace Treer.Message

open Foundation Environment MessageDb

/-- The arguments of one `import_legacy_mail`. -/
structure ImportCall where
  workspaceId : String
  importer : MessagePrincipal
  request : ImportMessagesRequest

namespace LegacyMailMessage

def legacyDeliveryId (sha256Hex : List UInt8 → String) (workspaceId messageId : String)
    (recipient : MessagePrincipal) : String :=
  "dlv_legacy_" ++ sha256Hex
    (workspaceId.toUTF8.toList ++ [0] ++ messageId.toUTF8.toList ++ [0] ++
      recipient.kind.asStr.toUTF8.toList ++ [0] ++ recipient.id.toUTF8.toList)

variable (message : LegacyMailMessage)

def messageRow : MessageRow where
  messageId := message.messageId
  workspaceId := message.workspaceId
  senderKind := message.sender.kind
  senderId := message.sender.id
  senderName := message.sender.name
  senderRole := message.sender.role
  body := message.body
  createdAt := message.createdAt
  expiresAt := none
  correlationId := none
  traceId := none
  externalSource := none
  senderPath := message.sender.path
  senderEndpoint := none

def deliveryRow (sha256Hex : List UInt8 → String) (message : LegacyMailMessage)
    (recipient : LegacyMailRecipient) : DeliveryRow where
  deliveryId := legacyDeliveryId sha256Hex message.workspaceId message.messageId recipient.principal
  messageId := message.messageId
  workspaceId := message.workspaceId
  recipientKind := recipient.principal.kind
  recipientId := recipient.principal.id
  recipientName := recipient.principal.name
  recipientRole := recipient.principal.role
  position := recipient.position.val
  createdAt := message.createdAt
  acknowledgedAt := recipient.readAt
  expiresAt := none
  recipientPath := recipient.principal.path
  recipientEndpoint := ""

def deliveryRows (sha256Hex : List UInt8 → String) (message : LegacyMailMessage) :
    List DeliveryRow :=
  message.recipients.map (message.deliveryRow sha256Hex)

def contextRows : List ContextRow :=
  message.contextIds.zipIdx.map fun (contextId, position) => {
    messageId := message.messageId
    workspaceId := message.workspaceId
    contextMessageId := contextId
    position := position }

/-- `expected_recipients.sort_by_key(|recipient| recipient.position)`. -/
def sortedRecipients : List LegacyMailRecipient :=
  message.recipients.insertionSort fun first second => first.position ≤ second.position

/-- The first comparison of `legacy_message_matches`. -/
def fieldsMatch (expected : LegacyMailMessage) (actual : CoreMessage) : Bool :=
  actual.workspaceId == expected.workspaceId && actual.messageId == expected.messageId &&
    actual.sender == expected.sender &&
    actual.recipients == expected.sortedRecipients.map LegacyMailRecipient.principal &&
    actual.contextIds == expected.contextIds && actual.body == expected.body &&
    actual.createdAt == expected.createdAt && actual.expiresAt.isNone &&
    actual.correlationId.isNone && actual.traceId.isNone && actual.externalSource.isNone

/-- The second comparison of `legacy_message_matches`. -/
def deliveriesMatch (expected : LegacyMailMessage) (rows : List DeliveryRow) : Bool :=
  rows.length == expected.sortedRecipients.length &&
    (rows.zip expected.sortedRecipients).all fun (row, recipient) =>
      recipientOf row == recipient.principal &&
        row.position == recipient.position.val && row.acknowledgedAt == recipient.readAt

section
variable {Digest : Type} (sha256Hex : List UInt8 → String) (environment : Environment)

def legacyMessageMatches (index : Nat) (expected : LegacyMailMessage) : StoreTx Digest Bool := do
  let actual ← environment.loadMessage index expected.workspaceId expected.messageId
  if !expected.fieldsMatch actual then pure false
  else do
    let rows ← environment.query (.selectDeliveries index) fun db =>
      db.deliveriesOf expected.workspaceId expected.messageId
    pure (expected.deliveriesMatch rows)

def insertLegacyMessage (index : Nat) (message : LegacyMailMessage) : StoreTx Digest Unit := do
  environment.execute (.insertMessage index) (insertMessage message.messageRow)
  Tx.executeAll (fun recipient => environment.down (.insertDelivery index recipient)) .database
    insertDelivery 0 (message.deliveryRows sha256Hex)
  Tx.executeAll (fun context => environment.down (.insertContext index context)) .database
    insertContext 0 message.contextRows

end
end LegacyMailMessage

open LegacyMailMessage

namespace ImportCall

section
variable {Digest : Type} [DecidableEq Digest] (requestHash : List JsonToken → Digest)
  (sha256Hex : List UInt8 → String) (environment : Environment) (call : ImportCall)

def hash : Digest := requestHash (serialize call.request.messages)

/-- The loop over the batch. The set `seen` of the source holds the same IDs as
`response.messageIds`. -/
def importAll :
    Nat → ImportMessagesResponse → List LegacyMailMessage → StoreTx Digest ImportMessagesResponse
  | _, response, [] => pure response
  | index, response, message :: rest => do
    Tx.lift (validateLegacyMessage call.workspaceId message)
    Tx.failIf (response.messageIds.contains message.messageId)
      (.contract "message_import_duplicate" "import batch contains a duplicate message ID")
    let present ← environment.query (.messageExists index) fun db =>
      db.messageExists call.workspaceId message.messageId
    if present then do
      let agrees ← legacyMessageMatches environment index message
      Tx.failIf (!agrees)
        (.contract "message_import_conflict"
          "an imported Message ID already exists with different data")
      importAll (index + 1)
        { response with
          existing := response.existing + 1
          messageIds := response.messageIds ++ [message.messageId] } rest
    else do
      Tx.requireAll (fun context => environment.down (.checkContext index context)) .database
        (.contract "message_import_not_topological"
          "legacy messages must be imported in topological order")
        (fun contextId db => db.messageExists call.workspaceId contextId)
        0 message.contextIds
      insertLegacyMessage sha256Hex environment index message
      importAll (index + 1)
        { response with
          imported := response.imported + 1
          messageIds := response.messageIds ++ [message.messageId] } rest

def operationRow (response : ImportMessagesResponse) : ImportOperationRow Digest where
  workspaceId := call.workspaceId
  operationId := call.request.operationId
  requestHash := call.hash requestHash
  response := response
  createdAt := environment.clock 0
  actorKind := call.importer.kind
  actorId := call.importer.id

/-- The `message.imported` event. -/
def importedEvent (response : ImportMessagesResponse) : DomainEventEnvelope where
  eventId := "evt_" ++ environment.uuid 0
  schemaVersion := domainEventSchemaVersion
  organizationId := none
  workspaceId := call.workspaceId
  actorKind := call.importer.kind.asStr
  actorId := some call.importer.id
  action := "message.imported"
  resourceKind := "message.import"
  resourceId := call.request.operationId
  occurredAt := environment.clock 0
  traceId := none
  causationId := none
  correlationId := some call.request.operationId
  workspaceRevision := none
  payload := .imported response.imported response.existing

/-- The transaction of `import_legacy_mail`. -/
def transaction : StoreTx Digest ImportMessagesResponse := do
  Tx.lift (validateImport call.workspaceId call.request)
  environment.check .begin
  environment.check .lock
  let found ← environment.query .lookup fun db =>
    db.importOperations.find? (call.workspaceId, call.request.operationId)
  match found with
  | some row =>
    Tx.failIf (row.requestHash != call.hash requestHash)
      (.contract "message_import_idempotency_conflict"
        "import operation ID was used for different data")
    environment.commit
    pure row.response
  | none =>
    let response ← call.importAll sha256Hex environment 0 ⟨0, 0, []⟩ call.request.messages
    environment.execute .insertOperation
      (insertImportOperation (call.operationRow requestHash environment response))
    environment.execute (.insertOutbox 0) (insertOutbox (call.importedEvent environment response))
    environment.commit
    pure response

end
end ImportCall

def importLegacyMail {Digest : Type} [DecidableEq Digest]
    (requestHash : List JsonToken → Digest) (sha256Hex : List UInt8 → String)
    (environment : Environment) (call : ImportCall) (db : MessageDb Digest) :
    Except MessageStoreError ImportMessagesResponse × MessageDb Digest :=
  (call.transaction requestHash sha256Hex environment).run db

namespace ImportCall

variable {Digest : Type} {requestHash : List JsonToken → Digest}
  {sha256Hex : List UInt8 → String} {environment : Environment} {call : ImportCall}

/-! ## What an import does -/

variable {index : Nat} {response : ImportMessagesResponse}

/-- One message of a batch was inserted. -/
structure Inserted (sha256Hex : List UInt8 → String) (workspaceId : String)
    (message : LegacyMailMessage) (before after : MessageDb Digest) : Prop where
  contextsExist : ∀ contextId ∈ message.contextIds,
    before.messageExists workspaceId contextId = true
  messages : after.messages.rows = before.messages.rows ++ [message.messageRow]
  deliveries : after.deliveries.rows = before.deliveries.rows ++ message.deliveryRows sha256Hex
  contexts : after.contexts.rows = before.contexts.rows ++ message.contextRows
  rest : after = { before with
    messages := after.messages, deliveries := after.deliveries, contexts := after.contexts }

/-- A finished walk over a batch. -/
inductive Walk (sha256Hex : List UInt8 → String) (workspaceId : String) :
    MessageDb Digest → List LegacyMailMessage → MessageDb Digest → Prop where
  | nil (db : MessageDb Digest) : Walk sha256Hex workspaceId db [] db
  | existing {db after message rest}
      (present : db.messageExists workspaceId message.messageId = true)
      (next : Walk sha256Hex workspaceId db rest after) :
      Walk sha256Hex workspaceId db (message :: rest) after
  | inserted {db middle after message rest}
      (inserted : Inserted sha256Hex workspaceId message db middle)
      (next : Walk sha256Hex workspaceId middle rest after) :
      Walk sha256Hex workspaceId db (message :: rest) after

variable {message : LegacyMailMessage}

theorem inserted_of_succeeds {before after : Session (MessageDb Digest)} {result : Unit}
    {workspaceId : String}
    (contextsExist : ∀ contextId ∈ message.contextIds,
      before.working.messageExists workspaceId contextId = true)
    (succeeds : Tx.Succeeds
      (insertLegacyMessage sha256Hex environment index message)
      before result after) :
    Inserted sha256Hex workspaceId message before.working after.working := by
  simp [insertLegacyMessage] at succeeds
  rcases succeeds with ⟨_, ⟨_, messageWritten⟩, _, _, deliveriesWritten, contextsWritten⟩
  rcases deliveriesWritten.foldlM_of_executeAll with ⟨_, deliveriesEq, rfl⟩
  rcases contextsWritten.foldlM_of_executeAll with ⟨_, contextsEq, rfl⟩
  rcases Table.of_map_insert? messageWritten with ⟨_, messageRows, rfl⟩
  rcases insertDeliveries_eq_some deliveriesEq with ⟨_, deliveryRows, rfl⟩
  rcases insertContexts_eq_some contextsEq with ⟨_, contextRows, rfl⟩
  exact ⟨contextsExist, messageRows, deliveryRows, contextRows, rfl⟩

theorem succeeds_legacyMessageMatches {before after : Session (MessageDb Digest)} {agrees : Bool}
    (succeeds : Tx.Succeeds (legacyMessageMatches environment index message)
      before agrees after) : before = after := by
  simp [legacyMessageMatches] at succeeds
  rcases succeeds with ⟨_, _, branch⟩
  split at branch
  · exact (Tx.succeeds_pure.mp branch).2
  · simp at branch
    exact branch.1.2

variable {messages : List LegacyMailMessage}

theorem walk_of_succeeds {before after : Session (MessageDb Digest)}
    {result : ImportMessagesResponse}
    (succeeds : Tx.Succeeds (call.importAll sha256Hex environment index response messages)
      before result after) :
    Walk sha256Hex call.workspaceId before.working messages after.working := by
  induction messages generalizing index response before with
  | nil =>
    rcases succeeds with ⟨_, rfl⟩
    exact .nil _
  | cons message rest ih =>
    simp [importAll] at succeeds
    rcases succeeds with ⟨_, _, ⟨_, _, _, checked, _, _, written, branch⟩ | branch⟩
    · rcases checked.forall_of_requireAll with ⟨contextsExist, rfl⟩
      exact .inserted (inserted_of_succeeds contextsExist written) (ih branch)
    · rcases branch with ⟨⟨_, present⟩, _, compared, branch⟩
      cases succeeds_legacyMessageMatches compared
      exact .existing present (ih branch)

theorem noCommit_importAll :
    Tx.NoCommit (call.importAll sha256Hex environment index response messages :
      StoreTx Digest ImportMessagesResponse) := by
  induction messages generalizing index response with
  | nil => exact Tx.noCommit_pure
  | cons message rest ih =>
    have compares : Tx.NoCommit (legacyMessageMatches environment index
        message : StoreTx Digest Bool) := by
      refine .bind (by simp) fun actual => ?_
      split <;> simp
    repeat refine .bind (by simp) fun _ => ?_
    split
    · simp [compares, ih]
    · repeat refine .bind (by simp [insertLegacyMessage]) fun _ => ?_
      exact ih

/-- The import was recorded before, for the same batch. -/
structure Replayed (requestHash : List JsonToken → Digest) (call : ImportCall)
    (db : MessageDb Digest) (response : ImportMessagesResponse)
    (row : ImportOperationRow Digest) : Prop where
  mem : row ∈ db.importOperations
  scope : row.key = (call.workspaceId, call.request.operationId)
  hash : row.requestHash = call.hash requestHash
  response : row.response = response

/-- The import was carried out, recorded and announced. -/
structure Performed (requestHash : List JsonToken → Digest) (sha256Hex : List UInt8 → String)
    (environment : Environment) (call : ImportCall) (before : MessageDb Digest)
    (response : ImportMessagesResponse) (walked recorded after : MessageDb Digest) : Prop where
  walk : Walk sha256Hex call.workspaceId before call.request.messages walked
  record : walked.insertImportOperation (call.operationRow requestHash environment response) =
    some recorded
  announce : recorded.insertOutbox (call.importedEvent environment response) = some after

variable [DecidableEq Digest]

/-- A successful import repeats a recorded response and changes nothing, or walks its batch and
records its response. -/
theorem cases_of_ok {before after : MessageDb Digest}
    (done : importLegacyMail requestHash sha256Hex environment call before =
      (.ok response, after)) :
    validateImport call.workspaceId call.request = .ok () ∧
      ((∃ row, Replayed requestHash call before response row) ∧ after = before ∨
        ∃ walked recorded, Performed requestHash sha256Hex environment call before response
          walked recorded after) := by
  rcases Tx.run_eq_ok done with ⟨_, succeeds, rfl⟩
  simp [transaction] at succeeds
  rcases succeeds with ⟨⟨_, valid⟩, _, _, _, branch⟩
  refine ⟨valid, ?_⟩
  split at branch
  · rename_i row foundEq
    simp [commit_eq] at branch
    rcases branch with ⟨sameHash, ⟨_, rfl⟩, responseEq⟩
    rcases Table.find?_eq_some_iff.mp foundEq with ⟨rowMem, rowKey⟩
    exact .inl ⟨⟨row, rowMem, rowKey, sameHash, responseEq⟩, rfl⟩
  · simp [commit_eq] at branch
    rcases branch with ⟨walked, loop, recorded, ⟨_, recordedEq⟩, _, ⟨_, announcedEq⟩, _, rfl⟩
    exact .inr ⟨walked.working, recorded, walk_of_succeeds loop, recordedEq, announcedEq⟩

/-- A failed import leaves every table as it was. -/
theorem eq_of_error {before after : MessageDb Digest} {error : MessageStoreError}
    (failed : importLegacyMail requestHash sha256Hex environment call before =
      (.error error, after)) : after = before := by
  refine Tx.RollsBack.run_eq_error ?_ failed
  repeat refine .bind (by simp) fun _ => ?_
  split
  · simp [commit_eq]
  · repeat refine .bind (by simp [noCommit_importAll]) fun _ => ?_
    simp [commit_eq]

end ImportCall
end Treer.Message
