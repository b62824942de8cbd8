import Treer.Foundation.Outcome
import Treer.Message.Protocol

/-!
# Request validation of the message store

Every check of `message_store.rs` that runs before the database is touched, in
the order of the source and with its codes and texts. The expiry check is the
only one that reads the clock.
-/

namespace Treer.Message

open Foundation
variable {recipients : List MessagePrincipal}

def maxImportMessages : Nat := 1000

def maxAckDeliveries : Nat := 100

def maxMessageIdBytes : Nat := 256

def maxMessageSnapshotNameBytes : Nat := 256

def maxMessageSnapshotRoleBytes : Nat := 128

def maxMessageLineageIdBytes : Nat := 256

/-- `if condition { return Err(MessageStoreError::contract(code, message)) }`. -/
def refuseIf (condition : Bool) (code message : String) : Except MessageStoreError Unit :=
  if condition then .error (.contract code message) else .ok ()

@[simp]
theorem refuseIf_eq_ok_iff {condition : Bool} {code message : String} {value : Unit} :
    refuseIf condition code message = .ok value ↔ condition = false :=
  refuse_eq_ok_iff

variable (workspaceId : String)

def validateWorkspaceAndPrincipal (principal : MessagePrincipal) :
    Except MessageStoreError Unit := do
  refuseIf
    (workspaceId == "" || Text.len workspaceId > maxMessageIdBytes || principal.id == "" ||
      Text.hasControl workspaceId || Text.hasControl principal.id)
    "message_principal_invalid" "workspace and principal IDs must be non-empty and bounded"
  refuseIf
    (Text.len principal.id > maxMessageIdBytes ||
      principal.appEndpoint.any (fun key =>
        principal.kind != .agent || !validMessageAppEndpoint key) ||
      principal.name == "" || Text.len principal.name > maxMessageSnapshotNameBytes ||
      principal.path.any (fun path =>
        Text.len path > 4096 || !Text.startsWith path "/" || Text.hasControl path) ||
      Text.hasControl principal.name ||
      principal.role.any (fun role =>
        role == "" || Text.len role > maxMessageSnapshotRoleBytes || Text.hasControl role))
    "message_principal_invalid" "principal identity snapshot is invalid"

def validateExternalSource (source : MessageExternalSource) : Except MessageStoreError Unit :=
  refuseIf
    ([source.channel, source.conversationId, source.messageId].any
        (fun value => value == "" || Text.len value > 512) ||
      source.accountId.any (fun value => Text.len value > 512) ||
      source.metadata.length > maxMessageExternalMetadataEntries ||
      source.metadata.any (fun (key, value) =>
        key == "" || Text.len key > 128 || Text.len value > 1024))
    "message_external_source_invalid"
    "external source annotation is empty or exceeds its bounds"

/-- The correlation and trace IDs share one check. -/
def validateLineage (value : Option String) (label : String) : Except MessageStoreError Unit :=
  refuseIf
    (value.any fun value =>
      value == "" || Text.len value > maxMessageLineageIdBytes || Text.hasControl value)
    "message_lineage_invalid" s!"message {label} ID is empty or exceeds its bounds"

/-- The part of `validate_send` before its expiry check. -/
def validateSendShape (recipients : List MessagePrincipal) (request : SendMessageRequest) :
    Except MessageStoreError Unit := do
  refuseIf (Text.trim request.body == "" || Text.len request.body > maxMessageBodyBytes)
    "message_body_invalid" s!"message body must contain 1-{maxMessageBodyBytes} bytes"
  refuseIf (recipients.isEmpty || recipients.length > maxMessageRecipients)
    "message_recipients_invalid" s!"message must have 1-{maxMessageRecipients} recipients"
  refuseIf
    (recipients.length != request.recipients.length ||
      request.recipients.any fun target =>
        Text.trim target == "" || Text.len target > maxMessageIdBytes)
    "message_recipients_invalid" "resolved recipients do not match the bounded request targets"
  refuseIf (request.contextIds.length > maxMessageContexts)
    "message_contexts_invalid" s!"message may reference at most {maxMessageContexts} contexts"
  refuseIf
    (Text.hasDuplicates
      (recipients.map fun principal => (principal.kind, principal.id, principal.appEndpoint)))
    "message_recipients_duplicate" "message recipients must be unique"
  refuseIf
    (Text.hasDuplicates request.contextIds ||
      request.contextIds.any fun id => id == "" || Text.len id > 256)
    "message_contexts_invalid" "message context IDs must be unique, non-empty, and bounded"
  refuseIf
    (request.idempotencyKey.any fun key =>
      key == "" || Text.len key > maxMessageIdempotencyKeyBytes)
    "message_idempotency_key_invalid"
    s!"message idempotency key must contain 1-{maxMessageIdempotencyKeyBytes} bytes"
  validateLineage request.correlationId "correlation"
  validateLineage request.traceId "trace"

/-- `request.expires_at.is_some_and(|expires| expires <= Utc::now())`. -/
def expired (now : DateTime) (request : SendMessageRequest) : Bool :=
  request.expiresAt.any fun expires => expires ≤ now

/-- The error of a send whose expiry has passed. -/
def expiryError : MessageStoreError :=
  .contract "message_expiry_invalid" "message expiry must be in the future"

/-- The checks of `validate_send` after its expiry check. -/
def validateSendParties (recipients : List MessagePrincipal) (request : SendMessageRequest) :
    Except MessageStoreError Unit := do
  if let some source := request.externalSource then validateExternalSource source
  recipients.forM (validateWorkspaceAndPrincipal "resolved")

/-- `validate_send`; `now` is the clock it reads. -/
def validateSend (now : DateTime) (recipients : List MessagePrincipal)
    (request : SendMessageRequest) : Except MessageStoreError Unit := do
  validateSendShape recipients request
  if expired now request then throw expiryError
  validateSendParties recipients request

variable {request : SendMessageRequest}

theorem validateSend_eq_ok_iff {now : DateTime} : validateSend now recipients request = .ok () ↔
      validateSendShape recipients request = .ok () ∧ expired now request = false ∧
        validateSendParties recipients request = .ok () := by
  unfold validateSend
  cases shape : validateSendShape recipients request with
  | error => simp
  | ok =>
    cases late : expired now request with
    | true => simp [throw, throwThe, MonadExceptOf.throw]
    | false =>
      simp only [Bool.false_eq_true, if_false, true_and]
      rfl

theorem valid_of_validateSendParties (valid : validateSendParties recipients request = .ok ()) :
    ∀ recipient ∈ recipients, validateWorkspaceAndPrincipal "resolved" recipient = .ok () := by
  rw [validateSendParties] at valid
  cases sourceEq : request.externalSource with
  | none =>
    rw [sourceEq] at valid
    exact forM_eq_ok_iff.mp valid
  | some =>
    rw [sourceEq] at valid
    rcases bind_eq_ok_iff.mp valid with ⟨_, _, checked⟩
    exact forM_eq_ok_iff.mp checked

def validatePageSize (limit : Nat) : Except MessageStoreError Unit :=
  refuseIf (limit == 0 || limit > maxMessagePageSize)
    "message_limit_invalid" s!"message limit must be between 1 and {maxMessagePageSize}"

def validateEndpointScope (endpoint : Option String) : Except MessageStoreError Unit :=
  refuseIf (endpoint.any fun endpoint => !validMessageAppEndpoint endpoint)
    "message_endpoint_invalid" "invalid App endpoint"

def validateAck (request : AcknowledgeMessagesRequest) : Except MessageStoreError Unit := do
  refuseIf (request.deliveryIds.isEmpty || request.deliveryIds.length > maxAckDeliveries)
    "message_ack_invalid" s!"acknowledgement must contain 1-{maxAckDeliveries} deliveries"
  refuseIf
    (request.operationId == "" || Text.len request.operationId > maxMessageIdempotencyKeyBytes)
    "message_ack_operation_invalid" "acknowledgement operation ID is empty or too long"
  refuseIf
    (Text.hasDuplicates request.deliveryIds ||
      request.deliveryIds.any fun id => id == "" || Text.len id > 256)
    "message_ack_invalid" "delivery IDs must be unique, non-empty, and bounded"

def validateImport (request : ImportMessagesRequest) : Except MessageStoreError Unit := do
  refuseIf (request.format != "legacy-mail-v1")
    "message_import_format_unsupported" "only legacy-mail-v1 imports are supported"
  refuseIf
    (request.operationId == "" ||
      Text.len request.operationId > maxMessageIdempotencyKeyBytes ||
      request.messages.isEmpty || request.messages.length > maxImportMessages)
    "message_import_invalid"
    s!"import must contain 1-{maxImportMessages} messages and a bounded operation ID"
  refuseIf (request.messages.any fun message => message.workspaceId != workspaceId)
    "message_import_workspace_mismatch"
    "every imported message must belong to the target workspace"

def validateLegacyMessage (message : LegacyMailMessage) : Except MessageStoreError Unit := do
  validateWorkspaceAndPrincipal workspaceId message.sender
  refuseIf
    (message.sender.appEndpoint.isSome ||
      message.recipients.any fun recipient => recipient.principal.appEndpoint.isSome)
    "message_import_record_invalid" "legacy imports cannot assert App subtree identities"
  refuseIf
    (message.messageId == "" || Text.len message.messageId > 256 ||
      Text.trim message.body == "" || Text.len message.body > maxMessageBodyBytes ||
      message.recipients.isEmpty || message.recipients.length > maxMessageRecipients ||
      message.contextIds.length > maxMessageContexts)
    "message_import_record_invalid" "legacy message record is empty or exceeds Core limits"
  refuseIf
    (Text.hasDuplicates
        (message.recipients.map fun recipient =>
          (recipient.principal.kind, recipient.principal.id)) ||
      Text.hasDuplicates (message.recipients.map fun recipient => recipient.position) ||
      Text.hasDuplicates message.contextIds)
    "message_import_record_invalid" "legacy recipients, positions, and contexts must be unique"
  message.recipients.forM fun recipient =>
    validateWorkspaceAndPrincipal workspaceId recipient.principal

end Treer.Message
