import Treer.Foundation.Serialize
import Treer.Foundation.Text

/-!
# Core Message wire types

The records of `treer-protocol/src/messages.rs` that the message store reads
and returns, with the serializers the derive macros generate for the ones that
are digested. Timestamps are nanoseconds since the epoch; their RFC 3339 text
is read back without loss.
-/

namespace Treer.Message

open Foundation List

/-- A `DateTime<Utc>`, in nanoseconds since the epoch. -/
structure DateTime where
  nanoseconds : Int
  deriving DecidableEq

namespace DateTime

instance : LE DateTime := ⟨fun first second => first.nanoseconds ≤ second.nanoseconds⟩

instance (first second : DateTime) : Decidable (first ≤ second) :=
  inferInstanceAs (Decidable (first.nanoseconds ≤ second.nanoseconds))

instance : Serialize DateTime := ⟨fun value => [.time value.nanoseconds]⟩

instance : SelfDelimiting DateTime where
  cancel := by
    rintro ⟨first⟩ ⟨second⟩ rest other same
    simpa [serialize] using same
  notClose := by simp [serialize, StartsWith]

instance : NonNull DateTime where
  notNull := by simp [serialize, StartsWith]

end DateTime

variable {first second : List (String × String)} {rest other : List JsonToken}

def maxMessageBodyBytes : Nat := 32 * 1024

def maxMessageRecipients : Nat := 32

def maxMessageContexts : Nat := 32

def maxMessagePageSize : Nat := 100

def maxMessageWaitMilliseconds : Nat := 30000

def maxMessageIdempotencyKeyBytes : Nat := 256

def maxMessageExternalMetadataEntries : Nat := 16

def messageSchemaVersion : Nat := 1

def domainEventSchemaVersion : Nat := 1

inductive MessagePrincipalKind where
  | agent
  | human
  | machine
  | service
  deriving DecidableEq

/-- Also the serialized form. -/
def MessagePrincipalKind.asStr : MessagePrincipalKind → String
  | .agent => "agent"
  | .human => "human"
  | .machine => "machine"
  | .service => "service"

theorem MessagePrincipalKind.asStr_injective : Function.Injective asStr := by
  intro first second same
  cases first <;> cases second <;> first | rfl | exact absurd same (by decide)

instance : Serialize MessagePrincipalKind := ⟨fun kind => [.str kind.asStr]⟩

instance : SelfDelimiting MessagePrincipalKind where
  cancel := by
    intro first second rest other same
    obtain ⟨textEq, restEq⟩ := List.cons.inj same
    exact ⟨MessagePrincipalKind.asStr_injective (JsonToken.str.inj textEq), restEq⟩
  notClose := by simp [serialize, StartsWith]

/-- Stable identity attached to a message; `name`, `path` and `role` are
display snapshots. -/
structure MessagePrincipal where
  (appEndpoint path : Option String)
  kind : MessagePrincipalKind
  (id name : String)
  role : Option String
  deriving DecidableEq

instance : Serialize MessagePrincipal where
  serialize principal :=
    .openObject ::
      (fieldUnlessNone "app_endpoint" principal.appEndpoint ++
        (fieldUnlessNone "path" principal.path ++
          (field "kind" principal.kind ++
            (field "id" principal.id ++
              (field "name" principal.name ++
                (fieldUnlessNone "role" principal.role ++ [.closeObject]))))))

instance : SelfDelimiting MessagePrincipal where
  cancel := by
    rintro ⟨⟩ ⟨⟩ rest other same
    simpa [serialize, and_assoc] using same
  notClose := by simp [serialize, StartsWith]

/-- Sender-asserted source data. `metadata` lists a `BTreeMap` in key order. -/
structure MessageExternalSource where
  channel : String
  accountId : Option String
  (conversationId messageId : String)
  metadata : List (String × String)
  deriving DecidableEq

/-- The entries of a string map and its closing brace. -/
def serializeEntries : List (String × String) → List JsonToken
  | [] => [.closeObject]
  | (name, value) :: rest => .key name :: .str value :: serializeEntries rest

theorem serializeEntries_append_inj :
    serializeEntries first ++ rest = serializeEntries second ++ other ↔
      first = second ∧ rest = other := by
  induction first generalizing second with
  | nil => cases second <;> simp [serializeEntries]
  | cons entry entries ih =>
    cases second with
    | nil => simp [serializeEntries]
    | cons => simp [serializeEntries, ih, Prod.ext_iff, and_assoc]

/-- `metadata` has `skip_serializing_if = "BTreeMap::is_empty"`. -/
def metadataField : List (String × String) → List JsonToken
  | [] => []
  | entry :: entries => .key "metadata" :: .openObject :: serializeEntries (entry :: entries)

@[simp]
theorem metadataField_append_inj :
    metadataField first ++ .closeObject :: rest = metadataField second ++ .closeObject :: other ↔
      first = second ∧ rest = other := by
  cases first with
  | nil => cases second <;> simp [metadataField]
  | cons =>
    cases second with
    | nil => simp [metadataField]
    | cons => simp [metadataField, serializeEntries_append_inj]

instance : Serialize MessageExternalSource where
  serialize source :=
    .openObject ::
      (field "channel" source.channel ++
        (fieldUnlessNone "account_id" source.accountId ++
          (field "conversation_id" source.conversationId ++
            (field "message_id" source.messageId ++
              (metadataField source.metadata ++ [.closeObject])))))

instance : SelfDelimiting MessageExternalSource where
  cancel := by
    rintro ⟨⟩ ⟨⟩ rest other same
    simpa [serialize, and_assoc] using same
  notClose := by simp [serialize, StartsWith]

instance : NonNull MessageExternalSource where
  notNull := by simp [serialize, StartsWith]

structure CoreMessage where
  schemaVersion : Nat
  (messageId workspaceId : String)
  sender : MessagePrincipal
  recipients : List MessagePrincipal
  contextIds : List String
  body : String
  createdAt : DateTime
  expiresAt : Option DateTime
  (correlationId traceId : Option String)
  externalSource : Option MessageExternalSource
  deriving DecidableEq

structure MessageDelivery where
  deliveryId : String
  message : CoreMessage
  recipient : MessagePrincipal
  createdAt : DateTime
  (acknowledgedAt expiresAt : Option DateTime)
  deriving DecidableEq

/-- `recipients` are the unresolved targets of the caller. -/
structure SendMessageRequest where
  (recipients contextIds : List String)
  body : String
  expiresAt : Option DateTime
  (idempotencyKey correlationId traceId : Option String)
  externalSource : Option MessageExternalSource

structure SendMessageResponse where
  message : CoreMessage
  deliveryIds : List String
  idempotentReplay : Bool
  deriving DecidableEq

structure MessagePage where
  messages : List CoreMessage
  nextCursor : Option String
  remainingUnacknowledged : Nat
  deriving DecidableEq

structure ReceiveMessagesResponse where
  nextCursor : Option String
  deliveries : List MessageDelivery
  remainingUnacknowledged : Nat
  deriving DecidableEq

structure AcknowledgeMessagesRequest where
  appEndpoint : Option String
  deliveryIds : List String
  operationId : String

structure AcknowledgeMessagesResponse where
  (acknowledgedDeliveryIds alreadyAcknowledgedDeliveryIds : List String)
  deriving DecidableEq

/-- `position` is a `u16`. -/
structure LegacyMailRecipient where
  principal : MessagePrincipal
  position : Fin 65536
  readAt : Option DateTime

instance : Serialize LegacyMailRecipient where
  serialize recipient :=
    .openObject ::
      (field "principal" recipient.principal ++
        (.key "position" :: .num recipient.position.val ::
          (fieldUnlessNone "read_at" recipient.readAt ++ [.closeObject])))

structure LegacyMailMessage where
  (messageId workspaceId : String)
  sender : MessagePrincipal
  recipients : List LegacyMailRecipient
  contextIds : List String
  body : String
  createdAt : DateTime

instance : Serialize LegacyMailMessage where
  serialize message :=
    .openObject ::
      (field "message_id" message.messageId ++
        (field "workspace_id" message.workspaceId ++
          (field "sender" message.sender ++
            (field "recipients" message.recipients ++
              (field "context_ids" message.contextIds ++
                (field "body" message.body ++
                  (field "created_at" message.createdAt ++ [.closeObject])))))))

structure ImportMessagesRequest where
  (format operationId : String)
  messages : List LegacyMailMessage

structure ImportMessagesResponse where
  (imported existing : Nat)
  messageIds : List String
  deriving DecidableEq

/-- One segment of an App address: ASCII letters, digits, `_` and `-`, starting
with a letter or digit. -/
def validEndpointSegment (segment : String) : Bool :=
  segment != "" && Text.len segment ≤ 64 &&
    (match segment.toList with
      | [] => false
      | first :: _ => first.isAlphanum) &&
    segment.toList.all fun char => char.isAlphanum || char == '_' || char == '-'

def validMessageAppEndpoint (value : String) : Bool :=
  value != "" && Text.len value ≤ 519 && (Text.split value '/').length ≤ 8 &&
    (Text.split value '/').all validEndpointSegment

/-- `MessageStoreError`; the text of a database error is not kept. -/
inductive MessageStoreError where
  | contract (code message : String)
  | database
  | corrupt
  deriving DecidableEq

def MessageStoreError.code : MessageStoreError → String
  | .contract code _ => code
  | .database => "message_store_unavailable"
  | .corrupt => "message_store_corrupt"

end Treer.Message
