import Treer.Message.Acknowledge
import Treer.Message.Import
import Treer.Message.Read
import Treer.Message.Send

/-!
# What calls do to the tables

Every call of the store changes the tables in three ways only: it posts a
message together with its deliveries and contexts, it acknowledges one pending
delivery and announces that, or it appends records. The invariants of the
store are proved for these three changes, and every call is a sequence of them.
-/

namespace Treer.Message

open Foundation MessageDb List
variable {Digest : Type}

/-- The event announces the acknowledgement of some delivery. -/
def DomainEventEnvelope.Acknowledges (envelope : DomainEventEnvelope) : Prop :=
  envelope.action = "message.acknowledged"
deriving Decidable

/-- A message is inserted with its deliveries and with contexts that are stored messages. -/
structure Posted (message : MessageRow) (copies : List DeliveryRow)
    (edges : List ContextRow) (before after : MessageDb Digest) : Prop where
  messages : after.messages.rows = before.messages.rows ++ [message]
  deliveries : after.deliveries.rows = before.deliveries.rows ++ copies
  contexts : after.contexts.rows = before.contexts.rows ++ edges
  rest : after = { before with
    messages := after.messages, deliveries := after.deliveries, contexts := after.contexts }
  ownDeliveries : ∀ delivery ∈ copies, (delivery.workspaceId, delivery.messageId) = message.key
  ownContexts : ∀ context ∈ edges, (context.workspaceId, context.messageId) = message.key
  contextsExist : ∀ context ∈ edges,
    before.messageExists context.workspaceId context.contextMessageId = true

/-- A pending delivery is stamped and the stamp is announced. -/
structure Stamped (row : DeliveryRow) (now : DateTime) (event : DomainEventEnvelope)
    (before after : MessageDb Digest) : Prop where
  mem : row ∈ before.deliveries
  pending : row.acknowledgedAt = none
  deliveries : after.deliveries =
    (before.acknowledgeDelivery now row.workspaceId row.deliveryId).deliveries
  events : after.events = before.events ++ [event]
  acknowledges : event.Acknowledges
  resource : event.resourceId = row.deliveryId
  rest : after = { before with deliveries := after.deliveries, outbox := after.outbox }

/-- Records are appended; messages, deliveries and contexts stay. -/
structure Recorded (before after : MessageDb Digest) : Prop where
  messages : after.messages = before.messages
  deliveries : after.deliveries = before.deliveries
  contexts : after.contexts = before.contexts
  idempotency : ∃ added, after.idempotency.rows = before.idempotency.rows ++ added
  ackOperations : ∃ added, after.ackOperations.rows = before.ackOperations.rows ++ added
  events : ∃ added, after.events = before.events ++ added ∧ ∀ event ∈ added, ¬ event.Acknowledges

inductive Change : MessageDb Digest → MessageDb Digest → Prop where
  | posted {before after message copies edges}
      (posted : Posted message copies edges before after) : Change before after
  | stamped {before after row now event} (stamped : Stamped row now event before after) :
      Change before after
  | recorded {before after} (recorded : Recorded before after) : Change before after

/-- A sequence of changes. -/
abbrev Changes : MessageDb Digest → MessageDb Digest → Prop :=
  Relation.ReflTransGen Change

variable {before after : MessageDb Digest}

theorem recorded_of_sameButDispatch (same : SameButDispatch before after) :
    Recorded before after := by
  rcases same with ⟨afterEq, eventsEq⟩
  rw [afterEq] at eventsEq ⊢
  exact {
    messages := rfl
    deliveries := rfl
    contexts := rfl
    idempotency := ⟨[], by simp⟩
    ackOperations := ⟨[], by simp⟩
    events := ⟨[], by rw [append_nil]; exact eventsEq, by simp⟩ }

variable {row : DeliveryRow} {environment : Environment} {requestHash : List JsonToken → Digest}

namespace SendCall

variable {call : SendCall}

theorem mem_deliveryRows_iff : row ∈ call.deliveryRows environment ↔
      ∃ recipient position, (recipient, position) ∈ call.recipients.zipIdx ∧
        row = call.deliveryRow environment recipient position := by
  simp [deliveryRows, eq_comm]

/-- The state of a created send right after its message was posted. -/
theorem Created.changes {response : SendMessageResponse}
    (created : Created requestHash environment call before response after) :
    ∃ middle, Posted (call.messageRow environment) (call.deliveryRows environment)
      (call.contextRows environment) before middle ∧ Recorded middle after := by
  refine ⟨{ before with
    messages := after.messages
    deliveries := after.deliveries
    contexts := after.contexts }, ?_, ?_⟩
  · exact {
      messages := created.messages
      deliveries := created.deliveries
      contexts := created.contexts
      rest := rfl
      ownDeliveries := by
        intro row rowMem
        rcases mem_deliveryRows_iff.mp rowMem with ⟨_, position, -, rfl⟩
        rfl
      ownContexts := by
        intro row rowMem
        simp only [contextRows, mem_map] at rowMem
        rcases rowMem with ⟨⟨contextId, position⟩, -, rfl⟩
        rfl
      contextsExist := by
        intro row rowMem
        simp only [contextRows, mem_map] at rowMem
        rcases rowMem with ⟨⟨contextId, _⟩, contextMem, rfl⟩
        have listed : contextId ∈ call.request.contextIds := fst_mem_of_mem_zipIdx contextMem
        exact messageExists_iff.mpr (exists_of_visible (created.visible contextId listed)).1 }
  · exact {
      messages := rfl
      deliveries := rfl
      contexts := rfl
      idempotency := ⟨_, created.idempotency⟩
      ackOperations := ⟨[], by rw [created.ackOperations, append_nil]⟩
      events := by
        refine ⟨[call.createdEvent environment], ?_, ?_⟩
        · simp only [events, created.outbox, map_append]
          rfl
        · rintro _ eventMem
          rw [mem_singleton.mp eventMem]
          exact (by decide : "message.created" ≠ "message.acknowledged") }

end SendCall

namespace AckCall

variable {call : AckCall} {deliveryId : String}

theorem owns_iff : call.owns deliveryId row = true ↔
      row.workspaceId = call.workspaceId ∧ row.deliveryId = deliveryId ∧
        row.recipientKind = call.principal.kind ∧ row.recipientId = call.principal.id ∧
        ∀ endpoint, call.request.appEndpoint = some endpoint →
          row.recipientEndpoint = endpoint := by
  simp only [owns, Bool.and_eq_true, beq_iff_eq, Option.all_eq_true, and_assoc]

/-- The round of a walk that acknowledges its delivery. -/
theorem stamped_of_announced {db middle : MessageDb Digest} {earlier : Nat}
    (rowMem : row ∈ db.deliveries) (owned : call.owns deliveryId row = true)
    (pending : row.acknowledgedAt = none)
    (announced : (db.acknowledgeDelivery (environment.clock 0) call.workspaceId
      deliveryId).insertOutbox
        (call.acknowledgedEvent environment earlier deliveryId row.messageId) = some middle) :
    Stamped row (environment.clock 0)
      (call.acknowledgedEvent environment earlier deliveryId row.messageId) db middle := by
  rcases owns_iff.mp owned with ⟨workspaceEq, idEq, -⟩
  rcases Table.of_map_insert? announced with ⟨_, outboxRows, rfl⟩
  exact {
    mem := rowMem
    pending := pending
    deliveries := by rw [workspaceEq, idEq]
    events := by
      simp only [events, outboxRows, map_append]
      rfl
    acknowledges := rfl
    resource := idEq.symm
    rest := rfl }

variable {deliveryIds : List String}

section
variable (walk : Walk environment call before deliveryIds after)
include walk

theorem Walk.changes : Changes before after := by
  induction walk with
  | nil => exact .refl
  | already _ _ _ _ changes => exact changes
  | fresh earlier rowMem owned pending announced _ changes =>
    exact .head (.stamped (stamped_of_announced rowMem owned pending announced)) changes

theorem Walk.idempotency_eq : after.idempotency = before.idempotency := by
  induction walk with
  | nil => rfl
  | already _ _ _ _ ih => exact ih
  | fresh earlier rowMem owned pending announced _ ih =>
    rw [ih, (stamped_of_announced rowMem owned pending announced).rest]

end

theorem recorded_of_insertAckOperation {walked : MessageDb Digest} {row : AckOperationRow Digest}
    (record : walked.insertAckOperation row = some after) :
    Recorded walked after := by
  rcases Table.of_map_insert? record with ⟨ackOperations, rowsEq, rfl⟩
  exact {
    messages := rfl
    deliveries := rfl
    contexts := rfl
    idempotency := ⟨[], by simp⟩
    ackOperations := ⟨_, rowsEq⟩
    events := ⟨[], by simp [events]⟩ }

end AckCall

namespace ImportCall

variable {sha256Hex : List UInt8 → String} {workspaceId : String}

theorem Inserted.posted {message : LegacyMailMessage}
    (inserted : Inserted sha256Hex workspaceId message before after)
    (workspaceEq : message.workspaceId = workspaceId) :
    Posted message.messageRow (message.deliveryRows sha256Hex) message.contextRows before
      after where
  __ := inserted
  ownDeliveries := by
    intro row rowMem
    rcases mem_map.mp rowMem with ⟨_, -, rfl⟩
    rfl
  ownContexts := by
    intro row rowMem
    rcases mem_map.mp rowMem with ⟨⟨contextId, position⟩, -, rfl⟩
    rfl
  contextsExist := by
    intro row rowMem
    rcases mem_map.mp rowMem with ⟨⟨contextId, _⟩, contextMem, rfl⟩
    have listed : contextId ∈ message.contextIds := fst_mem_of_mem_zipIdx contextMem
    rw [workspaceEq]
    exact inserted.contextsExist contextId listed

variable {messages : List LegacyMailMessage}

section
variable (walk : Walk sha256Hex workspaceId before messages after)
include walk

theorem Walk.changes (workspaceEq : ∀ message ∈ messages, message.workspaceId = workspaceId) :
    Changes before after := by
  induction walk with
  | nil => exact .refl
  | existing _ _ ih => exact ih (forall_mem_of_forall_mem_cons workspaceEq)
  | inserted inserted _ ih =>
    exact .head (.posted (inserted.posted (workspaceEq _ mem_cons_self)))
      (ih (forall_mem_of_forall_mem_cons workspaceEq))

theorem Walk.idempotency_eq : after.idempotency = before.idempotency := by
  induction walk with
  | nil => rfl
  | existing _ _ ih => exact ih
  | inserted inserted _ ih => rw [ih, inserted.rest]

end

variable {call : ImportCall}

theorem Performed.recorded {walked recorded : MessageDb Digest} {response : ImportMessagesResponse}
    (performed : Performed requestHash sha256Hex environment call before response walked
      recorded after) : Recorded walked after := by
  rcases Table.of_map_insert? performed.record with ⟨_, -, rfl⟩
  rcases Table.of_map_insert? performed.announce with ⟨_, outboxRows, rfl⟩
  exact {
    messages := rfl
    deliveries := rfl
    contexts := rfl
    idempotency := ⟨[], by simp⟩
    ackOperations := ⟨[], by simp⟩
    events := by
      refine ⟨[call.importedEvent environment response], ?_, ?_⟩
      · simp only [events, outboxRows, map_append]
        rfl
      · rintro _ eventMem
        rw [mem_singleton.mp eventMem]
        exact (by decide : "message.imported" ≠ "message.acknowledged") }

end ImportCall
end Treer.Message
