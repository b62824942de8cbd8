import Treer.Message.Run

/-!
# Invariants of the message store

Deliveries and contexts belong to stored messages, and a context always refers
to a message inserted earlier. Whatever happens later, a stored message is
loaded with the same contents and the same delivery IDs.
-/

namespace Treer.Message

open Foundation Table List
variable {Digest : Type} {db : MessageDb Digest} {workspaceId : String} {messageId : String}

namespace MessageDb

/-- The place of a message in insertion order; the number of messages when it is
not stored. -/
def rank (db : MessageDb Digest) (workspaceId messageId : String) : Nat :=
  (db.messages.rows.map MessageRow.key).idxOf (workspaceId, messageId)

theorem messageExists_iff_mem : db.messageExists workspaceId messageId = true ↔
      (workspaceId, messageId) ∈ db.messages.rows.map MessageRow.key := by
  rw [messageExists_iff]
  simp [MessageRow.key]

theorem messageExists_iff_rank_lt : db.messageExists workspaceId messageId = true ↔
      db.rank workspaceId messageId < db.messages.rows.length := by
  rw [messageExists_iff_mem, ← idxOf_lt_length_iff, length_map, rank]

end MessageDb

open MessageDb (empty messageExists_iff_rank_lt rank messageExists_iff_mem deliveriesOf contextsOf
  recipientOf messageExists_iff deliveryIds)

/-- Referential integrity, and contexts that point back in insertion order. -/
structure Sound (db : MessageDb Digest) : Prop where
  deliveries : ∀ delivery ∈ db.deliveries,
    db.messageExists delivery.workspaceId delivery.messageId = true
  contexts : ∀ context ∈ db.contexts, db.messageExists context.workspaceId context.messageId = true
  ordered : ∀ context ∈ db.contexts,
    db.rank context.workspaceId context.contextMessageId <
      db.rank context.workspaceId context.messageId

theorem sound_empty : Sound (empty : MessageDb Digest) where
  deliveries := fun delivery deliveryMem => absurd deliveryMem (not_mem_empty delivery)
  contexts := fun context contextMem => absurd contextMem (not_mem_empty context)
  ordered := fun context contextMem => absurd contextMem (not_mem_empty context)

/-- Both ends of a context are stored. -/
theorem Sound.contextExists (sound : Sound db) {context : ContextRow}
    (contextMem : context ∈ db.contexts) :
    db.messageExists context.workspaceId context.contextMessageId = true := by
  have stored := messageExists_iff_rank_lt.mp (sound.contexts context contextMem)
  have earlier := sound.ordered context contextMem
  exact messageExists_iff_rank_lt.mpr (by omega)

/-- What keeps the messages and the contexts, and the messages of the deliveries. -/
theorem Sound.of_messages {before after : MessageDb Digest} (sound : Sound before)
    (messages : after.messages = before.messages) (contexts : after.contexts = before.contexts)
    (deliveries : ∀ delivery ∈ after.deliveries, ∃ old ∈ before.deliveries,
      delivery.workspaceId = old.workspaceId ∧ delivery.messageId = old.messageId) :
    Sound after := by
  constructor
  all_goals simp only [MessageDb.messageExists, rank, messages, contexts]
  · intro delivery mem
    obtain ⟨old, oldMem, workspaceEq, messageEq⟩ := deliveries delivery mem
    rw [workspaceEq, messageEq]
    exact sound.deliveries old oldMem
  · exact sound.contexts
  · exact sound.ordered

/-- Rows of other messages are not selected. -/
theorem filter_eq_nil_of_key {ρ : Type} {rows : List ρ} {workspace message : ρ → String}
    (others : ∀ row ∈ rows, (workspace row, message row) ≠ (workspaceId, messageId)) :
    rows.filter (fun row => workspace row == workspaceId && message row == messageId) = [] := by
  rw [filter_eq_nil_iff]
  intro row rowMem selected
  simp only [Bool.and_eq_true, beq_iff_eq] at selected
  exact others row rowMem (Prod.ext selected.1 selected.2)

namespace Posted

variable {message : MessageRow} {copies : List DeliveryRow} {edges : List ContextRow}
  {before after : MessageDb Digest}

section
variable (posted : Posted message copies edges before after)
include posted

/-- The posted message was not stored before: its key is not repeated. -/
theorem key_not_mem : message.key ∉ before.messages.rows.map MessageRow.key := by
  have nodup := after.messages.nodup
  rw [posted.messages, map_append, nodup_append] at nodup
  intro taken
  exact nodup.2.2 message.key taken message.key (by simp) rfl

section
variable (stored : before.messageExists workspaceId messageId = true)
include stored

theorem key_ne : message.key ≠ (workspaceId, messageId) := by
  intro keyEq
  exact posted.key_not_mem (keyEq ▸ messageExists_iff_mem.mp stored)

theorem messageExists_of_before : after.messageExists workspaceId messageId = true := by
  rw [messageExists_iff_mem] at stored ⊢
  rw [posted.messages, map_append]
  exact mem_append_left _ stored

end

theorem messageExists_posted (keyEq : (workspaceId, messageId) = message.key) :
    after.messageExists workspaceId messageId = true := by
  rw [messageExists_iff_mem, posted.messages, keyEq]
  simp

theorem rank_of_before (stored : before.messageExists workspaceId messageId = true) :
    after.rank workspaceId messageId = before.rank workspaceId messageId := by
  rw [rank, posted.messages, map_append]
  exact idxOf_append_of_mem (messageExists_iff_mem.mp stored)

theorem mem_deliveries_iff {delivery : DeliveryRow} :
    delivery ∈ after.deliveries ↔ delivery ∈ before.deliveries ∨ delivery ∈ copies :=
  mem_of_rows_append posted.deliveries

theorem mem_contexts_iff {context : ContextRow} :
    context ∈ after.contexts ↔ context ∈ before.contexts ∨ context ∈ edges :=
  mem_of_rows_append posted.contexts

theorem sound (sound : Sound before) : Sound after where
  deliveries := by
    intro delivery deliveryMem
    rcases posted.mem_deliveries_iff.mp deliveryMem with old | new
    · exact posted.messageExists_of_before (sound.deliveries delivery old)
    · exact posted.messageExists_posted (posted.ownDeliveries delivery new)
  contexts := by
    intro context contextMem
    rcases posted.mem_contexts_iff.mp contextMem with old | new
    · exact posted.messageExists_of_before (sound.contexts context old)
    · exact posted.messageExists_posted (posted.ownContexts context new)
  ordered := by
    intro context contextMem
    rcases posted.mem_contexts_iff.mp contextMem with old | new
    · rw [posted.rank_of_before (sound.contextExists old),
        posted.rank_of_before (sound.contexts context old)]
      exact sound.ordered context old
    · -- The new message comes last, and its contexts were stored before it.
      have stored := posted.contextsExist context new
      have last :
          after.rank context.workspaceId context.messageId = before.messages.rows.length := by
        rw [rank, posted.messages, map_append, posted.ownContexts context new,
          idxOf_append_of_notMem posted.key_not_mem]
        simp
      rw [posted.rank_of_before stored, last]
      exact messageExists_iff_rank_lt.mp stored

theorem deliveriesOf_of_before (stored : before.messageExists workspaceId messageId = true) :
    after.deliveriesOf workspaceId messageId = before.deliveriesOf workspaceId messageId := by
  have others := filter_eq_nil_of_key fun row rowMem =>
    (posted.ownDeliveries row rowMem).trans_ne (posted.key_ne stored)
  rw [deliveriesOf, posted.deliveries, filter_append, others, append_nil]
  rfl

/-- A posted message owns exactly the deliveries it came with. -/
theorem deliveriesOf_posted (sound : Sound before) (keyEq : (workspaceId, messageId) = message.key)
    (sorted : copies.Pairwise fun first second => first.position ≤ second.position) :
    after.deliveriesOf workspaceId messageId = copies := by
  have olds := filter_eq_nil_of_key fun row rowMem same =>
    posted.key_ne (sound.deliveries row rowMem) (keyEq.symm.trans same.symm)
  have news : copies.filter (fun row =>
      row.workspaceId == workspaceId && row.messageId == messageId) = copies := by
    rw [filter_eq_self]
    intro row rowMem
    have rowKey := (posted.ownDeliveries row rowMem).trans keyEq.symm
    simp only [Prod.mk.injEq] at rowKey
    simp [rowKey.1, rowKey.2]
  rw [deliveriesOf, posted.deliveries, filter_append, olds, news, nil_append]
  exact sorted.insertionSort_eq

end
end Posted

variable {event : DomainEventEnvelope} {row : DeliveryRow}

namespace Stamped

variable {now : DateTime} {before after : MessageDb Digest}

/-- What the update does to one row. -/
def stamp (row : DeliveryRow) (now : DateTime) (other : DeliveryRow) : DeliveryRow :=
  if other.workspaceId == row.workspaceId && other.deliveryId == row.deliveryId then
    { other with acknowledgedAt := some now }
  else other

section
variable (stamped : Stamped row now event before after)
include stamped

theorem deliveries_rows : after.deliveries.rows = before.deliveries.rows.map (stamp row now) := by
  rw [stamped.deliveries]
  rfl

theorem messages_eq : after.messages = before.messages := by
  rw [stamped.rest]

theorem contexts_eq : after.contexts = before.contexts := by
  rw [stamped.rest]

end

/-- A stamp changes the time of the acknowledgement only. -/
@[simp]
theorem stamp_fields (other : DeliveryRow) : (stamp row now other).workspaceId = other.workspaceId ∧
      (stamp row now other).messageId = other.messageId ∧
      (stamp row now other).deliveryId = other.deliveryId ∧
      (stamp row now other).position = other.position ∧
      recipientOf (stamp row now other) = recipientOf other := by
  unfold stamp
  split <;> exact ⟨rfl, rfl, rfl, rfl, rfl⟩

theorem sound (stamped : Stamped row now event before after) (sound : Sound before) :
    Sound after := by
  refine sound.of_messages stamped.messages_eq stamped.contexts_eq fun delivery mem => ?_
  rw [← mem_rows, stamped.deliveries_rows] at mem
  rcases mem_map.mp mem with ⟨old, oldMem, rfl⟩
  exact ⟨old, oldMem, by simp, by simp⟩

theorem deliveriesOf_eq (stamped : Stamped row now event before after)
    (workspaceId messageId : String) :
    after.deliveriesOf workspaceId messageId =
      (before.deliveriesOf workspaceId messageId).map (stamp row now) := by
  have sorted := map_insertionSort
    (fun first second : DeliveryRow => first.position ≤ second.position)
    (fun first second : DeliveryRow => first.position ≤ second.position) (stamp row now)
    (before.deliveries.rows.filter fun other =>
      other.workspaceId == workspaceId && other.messageId == messageId) (by simp)
  rw [deliveriesOf, deliveriesOf, sorted, stamped.deliveries_rows, filter_map]
  simp [Function.comp_def]

end Stamped

/-! ## What later changes keep -/

/-- Everything stored before is found unchanged afterwards. -/
structure Extends (before after : MessageDb Digest) : Prop where
  messages : ∀ row ∈ before.messages, row ∈ after.messages
  idempotency : ∀ row ∈ before.idempotency, row ∈ after.idempotency
  ackOperations : ∀ row ∈ before.ackOperations, row ∈ after.ackOperations
  deliveryIds : ∀ {workspaceId messageId}, before.messageExists workspaceId messageId = true →
    after.deliveryIds workspaceId messageId = before.deliveryIds workspaceId messageId
  recipients : ∀ {workspaceId messageId}, before.messageExists workspaceId messageId = true →
    (after.deliveriesOf workspaceId messageId).map recipientOf =
      (before.deliveriesOf workspaceId messageId).map recipientOf
  contexts : ∀ {workspaceId messageId}, before.messageExists workspaceId messageId = true →
    after.contextsOf workspaceId messageId = before.contextsOf workspaceId messageId

namespace Extends

variable {before after : MessageDb Digest}

theorem refl (db : MessageDb Digest) : Extends db db where
  messages := fun _ mem => mem
  idempotency := fun _ mem => mem
  ackOperations := fun _ mem => mem
  deliveryIds := fun _ => rfl
  recipients := fun _ => rfl
  contexts := fun _ => rfl

theorem messageExists (extends_ : Extends before after)
    (stored : before.messageExists workspaceId messageId = true) :
    after.messageExists workspaceId messageId = true := by
  rcases messageExists_iff.mp stored with ⟨row, rowMem, workspaceEq, idEq⟩
  exact messageExists_iff.mpr ⟨row, extends_.messages row rowMem, workspaceEq, idEq⟩

theorem trans {first second third : MessageDb Digest} (left : Extends first second)
    (right : Extends second third) : Extends first third where
  messages := fun row mem => right.messages row (left.messages row mem)
  idempotency := fun row mem => right.idempotency row (left.idempotency row mem)
  ackOperations := fun row mem => right.ackOperations row (left.ackOperations row mem)
  deliveryIds := fun stored =>
    (right.deliveryIds (left.messageExists stored)).trans (left.deliveryIds stored)
  recipients := fun stored =>
    (right.recipients (left.messageExists stored)).trans (left.recipients stored)
  contexts := fun stored =>
    (right.contexts (left.messageExists stored)).trans (left.contexts stored)

/-- A stored message is loaded unchanged. -/
theorem loadMessage (extends_ : Extends before after)
    (stored : before.messageExists workspaceId messageId = true) :
    after.loadMessage workspaceId messageId = before.loadMessage workspaceId messageId := by
  rcases Option.isSome_iff_exists.mp stored with ⟨row, found⟩
  rcases find?_eq_some_iff.mp found with ⟨rowMem, rowKey⟩
  have foundAfter : after.messages.find? (workspaceId, messageId) = some row :=
    find?_eq_some_iff.mpr ⟨extends_.messages row rowMem, rowKey⟩
  simp only [MessageDb.loadMessage, found, foundAfter, extends_.recipients stored,
    extends_.contexts stored]

end Extends

variable {before after : MessageDb Digest}

theorem Posted.extends {message : MessageRow} {copies : List DeliveryRow} {edges : List ContextRow}
    (posted : Posted message copies edges before after) : Extends before after where
  messages := fun _ mem => (mem_of_rows_append posted.messages).mpr (Or.inl mem)
  idempotency := by
    rw [posted.rest]
    exact fun _ mem => mem
  ackOperations := by
    rw [posted.rest]
    exact fun _ mem => mem
  deliveryIds := fun stored => by
    rw [deliveryIds, posted.deliveriesOf_of_before stored]
    rfl
  recipients := fun stored => by rw [posted.deliveriesOf_of_before stored]
  contexts := fun stored => by
    have others := filter_eq_nil_of_key fun row rowMem =>
      (posted.ownContexts row rowMem).trans_ne (posted.key_ne stored)
    rw [contextsOf, posted.contexts, filter_append, others, append_nil]
    rfl

theorem Stamped.extends {now : DateTime} (stamped : Stamped row now event before after) :
    Extends before after where
  messages := by
    rw [stamped.messages_eq]
    exact fun _ mem => mem
  idempotency := by
    rw [stamped.rest]
    exact fun _ mem => mem
  ackOperations := by
    rw [stamped.rest]
    exact fun _ mem => mem
  deliveryIds := fun _ => by
    simp [deliveryIds, stamped.deliveriesOf_eq, Function.comp_def]
  recipients := fun _ => by
    simp [stamped.deliveriesOf_eq, Function.comp_def]
  contexts := fun _ => by
    rw [contextsOf, stamped.contexts_eq]
    rfl

theorem Recorded.extends (recorded : Recorded before after) : Extends before after where
  messages := by
    rw [recorded.messages]
    exact fun _ mem => mem
  idempotency := by
    rcases recorded.idempotency with ⟨added, rowsEq⟩
    exact fun _ mem => (mem_of_rows_append rowsEq).mpr (Or.inl mem)
  ackOperations := by
    rcases recorded.ackOperations with ⟨_, rowsEq⟩
    exact fun _ mem => (mem_of_rows_append rowsEq).mpr (Or.inl mem)
  deliveryIds := fun _ => by
    simp only [deliveryIds, deliveriesOf, recorded.deliveries]
  recipients := fun _ => by
    simp only [deliveriesOf, recorded.deliveries]
  contexts := fun _ => by
    simp only [contextsOf, recorded.contexts]

theorem Recorded.sound (recorded : Recorded before after) (sound : Sound before) : Sound after :=
  sound.of_messages recorded.messages recorded.contexts fun delivery mem =>
    ⟨delivery, recorded.deliveries ▸ mem, rfl, rfl⟩

theorem Change.sound (change : Change before after) (sound : Sound before) : Sound after := by
  cases change with
  | posted posted => exact posted.sound sound
  | stamped stamped => exact stamped.sound sound
  | recorded recorded => exact recorded.sound sound

theorem Change.extends (change : Change before after) : Extends before after := by
  cases change with
  | posted posted => exact posted.extends
  | stamped stamped => exact stamped.extends
  | recorded recorded => exact recorded.extends

theorem extends_of_changes (changes : Changes before after) : Extends before after := by
  induction changes with
  | refl => exact .refl before
  | tail _ change ih => exact ih.trans change.extends

variable [DecidableEq Digest] {platform : Platform Digest}

/-- Every state a run from a sound state reaches is sound. -/
theorem sound_exec (sound : Sound db) (calls : List Call) : Sound (exec (step platform) db calls) :=
  exec_invariant_of_change Sound Change.sound sound calls

/-- Whatever is stored stays stored over every run. -/
theorem extends_exec (db : MessageDb Digest) (calls : List Call) :
    Extends db (exec (step platform) db calls) := by
  induction calls generalizing db with
  | nil => exact .refl db
  | cons call rest ih => exact (extends_of_changes (changes_of_step db call)).trans (ih _)

/-- In every run what is stored at one time is found unchanged at every later one. -/
theorem store_only_grows (platform : Platform Digest) (earlier later : List Call) :
    Extends (exec (step platform) .empty earlier)
      (exec (step platform) .empty (earlier ++ later)) := by
  rw [exec_append]
  exact extends_exec _ later

end Treer.Message
