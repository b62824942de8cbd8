import Treer.Message.Store
import Treer.Message.Validation

/-!
# Reading the store and dispatching its events

The readers answer from one state of the tables and change nothing. Cursors
are texts, and PostgreSQL compares stored timestamps as texts, so the readers
take the text functions outside this repository as an argument.
-/

namespace Treer.Message

open Foundation Tx

/-- Text functions of the libraries and of the database. -/
structure Texts where
  /-- `DateTime::to_rfc3339`. -/
  rfc3339 : DateTime → String
  /-- `DateTime::parse_from_rfc3339`, converted to UTC. -/
  parseRfc3339 : String → Option DateTime
  /-- `URL_SAFE_NO_PAD.encode`. -/
  encode : String → String
  /-- `URL_SAFE_NO_PAD.decode` followed by `String::from_utf8`. -/
  decode : String → Option String
  /-- `<` on `TEXT` columns. -/
  before : String → String → Bool

namespace Texts

variable (texts : Texts)

/-- Row comparison of a `TEXT` timestamp and a `TEXT` identity. -/
def pairBefore (first second : String × String) : Bool :=
  texts.before first.1 second.1 || (first.1 == second.1 && texts.before first.2 second.2)

def encodeCursor (createdAt : DateTime) (id : String) : String :=
  texts.encode (texts.rfc3339 createdAt ++ "\n" ++ id)

def cursorError : MessageStoreError :=
  .contract "message_cursor_invalid" "message cursor is invalid"

def decodeCursor (value : String) : Except MessageStoreError (DateTime × String) :=
  match texts.decode value with
  | none => .error cursorError
  | some decoded =>
    match Text.splitOnce decoded '\n' with
    | none => .error cursorError
    | some (timestamp, id) =>
      if id == "" || Text.len id > 256 then .error cursorError
      else
        match texts.parseRfc3339 timestamp with
        | none => .error cursorError
        | some createdAt => .ok (createdAt, id)

/-- `value.map(decode_cursor).transpose()`. -/
def decodeCursor? : Option String → Except MessageStoreError (Option (DateTime × String))
  | none => .ok none
  | some value => (texts.decodeCursor value).map some

end Texts

section
variable {Digest : Type} (texts : Texts) (environment : Environment)

/-- A statement outside a transaction. -/
def Environment.await (statement : Statement) : Except MessageStoreError Unit :=
  if environment.down statement then .error .database else .ok ()

variable (workspaceId : String) (principal : MessagePrincipal)

/-- `MessageStore::get` with `ensure_visible`. -/
def get (messageId : String) (db : MessageDb Digest) : Except MessageStoreError CoreMessage := do
  environment.await .selectPage
  if !db.visible workspaceId messageId principal.kind principal.id then
    .error (.contract "message_not_found" "message does not exist or is not visible")
  else do
    environment.await (.loadMessage 0)
    db.loadMessage workspaceId messageId

/-- The mailbox condition shared by `receive_now` and `unacknowledged_count`. -/
def pendingFor (now : DateTime) (workspaceId : String) (principal : MessagePrincipal)
    (row : DeliveryRow) : Bool :=
  row.workspaceId == workspaceId && row.recipientKind == principal.kind &&
    row.recipientId == principal.id && row.acknowledgedAt.isNone &&
    row.expiresAt.all (fun expires => texts.before (texts.rfc3339 now) (texts.rfc3339 expires)) &&
    principal.appEndpoint.all fun endpoint => row.recipientEndpoint == endpoint

def unacknowledgedCount (now : DateTime) (workspaceId : String) (principal : MessagePrincipal)
    (db : MessageDb Digest) : Except MessageStoreError Nat := do
  environment.await .countUnacknowledged
  .ok (db.deliveries.rows.countP (pendingFor texts now workspaceId principal))

/-- The messages of a conversation, optionally with one App endpoint. -/
def inConversation (address : Option (String × String)) (db : MessageDb Digest) (row : MessageRow) :
    Bool :=
  let deliveredTo (kind : MessagePrincipalKind) (id : String) (endpoint : Option String) :=
    db.deliveries.rows.any fun delivery =>
      delivery.workspaceId == row.workspaceId && delivery.messageId == row.messageId &&
        delivery.recipientKind == kind && delivery.recipientId == id &&
        endpoint.all fun endpoint => delivery.recipientEndpoint == endpoint
  row.workspaceId == workspaceId &&
    ((row.senderKind == principal.kind && row.senderId == principal.id) ||
      deliveredTo principal.kind principal.id none) &&
    address.all fun (owner, endpoint) =>
      (row.senderKind == .agent && row.senderId == owner &&
          row.senderEndpoint == some endpoint) ||
        deliveredTo .agent owner (some endpoint)

/-- What messages are ordered and cut by. -/
def messageCursor (row : MessageRow) : String × String :=
  (texts.rfc3339 row.createdAt, row.messageId)

def listAppConversation (before : Option String) (limit : Nat) (address : Option (String × String))
    (db : MessageDb Digest) : Except MessageStoreError MessagePage := do
  validatePageSize limit
  let cursor ← texts.decodeCursor? before
  environment.await .selectPage
  let selected := db.messages.rows.filter fun row =>
    inConversation workspaceId principal address db row &&
      cursor.all fun (createdAt, id) =>
        texts.pairBefore (messageCursor texts row) (texts.rfc3339 createdAt, id)
  let rows := (selected.insertionSort fun first second =>
    texts.pairBefore (messageCursor texts first) (messageCursor texts second) = false).take
      (limit + 1)
  let pageRows := rows.take limit
  let messages ← pageRows.mapM fun row => do
    environment.await (.loadMessage 0)
    db.loadMessage workspaceId row.messageId
  let nextCursor :=
    if rows.length > limit then
      pageRows.getLast?.map fun row => texts.encodeCursor row.createdAt row.messageId
    else none
  let remainingUnacknowledged ←
    unacknowledgedCount texts environment (environment.clock 0) workspaceId principal db
  .ok { messages, nextCursor, remainingUnacknowledged }

def deliveryFromRow (row : DeliveryRow) (message : CoreMessage) : MessageDelivery where
  deliveryId := row.deliveryId
  message := message
  recipient := MessageDb.recipientOf row
  createdAt := row.createdAt
  acknowledgedAt := row.acknowledgedAt
  expiresAt := row.expiresAt

/-- What deliveries are ordered and cut by. -/
def deliveryCursor (row : DeliveryRow) : String × String :=
  (texts.rfc3339 row.createdAt, row.deliveryId)

/-- `receive_now`; `tick` counts the readings of the clock before it. -/
def receiveNow (tick : Nat) (workspaceId : String) (principal : MessagePrincipal)
    (limit : Nat) (after : Option (DateTime × String)) (db : MessageDb Digest) :
    Except MessageStoreError ReceiveMessagesResponse := do
  environment.await .selectPage
  let selected := db.deliveries.rows.filter fun row =>
    pendingFor texts (environment.clock tick) workspaceId principal row &&
      after.all fun (createdAt, id) =>
        texts.pairBefore (texts.rfc3339 createdAt, id) (deliveryCursor texts row)
  let rows := (selected.insertionSort fun first second =>
    texts.pairBefore (deliveryCursor texts second) (deliveryCursor texts first) = false).take limit
  let deliveries ← rows.mapM fun row => do
    environment.await (.loadMessage 0)
    let message ← db.loadMessage workspaceId row.messageId
    .ok (deliveryFromRow row message)
  let remainingUnacknowledged ←
    unacknowledgedCount texts environment (environment.clock (tick + 1)) workspaceId principal db
  let nextCursor :=
    if principal.appEndpoint.isSome || after.isSome then
      deliveries.getLast?.map fun delivery =>
        texts.encodeCursor delivery.createdAt delivery.deliveryId
    else none
  .ok { nextCursor, deliveries, remainingUnacknowledged }

/-- A waiting call reads again when it is
notified or its wait ends; `later` is the state it then sees. -/
def receiveAfter (limit : Nat)
    (waitMilliseconds : Nat) (after : Option String) (db later : MessageDb Digest) :
    Except MessageStoreError ReceiveMessagesResponse := do
  validatePageSize limit
  validateEndpointScope principal.appEndpoint
  let cursor ← texts.decodeCursor? after
  refuseIf (waitMilliseconds > maxMessageWaitMilliseconds) "message_wait_invalid"
    s!"message wait must be at most {maxMessageWaitMilliseconds} milliseconds"
  let first ← receiveNow texts environment 0 workspaceId principal limit cursor db
  if !first.deliveries.isEmpty || waitMilliseconds == 0 then .ok first
  else receiveNow texts environment 2 workspaceId principal limit cursor later

end

section
variable {Digest : Type} (texts : Texts) (environment : Environment)

def outboxBatchSize : Nat := 100

/-- The events `dispatch_pending` takes up. -/
def pendingEvents (db : MessageDb Digest) : List OutboxRow :=
  ((db.outbox.rows.filter fun row => row.dispatchedAt.isNone).insertionSort
    fun first second =>
      texts.pairBefore (texts.rfc3339 second.createdAt, second.eventId)
        (texts.rfc3339 first.createdAt, first.eventId) = false).take outboxBatchSize

/-- `UPDATE core_message_outbox SET dispatched_at = $1, attempts = attempts + 1`. -/
def MessageDb.markDispatched (now : DateTime) (eventId : String) (db : MessageDb Digest) :
    MessageDb Digest :=
  { db with
    outbox := db.outbox.update (fun row => row.eventId == eventId)
      (fun row => { row with dispatchedAt := some now, attempts := row.attempts + 1 })
      fun _ => rfl }

/-- The loop of `dispatch_pending`; `published index` is the answer of the event
bus, and the first refusal ends the batch. -/
def dispatchAll (published : Nat → Bool) : Nat → List OutboxRow → StoreTx Digest Nat
  | index, [] => pure index
  | index, row :: rest =>
    if published index then do
      environment.execute (.updateOutbox index) fun db =>
        some (db.markDispatched (environment.clock index) row.eventId)
      dispatchAll published (index + 1) rest
    else pure index

def dispatchPending (published : Nat → Bool) (db : MessageDb Digest) :
    Except MessageStoreError Nat × MessageDb Digest :=
  Tx.run (σ := MessageDb Digest) (do
    environment.check .begin
    let rows ← environment.query .selectOutbox (pendingEvents texts)
    let dispatched ← dispatchAll environment published 0 rows
    environment.commit
    pure dispatched) db

/-- The event records of the outbox, in order. -/
def MessageDb.events (db : MessageDb Digest) : List DomainEventEnvelope :=
  db.outbox.rows.map OutboxRow.envelope

/-- Two states that differ in the dispatch columns of the outbox only. -/
def SameButDispatch (before after : MessageDb Digest) : Prop :=
  after = { before with outbox := after.outbox } ∧ after.events = before.events

theorem sameButDispatch_markDispatched (now : DateTime) (eventId : String)
    (db : MessageDb Digest) : SameButDispatch db (db.markDispatched now eventId) := by
  refine ⟨rfl, ?_⟩
  simp only [MessageDb.events, MessageDb.markDispatched, Table.update, List.map_map]
  apply List.map_congr_left
  intro row _
  simp only [Function.comp_apply]
  split <;> rfl

theorem SameButDispatch.trans {first second third : MessageDb Digest}
    (left : SameButDispatch first second) (right : SameButDispatch second third) :
    SameButDispatch first third := by
  rcases left with ⟨leftEq, leftEvents⟩
  rcases right with ⟨rightEq, rightEvents⟩
  refine ⟨?_, rightEvents.trans leftEvents⟩
  rw [rightEq, leftEq]

variable {published : Nat → Bool} {environment : Environment} {rows : List OutboxRow}

theorem sameButDispatch_of_succeeds {index result : Nat} {before after : Session (MessageDb Digest)}
    (succeeds : Succeeds (dispatchAll environment published index rows) before result after) :
    SameButDispatch before.working after.working := by
  induction rows generalizing index before with
  | nil =>
    rcases succeeds_pure.mp succeeds with ⟨_, rfl⟩
    exact ⟨rfl, rfl⟩
  | cons row rest ih =>
    rw [dispatchAll] at succeeds
    split at succeeds
    · simp at succeeds
      rcases succeeds with ⟨_, loop⟩
      exact (sameButDispatch_markDispatched _ _ _).trans (ih loop)
    · rcases succeeds_pure.mp succeeds with ⟨_, rfl⟩
      exact ⟨rfl, rfl⟩

theorem noCommit_dispatchAll {index : Nat} :
    NoCommit (dispatchAll environment published index rows : StoreTx Digest Nat) := by
  induction rows generalizing index with
  | nil => exact noCommit_pure
  | cons row rest ih =>
    rw [dispatchAll]
    split
    · exact noCommit_write.bind fun _ => ih
    · exact noCommit_pure

/-- Dispatching changes nothing but the dispatch columns of the outbox. -/
theorem sameButDispatch_of_ok {texts : Texts} {before after : MessageDb Digest} {dispatched : Nat}
    (done : dispatchPending texts environment published before = (.ok dispatched, after)) :
    SameButDispatch before after := by
  rcases run_eq_ok done with ⟨_, succeeds, rfl⟩
  simp [Environment.commit_eq] at succeeds
  rcases succeeds with ⟨_, _, _, loop, _, rfl⟩
  exact sameButDispatch_of_succeeds loop

end
end Treer.Message
