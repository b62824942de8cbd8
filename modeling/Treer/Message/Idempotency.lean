import Treer.Message.Invariant

/-!
# Sending under an idempotency key

A key is scoped to a workspace and a sender. The first successful send under
it stores the message the key stands for; from then on the key is bound to that
message and to the fingerprint of that send.
-/

namespace Treer.Message

open Foundation List Function Table
open Sample (environment send)

/-- An idempotency key with the workspace and the sender it belongs to. -/
abbrev IdempotencyScope : Type :=
  String × MessagePrincipalKind × String × String

/-- The address a delivery goes to. -/
def MessagePrincipal.address (principal : MessagePrincipal) :
    MessagePrincipalKind × String × Option String :=
  (principal.kind, principal.id, principal.appEndpoint)

variable {scope : IdempotencyScope} {now : DateTime}

namespace SendCall

variable {call : SendCall}

/-- The send carries the key. -/
def Carries (call : SendCall) (scope : IdempotencyScope) : Prop :=
  call.request.idempotencyKey.map call.scope = some scope
deriving Decidable

theorem Carries.exists_key (carries : call.Carries scope) :
    ∃ key, call.request.idempotencyKey = some key ∧ call.scope key = scope :=
  Option.map_eq_some_iff.mp carries

theorem deliveryRows_sorted (environment : Environment) (call : SendCall) :
    (call.deliveryRows environment).Pairwise fun first second =>
      first.position ≤ second.position := by
  have positions : (call.recipients.zipIdx.map Prod.snd).Pairwise (· < ·) := by
    rw [zipIdx_map_snd]
    exact pairwise_lt_range'
  rw [deliveryRows, pairwise_map]
  rw [pairwise_map] at positions
  exact positions.imp Nat.le_of_lt

theorem recipients_of_deliveryRows {environment : Environment}
    (named : ∀ recipient ∈ call.recipients, recipient.appEndpoint ≠ some "") :
    (call.deliveryRows environment).map MessageDb.recipientOf = call.recipients := by
  rw [deliveryRows, map_map]
  calc
    _ = call.recipients.zipIdx.map Prod.fst := by
      apply map_congr_left
      rintro ⟨⟨appEndpoint, _, _, _, _, _⟩, _⟩ member
      have named := named _ (fst_mem_of_mem_zipIdx member)
      cases appEndpoint with
      | none => rfl
      | some endpoint =>
        have nonempty : endpoint ≠ "" := fun empty => named (congrArg some empty)
        simp [MessageDb.recipientOf, MessageDb.principalFromColumns, deliveryRow, nonempty]
    _ = call.recipients := zipIdx_map_fst 0 call.recipients

theorem validate_eq_ok_iff : call.validate now = .ok () ↔
      validateWorkspaceAndPrincipal call.workspaceId call.sender = .ok () ∧
        validateSendShape call.recipients call.request = .ok () ∧
        expired now call.request = false ∧
        validateSendParties call.recipients call.request = .ok () := by
  simp [validate, bind_eq_ok_iff, validateSend_eq_ok_iff, Unique.exists_iff]

theorem named_of_valid (valid : call.validate now = .ok ()) :
    ∀ recipient ∈ call.recipients, recipient.appEndpoint ≠ some "" := by
  intro recipient member endpointEq
  have parties := (validate_eq_ok_iff.mp valid).2.2.2
  have accepted := valid_of_validateSendParties parties recipient member
  have rejected : validMessageAppEndpoint "" = false := by decide
  simp [validateWorkspaceAndPrincipal, bind_eq_ok_iff, endpointEq, rejected] at accepted

end SendCall

open SendCall
variable {Digest : Type} {message : CoreMessage} {db : MessageDb Digest}

theorem MessageDb.messageExists_of_loadMessage {workspaceId messageId : String}
    (loaded : db.loadMessage workspaceId messageId = .ok message) :
    db.messageExists workspaceId messageId = true := by
  unfold MessageDb.loadMessage at loaded
  unfold MessageDb.messageExists
  cases found : db.messages.find? (workspaceId, messageId) with
  | none =>
    rw [found] at loaded
    cases loaded
  | some => rfl

/-- The record of a key, with the message and the delivery IDs it stands for. -/
structure Stored (row : IdempotencyRow Digest) (message : CoreMessage)
    (deliveryIds : List String) (db : MessageDb Digest) : Prop where
  mem : row ∈ db.idempotency
  loaded : db.loadMessage row.workspaceId row.messageId = .ok message
  ids : db.deliveryIds row.workspaceId row.messageId = deliveryIds

variable {row : IdempotencyRow Digest}

theorem Stored.extend {deliveryIds : List String} {before after : MessageDb Digest}
    (stored : Stored row message deliveryIds before) (kept : Extends before after) :
    Stored row message deliveryIds after := by
  have existsBefore := MessageDb.messageExists_of_loadMessage stored.loaded
  constructor
  · exact kept.idempotency row stored.mem
  · rw [kept.loadMessage existsBefore]
    exact stored.loaded
  · rw [kept.deliveryIds existsBefore]
    exact stored.ids

variable {response : SendMessageResponse} {requestHash : List JsonToken → Digest}

namespace SendCall

variable {environment : Environment} {call : SendCall} {before after : MessageDb Digest}

section
variable (created : Created requestHash environment call before response after)
  (sound : Sound before)
include created sound

theorem Created.deliveriesOf : after.deliveriesOf call.workspaceId (messageId environment) =
      call.deliveryRows environment := by
  rcases created.changes with ⟨_, posted, recorded⟩
  rw [MessageDb.deliveriesOf, recorded.deliveries]
  exact posted.deliveriesOf_posted sound rfl (deliveryRows_sorted environment call)

theorem Created.stored {key : String} (keyEq : call.request.idempotencyKey = some key) :
    Stored (call.idempotencyRow requestHash environment key) response.message
      response.deliveryIds after := by
  constructor
  · rw [← mem_rows, created.idempotency, mem_append]
    right
    rw [idempotencyRows, keyEq]
    exact mem_singleton_self _
  · exact created.loaded
  · rw [created.deliveryIds]
    change after.deliveryIds call.workspaceId (messageId environment) = _
    rw [MessageDb.deliveryIds, created.deliveriesOf sound]
    rfl

end

variable [DecidableEq Digest]

/-- After a successful send the key stands for what the send returned. -/
theorem stored_of_ok
    (sent : sendWithPolicyRevision requestHash environment call before = (.ok response, after))
    (sound : Sound before) (carries : call.Carries scope) :
    ∃ row, row.key = scope ∧ row.requestHash = call.hash requestHash ∧
      Stored row response.message response.deliveryIds after := by
  rcases (cases_of_ok sent).2 with ⟨⟨row, replayed⟩, rfl⟩ | ⟨-, created⟩
  · have keyEq : row.key = scope := Option.some.inj (replayed.scope.symm.trans carries)
    have workspaceEq : row.workspaceId = call.workspaceId := by
      rcases carries.exists_key with ⟨key, -, rfl⟩
      exact congrArg Prod.fst keyEq
    refine ⟨row, keyEq, replayed.hash, replayed.mem, ?_, ?_⟩
    · rw [workspaceEq]
      exact replayed.loaded
    · rw [workspaceEq]
      exact replayed.deliveryIds.symm
  · rcases carries.exists_key with ⟨_, keyEq, rfl⟩
    exact ⟨_, rfl, rfl, created.stored sound keyEq⟩

end SendCall

section
variable [DecidableEq Digest]
  {environment : Environment} {call : SendCall} {before after : MessageDb Digest}
  {deliveryIds : List String}

/-- Under a bound key a successful send is a replay of the same fingerprint. -/
theorem Stored.replayed_of_ok (stored : Stored row message deliveryIds before)
    (carries : call.Carries row.key)
    (sent : sendWithPolicyRevision requestHash environment call before = (.ok response, after)) :
    response = ⟨message, deliveryIds, true⟩ ∧ after = before := by
  rcases carries.exists_key with ⟨key, keyEq, scopeEq⟩
  have workspaceEq : call.workspaceId = row.workspaceId := congrArg Prod.fst scopeEq
  rcases (cases_of_ok sent).2 with ⟨⟨found, replayed⟩, afterEq⟩ | ⟨unused, -⟩
  · have foundKey : found.key = row.key := Option.some.inj (replayed.scope.symm.trans carries)
    have foundEq : found = row := eq_of_key_eq replayed.mem stored.mem foundKey
    have loaded := replayed.loaded
    have ids := replayed.deliveryIds
    have marked := replayed.replay
    rw [foundEq, workspaceEq] at loaded ids
    have messageEq : message = response.message := Except.ok.inj (stored.loaded.symm.trans loaded)
    have idsEq : deliveryIds = response.deliveryIds := stored.ids.symm.trans ids.symm
    refine ⟨?_, afterEq⟩
    rw [messageEq, idsEq, ← marked]
  · exact absurd scopeEq.symm (unused key keyEq row stored.mem)

/-- Under a bound key a valid send reaches the comparison of the digests. -/
theorem Stored.send_eq (stored : Stored row message deliveryIds before)
    (carries : call.Carries row.key) (valid : call.validate (environment.clock 0) = .ok ())
    (calm : environment.Calm) :
    sendWithPolicyRevision requestHash environment call before =
      if row.requestHash = call.hash requestHash then
        (.ok ⟨message, deliveryIds, true⟩, before)
      else (.error conflict, before) := by
  rcases carries.exists_key with ⟨key, keyEq, scopeEq⟩
  have workspaceEq : call.workspaceId = row.workspaceId := congrArg Prod.fst scopeEq
  have found : before.idempotency.find? (call.scope key) = some row :=
    find?_eq_some_iff.mpr ⟨stored.mem, scopeEq.symm⟩
  have reached : (call.transaction requestHash environment) ⟨before, before⟩ =
      (call.replay requestHash environment row) ⟨before, before⟩ := by
    rw [transaction, valid, Tx.lift_ok_bind, calm.check_bind]
    simp only [keyEq]
    rw [calm.check_bind, calm.query_bind_apply, found]
  have compared : (call.replay requestHash environment row) ⟨before, before⟩ =
      if row.requestHash = call.hash requestHash then
        (.ok ⟨message, deliveryIds, true⟩, ⟨before, before⟩)
      else (.error conflict, ⟨before, before⟩) := by
    unfold replay
    by_cases hashEq : row.requestHash = call.hash requestHash
    · have agrees : (row.requestHash != call.hash requestHash) = false := by simp [hashEq]
      rw [if_pos hashEq, agrees, Tx.failIf_false_bind, workspaceEq, Environment.loadMessage,
        Tx.bind_assoc, calm.query_bind_apply, stored.loaded, Tx.lift_ok_bind,
        calm.query_bind_apply, calm.commit_bind_apply]
      simp only [stored.ids]
      rfl
    · have differs : (row.requestHash != call.hash requestHash) = true := by simp [hashEq]
      rw [if_neg hashEq, differs, Tx.failIf_true_bind]
      rfl
  rw [sendWithPolicyRevision, Tx.run, reached, compared]
  by_cases hashEq : row.requestHash = call.hash requestHash
  · rw [if_pos hashEq, if_pos hashEq]
  · rw [if_neg hashEq, if_neg hashEq]

end

/-- Every record is of some send: it has the digest of its fingerprint, and the stored message was
delivered to its recipients in order. -/
def Traced (requestHash : List JsonToken → Digest) (db : MessageDb Digest) : Prop :=
  ∀ row ∈ db.idempotency, ∃ origin : SendCall,
    row.requestHash = origin.hash requestHash ∧
      db.messageExists row.workspaceId row.messageId = true ∧
      (db.deliveriesOf row.workspaceId row.messageId).map MessageDb.recipientOf = origin.recipients

variable {platform : Platform Digest}

section
variable [DecidableEq Digest] {before after : MessageDb Digest} {call : Call} {reply : Reply}

/-- Only a send that creates its message adds a record, namely its own. -/
theorem mem_idempotency_of_step_ok
    (done : step platform before call = (.ok reply, after)) (rowMem : row ∈ after.idempotency) :
    row ∈ before.idempotency ∨ ∃ environment send response,
      send.validate (environment.clock 0) = .ok () ∧
        SendCall.Created platform.requestHash environment send before response after ∧
        row ∈ send.idempotencyRows platform.requestHash environment := by
  cases call with
  | send environment send =>
    rcases answer_eq_ok done with ⟨response, -, sent⟩
    rcases cases_of_ok sent with ⟨valid, ⟨-, rfl⟩ | ⟨-, created⟩⟩
    · exact .inl rowMem
    rcases (mem_of_rows_append created.idempotency).mp rowMem with old | own
    · exact .inl old
    · exact .inr ⟨environment, send, response, valid, created, own⟩
  | acknowledge =>
    rcases answer_eq_ok done with ⟨response, -, acknowledged⟩
    rcases (AckCall.cases_of_ok acknowledged).2 with ⟨-, rfl⟩ | ⟨walked, performed⟩
    · exact .inl rowMem
    · rcases of_map_insert? performed.record with ⟨_, -, rfl⟩
      exact .inl (performed.walk.idempotency_eq ▸ rowMem)
  | importLegacyMail =>
    rcases answer_eq_ok done with ⟨_, -, imported⟩
    rcases (ImportCall.cases_of_ok imported).2 with ⟨-, rfl⟩ | ⟨_, _, performed⟩
    · exact .inl rowMem
    rcases of_map_insert? performed.record with ⟨_, -, rfl⟩
    rcases of_map_insert? performed.announce with ⟨_, -, rfl⟩
    exact .inl (performed.walk.idempotency_eq ▸ rowMem)
  | receiveAfter | listAppConversation | get =>
    have unchanged : before = after := congrArg Prod.snd done
    exact .inl (unchanged ▸ rowMem)
  | dispatchPending =>
    rcases answer_eq_ok done with ⟨_, -, done⟩
    rw [(sameButDispatch_of_ok done).1] at rowMem
    exact .inl rowMem

theorem traced_of_step (sound : Sound before) (traced : Traced platform.requestHash before) :
    Traced platform.requestHash (step platform before call).2 := by
  rcases outcome : step platform before call with ⟨_ | _, after⟩
  · rw [eq_of_step_error outcome]
    exact traced
  have kept := extends_of_changes (changes_of_step_ok outcome)
  intro row rowMem
  rcases mem_idempotency_of_step_ok outcome rowMem with old | ⟨_, send, _, valid, created, own⟩
  · rcases traced row old with ⟨origin, hashEq, stored, recipientsEq⟩
    exact ⟨origin, hashEq, kept.messageExists stored, (kept.recipients stored).trans recipientsEq⟩
  rcases mem_map.mp own with ⟨_, -, rfl⟩
  refine ⟨send, rfl, MessageDb.messageExists_of_loadMessage created.loaded, ?_⟩
  change (after.deliveriesOf send.workspaceId (messageId _)).map _ = _
  rw [created.deliveriesOf sound]
  exact recipients_of_deliveryRows (named_of_valid valid)

/-- What holds in every state of a run from the empty store. -/
structure Consistent (platform : Platform Digest) (db : MessageDb Digest) : Prop where
  sound : Sound db
  traced : Traced platform.requestHash db

omit [DecidableEq Digest] in
theorem consistent_empty : Consistent platform MessageDb.empty where
  sound := sound_empty
  traced := fun row rowMem => absurd rowMem (not_mem_empty row)

theorem consistent_of_step (state : MessageDb Digest) (call : Call)
    (consistent : Consistent platform state) :
    Consistent platform (step platform state call).2 where
  sound := sound_exec consistent.sound [call]
  traced := traced_of_step consistent.sound consistent.traced

end

/-! ## Exactly once -/

section
variable [DecidableEq Digest]

/-- The call is a send that carries the key. -/
def Call.carries (scope : IdempotencyScope) : Call → Bool
  | .send _ call => decide (call.Carries scope)
  | _ => false

/-- The events of a run, as the system records them. -/
abbrev StoreEntry (Digest : Type) : Type :=
  Entry (MessageDb Digest) Call (Except MessageStoreError Reply)

/-- The message rows of one state that an earlier one does not have. -/
def newRows (before after : MessageDb Digest) : List MessageRow :=
  after.messages.rows.filter fun row => row ∉ before.messages.rows

/-- The message rows that calls carrying the key inserted. -/
def createdRows (scope : IdempotencyScope) (entries : List (StoreEntry Digest)) : List MessageRow :=
  entries.flatMap fun entry =>
    if entry.action.carries scope then newRows entry.before entry.after else []

omit [DecidableEq Digest] in
@[simp]
theorem newRows_self (db : MessageDb Digest) : newRows db db = [] := by
  rw [newRows, filter_eq_nil_iff]
  intro row rowMem
  simpa using rowMem

/-- The entry is a successful send that carries the key. -/
def Sent (scope : IdempotencyScope) (entry : StoreEntry Digest) (environment : Environment)
    (call : SendCall) (response : SendMessageResponse) : Prop :=
  entry.action = .send environment call ∧ call.Carries scope ∧ entry.outcome = .ok (.sent response)

variable {entry : StoreEntry Digest}

/-- The run behind a successful send of a trace. -/
theorem Sent.send_eq {environment : Environment} {call : SendCall}
    (sent : Sent scope entry environment call response)
    (stepped : step platform entry.before entry.action = (entry.outcome, entry.after)) :
    sendWithPolicyRevision platform.requestHash environment call entry.before =
      (.ok response, entry.after) := by
  rcases sent with ⟨actionEq, -, outcomeEq⟩
  rw [actionEq, outcomeEq] at stepped
  rcases answer_eq_ok stepped with ⟨_, responseEq, done⟩
  cases responseEq
  exact done

theorem Sent.stored {environment : Environment} {call : SendCall}
    (sent : Sent scope entry environment call response)
    (stepped : step platform entry.before entry.action = (entry.outcome, entry.after))
    (sound : Sound entry.before) :
    ∃ row, row.key = scope ∧ row.requestHash = call.hash platform.requestHash ∧
      Stored row response.message response.deliveryIds entry.after :=
  stored_of_ok (sent.send_eq stepped) sound sent.2.1

section
variable {deliveryIds : List String} {calls : List Call}

/-- Once a key is bound, every successful send under it is a replay. -/
theorem Stored.replayed_of_mem_trace (stored : Stored row message deliveryIds db)
    (entryMem : entry ∈ trace (step platform) db calls) {environment : Environment}
    {call : SendCall} (sent : Sent row.key entry environment call response) :
    response = ⟨message, deliveryIds, true⟩ ∧ entry.after = entry.before := by
  rcases of_mem_trace entryMem with ⟨earlier, _, -, reached, stepped⟩
  have storedThen : Stored row message deliveryIds entry.before := by
    rw [← reached]
    exact stored.extend (extends_exec db earlier)
  exact storedThen.replayed_of_ok sent.2.1 (sent.send_eq stepped)

/-- Once a key is bound, calls that carry it insert no message. -/
theorem Stored.createdRows_eq_nil (stored : Stored row message deliveryIds db) :
    createdRows row.key (trace (step platform) db calls) = [] := by
  rw [createdRows, flatMap_eq_nil_iff]
  intro entry entryMem
  split
  · rename_i carried
    have unchanged : entry.after = entry.before := by
      rcases of_mem_trace entryMem with ⟨_, _, -, -, stepped⟩
      rcases outcome : entry.outcome with _ | _
      · rw [outcome] at stepped
        exact eq_of_step_error stepped
      cases actionEq : entry.action with
      | send =>
        rw [actionEq] at carried
        rw [outcome, actionEq] at stepped
        rcases answer_eq_ok stepped with ⟨_, rfl, -⟩
        exact (stored.replayed_of_mem_trace entryMem
          ⟨actionEq, of_decide_eq_true carried, outcome⟩).2
      | _ =>
        rw [actionEq] at carried
        cases carried
    rw [unchanged, newRows_self]
  · rfl

end

/-- At most one message row is created for a key. -/
theorem length_createdRows_le_one (scope : IdempotencyScope)
    (sound : Sound db) (calls : List Call) :
    (createdRows scope (trace (step platform) db calls)).length ≤ 1 := by
  induction calls generalizing db with
  | nil => exact Nat.zero_le 1
  | cons call rest ih =>
    have restOne :
        (createdRows scope (trace (step platform) (step platform db call).2 rest)).length ≤ 1 :=
      ih (sound_exec sound [call])
    rw [trace, createdRows, flatMap_cons]
    by_cases carried : call.carries scope = true
    · rw [if_pos carried]
      rcases outcome : step platform db call with ⟨_ | _, after⟩
      · have unchanged := eq_of_step_error outcome
        rw [outcome] at restOne
        simp only [unchanged, newRows_self, nil_append] at restOne ⊢
        exact restOne
      · cases call with
        | send =>
          rcases answer_eq_ok outcome with ⟨_, -, sent⟩
          have one : (newRows db after).length ≤ 1 := by
            rcases (cases_of_ok sent).2 with ⟨-, rfl⟩ | ⟨-, created⟩
            · simp
            have olds := newRows_self db
            rw [newRows] at olds
            rw [newRows, created.messages, filter_append, olds, nil_append]
            exact length_filter_le _ _
          rcases stored_of_ok sent sound (of_decide_eq_true carried) with
            ⟨row, rfl, -, stored⟩
          have restNone : createdRows row.key (trace (step platform) after rest) = [] :=
            stored.createdRows_eq_nil
          rw [createdRows] at restNone
          simp only [restNone, append_nil]
          exact one
        | _ => cases carried
    · rw [if_neg carried, nil_append]
      exact restOne

/-- All successful sends under one key return one message and its deliveries. -/
theorem exists_response (scope : IdempotencyScope) (sound : Sound db) (calls : List Call) :
    ∃ messageId deliveryIds, ∀ entry ∈ trace (step platform) db calls,
      ∀ environment call response, Sent scope entry environment call response →
        response.message.messageId = messageId ∧ response.deliveryIds = deliveryIds := by
  induction calls generalizing db with
  | nil => exact ⟨"", [], by simp [trace]⟩
  | cons call rest ih =>
    let entry : StoreEntry Digest :=
      ⟨db, call, (step platform db call).1, (step platform db call).2⟩
    by_cases first : ∃ environment send response, Sent scope entry environment send response
    · rcases first with ⟨_, _, response, sent⟩
      rcases sent.stored rfl sound with ⟨_, rfl, -, stored⟩
      refine ⟨response.message.messageId, response.deliveryIds, ?_⟩
      intro other otherMem otherEnvironment otherSend otherResponse otherSent
      rcases mem_cons.mp otherMem with rfl | later
      · have sameResponse : otherResponse = response := by
          have outcomes := otherSent.2.2.symm.trans sent.2.2
          simpa using outcomes
        rw [sameResponse]
        exact ⟨rfl, rfl⟩
      · rw [(stored.replayed_of_mem_trace later otherSent).1]
        exact ⟨rfl, rfl⟩
    · rcases ih (sound_exec sound [call]) with ⟨messageId, deliveryIds, agrees⟩
      refine ⟨messageId, deliveryIds, ?_⟩
      intro other otherMem otherEnvironment otherSend otherResponse otherSent
      rcases mem_cons.mp otherMem with rfl | later
      · exact absurd ⟨otherEnvironment, otherSend, otherResponse, otherSent⟩ first
      · exact agrees other later otherEnvironment otherSend otherResponse otherSent

/-- Delivery IDs come in the order of the recipients, also when they are replayed. -/
theorem Sent.deliveries_ordered (collisionFree : Injective platform.requestHash)
    {environment : Environment} {call : SendCall}
    (sent : Sent scope entry environment call response)
    (stepped : step platform entry.before entry.action = (entry.outcome, entry.after))
    (consistent : Consistent platform entry.before) :
    response.deliveryIds =
        entry.after.deliveryIds call.workspaceId response.message.messageId ∧
      (entry.after.deliveriesOf call.workspaceId response.message.messageId).map
          (fun row => (MessageDb.recipientOf row).address) =
        call.recipients.map MessagePrincipal.address := by
  rcases sent.stored stepped consistent.sound with ⟨row, keyEq, hashEq, stored⟩
  have workspaceEq : row.workspaceId = call.workspaceId := by
    rcases sent.2.1.exists_key with ⟨_, -, scopeEq⟩
    exact congrArg Prod.fst (keyEq.trans scopeEq.symm)
  have messageEq := MessageDb.messageId_of_loadMessage stored.loaded
  have tracedAfter := (consistent_of_step entry.before entry.action consistent).traced
  rw [stepped] at tracedAfter
  rcases tracedAfter row stored.mem with ⟨origin, originHash, -, recipientsEq⟩
  have fingerprintEq : origin.fingerprint = call.fingerprint :=
    serialize_sendFingerprint_injective (collisionFree (originHash.symm.trans hashEq))
  have addressesEq := congrArg (fun fingerprint : SendFingerprint =>
    fingerprint.recipients.map MessagePrincipal.address) fingerprintEq
  simp only [fingerprint, map_map] at addressesEq
  rw [messageEq, ← workspaceEq]
  constructor
  · exact stored.ids.symm
  refine Eq.trans ?_ addressesEq
  rw [← recipientsEq, map_map]
  rfl

/-- Exactly-once sending under one key, over a whole run. -/
structure ExactlyOnce (scope : IdempotencyScope) (entries : List (StoreEntry Digest)) : Prop where
  /-- At most one message row is created for the key. -/
  once : (createdRows scope entries).length ≤ 1
  /-- Every successful call returns one message and one list of deliveries. -/
  same : ∃ messageId deliveryIds, ∀ entry ∈ entries, ∀ environment call response,
    Sent scope entry environment call response →
      response.message.messageId = messageId ∧ response.deliveryIds = deliveryIds
  /-- The deliveries are those of the recipients, in their order. -/
  ordered : ∀ entry ∈ entries, ∀ environment call response,
    Sent scope entry environment call response →
      response.deliveryIds =
          entry.after.deliveryIds call.workspaceId response.message.messageId ∧
        (entry.after.deliveriesOf call.workspaceId response.message.messageId).map
            (fun row => (MessageDb.recipientOf row).address) =
          call.recipients.map MessagePrincipal.address
  /-- A later valid call with another fingerprint is a conflict. -/
  conflict : entries.Pairwise fun first second =>
    ∀ environment call response later other, Sent scope first environment call response →
      second.action = .send later other → other.Carries scope →
      other.validate (later.clock 0) = .ok () → later.Calm →
      other.fingerprint ≠ call.fingerprint → second.outcome = .error conflict
  /-- A failed call changes no table. -/
  atomic : ∀ entry ∈ entries, ∀ error, entry.outcome = .error error → entry.after = entry.before

/-- Every run of the store from its empty tables sends exactly once under every idempotency key, if
digests do not collide. -/
theorem sends_exactly_once (platform : Platform Digest)
    (collisionFree : Injective platform.requestHash) (scope : IdempotencyScope)
    (calls : List Call) : ExactlyOnce scope (trace (step platform) .empty calls) where
  once := length_createdRows_le_one scope sound_empty calls
  same := exists_response scope sound_empty calls
  ordered := by
    intro entry entryMem environment call response sent
    rcases of_mem_trace entryMem with ⟨earlier, later, -, reached, stepped⟩
    have consistent : Consistent platform entry.before := by
      rw [← reached]
      exact exec_invariant consistent_of_step consistent_empty earlier
    exact sent.deliveries_ordered collisionFree stepped consistent
  conflict := by
    refine pairwise_trace Sound (fun _ action holds => sound_exec holds [action]) ?_ sound_empty
      calls
    intro state action rest stateSound second secondMem environment call response later other
      sent actionEq carries valid calm differs
    rcases sent.stored rfl stateSound with ⟨row, rfl, hashEq, stored⟩
    rcases of_mem_trace secondMem with ⟨earlier, _, -, reached, stepped⟩
    have storedThen : Stored row response.message response.deliveryIds second.before := by
      rw [← reached]
      exact stored.extend (extends_exec _ earlier)
    have hashNe : row.requestHash ≠ other.hash platform.requestHash := by
      rw [hashEq]
      intro same
      exact differs (serialize_sendFingerprint_injective (collisionFree same)).symm
    have refused : sendWithPolicyRevision platform.requestHash later other second.before =
        (.error conflict, second.before) := by
      rw [storedThen.send_eq carries valid calm, if_neg hashNe]
    rw [actionEq, step, refused] at stepped
    exact (congrArg Prod.fst stepped).symm
  atomic := by
    intro entry entryMem error failed
    rcases of_mem_trace entryMem with ⟨_, _, -, -, stepped⟩
    rw [failed] at stepped
    exact eq_of_step_error stepped

/-- A retry of a send creates nothing more than the send did. -/
theorem sends_exactly_once_retry : Injective Sample.platform.requestHash ∧
      (createdRows ("workspace", .agent, "sender", "key")
        (trace (step Sample.platform) .empty
          [.send (environment "a" 0) (send "hello" none),
            .send (environment "b" 5) (send "hello" none)])).length ≤ 1 :=
  ⟨injective_id, (sends_exactly_once Sample.platform injective_id _ _).once⟩

/-- Another send under a used key is refused for what its validation finds first, not as a conflict.
-/
theorem invalid_reuse_is_not_a_conflict :
    (step Sample.platform .empty
        (.send (environment "a" 0) (send "hello" none))).1.isOk = true ∧
      (send "" none).Carries ("workspace", .agent, "sender", "key") ∧
      (send "hello" none).Carries ("workspace", .agent, "sender", "key") ∧
      (send "" none).fingerprint ≠ (send "hello" none).fingerprint ∧
      (step Sample.platform
          (step Sample.platform .empty (.send (environment "a" 0) (send "hello" none))).2
          (.send (environment "b" 0) (send "" none))).1 =
        .error (.contract "message_body_invalid" "message body must contain 1-32768 bytes") := by
  decide +kernel

end

section
variable [DecidableEq Digest]

/-- The call `call`, made for another policy revision. -/
def SendCall.atRevision (call : SendCall) (revision : Option Nat) : SendCall :=
  { call with policyRevision := revision }

theorem SendCall.validate_atRevision_iff {call : SendCall} {revision : Option Nat}
    {first : DateTime} (valid : call.validate first = .ok ()) :
    (call.atRevision revision).validate now = .ok () ↔ expired now call.request = false := by
  rcases validate_eq_ok_iff.mp valid with ⟨principal, shape, -, parties⟩
  rw [validate_eq_ok_iff]
  constructor
  · rintro ⟨-, -, pending, -⟩
    exact pending
  · intro pending
    exact ⟨principal, shape, pending, parties⟩

/-- After a send committed under a key and any calls, repeating the request returns the original
response as a replay and changes nothing exactly when its expiry has not passed. -/
theorem committed_send_replays_iff (platform : Platform Digest) (earlier later : List Call)
    (environment retry : Environment) (call : SendCall) (revision : Option Nat)
    (response : SendMessageResponse) (committed : MessageDb Digest)
    (keyed : call.request.idempotencyKey.isSome = true)
    (sent : step platform (exec (step platform) .empty earlier) (.send environment call) =
      (.ok (.sent response), committed))
    (calm : retry.Calm) :
    step platform (exec (step platform) committed later)
        (.send retry (call.atRevision revision)) =
      (.ok (.sent { response with idempotentReplay := true }),
        exec (step platform) committed later) ↔
      expired (retry.clock 0) call.request = false := by
  rcases Option.isSome_iff_exists.mp keyed with ⟨key, keyEq⟩
  have carries : call.Carries (call.scope key) := by
    rw [SendCall.Carries, keyEq]
    rfl
  rcases answer_eq_ok sent with ⟨_, ⟨⟩, done⟩
  have valid := (cases_of_ok done).1
  have sound : Sound (exec (step platform) .empty earlier) := sound_exec sound_empty earlier
  rcases stored_of_ok done sound carries with ⟨row, keyed, hashEq, stored⟩
  have storedLater : Stored row response.message response.deliveryIds
      (exec (step platform) committed later) := stored.extend (extends_exec committed later)
  constructor
  · intro replayed
    rcases answer_eq_ok replayed with ⟨_, -, retried⟩
    exact (validate_atRevision_iff valid).mp (cases_of_ok retried).1
  · intro pending
    have validAgain : (call.atRevision revision).validate (retry.clock 0) = .ok () :=
      (validate_atRevision_iff valid).mpr pending
    have carriesAgain : (call.atRevision revision).Carries row.key := keyed ▸ carries
    have hashAgain : row.requestHash = (call.atRevision revision).hash platform.requestHash :=
      hashEq
    rw [step, storedLater.send_eq carriesAgain validAgain calm, if_pos hashAgain]
    rfl

/-- A send with an expiry in the future, retried before it. -/
theorem committed_send_replays_before_expiry : ∃ response committed,
      step Sample.platform .empty
          (.send (environment "a" 0) (send "hello" (some ⟨10⟩))) =
        (.ok (.sent response), committed) ∧
      step Sample.platform committed
          (.send (environment "b" 9) ((send "hello" (some ⟨10⟩)).atRevision none)) =
        (.ok (.sent { response with idempotentReplay := true }), committed) := by
  refine ⟨_, _, rfl, ?_⟩
  exact (committed_send_replays_iff Sample.platform [] [] (environment "a" 0)
    (environment "b" 9) (send "hello" (some ⟨10⟩)) none _ _ rfl rfl
    (Sample.calm_environment "b" 9)).mpr (by decide)

/-- The same retry after the expiry is refused, although the send committed. -/
theorem committed_send_is_refused_after_expiry :
    (step Sample.platform .empty
        (.send (environment "a" 0) (send "hello" (some ⟨10⟩)))).1.isOk = true ∧
      (step Sample.platform
          (step Sample.platform .empty (.send (environment "a" 0) (send "hello" (some ⟨10⟩)))).2
          (.send (environment "b" 20) (send "hello" (some ⟨10⟩)))).1 =
        .error (.contract "message_expiry_invalid" "message expiry must be in the future") := by
  decide +kernel

end
end Treer.Message
