import Treer.Message.Invariant

/-!
# Acknowledged deliveries

The acknowledgement of a delivery is final, belongs to the recipient it was
delivered to, and is announced by exactly one event. The first and the last of
these are invariants of single changes; who may acknowledge is read off the
walk of an acknowledgement.
-/

namespace Treer.Message

open Foundation List Table
variable {Digest : Type}

/-- The event announces the acknowledgement of this delivery. -/
def DomainEventEnvelope.announces (deliveryId : String) (event : DomainEventEnvelope) : Bool :=
  decide event.Acknowledges && event.resourceId == deliveryId

variable {deliveryId : String}

namespace MessageDb

variable (db : MessageDb Digest)

/-- The number of events that announce the acknowledgement of a delivery. -/
def announcements (deliveryId : String) : Nat :=
  db.events.countP fun event => event.announces deliveryId

def Pending (deliveryId : String) : Prop :=
  ∃ row ∈ db.deliveries, row.deliveryId = deliveryId ∧ row.acknowledgedAt = none

def Acknowledged (deliveryId : String) : Prop :=
  ∃ row ∈ db.deliveries, row.deliveryId = deliveryId ∧ row.acknowledgedAt.isSome = true

theorem not_acknowledged_of_pending {db : MessageDb Digest} (pending : db.Pending deliveryId) :
    ¬ db.Acknowledged deliveryId := by
  rintro ⟨other, otherMem, otherId, acknowledged⟩
  rcases pending with ⟨row, rowMem, rowId, notYet⟩
  have same : other = row := eq_of_key_eq otherMem rowMem (otherId.trans rowId.symm)
  rw [same, notYet] at acknowledged
  cases acknowledged

end MessageDb

open MessageDb

/-! ## One change -/

variable {delivery : DeliveryRow}

namespace Stamped

variable {row : DeliveryRow} {now : DateTime} {event : DomainEventEnvelope}
  {before after : MessageDb Digest}

theorem stamp_self : stamp row now row = { row with acknowledgedAt := some now } := by
  simp [stamp]

theorem stamp_of_ne {other : DeliveryRow} (differs : other.deliveryId ≠ row.deliveryId) :
    stamp row now other = other := by
  simp [stamp, differs]

/-- A delivery after the stamp is an old one, or the stamped one. -/
theorem mem_deliveries_iff (stamped : Stamped row now event before after) :
    delivery ∈ after.deliveries ↔
      delivery ∈ before.deliveries ∧ delivery.deliveryId ≠ row.deliveryId ∨
        delivery = { row with acknowledgedAt := some now } := by
  rw [← mem_rows, stamped.deliveries_rows, mem_map]
  constructor
  · rintro ⟨old, oldMem, rfl⟩
    by_cases same : old.deliveryId = row.deliveryId
    · have oldEq : old = row := eq_of_key_eq oldMem stamped.mem same
      right
      rw [oldEq, stamp_self]
    · left
      rw [stamp_of_ne same]
      exact ⟨oldMem, same⟩
  · rintro (⟨oldMem, differs⟩ | rfl)
    · exact ⟨delivery, oldMem, stamp_of_ne differs⟩
    · exact ⟨row, stamped.mem, stamp_self⟩

theorem announcements_eq (stamped : Stamped row now event before after) (deliveryId : String) :
    after.announcements deliveryId =
      before.announcements deliveryId + if row.deliveryId = deliveryId then 1 else 0 := by
  have acknowledges := stamped.acknowledges
  rw [announcements, stamped.events, countP_append, countP_singleton]
  simp [announcements, DomainEventEnvelope.announces, acknowledges, stamped.resource]

end Stamped

namespace Change

variable {before after : MessageDb Digest}

section
variable (change : Change before after)
include change

/-- The row of an acknowledged delivery is never touched again. -/
theorem mem_of_acknowledged (deliveryMem : delivery ∈ before.deliveries)
    (acknowledged : delivery.acknowledgedAt.isSome = true) : delivery ∈ after.deliveries := by
  cases change with
  | posted posted => exact posted.mem_deliveries_iff.mpr (Or.inl deliveryMem)
  | @stamped row _ _ stamped =>
    rw [stamped.mem_deliveries_iff]
    left
    refine ⟨deliveryMem, ?_⟩
    intro same
    have rowEq : delivery = row := eq_of_key_eq deliveryMem stamped.mem same
    rw [rowEq, stamped.pending] at acknowledged
    cases acknowledged
  | recorded recorded =>
    rw [recorded.deliveries]
    exact deliveryMem

/-- Events are only appended. -/
theorem announcements_le (deliveryId : String) :
    before.announcements deliveryId ≤ after.announcements deliveryId := by
  cases change with
  | posted posted =>
    rw [posted.rest]
    exact Nat.le_refl _
  | stamped stamped =>
    rw [stamped.announcements_eq]
    exact Nat.le_add_right _ _
  | recorded recorded =>
    rcases recorded.events with ⟨_, eventsEq, -⟩
    rw [announcements, announcements, eventsEq, countP_append]
    exact Nat.le_add_right _ _

/-- A pending delivery stays pending until its acknowledgement is announced. -/
theorem pending_or_announced (pending : before.Pending deliveryId) :
    after.Pending deliveryId ∨ 0 < after.announcements deliveryId := by
  rcases pending with ⟨delivery, deliveryMem, idEq, notYet⟩
  cases change with
  | posted posted =>
    exact .inl ⟨delivery, posted.mem_deliveries_iff.mpr (Or.inl deliveryMem), idEq, notYet⟩
  | @stamped row _ _ stamped =>
    by_cases same : row.deliveryId = deliveryId
    · right
      rw [stamped.announcements_eq, if_pos same]
      exact Nat.succ_pos _
    · left
      have differs : delivery.deliveryId ≠ row.deliveryId :=
        fun equal => same (equal.symm.trans idEq)
      exact ⟨delivery, stamped.mem_deliveries_iff.mpr (Or.inl ⟨deliveryMem, differs⟩), idEq, notYet⟩
  | recorded recorded => exact .inl ⟨delivery, recorded.deliveries ▸ deliveryMem, idEq, notYet⟩

end
end Change

variable {before after : MessageDb Digest}

/-- No acknowledgement is announced twice, and none that did not happen. -/
structure Audited (db : MessageDb Digest) : Prop where
  once : ∀ deliveryId, db.announcements deliveryId ≤ 1
  happened : ∀ deliveryId, 0 < db.announcements deliveryId → db.Acknowledged deliveryId

theorem audited_empty : Audited (empty : MessageDb Digest) where
  once := fun _ => Nat.zero_le 1
  happened := fun _ announced => absurd announced (Nat.lt_irrefl 0)

theorem Change.acknowledged (change : Change before after)
    (acknowledged : before.Acknowledged deliveryId) :
    after.Acknowledged deliveryId := by
  rcases acknowledged with ⟨row, rowMem, idEq, stamped⟩
  exact ⟨row, change.mem_of_acknowledged rowMem stamped, idEq, stamped⟩

theorem Change.audited (change : Change before after)
    (audited : Audited before) : Audited after := by
  have announcedBefore : ∀ deliveryId, after.announcements deliveryId =
      before.announcements deliveryId ∨
        before.announcements deliveryId = 0 ∧ after.announcements deliveryId = 1 ∧
          after.Acknowledged deliveryId := by
    intro deliveryId
    cases change with
    | posted posted =>
      left
      rw [posted.rest]
      rfl
    | @stamped row _ _ stamped =>
      rw [stamped.announcements_eq]
      by_cases same : row.deliveryId = deliveryId
      · -- The stamped delivery was pending, so nothing had announced it.
        right
        have pending : before.Pending deliveryId := ⟨row, stamped.mem, same, stamped.pending⟩
        have silent : before.announcements deliveryId = 0 := by
          by_contra loud
          exact not_acknowledged_of_pending pending
            (audited.happened deliveryId (Nat.pos_of_ne_zero loud))
        rw [if_pos same, silent]
        exact ⟨rfl, rfl, _, stamped.mem_deliveries_iff.mpr (Or.inr rfl), same, rfl⟩
      · left
        rw [if_neg same, Nat.add_zero]
    | recorded recorded =>
      left
      rcases recorded.events with ⟨added, eventsEq, others⟩
      have silent : added.countP (fun event => event.announces deliveryId) = 0 := by
        rw [countP_eq_zero]
        intro event eventMem announced
        simp only [DomainEventEnvelope.announces, Bool.and_eq_true, decide_eq_true_eq] at announced
        exact others event eventMem announced.1
      rw [announcements, eventsEq, countP_append, silent, Nat.add_zero]
      rfl
  constructor
  · intro deliveryId
    rcases announcedBefore deliveryId with same | ⟨-, one, -⟩
    · rw [same]
      exact audited.once deliveryId
    · rw [one]
  · intro deliveryId announced
    rcases announcedBefore deliveryId with same | ⟨-, -, acknowledged⟩
    · rw [same] at announced
      exact change.acknowledged (audited.happened deliveryId announced)
    · exact acknowledged

namespace AckCall

variable {environment : Environment} {call : AckCall} {before after : MessageDb Digest}
  {deliveryIds : List String}

section
variable (walk : Walk environment call before deliveryIds after)
include walk

/-- A walk stamps pending deliveries it names and owns, and touches no other. -/
theorem Walk.mem_deliveries (deliveryMem : delivery ∈ after.deliveries) :
    delivery ∈ before.deliveries ∨ ∃ old ∈ before.deliveries,
      old.acknowledgedAt = none ∧ call.owns delivery.deliveryId old = true ∧
        delivery.deliveryId ∈ deliveryIds ∧
        delivery = { old with acknowledgedAt := some (environment.clock 0) } := by
  induction walk with
  | nil => exact .inl deliveryMem
  | already _ _ _ _ ih =>
    rcases ih deliveryMem with unchanged | ⟨old, oldMem, pending, oldOwned, named, eq⟩
    · exact .inl unchanged
    · exact .inr ⟨old, oldMem, pending, oldOwned, mem_cons_of_mem _ named, eq⟩
  | @fresh _ _ _ deliveryId _ row _ rowMem owned pending announced _ ih =>
    have stamped := stamped_of_announced rowMem owned pending announced
    have idEq : row.deliveryId = deliveryId := (owns_iff.mp owned).2.1
    rcases ih deliveryMem with unchanged | ⟨old, oldMem, oldPending, oldOwned, named, eq⟩
    · rcases stamped.mem_deliveries_iff.mp unchanged with ⟨oldMem, -⟩ | stampedEq
      · exact .inl oldMem
      right
      have sameId : delivery.deliveryId = deliveryId := by
        rw [stampedEq]
        exact idEq
      exact ⟨row, rowMem, pending, sameId ▸ owned, sameId ▸ mem_cons_self, stampedEq⟩
    · rcases stamped.mem_deliveries_iff.mp oldMem with ⟨oldMem, -⟩ | stampedEq
      · exact .inr ⟨old, oldMem, oldPending, oldOwned, mem_cons_of_mem _ named, eq⟩
      · rw [stampedEq] at oldPending
        cases oldPending

/-- A finished walk owned every delivery it named from the start. -/
theorem Walk.owned :
    ∀ deliveryId ∈ deliveryIds, ∃ row ∈ before.deliveries, call.owns deliveryId row = true := by
  induction walk with
  | nil => simp
  | already rowMem owned _ _ ih => exact forall_mem_cons.mpr ⟨⟨_, rowMem, owned⟩, ih⟩
  | @fresh _ _ _ _ _ row _ rowMem owned pending announced _ ih =>
    have stamped := stamped_of_announced rowMem owned pending announced
    refine forall_mem_cons.mpr ⟨⟨row, rowMem, owned⟩, ?_⟩
    intro other otherMem
    rcases ih other otherMem with ⟨found, foundMem, foundOwned⟩
    rcases stamped.mem_deliveries_iff.mp foundMem with ⟨oldMem, -⟩ | stampedEq
    · exact ⟨found, oldMem, foundOwned⟩
    · rw [stampedEq] at foundOwned
      exact ⟨row, rowMem, foundOwned⟩

end

variable [DecidableEq Digest] {requestHash : List JsonToken → Digest}
  {response : AcknowledgeMessagesResponse}

/-- A successful acknowledgement leaves a record of its response. -/
theorem operation_of_ok
    (done : acknowledgeWithPolicyRevision requestHash environment call before =
      (.ok response, after)) :
    ∃ row ∈ after.ackOperations, row.key = call.scope ∧
      row.requestHash = call.hash requestHash ∧ row.response = response := by
  rcases (cases_of_ok done).2 with ⟨⟨row, replayed⟩, rfl⟩ | ⟨_, performed⟩
  · exact ⟨row, replayed.mem, replayed.scope, replayed.hash, replayed.response⟩
  rcases of_map_insert? performed.record with ⟨_, rowsEq, rfl⟩
  refine ⟨call.operationRow requestHash environment response, ?_, rfl, rfl, rfl⟩
  exact (mem_of_rows_append rowsEq).mpr (Or.inr (mem_singleton_self _))

/-- A recorded operation is answered from its record. -/
theorem acknowledge_of_operation {row : AckOperationRow Digest}
    (rowMem : row ∈ before.ackOperations) (keyEq : row.key = call.scope)
    (hashEq : row.requestHash = call.hash requestHash) (valid : call.validate = .ok ())
    (calm : environment.Calm) :
    acknowledgeWithPolicyRevision requestHash environment call before =
      (.ok row.response, before) := by
  have found : before.ackOperations.find? call.scope = some row :=
    find?_eq_some_iff.mpr ⟨rowMem, keyEq⟩
  have agrees : (row.requestHash != call.hash requestHash) = false := by simp [hashEq]
  have answered : (call.transaction requestHash environment) ⟨before, before⟩ =
      (.ok row.response, ⟨before, before⟩) := by
    rw [transaction, valid, Tx.lift_ok_bind, calm.check_bind, calm.check_bind,
      calm.query_bind_apply, found]
    simp only [agrees]
    rw [Tx.failIf_false_bind, calm.commit_bind_apply]
    rfl
  rw [acknowledgeWithPolicyRevision, Tx.run, answered]

end AckCall

theorem ImportCall.Walk.mem_deliveries {sha256Hex : List UInt8 → String} {workspaceId : String}
    {before after : MessageDb Digest} {messages : List LegacyMailMessage}
    (walk : ImportCall.Walk sha256Hex workspaceId before messages after)
    (deliveryMem : delivery ∈ before.deliveries) :
    delivery ∈ after.deliveries := by
  induction walk with
  | nil => exact deliveryMem
  | existing _ _ ih => exact ih deliveryMem
  | inserted inserted _ ih =>
    exact ih ((mem_of_rows_append inserted.deliveries).mpr (Or.inl deliveryMem))

/-! ## Whole runs -/

section
variable [DecidableEq Digest] {platform : Platform Digest}

/-- A delivery that was pending and is acknowledged now has been announced. -/
theorem announced_of_acknowledged {db : MessageDb Digest} (call : Call)
    (pending : db.Pending deliveryId)
    (acknowledged : (step platform db call).2.Acknowledged deliveryId) :
    0 < (step platform db call).2.announcements deliveryId := by
  have either : (step platform db call).2.Pending deliveryId ∨
      0 < (step platform db call).2.announcements deliveryId := by
    refine exec_invariant_of_change
      (fun state => state.Pending deliveryId ∨ 0 < state.announcements deliveryId)
      ?_ (Or.inl pending) [call]
    rintro _ _ change (stillPending | announced)
    · exact change.pending_or_announced stillPending
    · exact .inr (Nat.lt_of_lt_of_le announced (change.announcements_le deliveryId))
  rcases either with stillPending | announced
  · exact absurd acknowledged (not_acknowledged_of_pending stillPending)
  · exact announced

/-- The call names the delivery, its principal owns it, and a scoped call is for its endpoint. -/
def AcknowledgedBy (before : MessageDb Digest) (call : AckCall) (delivery : DeliveryRow) : Prop :=
  delivery.deliveryId ∈ call.request.deliveryIds ∧ before.Pending delivery.deliveryId ∧
    delivery.workspaceId = call.workspaceId ∧
    delivery.recipientKind = call.principal.kind ∧ delivery.recipientId = call.principal.id ∧
    ∀ endpoint, call.request.appEndpoint = some endpoint → delivery.recipientEndpoint = endpoint

/-- Where an acknowledged row that a call brings in comes from. -/
theorem source_of_acknowledged {call : Call} {before after : MessageDb Digest} {reply : Reply}
    (done : step platform before call = (.ok reply, after))
    (deliveryMem : delivery ∈ after.deliveries)
    (acknowledged : delivery.acknowledgedAt.isSome = true) (new : delivery ∉ before.deliveries) :
    (∃ environment ack, call = .acknowledge environment ack ∧
        AcknowledgedBy before ack delivery) ∨
      (∃ environment legacy, call = .importLegacyMail environment legacy ∧
        ∀ row ∈ before.deliveries, row.deliveryId ≠ delivery.deliveryId) := by
  cases call with
  | send =>
    rcases answer_eq_ok done with ⟨response, -, sent⟩
    rcases (SendCall.cases_of_ok sent).2 with ⟨-, rfl⟩ | ⟨-, created⟩
    · exact absurd deliveryMem new
    rcases (mem_of_rows_append created.deliveries).mp deliveryMem with old | own
    · exact absurd old new
    · rcases SendCall.mem_deliveryRows_iff.mp own with ⟨_, _, -, rfl⟩
      cases acknowledged
  | acknowledge environment ack =>
    left
    refine ⟨environment, ack, rfl, ?_⟩
    rcases answer_eq_ok done with ⟨response, -, acked⟩
    rcases (AckCall.cases_of_ok acked).2 with ⟨-, rfl⟩ | ⟨walked, performed⟩
    · exact absurd deliveryMem new
    rcases of_map_insert? performed.record with ⟨_, -, rfl⟩
    rcases performed.walk.mem_deliveries deliveryMem with old | ⟨old, oldMem, pending, owned,
      named, rfl⟩
    · exact absurd old new
    · rcases AckCall.owns_iff.mp owned with ⟨workspaceEq, -, kindEq, idEq, endpointEq⟩
      exact ⟨named, ⟨old, oldMem, rfl, pending⟩, workspaceEq, kindEq, idEq, endpointEq⟩
  | importLegacyMail environment legacy =>
    right
    refine ⟨environment, legacy, rfl, ?_⟩
    rcases answer_eq_ok done with ⟨_, -, imported⟩
    rcases (ImportCall.cases_of_ok imported).2 with ⟨-, rfl⟩ | ⟨_, recorded, performed⟩
    · exact absurd deliveryMem new
    intro row rowMem sameId
    have rowAfter : row ∈ after.deliveries := by
      rw [performed.recorded.deliveries]
      exact performed.walk.mem_deliveries rowMem
    exact new (eq_of_key_eq rowAfter deliveryMem sameId ▸ rowMem)
  | receiveAfter | listAppConversation | get =>
    have unchanged : before = after := congrArg Prod.snd done
    exact absurd (unchanged ▸ deliveryMem) new
  | dispatchPending =>
    rcases answer_eq_ok done with ⟨_, -, done⟩
    rw [(sameButDispatch_of_ok done).1] at deliveryMem
    exact absurd deliveryMem new

/-- What acknowledging deliveries guarantees, over a whole run. -/
structure AcknowledgesOnce (platform : Platform Digest) (calls : List Call) : Prop where
  /-- The row of an acknowledged delivery never changes again. -/
  final : ∀ earlier later, calls = earlier ++ later →
    ∀ delivery ∈ (exec (step platform) .empty earlier).deliveries,
      delivery.acknowledgedAt.isSome = true →
        delivery ∈ (exec (step platform) .empty calls).deliveries
  /-- Only its owner, or the import that created it, acknowledges a delivery. -/
  owned : ∀ entry ∈ trace (step platform) .empty calls,
    ∀ delivery ∈ entry.after.deliveries, delivery.acknowledgedAt.isSome = true →
      delivery ∉ entry.before.deliveries →
        (∃ environment ack, entry.action = .acknowledge environment ack ∧
          AcknowledgedBy entry.before ack delivery) ∨
        (∃ environment legacy, entry.action = .importLegacyMail environment legacy ∧
          ∀ row ∈ entry.before.deliveries, row.deliveryId ≠ delivery.deliveryId)
  /-- A delivery that some call acknowledged has exactly one event. -/
  audited : ∀ entry ∈ trace (step platform) .empty calls, ∀ environment ack deliveryId,
    entry.action = .acknowledge environment ack → entry.before.Pending deliveryId →
      entry.after.Acknowledged deliveryId →
        (exec (step platform) .empty calls).announcements deliveryId = 1
  /-- Naming one missing or foreign delivery acknowledges none. -/
  allOrNone : ∀ entry ∈ trace (step platform) .empty calls, ∀ environment ack,
    entry.action = .acknowledge environment ack → ∀ deliveryId ∈ ack.request.deliveryIds,
      (∀ row ∈ entry.before.deliveries, ack.owns deliveryId row = false) →
        entry.after = entry.before
  /-- Repeating an operation with the same deliveries in the same order and the
  same endpoint returns the recorded response and changes nothing. -/
  repeatable : (trace (step platform) .empty calls).Pairwise fun first second =>
    ∀ environment ack response later other, first.action = .acknowledge environment ack →
      first.outcome = .ok (.acknowledged response) →
      second.action = .acknowledge later other → other.scope = ack.scope →
      other.request.deliveryIds = ack.request.deliveryIds →
      other.request.appEndpoint = ack.request.appEndpoint → later.Calm →
        second.outcome = .ok (.acknowledged response) ∧ second.after = second.before

/-- Every run of the store from its empty tables acknowledges deliveries finally,
by their owners and with one event each. -/
theorem acknowledges_once (platform : Platform Digest) (calls : List Call) :
    AcknowledgesOnce platform calls where
  final := by
    rintro earlier later rfl delivery deliveryMem acknowledged
    rw [exec_append]
    exact exec_invariant_of_change (fun state => delivery ∈ state.deliveries)
      (fun change mem => change.mem_of_acknowledged mem acknowledged) deliveryMem later
  owned := by
    intro entry entryMem delivery deliveryMem acknowledged new
    rcases of_mem_trace entryMem with ⟨_, _, -, -, stepped⟩
    rcases outcome : entry.outcome with error | reply
    · rw [outcome] at stepped
      rw [eq_of_step_error stepped] at deliveryMem
      exact absurd deliveryMem new
    · rw [outcome] at stepped
      exact source_of_acknowledged stepped deliveryMem acknowledged new
  audited := by
    intro entry entryMem environment ack deliveryId actionEq pending acknowledged
    have atMostOne : Audited (exec (step platform) .empty calls) :=
      exec_invariant_of_change Audited Change.audited audited_empty calls
    rcases of_mem_trace entryMem with ⟨_, later, callsEq, reached, stepped⟩
    have announced : 0 < (exec (step platform) .empty calls).announcements deliveryId := by
      rw [callsEq, exec_append, exec, reached]
      apply exec_invariant_of_change (fun state => 0 < state.announcements deliveryId)
        (fun change before => Nat.lt_of_lt_of_le before (change.announcements_le deliveryId)) _
        later
      apply announced_of_acknowledged entry.action pending
      rw [stepped]
      exact acknowledged
    exact Nat.le_antisymm (atMostOne.once deliveryId) announced
  allOrNone := by
    intro entry entryMem environment ack actionEq deliveryId named foreign
    rcases of_mem_trace entryMem with ⟨_, _, -, -, stepped⟩
    rw [actionEq] at stepped
    rcases outcome : entry.outcome with _ | _
    · rw [outcome] at stepped
      exact eq_of_step_error stepped
    rw [outcome] at stepped
    rcases answer_eq_ok stepped with ⟨_, -, done⟩
    rcases (AckCall.cases_of_ok done).2 with ⟨-, afterEq⟩ | ⟨_, performed⟩
    · exact afterEq
    rcases performed.walk.owned deliveryId named with ⟨row, rowMem, owned⟩
    rw [foreign row rowMem] at owned
    cases owned
  repeatable := by
    refine pairwise_trace (fun _ => True) (fun _ _ _ => trivial) ?_ trivial calls
    intro state action rest _ second secondMem environment ack response later other actionEq
      outcomeEq laterEq scopeEq idsEq endpointEq calm
    have done : step platform state (.acknowledge environment ack) =
        (.ok (.acknowledged response), (step platform state action).2) := by
      rw [← actionEq, ← outcomeEq]
    rcases answer_eq_ok done with ⟨_, ⟨⟩, acked⟩
    rcases AckCall.operation_of_ok acked with ⟨row, rowMem, keyEq, hashEq, responseEq⟩
    rcases of_mem_trace secondMem with ⟨between, _, -, reached, stepped⟩
    have rowLater : row ∈ second.before.ackOperations := by
      rw [← reached]
      exact (extends_exec _ between).ackOperations row rowMem
    have requestEq : other.request = ack.request := by
      have operationEq : other.request.operationId = ack.request.operationId :=
        congrArg (fun scope => scope.2.2.2) scopeEq
      cases otherRequest : other.request
      cases ackRequest : ack.request
      simp only [otherRequest, ackRequest] at operationEq idsEq endpointEq
      rw [operationEq, idsEq, endpointEq]
    have hashSame : row.requestHash = other.hash platform.requestHash := by
      rw [hashEq, AckCall.hash, AckCall.hash, requestEq]
    have validOther : other.validate = .ok () := by
      rw [AckCall.validate, requestEq]
      exact (AckCall.cases_of_ok acked).1
    have repeated := AckCall.acknowledge_of_operation rowLater (keyEq.trans scopeEq.symm) hashSame
      validOther calm
    rw [laterEq, step, repeated, responseEq] at stepped
    exact ⟨(congrArg Prod.fst stepped).symm, (congrArg Prod.snd stepped).symm⟩

/-- An agent that acknowledges its deliveries in the other order under the same operation ID is
refused, although the set is the same. -/
theorem reordered_acknowledgement_conflicts :
    let sent := step Sample.platform .empty (.send (Sample.environment "a" 0)
      (Sample.sendTo [Sample.agent "first",
        { Sample.agent "first" with appEndpoint := some "inbox" }] "hello" none))
    let acked := step Sample.platform sent.2
      (.acknowledge (Sample.environment "b" 1) (Sample.acknowledge ["dlv_a0", "dlv_a00"]))
    acked.1 = .ok (.acknowledged ⟨["dlv_a0", "dlv_a00"], []⟩) ∧
      (step Sample.platform acked.2 (.acknowledge (Sample.environment "c" 2)
          (Sample.acknowledge ["dlv_a00", "dlv_a0"]))).1 =
        .error (.contract "message_ack_idempotency_conflict"
          "acknowledgement operation ID was used for a different delivery set") := by
  decide +kernel

end
end Treer.Message
