import Treer.Foundation.Run
import Treer.Message.Change

/-!
# Runs of the message store

The store as one system: every public operation is a call with its own
environment, transactions are executed one after another, and a run is a list
of calls.
-/

namespace Treer.Message

open Foundation

/-- The functions outside this repository the store relies on. -/
structure Platform (Digest : Type) where
  /-- `request_hash`, applied to the serialized value. -/
  requestHash : List JsonToken → Digest
  /-- The lowercase hexadecimal SHA-256 of a byte string. -/
  sha256Hex : List UInt8 → String
  texts : Texts

inductive Call where
  | send (environment : Environment) (call : SendCall)
  | acknowledge (environment : Environment) (call : AckCall)
  | importLegacyMail (environment : Environment) (call : ImportCall)
  | receiveAfter (environment : Environment) (workspaceId : String)
      (principal : MessagePrincipal) (limit waitMilliseconds : Nat) (after : Option String)
  | listAppConversation (environment : Environment) (workspaceId : String)
      (principal : MessagePrincipal) (before : Option String) (limit : Nat)
      (address : Option (String × String))
  | get (environment : Environment) (workspaceId : String) (principal : MessagePrincipal)
      (messageId : String)
  | dispatchPending (environment : Environment) (published : Nat → Bool)

inductive Reply where
  | sent (response : SendMessageResponse)
  | acknowledged (response : AcknowledgeMessagesResponse)
  | imported (response : ImportMessagesResponse)
  | received (response : ReceiveMessagesResponse)
  | listed (page : MessagePage)
  | found (message : CoreMessage)
  | dispatched (count : Nat)
  deriving DecidableEq

variable {Digest : Type} [DecidableEq Digest]

/-- One call against the store. -/
def step (platform : Platform Digest) (db : MessageDb Digest) :
    Call → Except MessageStoreError Reply × MessageDb Digest
  | .send environment call =>
    answer .sent (sendWithPolicyRevision platform.requestHash environment call db)
  | .acknowledge environment call =>
    answer .acknowledged (acknowledgeWithPolicyRevision platform.requestHash environment call db)
  | .importLegacyMail environment call =>
    answer .imported (importLegacyMail platform.requestHash platform.sha256Hex environment call db)
  | .receiveAfter environment workspaceId principal limit waitMilliseconds after =>
    answer .received
      (receiveAfter platform.texts environment workspaceId principal limit waitMilliseconds
        after db db, db)
  | .listAppConversation environment workspaceId principal before limit address =>
    answer .listed
      (listAppConversation platform.texts environment workspaceId principal before limit
        address db, db)
  | .get environment workspaceId principal messageId =>
    answer .found (get environment workspaceId principal messageId db, db)
  | .dispatchPending environment published =>
    answer .dispatched (dispatchPending platform.texts environment published db)

section
variable {platform : Platform Digest} {call : Call} {before after : MessageDb Digest}

/-- A call that returns an error changes no table. -/
theorem eq_of_step_error
    {error : MessageStoreError} (failed : step platform before call = (.error error, after)) :
    after = before := by
  cases call with
  | send => exact SendCall.eq_of_error (answer_eq_error failed)
  | acknowledge => exact AckCall.eq_of_error (answer_eq_error failed)
  | importLegacyMail => exact ImportCall.eq_of_error (answer_eq_error failed)
  | receiveAfter | listAppConversation | get => exact (congrArg Prod.snd failed).symm
  | dispatchPending =>
    refine Tx.RollsBack.run_eq_error ?_ (answer_eq_error failed)
    exact .bind Tx.noCommit_failIf fun _ =>
      .bind Tx.noCommit_ask fun _ =>
      .bind noCommit_dispatchAll fun _ => Tx.rollsBack_publish_pure

/-- Every successful call is a sequence of changes. -/
theorem changes_of_step_ok {reply : Reply}
    (done : step platform before call = (.ok reply, after)) : Changes before after := by
  cases call with
  | send =>
    rcases answer_eq_ok done with ⟨response, -, sent⟩
    rcases (SendCall.cases_of_ok sent).2 with ⟨-, rfl⟩ | ⟨-, created⟩
    · exact .refl
    · rcases created.changes with ⟨_, posted, recorded⟩
      exact .tail (.single (.posted posted)) (.recorded recorded)
  | acknowledge =>
    rcases answer_eq_ok done with ⟨response, -, acknowledged⟩
    rcases (AckCall.cases_of_ok acknowledged).2 with ⟨-, rfl⟩ | ⟨walked, performed⟩
    · exact .refl
    · exact .tail performed.walk.changes
        (.recorded (AckCall.recorded_of_insertAckOperation performed.record))
  | importLegacyMail =>
    rcases answer_eq_ok done with ⟨_, -, imported⟩
    rcases ImportCall.cases_of_ok imported with ⟨valid, ⟨-, rfl⟩ | ⟨_, recorded, performed⟩⟩
    · exact .refl
    simp only [validateImport, bind_eq_ok_iff, refuseIf_eq_ok_iff] at valid
    rcases valid with ⟨_, _, _, _, matching⟩
    rw [List.any_eq_false] at matching
    refine .tail (performed.walk.changes fun message messageMem => ?_)
      (.recorded performed.recorded)
    simpa using matching message messageMem
  | receiveAfter | listAppConversation | get =>
    have unchanged : before = after := congrArg Prod.snd done
    rw [unchanged]
  | dispatchPending =>
    rcases answer_eq_ok done with ⟨_, -, done⟩
    exact .single (.recorded (recorded_of_sameButDispatch (sameButDispatch_of_ok done)))

/-- Every call is a sequence of changes. -/
theorem changes_of_step (db : MessageDb Digest) (call : Call) :
    Changes db (step platform db call).2 := by
  rcases outcome : step platform db call with ⟨_ | _, _⟩
  · rw [eq_of_step_error outcome]
  · exact changes_of_step_ok outcome

/-- What every change preserves holds after every run. -/
theorem exec_invariant_of_change (holds : MessageDb Digest → Prop)
    (preserved : ∀ {before after : MessageDb Digest}, Change before after → holds before →
      holds after)
    {db : MessageDb Digest} (initial : holds db) (calls : List Call) :
    holds (exec (step platform) db calls) := by
  apply exec_invariant ?_ initial
  intro state call stateHolds
  exact (changes_of_step state call).head_induction_on
    (motive := fun first _ => holds first → holds (step platform state call).2)
    id (fun change _ rest firstHolds => rest (preserved change firstHolds)) stateHolds

end

namespace Sample

/-- Digests that are the digested tokens themselves. -/
def platform : Platform (List JsonToken) where
  requestHash := id
  sha256Hex := fun bytes => String.ofList (bytes.map fun byte => Char.ofNat byte.toNat)
  texts := {
    rfc3339 := fun time => String.ofList (List.replicate time.nanoseconds.toNat '0')
    parseRfc3339 := fun text => some ⟨text.toList.length⟩
    encode := id
    decode := some
    before := fun first second => decide (first < second) }

/-- A call at one instant whose UUIDs start with `seed`. -/
def environment (seed : String) (now : Int) : Environment where
  clock := fun _ => ⟨now⟩
  uuid := fun index => seed ++ String.ofList (List.replicate index '0')
  down := fun _ => false

theorem calm_environment (seed : String) (now : Int) : (environment seed now).Calm := fun _ => rfl

def agent (id : String) : MessagePrincipal where
  appEndpoint := none
  path := none
  kind := .agent
  id := id
  name := id
  role := none

/-- A message from one agent under one key. -/
def sendTo (recipients : List MessagePrincipal) (body : String) (expiresAt : Option DateTime) :
    SendCall where
  workspaceId := "workspace"
  sender := agent "sender"
  recipients := recipients
  request := {
    recipients := recipients.map MessagePrincipal.id
    contextIds := []
    body := body
    expiresAt := expiresAt
    idempotencyKey := some "key"
    correlationId := none
    traceId := none
    externalSource := none }
  policyRevision := none

def send (body : String) (expiresAt : Option DateTime) : SendCall :=
  sendTo [agent "first", agent "second"] body expiresAt

/-- An acknowledgement by the first recipient. -/
def acknowledge (deliveryIds : List String) : AckCall where
  workspaceId := "workspace"
  principal := agent "first"
  request := { appEndpoint := none, deliveryIds := deliveryIds, operationId := "operation" }
  policyRevision := none

end Sample
end Treer.Message
