import Treer.Foundation.Transaction
import Treer.Message.Tables

/-!
# One call against the message store

A call reads a clock, draws UUIDs and sends statements to the database, any of
which may fail on its own. `Environment` fixes these three for one call; the
programs of the store are transactions over `MessageDb` that use them through
the wrappers below.
-/

namespace Treer.Message

open Foundation Tx

/-- The statements of a call. `message` counts the messages of an import and is
zero elsewhere; `index` counts the rounds of a loop. -/
inductive Statement where
  | begin
  | lock
  | lookup
  | messageExists (message : Nat)
  | checkContext (message index : Nat)
  | insertMessage (message : Nat)
  | insertDelivery (message index : Nat)
  | insertContext (message index : Nat)
  | insertIdempotency
  | insertOutbox (index : Nat)
  | loadMessage (message : Nat)
  | selectDeliveries (message : Nat)
  | selectDelivery (index : Nat)
  | updateDelivery (index : Nat)
  | insertOperation
  | selectPage
  | countUnacknowledged
  | selectOutbox
  | updateOutbox (index : Nat)
  | commit

/-- What a call takes from outside: the successive readings of the clock, the
successive UUIDs, and the statements that the database fails to run. -/
structure Environment where
  clock : Nat → DateTime
  uuid : Nat → String
  down : Statement → Bool

/-- A program over the tables of the store. -/
abbrev StoreTx (Digest : Type) (α : Type) : Type :=
  Tx (MessageDb Digest) MessageStoreError α

namespace Environment

variable {Digest : Type} {α β : Type}

/-- Every statement of the call runs. -/
def Calm (environment : Environment) : Prop :=
  ∀ statement, environment.down statement = false

/-- `.await?` on a statement. -/
@[simp]
def check (environment : Environment) (statement : Statement) : StoreTx Digest Unit :=
  Tx.failIf (environment.down statement) .database

def query (environment : Environment) (statement : Statement)
    (select : MessageDb Digest → α) : StoreTx Digest α := do
  environment.check statement
  Tx.select select

def execute (environment : Environment) (statement : Statement)
    (write : MessageDb Digest → Option (MessageDb Digest)) : StoreTx Digest Unit := do
  environment.check statement
  Tx.execute .database write

/-- `load_message` inside a transaction. -/
@[simp]
def loadMessage (environment : Environment) (index : Nat) (workspaceId messageId : String) :
    StoreTx Digest CoreMessage := do
  let loaded ← environment.query (.loadMessage index) fun db => db.loadMessage workspaceId messageId
  Tx.lift loaded

def commit (environment : Environment) : StoreTx Digest Unit := do
  environment.check .commit
  Tx.commit

variable {write : MessageDb Digest → Option (MessageDb Digest)} {select : MessageDb Digest → α}
  {index : Nat} {environment : Environment}

section
variable {statement : Statement} {before after : Session (MessageDb Digest)}

/-- The wrappers are the statements of a transaction that may be down. -/
@[simp]
theorem query_eq :
    environment.query statement select = ask (environment.down statement) .database select :=
  rfl

@[simp]
theorem execute_eq :
    environment.execute statement write = Tx.write (environment.down statement) .database write :=
  rfl

theorem commit_eq :
    (environment.commit : StoreTx Digest Unit) = publish (environment.down .commit) .database :=
  rfl

end

section
variable {session : Session (MessageDb Digest)}

theorem Calm.check_bind (calm : environment.Calm) (statement : Statement)
    (rest : Unit → StoreTx Digest β) : (environment.check statement >>= rest) = rest () := by
  simp [check, calm statement]

theorem Calm.query_bind_apply (calm : environment.Calm) (statement : Statement)
    (select : MessageDb Digest → α) (rest : α → StoreTx Digest β) :
    (environment.query statement select >>= rest) session =
      rest (select session.working) session := by
  rw [query, bind_assoc, calm.check_bind]
  rfl

theorem Calm.commit_bind_apply (calm : environment.Calm) (rest : Unit → StoreTx Digest β) :
    (environment.commit >>= rest) session =
      rest () { session with committed := session.working } := by
  rw [commit, bind_assoc, calm.check_bind]
  rfl

end
end Environment
end Treer.Message
