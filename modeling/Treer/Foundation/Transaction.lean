import Mathlib.Tactic.Common

/-!
# Database transactions

A program that talks to a database through one transaction reads and writes a
private working copy. `commit` publishes that copy; a program that ends
without committing, whether by an error or by an early return, leaves the
published state as it found it.

The working copy survives an error on purpose. Rollback is therefore a
theorem about where the commits of a program stand, not a side effect of the
type of programs.
-/

namespace Treer.Foundation

universe u v w

/-- What one connection sees: the published state and its own working copy. -/
structure Session (σ : Type u) where
  (committed working : σ)

/-- A program over one connection, ending in a value or an error. -/
def Tx (σ : Type u) (ε : Type v) (α : Type) : Type (max u v) :=
  Session σ → Except ε α × Session σ

namespace Tx

variable {σ : Type u} {ε : Type v} {α β : Type}
  {before after : Session σ} {first program : Tx σ ε α} {rest : α → Tx σ ε β} {error : ε}
variable {ι : Type w} {index : Nat} {items : List ι}

/-- Sequential composition; an error skips the rest of the program. -/
def andThen (first : Tx σ ε α) (rest : α → Tx σ ε β) : Tx σ ε β := fun session =>
  match first session with
  | (.ok value, next) => rest value next
  | (.error error, next) => (.error error, next)

instance : Monad (Tx σ ε) where
  pure value := fun session => (.ok value, session)
  bind := andThen

/-- Stop with an error. -/
def fail (error : ε) : Tx σ ε α := fun session => (.error error, session)

/-- Lift a computation that does not touch the database. -/
def lift (outcome : Except ε α) : Tx σ ε α := fun session => (outcome, session)

/-- Stop with an error when a condition holds. -/
def failIf (condition : Bool) (error : ε) : Tx σ ε Unit := fun session =>
  if condition then (.error error, session) else (.ok (), session)

/-- Read from the working copy. -/
def select (query : σ → α) : Tx σ ε α := fun session => (.ok (query session.working), session)

/-- Write the working copy; `none` is a violated constraint. -/
def execute (error : ε) (statement : σ → Option σ) : Tx σ ε Unit := fun session =>
  match statement session.working with
  | some working => (.ok (), { session with working })
  | none => (.error error, session)

/-- Publish the working copy. -/
def commit : Tx σ ε Unit := fun session =>
  (.ok (), { session with committed := session.working })

/-- One write for each item, in order; `down index` is a write the database
refuses to run. -/
def executeAll {ι : Type w} (down : Nat → Bool) (error : ε) (statement : ι → σ → Option σ) :
    Nat → List ι → Tx σ ε Unit
  | _, [] => pure ()
  | index, item :: rest => do
    failIf (down index) error
    execute error (statement item)
    executeAll down error statement (index + 1) rest

/-- Stop with an error when the answer to a question is no. -/
def require (error : ε) (query : σ → Bool) : Tx σ ε Unit := do
  let answer ← select query
  failIf (!answer) error

/-- One question for each item, in order; the first negative answer stops the
program. -/
def requireAll {ι : Type w} (down : Nat → Bool) (error refusal : ε) (query : ι → σ → Bool) :
    Nat → List ι → Tx σ ε Unit
  | _, [] => pure ()
  | index, item :: rest => do
    failIf (down index) error
    require refusal (query item)
    requireAll down error refusal query (index + 1) rest

/-- A read the database may fail to run. -/
def ask (down : Bool) (error : ε) (query : σ → α) : Tx σ ε α := do
  failIf down error
  select query

/-- A write the database may fail to run. -/
def write (down : Bool) (error : ε) (statement : σ → Option σ) : Tx σ ε Unit := do
  failIf down error
  execute error statement

/-- A commit the database may fail to run. -/
def publish (down : Bool) (error : ε) : Tx σ ε Unit := do
  failIf down error
  commit

/-- Run a program on a fresh connection and return the published state. -/
def run (program : Tx σ ε α) (state : σ) : Except ε α × σ :=
  let (outcome, session) := program ⟨state, state⟩
  (outcome, session.committed)

theorem bind_assoc {γ : Type} (first : Tx σ ε α) (second : α → Tx σ ε β) (third : β → Tx σ ε γ) :
    ((first >>= second) >>= third) = (first >>= fun value => second value >>= third) := by
  funext session
  change andThen (andThen first second) third session =
    andThen first (fun value => andThen (second value) third) session
  unfold andThen
  rcases first session with ⟨_ | value, middle⟩ <;> rfl

@[simp]
theorem lift_ok_bind (value : α) (rest : α → Tx σ ε β) : (lift (.ok value) >>= rest) = rest value :=
  rfl

@[simp]
theorem failIf_false_bind (error : ε) (rest : Unit → Tx σ ε β) :
    (failIf false error >>= rest) = rest () :=
  rfl

@[simp]
theorem failIf_true_bind (error : ε) (rest : Unit → Tx σ ε β) :
    (failIf true error >>= rest) = fail error :=
  rfl

/-- `program` succeeds with `value`, taking the connection from `before` to
`after`. -/
def Succeeds (program : Tx σ ε α) (before : Session σ) (value : α) (after : Session σ) : Prop :=
  program before = (.ok value, after)

@[simp]
theorem succeeds_pure {value result : α} :
    Succeeds (pure value : Tx σ ε α) before result after ↔ value = result ∧ before = after := by
  simp [Succeeds, pure]

@[simp]
theorem succeeds_bind {result : β} : Succeeds (first >>= rest) before result after ↔
      ∃ value middle, Succeeds first before value middle ∧
        Succeeds (rest value) middle result after := by
  change andThen first rest before = _ ↔ _
  unfold andThen Succeeds
  rcases outcome : first before with ⟨_ | value, middle⟩
  · simp
  constructor
  · intro restRun
    exact ⟨value, middle, rfl, restRun⟩
  · rintro ⟨otherValue, otherMiddle, same, restRun⟩
    cases same
    exact restRun

@[simp]
theorem not_succeeds_fail {result : α} :
    ¬ Succeeds (fail error : Tx σ ε α) before result after := by
  simp [Succeeds, fail]

variable {outcome : Except ε α}

@[simp]
theorem succeeds_lift {result : α} : Succeeds (lift outcome : Tx σ ε α) before result after ↔
      outcome = .ok result ∧ before = after := by
  simp [Succeeds, lift]

variable {result : Unit}

@[simp]
theorem succeeds_failIf {condition : Bool} :
    Succeeds (failIf condition error : Tx σ ε Unit) before result after ↔
      condition = false ∧ before = after := by
  cases condition <;> simp [Succeeds, failIf]

variable {query : σ → α}

@[simp]
theorem succeeds_select {result : α} : Succeeds (select query : Tx σ ε α) before result after ↔
      query before.working = result ∧ before = after := by
  simp [Succeeds, select]

variable {statement : σ → Option σ}

@[simp]
theorem succeeds_execute : Succeeds (execute error statement : Tx σ ε Unit) before result after ↔
      ∃ working, statement before.working = some working ∧ { before with working } = after := by
  unfold Succeeds execute
  cases statement before.working <;> simp

@[simp]
theorem succeeds_commit : Succeeds (commit : Tx σ ε Unit) before result after ↔
      { before with committed := before.working } = after := by
  simp [Succeeds, commit]

@[simp]
theorem succeeds_require {query : σ → Bool} :
    Succeeds (require error query : Tx σ ε Unit) before result after ↔
      query before.working = true ∧ before = after := by
  simp [require]

variable {down : Bool}

@[simp]
theorem succeeds_ask {result : α} : Succeeds (ask down error query) before result after ↔
      down = false ∧ query before.working = result ∧ before = after := by
  simp [ask, and_assoc]

@[simp]
theorem succeeds_write : Succeeds (write down error statement) before result after ↔
      down = false ∧ ∃ working, statement before.working = some working ∧
        { before with working } = after := by
  simp [write]

@[simp]
theorem succeeds_publish : Succeeds (publish down error) before result after ↔
      down = false ∧ { before with committed := before.working } = after := by
  simp [publish]

/-- A finished loop of writes has written every item. -/
theorem Succeeds.foldlM_of_executeAll {down : Nat → Bool} {statement : ι → σ → Option σ}
    (finished : Succeeds (executeAll down error statement index items) before result after) :
    ∃ working, items.foldlM (fun state item => statement item state) before.working =
      some working ∧ { before with working } = after := by
  induction items generalizing index before with
  | nil =>
    simp only [executeAll, succeeds_pure] at finished
    exact ⟨before.working, rfl, finished.2⟩
  | cons item rest ih =>
    simp only [executeAll, succeeds_bind, succeeds_failIf, succeeds_execute] at finished
    rcases finished with
      ⟨_, _, ⟨_, rfl⟩, _, _, ⟨written, writtenEq, rfl⟩, restFinished⟩
    rcases ih restFinished with ⟨working, restWritten, afterEq⟩
    refine ⟨working, ?_, afterEq⟩
    rw [List.foldlM_cons, writtenEq]
    exact restWritten

/-- A finished loop of questions was answered positively every time. -/
theorem Succeeds.forall_of_requireAll {down : Nat → Bool} {refusal : ε} {query : ι → σ → Bool}
    (finished : Succeeds (requireAll down error refusal query index items) before result after) :
    (∀ item ∈ items, query item before.working = true) ∧ before = after := by
  induction items generalizing index with
  | nil =>
    simp only [requireAll, succeeds_pure] at finished
    exact ⟨by simp, finished.2⟩
  | cons item rest ih =>
    simp only [requireAll, succeeds_bind, succeeds_failIf, succeeds_require] at finished
    rcases finished with ⟨_, _, ⟨_, rfl⟩, _, _, ⟨answer, rfl⟩, restFinished⟩
    rcases ih restFinished with ⟨restAnswers, afterEq⟩
    exact ⟨List.forall_mem_cons.mpr ⟨answer, restAnswers⟩, afterEq⟩

theorem run_eq_ok {state next : σ} {value : α} (done : program.run state = (.ok value, next)) :
    ∃ after, Succeeds program ⟨state, state⟩ value after ∧ after.committed = next := by
  obtain ⟨succeeded, rfl⟩ := Prod.mk.inj done
  exact ⟨_, Prod.ext succeeded rfl, rfl⟩

/-- The program publishes nothing. -/
def NoCommit (program : Tx σ ε α) : Prop :=
  ∀ session, (program session).2.committed = session.committed

/-- The program publishes nothing in the executions that end in an error. -/
def RollsBack (program : Tx σ ε α) : Prop :=
  ∀ session error after, program session = (.error error, after) →
    after.committed = session.committed

theorem NoCommit.rollsBack (quiet : NoCommit program) : RollsBack program := by
  intro session error after failed
  have unchanged := quiet session
  rw [failed] at unchanged
  exact unchanged

@[simp]
theorem noCommit_pure {value : α} : NoCommit (pure value : Tx σ ε α) := fun _ => rfl

@[simp]
theorem noCommit_fail : NoCommit (fail error : Tx σ ε α) := fun _ => rfl

@[simp]
theorem noCommit_lift : NoCommit (lift outcome : Tx σ ε α) := fun _ => rfl

@[simp]
theorem noCommit_failIf {condition : Bool} : NoCommit (failIf condition error : Tx σ ε Unit) := by
  intro session
  cases condition <;> rfl

@[simp]
theorem noCommit_select : NoCommit (select query : Tx σ ε α) := fun _ => rfl

@[simp]
theorem noCommit_execute : NoCommit (execute error statement : Tx σ ε Unit) := by
  intro session
  unfold execute
  cases statement session.working <;> rfl

@[simp]
theorem NoCommit.bind (firstQuiet : NoCommit first) (restQuiet : ∀ value, NoCommit (rest value)) :
    NoCommit (first >>= rest) := by
  intro session
  change (andThen first rest session).2.committed = _
  have unchanged := firstQuiet session
  unfold andThen
  rcases outcome : first session with ⟨_ | value, middle⟩
  · rw [outcome] at unchanged
    exact unchanged
  · rw [outcome] at unchanged
    exact (restQuiet value middle).trans unchanged

@[simp]
theorem noCommit_ask : NoCommit (ask down error query) := by
  simp [ask]

@[simp]
theorem noCommit_write : NoCommit (write down error statement) := by
  simp [write]

@[simp]
theorem noCommit_require {query : σ → Bool} : NoCommit (require error query : Tx σ ε Unit) := by
  simp [require]

@[simp]
theorem noCommit_executeAll {down : Nat → Bool} {statement : ι → σ → Option σ} :
    NoCommit (executeAll down error statement index items) := by
  induction items generalizing index with
  | nil => simp [executeAll]
  | cons item rest ih => simp [executeAll, ih]

@[simp]
theorem noCommit_requireAll {down : Nat → Bool} {refusal : ε} {query : ι → σ → Bool} :
    NoCommit (requireAll down error refusal query index items) := by
  induction items generalizing index with
  | nil => simp [requireAll]
  | cons item rest ih => simp [requireAll, ih]

/-- Reads and writes before the last commit do not spoil rollback. -/
@[simp]
theorem RollsBack.bind (firstQuiet : NoCommit first) (restClean : ∀ value, RollsBack (rest value)) :
    RollsBack (first >>= rest) := by
  intro session error after failed
  change andThen first rest session = _ at failed
  have unchanged := firstQuiet session
  unfold andThen at failed
  rcases outcome : first session with ⟨_ | value, middle⟩
  · rw [outcome] at failed unchanged
    cases failed
    exact unchanged
  · rw [outcome] at failed unchanged
    exact (restClean value middle error after failed).trans unchanged

/-- Committing and returning cannot fail any more. -/
@[simp]
theorem rollsBack_commit_pure {value : β} :
    RollsBack (commit >>= fun _ => pure value : Tx σ ε β) := by
  intro session error after failed
  cases failed

@[simp]
theorem rollsBack_publish_pure {value : β} :
    RollsBack (publish down error >>= fun _ => pure value : Tx σ ε β) := by
  simp [publish, bind_assoc]

/-- A failed run of a program that rolls back leaves the published state. -/
theorem RollsBack.run_eq_error (clean : RollsBack program)
    {state next : σ} (failed : program.run state = (.error error, next)) :
    next = state := by
  unfold run at failed
  rcases outcome : program ⟨state, state⟩ with ⟨result, after⟩
  rw [outcome] at failed
  obtain ⟨rfl, rfl⟩ := failed
  exact clean ⟨state, state⟩ error after outcome

end Tx
end Treer.Foundation
