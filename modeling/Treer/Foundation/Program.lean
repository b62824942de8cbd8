import Mathlib.Logic.Relation
import Mathlib.Tactic.Common

/-!
# Programs of atomic calls

A program makes calls on a shared state and goes on with their answers; what a call
does also depends on the world around the system. A program can run alone, and others
can come between its calls.

`Keeps` is the rely-guarantee judgment of one program: as long as the others stay within
`rely` between its calls, every call of the program stays within `guarantee`, and its
result meets the postcondition. `Stays` is its special case for programs that keep
within one relation if the others do.
-/

namespace Treer.Foundation

/-- A program over the calls `ι`. -/
inductive Program (ι : Type → Type) (α : Type) : Type 1 where
  | done (result : α)
  | call {β : Type} (instruction : ι β) (next : β → Program ι α)

/-- The meaning of the calls `ι` on a state `σ` in a world `ω`. -/
abbrev Machine (ι : Type → Type) (σ ω : Type) := {β : Type} → ι β → ω → σ → β × σ

variable {ι : Type → Type}

namespace Program

variable {α γ : Type}

protected def bind : Program ι α → (α → Program ι γ) → Program ι γ
  | .done result, rest => rest result
  | .call instruction next, rest => .call instruction fun answer => (next answer).bind rest

instance : Monad (Program ι) where
  pure := .done
  bind := Program.bind

/-- One call. -/
def perform (instruction : ι α) : Program ι α :=
  .call instruction .done

variable {σ ω : Type} (machine : Machine ι σ ω)

/-- Run a program alone; its `n`-th call happens in the `n`-th world. -/
def run : Program ι α → (Nat → ω) → σ → α × σ
  | .done result, _, state => (result, state)
  | .call instruction next, worlds, state =>
    let (answer, state) := machine instruction (worlds 0) state
    (next answer).run (fun n => worlds (n + 1)) state

inductive Keeps (rely guarantee : σ → σ → Prop) (post : α → σ → Prop) : Program ι α → σ → Prop
  | done {result : α} {state : σ} (met : post result state) :
      Keeps rely guarantee post (.done result) state
  | call {β : Type} {instruction : ι β} {next : β → Program ι α} {state : σ}
      (kept : ∀ between world, rely state between →
        guarantee between (machine instruction world between).2)
      (follows : ∀ between world, rely state between →
        Keeps rely guarantee post (next (machine instruction world between).1)
          (machine instruction world between).2) :
      Keeps rely guarantee post (.call instruction next) state

variable {machine} {rely guarantee : σ → σ → Prop} {post : α → σ → Prop}
  {program : Program ι α} {state : σ}

theorem keeps_call_iff {β : Type} {instruction : ι β} {next : β → Program ι α} :
    (call instruction next).Keeps machine rely guarantee post state ↔
      ∀ between world, rely state between →
        guarantee between (machine instruction world between).2 ∧
          (next (machine instruction world between).1).Keeps machine rely guarantee post
            (machine instruction world between).2 := by
  constructor
  · rintro (_ | ⟨kept, follows⟩) between world allowed
    exact ⟨kept between world allowed, follows between world allowed⟩
  · intro each
    exact .call (fun between world allowed => (each between world allowed).1)
      fun between world allowed => (each between world allowed).2

theorem keeps_perform {instruction : ι α}
    (each : ∀ between world, rely state between →
      guarantee between (machine instruction world between).2 ∧
        post (machine instruction world between).1 (machine instruction world between).2) :
    (perform instruction).Keeps machine rely guarantee post state := by
  apply keeps_call_iff.mpr
  intro between world allowed
  obtain ⟨kept, met⟩ := each between world allowed
  exact ⟨kept, .done met⟩

section
variable (keeps : program.Keeps machine rely guarantee post state)
include keeps

theorem Keeps.mono {weaker : α → σ → Prop}
    (implies : ∀ result after, post result after → weaker result after) :
    program.Keeps machine rely guarantee weaker state := by
  induction keeps with
  | done met => exact .done (implies _ _ met)
  | call kept _ ih => exact .call kept ih

theorem Keeps.weaken {wider : σ → σ → Prop}
    (implies : ∀ before after, guarantee before after → wider before after) :
    program.Keeps machine rely wider post state := by
  induction keeps with
  | done met => exact .done met
  | call kept _ ih =>
    exact .call (fun between world allowed => implies _ _ (kept between world allowed)) ih

theorem Keeps.bind {rest : α → Program ι γ} {goal : γ → σ → Prop}
    (follows : ∀ result after, post result after →
      (rest result).Keeps machine rely guarantee goal after) :
    (program >>= rest).Keeps machine rely guarantee goal state := by
  induction keeps with
  | done met => exact follows _ _ met
  | call kept _ ih => exact .call kept ih

/-- Others that do less do not matter. -/
theorem Keeps.narrow {narrower : σ → σ → Prop}
    (implies : ∀ before after, narrower before after → rely before after) :
    program.Keeps machine narrower guarantee post state := by
  induction keeps with
  | done met => exact .done met
  | call kept _ ih =>
    exact .call (fun between world allowed => kept between world (implies _ _ allowed))
      fun between world allowed => ih between world (implies _ _ allowed)

end

variable {holds : σ → Prop} {condition : {β : Type} → ι β → Prop}

/-- What neither side destroys holds at the end. -/
theorem Keeps.withInvariant
    (rely_keeps : ∀ before after, rely before after → holds before → holds after)
    (guarantee_keeps : ∀ before after, guarantee before after → holds before → holds after)
    (keeps : program.Keeps machine rely guarantee post state) (start : holds state) :
    program.Keeps machine rely guarantee (fun result after => post result after ∧ holds after)
      state := by
  induction keeps with
  | done met => exact .done ⟨met, start⟩
  | call kept _ ih =>
    refine .call kept fun between world allowed => ih between world allowed ?_
    exact guarantee_keeps _ _ (kept between world allowed) (rely_keeps _ _ allowed start)

/-- What the others do before the first call of a program does not matter to it. -/
theorem Keeps.after_rely {after : σ}
    (trans : ∀ {first second third}, rely first second → rely second third → rely first third)
    (keeps : program.Keeps machine rely guarantee (fun _ _ => True) state)
    (allowed : rely state after) :
    program.Keeps machine rely guarantee (fun _ _ => True) after := by
  cases keeps with
  | done _ => exact .done trivial
  | call kept follows =>
    exact .call (fun between world further => kept between world (trans allowed further))
      fun between world further => follows between world (trans allowed further)

/-- A program that runs alone stays within its guarantee and ends as it promises. -/
theorem Keeps.run (refl : ∀ state, rely state state)
    (keeps : program.Keeps machine rely guarantee post state) (worlds : Nat → ω) :
    Relation.ReflTransGen guarantee state (program.run machine worlds state).2 ∧
      post (program.run machine worlds state).1 (program.run machine worlds state).2 := by
  induction keeps generalizing worlds with
  | done met => exact ⟨Relation.ReflTransGen.refl, met⟩
  | @call β instruction next state kept _ ih =>
    obtain ⟨reached, met⟩ := ih state (worlds 0) (refl state) fun n => worlds (n + 1)
    exact ⟨Relation.ReflTransGen.head (kept state (worlds 0) (refl state)) reached, met⟩

/-- Every call that the program can make meets the condition. -/
def Every (condition : {β : Type} → ι β → Prop) : Program ι α → Prop
  | .done _ => True
  | .call instruction next => condition instruction ∧ ∀ answer, (next answer).Every condition

theorem Every.bind {rest : α → Program ι γ}
    (first : program.Every condition) (follows : ∀ result, (rest result).Every condition) :
    (program >>= rest).Every condition := by
  induction program with
  | done result => exact follows result
  | call instruction next ih => exact ⟨first.1, fun answer => ih answer (first.2 answer)⟩

theorem every_true (program : Program ι α) : program.Every fun _ => True := by
  induction program with
  | done _ => trivial
  | call _ _ ih => exact ⟨trivial, ih⟩

/-- What the others keep, and each call keeps, carries the guarantee through a program. -/
theorem Keeps.of_every (rely_keeps : ∀ before after, rely before after → holds before → holds after)
    (kept : ∀ {β : Type} (instruction : ι β) world state, condition instruction → holds state →
      guarantee state (machine instruction world state).2 ∧
        holds (machine instruction world state).2)
    (every : program.Every condition) (start : holds state) :
    program.Keeps machine rely guarantee (fun _ after => holds after) state := by
  induction program generalizing state with
  | done result => exact .done start
  | call instruction next ih =>
    apply keeps_call_iff.mpr
    intro between world allowed
    obtain ⟨within, after⟩ := kept instruction world between every.1
      (rely_keeps state between allowed start)
    exact ⟨within, ih _ (every.2 _) after⟩

/-- The calls of the program stay within the relation if everything between them does. -/
def Stays (machine : Machine ι σ ω) (within : σ → σ → Prop) (program : Program ι α) : Prop :=
  ∀ state, program.Keeps machine within within (fun _ after => within state after) state

namespace Stays

variable {within : σ → σ → Prop} [IsPreorder σ within]

theorem done (result : α) : Stays machine within (.done result) :=
  fun state => .done (refl_of within state)

theorem perform {instruction : ι α}
    (kept : ∀ world state, within state (machine instruction world state).2) :
    Stays machine within (.perform instruction) := by
  intro state
  apply keeps_perform
  intro between world allowed
  exact ⟨kept world between, trans_of within allowed (kept world between)⟩

theorem bind {rest : α → Program ι γ} (first : Stays machine within program)
    (follows : ∀ result, Stays machine within (rest result)) :
    Stays machine within (program >>= rest) := by
  intro state
  apply (first state).bind
  intro result middle reached
  apply (follows result middle).mono
  intro _ after later
  exact trans_of within reached later

/-- A program that runs alone ends within the relation. -/
theorem run (stays : Stays machine within program) (worlds : Nat → ω) (state : σ) :
    within state (program.run machine worlds state).2 :=
  ((stays state).run (refl_of within) worlds).2

end Stays
end Program

/-- A program that ends in a value or an error. -/
abbrev Procedure (ι : Type → Type) (ε : Type) := ExceptT ε (Program ι)

namespace Procedure

variable {ε α γ : Type} {program : Procedure ι ε α}

def call (instruction : ι α) : Procedure ι ε α :=
  ExceptT.lift (.perform instruction)

/-- A call that can fail itself. -/
def attempt (instruction : ι (Except ε α)) : Procedure ι ε α :=
  ExceptT.mk (.perform instruction)

/-- A result that is already there. -/
def settle (result : Except ε α) : Procedure ι ε α :=
  ExceptT.mk (.done result)

variable {σ ω : Type} {machine : Machine ι σ ω} {rely guarantee : σ → σ → Prop}
  {goal : Except ε γ → σ → Prop} {rest : α → Procedure ι ε γ} {state : σ}

theorem keeps_call_bind {instruction : ι α}
    (each : ∀ between world, rely state between →
      guarantee between (machine instruction world between).2 ∧
        (rest (machine instruction world between).1).run.Keeps machine rely guarantee goal
          (machine instruction world between).2) :
    (call instruction >>= rest).run.Keeps machine rely guarantee goal state :=
  Program.keeps_call_iff.mpr each

theorem keeps_bind {post : Except ε α → σ → Prop}
    (keeps : program.run.Keeps machine rely guarantee post state)
    (failed : ∀ error after, post (.error error) after → goal (.error error) after)
    (follows : ∀ result after, post (.ok result) after →
      (rest result).run.Keeps machine rely guarantee goal after) :
    (program >>= rest).run.Keeps machine rely guarantee goal state := by
  apply Program.Keeps.bind keeps
  rintro (error | result) after met
  · exact .done (failed error after met)
  · exact follows result after met

theorem keeps_settle_bind {result : Except ε α}
    (failed : ∀ error, result = .error error → goal (.error error) state)
    (follows : ∀ value, result = .ok value →
      (rest value).run.Keeps machine rely guarantee goal state) :
    ((settle result : Procedure ι ε α) >>= rest).run.Keeps machine rely guarantee goal state := by
  cases result with
  | error error => exact .done (failed error rfl)
  | ok value => exact follows value rfl

theorem keeps_attempt_bind {instruction : ι (Except ε α)}
    (kept : ∀ between world, rely state between →
      guarantee between (machine instruction world between).2)
    (failed : ∀ between world error, rely state between →
      (machine instruction world between).1 = .error error →
      goal (.error error) (machine instruction world between).2)
    (follows : ∀ between world result, rely state between →
      (machine instruction world between).1 = .ok result →
      (rest result).run.Keeps machine rely guarantee goal (machine instruction world between).2) :
    (attempt instruction >>= rest).run.Keeps machine rely guarantee goal state := by
  apply Program.keeps_call_iff.mpr
  intro between world allowed
  refine ⟨kept between world allowed, ?_⟩
  cases answered : (machine instruction world between).1 with
  | error error => exact .done (failed between world error allowed answered)
  | ok result => exact follows between world result allowed answered

variable {condition : {β : Type} → ι β → Prop}

theorem every_call {instruction : ι α} (met : condition instruction) :
    (call instruction : Procedure ι ε α).run.Every condition :=
  ⟨met, fun _ => trivial⟩

theorem every_attempt {instruction : ι (Except ε α)} (met : condition instruction) :
    (attempt instruction).run.Every condition :=
  ⟨met, fun _ => trivial⟩

theorem every_bind (first : program.run.Every condition)
    (follows : ∀ result, (rest result).run.Every condition) :
    (program >>= rest).run.Every condition := by
  apply Program.Every.bind first
  rintro (error | result)
  · trivial
  · exact follows result

end Procedure

namespace Program.Stays

variable {ε α γ σ ω : Type} {machine : Machine ι σ ω} {within : σ → σ → Prop} [IsPreorder σ within]

theorem settle (result : Except ε α) :
    Stays machine within (Procedure.settle result : Procedure ι ε α).run :=
  done result

theorem pure (result : α) : Stays machine within (pure result : Procedure ι ε α).run :=
  done (Except.ok result)

theorem throw (error : ε) : Stays machine within (throw error : Procedure ι ε α).run :=
  done (Except.error error)

theorem seq {program : Procedure ι ε α} {rest : α → Procedure ι ε γ}
    (first : Stays machine within program.run)
    (follows : ∀ result, Stays machine within (rest result).run) :
    Stays machine within (program >>= rest).run := by
  apply bind first
  rintro (error | result)
  · exact done (Except.error error)
  · exact follows result

end Program.Stays
end Treer.Foundation
