import Treer.Foundation.Program
import Treer.Foundation.Run

/-!
# Tasks that run together

A pool has a shared state and the tasks that were started on it, each with the part of
its program that is left. One move starts a task, when it is compatible with every task
that is not finished, or makes the next call of one.

When every task keeps its judgment and the calls of the others are within its rely, every
call that is made is within the guarantee of its task.
-/

namespace Treer.Foundation

open List
variable {ι : Type → Type} {τ σ ω : Type}

def Program.finished {α : Type} : Program ι α → Bool
  | .done _ => true
  | .call _ _ => false

structure Task (ι : Type → Type) (τ : Type) where
  label : τ
  rest : Program ι Unit

structure Pool (ι : Type → Type) (τ σ : Type) where
  shared : σ
  tasks : List (Task ι τ)

inductive Move (τ ω : Type) where
  | start (label : τ)
  | advance (place : Nat) (world : ω)

variable {place : Nat} {label : τ} {machine : Machine ι σ ω} {pool : Pool ι τ σ} {β : Type}

namespace Pool

variable (machine : Machine ι σ ω) (code : τ → Program ι Unit) (compatible : τ → τ → Bool)

def init (shared : σ) : Pool ι τ σ where
  shared
  tasks := []

def start (pool : Pool ι τ σ) (label : τ) : Pool ι τ σ :=
  if pool.tasks.all fun task => task.rest.finished || compatible task.label label then
    { pool with tasks := pool.tasks ++ [⟨label, code label⟩] }
  else pool

def advance (pool : Pool ι τ σ) (place : Nat) (world : ω) : Pool ι τ σ :=
  match pool.tasks[place]? with
  | some ⟨label, .call instruction next⟩ =>
    let (answer, shared) := machine instruction world pool.shared
    { shared, tasks := pool.tasks.set place ⟨label, next answer⟩ }
  | _ => pool

def step (pool : Pool ι τ σ) : Move τ ω → Unit × Pool ι τ σ
  | .start label => ((), pool.start code compatible label)
  | .advance place world => ((), pool.advance machine place world)

variable {machine code compatible}

theorem advance_of_call {instruction : ι β} {next : β → Program ι Unit}
    (task : pool.tasks[place]? = some ⟨label, .call instruction next⟩) (world : ω) :
    pool.advance machine place world =
      { shared := (machine instruction world pool.shared).2
        tasks := pool.tasks.set place
          ⟨label, next (machine instruction world pool.shared).1⟩ } := by
  simp only [advance, task]

/-- A move of a task without a next call does nothing. -/
theorem advance_cases (pool : Pool ι τ σ) (place : Nat) :
    (∀ world : ω, pool.advance machine place world = pool) ∨
      ∃ label, ∃ β : Type, ∃ instruction : ι β, ∃ next,
        pool.tasks[place]? = some ⟨label, .call instruction next⟩ := by
  cases found : pool.tasks[place]? with
  | none =>
    left
    intro world
    simp only [advance, found]
  | some task =>
    obtain ⟨label, rest⟩ := task
    cases rest with
    | done result =>
      left
      intro world
      simp only [advance, found]
    | call instruction next => exact .inr ⟨label, _, instruction, next, rfl⟩

/-- What a move does to its task. -/
theorem advance_of_found (machine : Machine ι σ ω) {task : Task ι τ}
    (found : pool.tasks[place]? = some task) (world : ω) :
    (task.rest = .done () ∧ pool.advance machine place world = pool) ∨
      ∃ β : Type, ∃ instruction : ι β, ∃ next, task.rest = .call instruction next ∧
        pool.advance machine place world =
          { shared := (machine instruction world pool.shared).2
            tasks := pool.tasks.set place
              ⟨task.label, next (machine instruction world pool.shared).1⟩ } := by
  obtain ⟨label, rest⟩ := task
  cases rest with
  | done result =>
    left
    refine ⟨rfl, ?_⟩
    simp only [advance, found]
  | call instruction next => exact .inr ⟨_, instruction, next, rfl, advance_of_call found world⟩

/-- A task keeps its label. -/
theorem labels_advance (machine : Machine ι σ ω) (pool : Pool ι τ σ) (place : Nat) (world : ω) :
    (pool.advance machine place world).tasks.map (·.label) = pool.tasks.map (·.label) := by
  rcases advance_cases pool place with idle | ⟨label, β, instruction, next, task⟩
  · rw [idle world]
  rw [advance_of_call task, map_set]
  apply ext_getElem?
  intro other
  by_cases same : place = other
  · subst same
    have bound : place < (pool.tasks.map (·.label)).length := by
      rw [length_map]
      exact (List.getElem?_eq_some_iff.mp task).1
    rw [getElem?_set_self bound, getElem?_map, task]
    rfl
  · rw [getElem?_set_ne same]

/-- What holds between any two labels holds between those of two places. -/
theorem related_of_pairwise {related : τ → τ → Prop}
    (symm : ∀ {first second}, related first second → related second first)
    (pairwise : (pool.tasks.map (·.label)).Pairwise related) {other : Nat} {task task' : Task ι τ}
    (differ : place ≠ other) (found : pool.tasks[place]? = some task)
    (found' : pool.tasks[other]? = some task') : related task.label task'.label := by
  have ordered : ∀ {first second : Nat} {task task' : Task ι τ}, first < second →
      pool.tasks[first]? = some task → pool.tasks[second]? = some task' →
        related task.label task'.label := by
    intro first second task task' less found found'
    obtain ⟨bound, rfl⟩ := List.getElem?_eq_some_iff.mp found
    obtain ⟨bound', rfl⟩ := List.getElem?_eq_some_iff.mp found'
    have pair := pairwise_iff_getElem.mp pairwise first second (by simpa using bound)
      (by simpa using bound') less
    simpa using pair
  rcases Nat.lt_or_gt_of_ne differ with less | greater
  · exact ordered less found found'
  · exact symm (ordered greater found' found)

end Pool

/-! ## The call of a move -/

/-- The first call of the program meets the condition. -/
def Program.Begins {α : Type} (condition : {β : Type} → ι β → Prop) : Program ι α → Prop
  | .done _ => True
  | .call instruction _ => condition instruction

instance {α : Type} (condition : {β : Type} → ι β → Prop)
    [∀ (β : Type) (instruction : ι β), Decidable (condition instruction)] :
    (program : Program ι α) → Decidable (program.Begins condition)
  | .done _ => isTrue trivial
  | .call instruction _ => inferInstanceAs (Decidable (condition instruction))

namespace Pool

/-- The call that the move makes, if it makes one, meets the condition. -/
def Makes (condition : {β : Type} → ι β → Prop) (pool : Pool ι τ σ) : Move τ ω → Prop
  | .start _ => True
  | .advance place _ => ∀ task ∈ pool.tasks[place]?, task.rest.Begins condition

instance (condition : {β : Type} → ι β → Prop)
    [∀ (β : Type) (instruction : ι β), Decidable (condition instruction)] (pool : Pool ι τ σ) :
    (move : Move τ ω) → Decidable (pool.Makes condition move)
  | .start _ => isTrue trivial
  | .advance place _ =>
    match found : pool.tasks[place]? with
    | none => isTrue fun task mem => by
      rw [found] at mem
      cases mem
    | some task => decidable_of_iff (task.rest.Begins condition) (by simp [Makes, found])

variable {code : τ → Program ι Unit} {compatible : τ → τ → Bool}

/-- A move leaves what is shared, or makes the next call of a task. -/
theorem shared_cases (pool : Pool ι τ σ) (move : Move τ ω) :
    (pool.step machine code compatible move).2.shared = pool.shared ∨
      ∃ place world label, ∃ β : Type, ∃ instruction : ι β, ∃ next,
        move = .advance place world ∧
        pool.tasks[place]? = some ⟨label, .call instruction next⟩ ∧
        (pool.step machine code compatible move).2.shared =
          (machine instruction world pool.shared).2 := by
  cases move with
  | start label =>
    left
    change (pool.start code compatible label).shared = _
    unfold Pool.start
    split <;> rfl
  | advance place world =>
    rcases advance_cases pool place with idle | ⟨label, β, instruction, next, task⟩
    · exact .inl (congrArg shared (idle world))
    · exact .inr ⟨place, world, label, β, instruction, next, rfl, task,
        congrArg shared (advance_of_call task world)⟩

/-- What every call keeps, a move keeps. -/
theorem shared_step (holds : σ → Prop) {condition : {β : Type} → ι β → Prop}
    (preserved : ∀ {β : Type} (instruction : ι β) (world : ω), condition instruction →
      holds (machine instruction world pool.shared).2)
    (start : holds pool.shared) {move : Move τ ω} (makes : pool.Makes condition move) :
    holds (pool.step machine code compatible move).2.shared := by
  rcases shared_cases pool move with same | ⟨place, world, _, _, call, _, rfl, task, made⟩
  · rw [same]
    exact start
  · rw [made]
    exact preserved call world (makes _ task)

theorem makes_true (pool : Pool ι τ σ) (move : Move τ ω) : pool.Makes (fun _ => True) move := by
  cases move with
  | start label => trivial
  | advance place world =>
    rintro ⟨label, rest⟩ _
    cases rest <;> trivial

/-- What holds of each task, and of the one that is started or goes on. -/
theorem forall_tasks_step {holds : Task ι τ → Prop} (kept : ∀ task ∈ pool.tasks, holds task)
    {move : Move τ ω} (started : ∀ label, move = .start label → holds ⟨label, code label⟩)
    (advanced : ∀ {place : Nat} {world : ω} {label : τ} {β : Type} {instruction : ι β}
      {next : β → Program ι Unit}, move = .advance place world →
      pool.tasks[place]? = some ⟨label, .call instruction next⟩ →
      holds ⟨label, next (machine instruction world pool.shared).1⟩) :
    ∀ task ∈ (pool.step machine code compatible move).2.tasks, holds task := by
  cases move with
  | start label =>
    change ∀ task ∈ (pool.start code compatible label).tasks, holds task
    unfold Pool.start
    split
    · intro task mem
      rcases mem_append.mp mem with old | new
      · exact kept task old
      · cases mem_singleton.mp new
        exact started label rfl
    · exact kept
  | advance place world =>
    change ∀ task ∈ (pool.advance machine place world).tasks, holds task
    rcases advance_cases pool place with idle | ⟨label, β, instruction, next, task⟩
    · rw [idle world]
      exact kept
    rw [advance_of_call task]
    intro changed mem
    rcases mem_or_eq_of_mem_set mem with old | rfl
    · exact kept changed old
    · exact advanced rfl task

section
variable (machine) (rely guarantee : τ → σ → σ → Prop)

/-- Every task keeps its judgment from here on. -/
def AllKeep (pool : Pool ι τ σ) : Prop :=
  ∀ task ∈ pool.tasks,
    task.rest.Keeps machine (rely task.label) (guarantee task.label) (fun _ _ => True) pool.shared

variable {machine rely guarantee}

theorem AllKeep.start (keeps : pool.AllKeep machine rely guarantee)
    (started : (code label).Keeps machine (rely label) (guarantee label) (fun _ _ => True)
      pool.shared) :
    (pool.start code compatible label).AllKeep machine rely guarantee := by
  unfold Pool.start
  split
  · intro task mem
    rcases mem_append.mp mem with old | new
    · exact keeps task old
    · cases mem_singleton.mp new
      exact started
  · exact keeps

/-- The next call of a task is within its guarantee. -/
theorem AllKeep.within_guarantee (refl : ∀ label state, rely label state state)
    (keeps : pool.AllKeep machine rely guarantee) {instruction : ι β}
    {next : β → Program ι Unit} (task : pool.tasks[place]? = some ⟨label, .call instruction next⟩)
    (world : ω) :
    guarantee label pool.shared (machine instruction world pool.shared).2 := by
  have judged := Program.keeps_call_iff.mp (keeps _ (mem_of_getElem? task))
  exact (judged pool.shared world (refl label pool.shared)).1

theorem AllKeep.advance (refl : ∀ label state, rely label state state)
    (trans : ∀ {label first second third}, rely label first second → rely label second third →
      rely label first third) (keeps : pool.AllKeep machine rely guarantee)
    {instruction : ι β} {next : β → Program ι Unit}
    (task : pool.tasks[place]? = some ⟨label, .call instruction next⟩) (world : ω)
    (others : ∀ other task', other ≠ place → pool.tasks[other]? = some task' →
      task'.rest.finished = false →
      rely task'.label pool.shared (machine instruction world pool.shared).2) :
    (pool.advance machine place world).AllKeep machine rely guarantee := by
  rw [advance_of_call task]
  intro changed mem
  obtain ⟨other, found⟩ := mem_iff_getElem?.mp mem
  by_cases same : other = place
  · subst same
    have bound : other < pool.tasks.length := (List.getElem?_eq_some_iff.mp task).1
    rw [getElem?_set_self bound] at found
    cases found
    have judged := Program.keeps_call_iff.mp (keeps _ (mem_of_getElem? task))
    exact (judged pool.shared world (refl label pool.shared)).2
  · rw [getElem?_set_ne (Ne.symm same)] at found
    have judged := keeps _ (mem_of_getElem? found)
    cases ended : changed.rest.finished with
    | false => exact judged.after_rely trans (others other changed same found ended)
    | true =>
      obtain ⟨changedLabel, rest⟩ := changed
      cases rest with
      | done result => exact .done trivial
      | call instruction next => cases ended

end

/-- Any two tasks that are not finished are compatible. -/
def Compatible (compatible : τ → τ → Bool) (pool : Pool ι τ σ) : Prop :=
  ∀ ⦃place other : Nat⦄ ⦃task task' : Task ι τ⦄, place ≠ other → pool.tasks[place]? = some task →
    pool.tasks[other]? = some task' → task.rest.finished = false → task'.rest.finished = false →
      compatible task.label task'.label = true

theorem compatible_init (shared : σ) : (init shared : Pool ι τ σ).Compatible compatible := by
  intro place other task task' _ found
  cases found

theorem Compatible.start (symm : ∀ first second, compatible first second = compatible second first)
    (kept : pool.Compatible compatible) (label : τ) :
    (pool.start code compatible label).Compatible compatible := by
  unfold Pool.start
  split
  · rename_i admitted
    rw [all_eq_true] at admitted
    have admits : ∀ {place : Nat} {task : Task ι τ}, pool.tasks[place]? = some task →
        task.rest.finished = false → compatible task.label label = true := by
      intro place task found unfinished
      simpa [unfinished] using admitted task (mem_of_getElem? found)
    have split : ∀ {place : Nat} {task : Task ι τ},
        (pool.tasks ++ [⟨label, code label⟩])[place]? = some task →
          pool.tasks[place]? = some task ∨ place = pool.tasks.length ∧ task.label = label := by
      intro place task found
      rw [getElem?_append] at found
      split at found
      · exact .inl found
      obtain ⟨bound, rfl⟩ := List.getElem?_eq_some_iff.mp found
      simp only [length_singleton] at bound
      right
      constructor
      · omega
      · simp
    intro place other task task' differ found found' unfinished unfinished'
    rcases split found with old | ⟨rfl, rfl⟩
    · rcases split found' with old' | ⟨rfl, rfl⟩
      · exact kept differ old old' unfinished unfinished'
      · exact admits old unfinished
    · rcases split found' with old' | ⟨rfl, _⟩
      · rw [symm]
        exact admits old' unfinished'
      · exact absurd rfl differ
  · exact kept

theorem Compatible.advance (kept : pool.Compatible compatible) (place : Nat) (world : ω) :
    (pool.advance machine place world).Compatible compatible := by
  rcases advance_cases pool place with idle | ⟨label, β, instruction, next, task⟩
  · rw [idle world]
    exact kept
  rw [advance_of_call task]
  -- Each task had this label before, and was not finished either.
  have before : ∀ {other : Nat} {changed : Task ι τ},
      (pool.tasks.set place ⟨label, next (machine instruction world pool.shared).1⟩)[other]? =
        some changed → changed.rest.finished = false →
      ∃ old, pool.tasks[other]? = some old ∧ old.label = changed.label ∧
        old.rest.finished = false := by
    intro other changed found unfinished
    by_cases same : other = place
    · subst same
      have bound : other < pool.tasks.length := (List.getElem?_eq_some_iff.mp task).1
      rw [getElem?_set_self bound] at found
      cases found
      exact ⟨_, task, rfl, rfl⟩
    · rw [getElem?_set_ne (Ne.symm same)] at found
      exact ⟨changed, found, rfl, unfinished⟩
  intro first second changed changed' differ found found' unfinished unfinished'
  obtain ⟨old, oldFound, oldLabel, oldUnfinished⟩ := before found unfinished
  obtain ⟨old', oldFound', oldLabel', oldUnfinished'⟩ := before found' unfinished'
  rw [← oldLabel, ← oldLabel']
  exact kept differ oldFound oldFound' oldUnfinished oldUnfinished'

end Pool
end Treer.Foundation
