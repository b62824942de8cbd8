import Treer.Controller.Generations
import Treer.Host.Fresh

/-!
# Every startup spawn is a new attempt

The operations of a Controller come one after another, with process events between them.
Every attempt takes a generation that is counted in the store before it is sent, so no
attempt of an agent repeats a generation as long as the declaration that counts them is
not cleared.
-/

namespace Treer.Controller

open Foundation Protocol Host Startup List
variable {β : Type} {config : Config β} {shared : Shared β}
  {agentId : String} {action : Turn} {digits others : List Char}

/-- What a Controller does in a sequence: an operation, or a process event. -/
inductive Turn where
  | perform (operation : Operation) (worlds : Nat → World)
  | event (process : HostProcessInfo) (worlds : Nat → World)

/-- One turn, from its first call to its last; an operation gives a reply. -/
def turn (config : Config β) (shared : Shared β) :
    Turn → Option (Except ProtocolError Reply) × Shared β
  | .perform operation worlds =>
    ((operation.program config).run (machine config) worlds shared).map some id
  | .event process worlds =>
    ((applyProcess config process).run (machine config) worlds shared).map (fun _ => none) id

theorem turn_perform (operation : Operation) (worlds : Nat → World) :
    (turn config shared (.perform operation worlds)).2 =
      ((operation.program config).run (machine config) worlds shared).2 :=
  rfl

variable {after : Shared β}

/-- Generations are left to count with, and no declaration is cleared that counted an
attempt. -/
def Countable (shared : Shared β) (turn : Turn) : Prop :=
  (∀ agentId generation, shared.generation? agentId = some generation →
    generation + 1 < generationLimit) ∧
  ∀ agentId worlds, turn = .perform (.clearStartup agentId) worlds →
    ∀ generation, (agentId, generation) ∉ shared.attempts

theorem Counted.runs {guarantee : Shared β → Shared β → Prop}
    (kept : ∀ before after, guarantee before after → Counted before → Counted after)
    (counted : Counted shared) (runs : Relation.ReflTransGen guarantee shared after) :
    Counted after := by
  induction runs with
  | refl => exact counted
  | tail _ last ih => exact kept _ _ last ih

/-- A declaration that counted no attempt is not needed. -/
theorem Counted.clear {before : Shared β} (counted : Counted before)
    (unused : ∀ generation, (agentId, generation) ∉ before.attempts)
    (declarations : after.declarations = Function.update before.declarations agentId none)
    (attempts : after.attempts = before.attempts) : Counted after where
  bounded := by
    intro other generation mem
    rw [attempts] at mem
    have different : other ≠ agentId := by
      rintro rfl
      exact unused generation mem
    rw [Shared.generation?, declarations, Function.update_of_ne different]
    exact counted.bounded other generation mem
  distinct := by
    rw [attempts]
    exact counted.distinct

theorem counted_clearStartup (counted : Counted shared)
    (unused : ∀ generation, (agentId, generation) ∉ shared.attempts) (worlds : Nat → World) :
    Counted (((Operation.clearStartup agentId).program config).run (machine config) worlds
      shared).2 := by
  have keeps : ((Operation.clearStartup agentId).program config).Keeps (machine config) Quiet
      _ (fun _ _ => True) shared :=
    (keeps_clearStartup agentId).bind fun _ _ _ => .done trivial
  have reached := (keeps.run Quiet.refl worlds).1
  generalize (((Operation.clearStartup agentId).program config).run (machine config) worlds
    shared).2 = after at reached
  -- The agent stays without attempts while its declaration is cleared.
  have both : Counted after ∧ ∀ generation, (agentId, generation) ∉ after.attempts := by
    induction reached with
    | refl => exact ⟨counted, unused⟩
    | tail _ last ih =>
      rcases last with quiet | ⟨declarations, attempts⟩
      · exact ⟨ih.1.quiet quiet, quiet.attempts ▸ ih.2⟩
      · exact ⟨ih.1.clear ih.2 declarations attempts, attempts ▸ ih.2⟩
  exact both.1

theorem counted_turn (counted : Counted shared)
    (countable : Countable shared action) : Counted (turn config shared action).2 := by
  obtain ⟨room, notCleared⟩ := countable
  cases action with
  | event process worlds =>
    exact counted.quiet ((isQuiet_applyProcess process shared).run Quiet.refl worlds).2
  | perform operation worlds =>
    rw [turn_perform]
    by_cases allowed : operation.writesAllowed = true
    · have judged : Judged config operation.revision True (fun _ _ => True)
          (operation.program config) shared :=
        judged_program operation allowed (fun _ => counted) (fun _ => room)
      exact counted.runs (fun _ _ kept => kept.counted trivial) (judged.run Quiet.refl worlds).1
    · cases operation with
      | setStartup agentId request =>
        have keeps : ((Operation.setStartup agentId request).program config).Keeps (machine config)
            Quiet SetChange (fun _ _ => True) shared :=
          (keeps_setStartup agentId request).bind fun _ _ _ => .done trivial
        exact counted.runs (fun _ _ change => change.counted) (keeps.run Quiet.refl worlds).1
      | clearStartup agentId =>
        exact counted_clearStartup counted (notCleared agentId worlds rfl) worlds
      | _ => exact absurd rfl allowed

/-- The operation id of an attempt. -/
def attemptId (hostEpoch : String) (attempt : String × Nat) : String :=
  OperationId.text hostEpoch (.startup attempt.1 attempt.2)

theorem not_mem_digits (generation : Nat) : ':' ∉ (toString generation).toList := by
  intro mem
  rw [Nat.toString_eq_ofList_toDigits, String.toList_ofList] at mem
  have digit := Nat.isDigit_of_mem_toDigits (by decide) (by decide) mem
  cases digit

/-- What follows the last separator begins with it, or with nothing. -/
theorem eq_nil_of_separator {before : List Char} (notIn : ':' ∉ digits)
    (same : ':' :: digits = before ++ ':' :: others) : before = [] := by
  cases before with
  | nil => rfl
  | cons =>
    obtain ⟨_, rest⟩ := cons.inj same
    rw [rest] at notIn
    simp at notIn

theorem append_separator_inj {first second : List Char} (notIn : ':' ∉ digits)
    (notOther : ':' ∉ others) (same : first ++ ':' :: digits = second ++ ':' :: others) :
    first = second ∧ digits = others := by
  rcases append_eq_append_iff.mp same with ⟨_, rfl, rest⟩ | ⟨_, rfl, rest⟩
  · obtain rfl := eq_nil_of_separator notIn rest
    exact ⟨(append_nil first).symm, (cons.inj rest).2⟩
  · obtain rfl := eq_nil_of_separator notOther rest
    exact ⟨append_nil second, (cons.inj rest).2.symm⟩

theorem attemptId_injective (hostEpoch : String) : Function.Injective (attemptId hostEpoch) := by
  rintro ⟨_, generation⟩ ⟨_, next⟩ same
  have texts := congrArg String.toList same
  simp only [attemptId, OperationId.text, String.toList_append, append_assoc,
    append_cancel_left_eq] at texts
  -- The generation stands behind the last colon.
  obtain ⟨agents, digits⟩ := append_separator_inj (not_mem_digits generation)
    (not_mem_digits next) texts
  rw [String.toList_inj.mp agents, Text.toString_injective (String.toList_inj.mp digits)]

/-- In a run from a Host epoch without attempts that clears no declaration which counted one: no
attempt of an agent repeats a generation, no operation id is used twice, and the Host answers none
of them from its results, if such an id reaches it only with these attempts. -/
theorem startup_attempts_are_new (config : Config β) (shared : Shared β)
    (none : shared.attempts = []) (turns : List Turn)
    (countable : AllSteps (turn config) Countable shared turns) :
    (exec (turn config) shared turns).attempts.Nodup ∧
    ((exec (turn config) shared turns).attempts.map (attemptId config.hostEpoch)).Nodup ∧
    ∀ runtime build actions,
      (∀ attempt, (actions.filterMap HostState.receivedId).count
          (attemptId config.hostEpoch attempt) ≤
        ((exec (turn config) shared turns).attempts.map (attemptId config.hostEpoch)).count
          (attemptId config.hostEpoch attempt)) →
      ∀ entry ∈ trace HostState.step (HostState.initial runtime build) actions,
        ∀ request result, entry.outcome = .answered request result →
          ∀ attempt, request.operationId ≠ some (attemptId config.hostEpoch attempt) := by
  have start : Counted shared := by
    constructor
    · intro agentId generation mem
      rw [none] at mem
      cases mem
    · rw [none]
      exact nodup_nil
  have counted : Counted (exec (turn config) shared turns) := by
    have whole : AllSteps (turn config) Countable shared (turns ++ []) := by
      rw [append_nil]
      exact countable
    refine AllSteps.invariant ?_ start whole
    intro state action known allowed
    exact counted_turn known allowed
  have ids := counted.distinct.map (attemptId_injective config.hostEpoch)
  refine ⟨counted.distinct, ids, ?_⟩
  intro runtime build actions delivered entry mem request result answered attempt
  apply HostState.not_answered_of_single runtime build actions _ entry mem request result answered
  exact (delivered attempt).trans (nodup_iff_count_le_one.mp ids _)

/-- Generations are left in every entry, and the turn is not one that clears. -/
def roomy (shared : Shared β) : Turn → Bool
  | .perform (.clearStartup _) _ => false
  | _ => shared.startupStore.state.entries.rows.all (·.spec.generation + 1 < generationLimit)

theorem countable_of_roomy (room : roomy shared action = true) : Countable shared action := by
  constructor
  · intro agentId generation found
    obtain ⟨_, declared, rfl⟩ := Option.map_eq_some_iff.mp found
    obtain ⟨entry, stored, rfl⟩ := Option.map_eq_some_iff.mp declared
    have mem := (Table.find?_eq_some_iff.mp stored).1
    have all : shared.startupStore.state.entries.rows.all
        (·.spec.generation + 1 < generationLimit) = true := by
      unfold roomy at room
      split at room
      · cases room
      · exact room
    exact of_decide_eq_true (all_eq_true.mp all entry mem)
  · rintro _ _ rfl
    cases room

namespace Sample

def appRequest : CreateAgentRequest where
  kind := "app"
  name := "worker"
  cwd := "."
  args := ["serve"]
  cols := 80
  rows := 24
  publishPorts := []

def ensure : Operation :=
  .ensureAppLifecycle "op_1" "ag_1" (some credential) appRequest true true none

/-- The Host lists no process when asked at the place, and answers a spawn with the first run. -/
def startingAt (place n : Nat) : World :=
  if n = place then world (.synced "host_1" ⟨"1", "commit"⟩ [] [])
  else world (.process (hostProcess "x" 20 true))

def starting : Nat → World :=
  startingAt 1

def nothing : Shared StoreFile where
  startupStore := { state := StoreState.default, disk := none }
  agents := Table.empty
  sent := []

/-- The App is started, its process ends, and it is started again. -/
def declaredTwice : List Turn :=
  [.perform ensure starting, .event (hostProcess "x" 20 false) starting, .perform ensure starting]

/-- The same, with its startup cleared in between. -/
def clearedBetween : List Turn :=
  [.perform ensure starting, .event (hostProcess "x" 20 false) starting,
    .perform (.clearStartup "ag_1") starting, .perform ensure starting]

end Sample

open Sample

/-- A startup is cleared after its process ended and declared again: the second spawn takes the
generation of the run on record. -/
theorem cleared_startup_repeats_attempt :
    (exec (turn (settings "app")) nothing clearedBetween).attempts =
      [("ag_1", 1), ("ag_1", 1)] := by
  decide +kernel

/-- Without the clearing the second spawn is a new attempt. -/
theorem restarted_app_counts_attempts :
    (exec (turn (settings "app")) nothing declaredTwice).attempts = [("ag_1", 1), ("ag_1", 2)] ∧
    (exec (turn (settings "app")) nothing declaredTwice).attempts.Nodup := by
  refine ⟨by decide +kernel, ?_⟩
  have countable : AllSteps (turn (settings "app")) Countable nothing
      declaredTwice :=
    ⟨countable_of_roomy (by decide +kernel), countable_of_roomy (by decide +kernel),
      countable_of_roomy (by decide +kernel), trivial⟩
  exact (startup_attempts_are_new (settings "app") nothing rfl declaredTwice countable).1

end Treer.Controller
