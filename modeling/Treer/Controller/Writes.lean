import Treer.Controller.Lifecycle
import Treer.Startup.Lookup

/-!
# What a call changes

A declaration is an entry of the startup store without its switch and its epoch, which
the end of a process and a start may change at any time. The calls that change neither a
declaration nor the attempts to start one are quiet; every other call of the operations
writes one declaration in one of four ways, or sends one attempt.
-/

namespace Treer.Controller

open Foundation Protocol Host Startup Function Shared
variable {β : Type} (entry : StoredAgentStartup)

def declaration : StoredAgentStartup :=
  { entry with spec.enabled := false, lastHostEpoch := "" }

theorem le_nextGeneration (generation : Nat) : generation ≤ nextGeneration generation := by
  unfold nextGeneration
  split <;> omega

def Sent.attempt? (sent : Sent) : Option (String × Nat) :=
  match sent.operationId with
  | some (.startup agentId generation) => some (agentId, generation)
  | _ => none

namespace Shared

variable (shared : Shared β)

def declarations (agentId : String) : Option StoredAgentStartup :=
  (shared.startupStore.get agentId).map declaration

/-- The generation stored for an agent. -/
def generation? (agentId : String) : Option Nat :=
  (shared.declarations agentId).map (·.spec.generation)

/-- The agent and the generation of every attempt to start a declared agent. -/
def attempts : List (String × Nat) :=
  shared.sent.filterMap Sent.attempt?

end Shared

variable {before after : Shared β} {revision : Option Nat} {new : StoredAgentStartup}

/-- The declarations and the attempts stay as they are. -/
structure Quiet (before after : Shared β) : Prop where
  declarations : after.declarations = before.declarations
  attempts : after.attempts = before.attempts

theorem Quiet.refl (shared : Shared β) : Quiet shared shared := ⟨rfl, rfl⟩

theorem Quiet.trans {first second third : Shared β} (earlier : Quiet first second)
    (later : Quiet second third) : Quiet first third :=
  ⟨later.declarations.trans earlier.declarations, later.attempts.trans earlier.attempts⟩

theorem Quiet.generation? (quiet : Quiet before after) :
    after.generation? = before.generation? := by
  funext agentId
  rw [Shared.generation?, quiet.declarations, Shared.generation?]

/-- The ways in which an operation with a revision writes a declaration. -/
inductive Write (revision : Option Nat) : Option StoredAgentStartup → StoredAgentStartup → Prop
  | declare (new : StoredAgentStartup) : Write revision none new
  | attempt (old : StoredAgentStartup) : Write revision (some old) (nextAttempt old)
  | revise (old : StoredAgentStartup) (request : ReplaceAgentStartupRequest) (newer : Nat)
      (given : revision = some newer) (greater : old.appRevision < newer) :
      Write revision (some old) (withRevision old request newer)
  | replace (old : StoredAgentStartup) (cwd command : String) (args : List String)
      (kind : old.spec.kind ≠ "app") :
      Write revision (some old)
        { old with
          spec.cwd := cwd
          spec.command := command
          spec.args := args
          initialWrites := [] }

theorem Write.generation_le {old : StoredAgentStartup}
    (write : Write revision (some old) new) : old.spec.generation ≤ new.spec.generation := by
  cases write with
  | attempt => exact le_nextGeneration old.spec.generation
  | revise | replace => exact le_rfl

inductive Change (revision : Option Nat) (before after : Shared β) : Prop
  | quiet (kept : Quiet before after)
  | write (agentId : String) (new : StoredAgentStartup)
      (allowed : Write revision (before.declarations agentId) new)
      (declarations : after.declarations = Function.update before.declarations agentId (some new))
      (attempts : after.attempts = before.attempts)
  | spawn (agentId : String) (generation : Nat)
      (declarations : after.declarations = before.declarations)
      (attempts : after.attempts = before.attempts ++ [(agentId, generation)])

/-- Every attempt was counted in the declaration of its agent, and none was made twice. -/
structure Counted (shared : Shared β) : Prop where
  bounded : ∀ agentId generation, (agentId, generation) ∈ shared.attempts →
    ∃ stored, shared.generation? agentId = some stored ∧ generation ≤ stored
  distinct : shared.attempts.Nodup

theorem Counted.quiet (counted : Counted before) (quiet : Quiet before after) : Counted after where
  bounded := by
    rw [quiet.attempts, quiet.generation?]
    exact counted.bounded
  distinct := by
    rw [quiet.attempts]
    exact counted.distinct

/-- A write of a declaration that does not decrease its generation. -/
theorem Counted.write (counted : Counted before) {agentId : String}
    (grows : ∀ old, before.declarations agentId = some old →
      old.spec.generation ≤ new.spec.generation)
    (declarations : after.declarations = update before.declarations agentId (some new))
    (attempts : after.attempts = before.attempts) : Counted after where
  bounded := by
    intro other generation mem
    rw [attempts] at mem
    obtain ⟨stored, found, le⟩ := counted.bounded other generation mem
    rw [generation?, declarations, update_apply]
    split
    · rename_i same
      subst same
      obtain ⟨old, oldFound, rfl⟩ := Option.map_eq_some_iff.mp found
      exact ⟨_, rfl, le.trans (grows old oldFound)⟩
    · exact ⟨stored, found, le⟩
  distinct := by
    rw [attempts]
    exact counted.distinct

/-- What the calls of an operation keep, when no generation can be exhausted in it. -/
structure Guarantee (revision : Option Nat) (unsaturated : Prop) (before after : Shared β) :
    Prop where
  change : Change revision before after
  counted : unsaturated → Counted before → Counted after

theorem Guarantee.ofQuiet {unsaturated : Prop}
    (quiet : Quiet before after) : Guarantee revision unsaturated before after :=
  ⟨.quiet quiet, fun _ counted => counted.quiet quiet⟩

/-! ## Calls -/

/-- The call changes no declaration and sends no attempt, whatever it is made for. -/
def Call.quiet {α : Type} : Call α → Bool
  | .upsert _ | .update _ _ | .remove _ => false
  | .request _ (some (.startup _ _)) => false
  | _ => true

theorem quiet_of_store_eq
    (store : after.startupStore = before.startupStore) (sent : after.sent = before.sent) :
    Quiet before after where
  declarations := by
    funext agentId
    rw [declarations, declarations, store]
  attempts := by rw [attempts, attempts, sent]

/-- A new record is that of the process, up to the output it takes over. -/
theorem inherit_info (agent current : ControllerAgent) (inventoryOnly : Bool) :
    ∃ revision, (agent.inherit current inventoryOnly).info =
      { agent.info with outputRevision := revision } := by
  unfold ControllerAgent.inherit
  split
  · split
    · exact ⟨_, rfl⟩
    · exact ⟨agent.info.outputRevision, rfl⟩
  · exact ⟨agent.info.outputRevision, rfl⟩

/-- A process is published in place of a record that does not supersede it, or not at all. -/
theorem publish_cases (shared : Shared β) (world : World) (agent : ControllerAgent)
    (running : Bool) (port : Option Nat) (inventoryOnly : Bool) :
    (∃ result, shared.publish world agent running port inventoryOnly = (result, shared) ∧
      ∀ info, result ≠ .ok (.stored info)) ∨
    ∃ (stored : ControllerAgent) (revision : Nat),
      stored.info = { agent.info with outputRevision := revision } ∧
      (∀ current, shared.agents.get? agent.info.agentId = some current →
        current.supersedes agent.info.runGeneration agent.info.startedAt = false) ∧
      shared.publish world agent running port inventoryOnly =
        (.ok (.stored stored.info), shared.putAgent agent.info.agentId stored) := by
  by_cases denied : shared.startupStore.isDenied agent.info.agentId = true
  · left
    refine ⟨.error identityDenied, ?_, by simp⟩
    rw [publish, if_pos denied]
  · rw [publish, if_neg denied]
    cases (if running && port.isSome then world.proxyPort else .ok 0) with
    | error error => exact .inl ⟨.error error, rfl, by simp⟩
    | ok =>
      cases found : shared.agents.get? agent.info.agentId with
      | none =>
        right
        refine ⟨agent, agent.info.outputRevision, rfl, ?_, rfl⟩
        intro current absent
        cases absent
      | some current =>
        by_cases newer :
            current.supersedes agent.info.runGeneration agent.info.startedAt = true
        · left
          refine ⟨.ok (.superseded current.info), ?_, by simp⟩
          simp only [newer, if_true]
        · right
          obtain ⟨revision, info⟩ := inherit_info agent current inventoryOnly
          refine ⟨agent.inherit current inventoryOnly, revision, info, ?_, ?_⟩
          · intro other same
            cases same
            simpa using newer
          · simp only [newer, Bool.false_eq_true, if_false]

variable (config : Config β)

theorem quiet_machine {α : Type} {instruction : Call α} (quiet : instruction.quiet = true)
    (world : World) (shared : Shared β) :
    Quiet shared (machine config instruction world shared).2 := by
  cases instruction with
  | upsert | update | remove => cases quiet
  | request command operationId =>
    refine ⟨rfl, ?_⟩
    have other : Sent.attempt? ⟨command, operationId⟩ = none := by
      cases operationId with
      | none => rfl
      | some id =>
        cases id with
        | startup => cases quiet
        | named => rfl
    change (shared.sent ++ [_]).filterMap Sent.attempt? = _
    rw [List.filterMap_append, List.filterMap_cons_none other]
    exact List.append_nil _
  | publish agent running port inventoryOnly =>
    change Quiet shared (shared.publish world agent running port inventoryOnly).2
    rcases publish_cases shared world agent running port inventoryOnly with
      ⟨result, kept, _⟩ | ⟨stored, revision, _, _, published⟩
    · rw [kept]
      exact .refl shared
    · rw [published]
      exact quiet_of_store_eq rfl rfl
  | respond process status =>
    change Quiet shared (shared.respond world process status).2
    unfold respond
    split
    · exact quiet_of_store_eq rfl rfl
    · exact quiet_of_store_eq rfl rfl
  | observe process =>
    change Quiet shared (shared.observe world process).2
    unfold observe
    split
    · exact quiet_of_store_eq rfl rfl
    · exact quiet_of_store_eq rfl rfl
  | world | get | entries | isDenied | agent => exact .refl shared
  | insert => exact quiet_of_store_eq rfl rfl

theorem declarations_update (get : String → Option StoredAgentStartup) (agentId : String)
    (entry : Option StoredAgentStartup) :
    (fun other => (update get agentId entry other).map declaration) =
      update (fun other => (get other).map declaration) agentId (entry.map declaration) := by
  funext other
  by_cases same : other = agentId
  · subst same
    simp
  · simp [same]

/-- An upsert fails without an effect, or writes the declaration of its entry. -/
theorem machine_upsert (entry : StoredAgentStartup) (world : World) (shared : Shared β) :
    (machine config (.upsert entry) world shared).2.attempts = shared.attempts ∧
    ((∃ error, (machine config (.upsert entry) world shared).1 = .error error ∧
      (machine config (.upsert entry) world shared).2.declarations = shared.declarations) ∨
    ((machine config (.upsert entry) world shared).1 = .ok () ∧
      (machine config (.upsert entry) world shared).2.declarations =
        update shared.declarations entry.spec.agentId (some (declaration entry)))) := by
  refine ⟨rfl, ?_⟩
  rcases StartupStore.get_upsert entry world.disk with ⟨error, failed, kept⟩ | ⟨done, written⟩
  · left
    refine ⟨startupStoreError error, ?_, ?_⟩
    · change Except.mapError _ _ = _
      rw [failed]
      rfl
    · funext agentId
      exact congrArg (Option.map declaration) (congrFun kept agentId)
  · right
    refine ⟨?_, ?_⟩
    · change Except.mapError _ _ = _
      rw [done]
      rfl
    · refine Eq.trans ?_
        (declarations_update shared.startupStore.get entry.spec.agentId (some entry))
      funext agentId
      exact congrArg (Option.map declaration) (congrFun written agentId)

/-- An update that keeps the declaration is quiet. -/
theorem quiet_update (agentId : String) {mutate : StoredAgentStartup → StoredAgentStartup}
    (keeps : ∀ entry, declaration (mutate entry) = declaration entry) (world : World)
    (shared : Shared β) :
    Quiet shared (machine config (.update agentId mutate) world shared).2 := by
  refine ⟨?_, rfl⟩
  funext other
  change ((shared.startupStore.update config.codec agentId mutate world.disk).2.get other).map
    declaration = (shared.startupStore.get other).map declaration
  rcases StartupStore.get_update agentId mutate world.disk with kept | ⟨entry, found, written⟩
  · rw [kept]
  rw [written, update_apply]
  split
  · rename_i same
    rw [same, found]
    exact congrArg some (keeps entry)
  · rfl

end Treer.Controller
