import Treer.Controller.Guarantees
import Treer.Foundation.Pool

/-!
# Run generations

The Host's process events are handled by a task of their own, next to the operations that
hold the recovery lock. It reads an entry, edits its copy and writes the copy back, and the
check that no newer run is stored stands before all of that. As long as no operation
changes the agent of an event while it is handled, no generation decreases and an event
changes nothing of a newer run.
-/

namespace Treer.Controller

open Foundation Protocol Host Startup Shared StartupStore.Sample
open Procedure List Function Pool Program
open Foundation.Procedure (call attempt settle)
variable {β : Type} {α γ : Type}
variable {shared : Shared β} {generation : Nat}

/-- The call can change the entry or the record of the agent. -/
def Call.touches {α : Type} (agentId : String) : Call α → Bool
  | .upsert entry => entry.spec.agentId == agentId
  | .update changed _ | .remove changed => changed == agentId
  | .insert record | .publish record _ _ _ => record.info.agentId == agentId
  | .respond process _ | .observe process => process.processId == agentId
  | _ => false

/-- The entry and the record of the agents stay as they are. -/
def Untouched (agentIds : List String) (before after : Shared β) : Prop :=
  ∀ agentId ∈ agentIds, after.startupStore.get agentId = before.startupStore.get agentId ∧
    after.agents.get? agentId = before.agents.get? agentId

theorem Untouched.refl (agentIds : List String) (shared : Shared β) :
    Untouched agentIds shared shared :=
  fun _ _ => ⟨rfl, rfl⟩

theorem Untouched.trans {agentIds : List String} {first second third : Shared β}
    (earlier : Untouched agentIds first second) (later : Untouched agentIds second third) :
    Untouched agentIds first third := by
  intro agentId mem
  obtain ⟨entry, record⟩ := earlier agentId mem
  obtain ⟨entryLater, recordLater⟩ := later agentId mem
  exact ⟨entryLater.trans entry, recordLater.trans record⟩

theorem get?_putAgent (shared : Shared β) (changed agentId : String) (agent : ControllerAgent) :
    (shared.putAgent changed agent).agents.get? agentId =
      if agentId = changed then some agent else shared.agents.get? agentId :=
  KeyedMap.get?_insert shared.agents changed agentId agent

variable {instruction : Call α} {agentId : String}

theorem untouched_machine (config : Config β) (elsewhere : instruction.touches agentId = false)
    (world : World) (shared : Shared β) :
    (machine config instruction world shared).2.startupStore.get agentId =
        shared.startupStore.get agentId ∧
      (machine config instruction world shared).2.agents.get? agentId =
        shared.agents.get? agentId := by
  have differs : ∀ {changed : String}, (changed == agentId) = false → agentId ≠ changed :=
    fun other => (beq_eq_false_iff_ne.mp other).symm
  have put : ∀ {changed : String} (agent : ControllerAgent), (changed == agentId) = false →
      (shared.putAgent changed agent).startupStore.get agentId =
          shared.startupStore.get agentId ∧
        (shared.putAgent changed agent).agents.get? agentId = shared.agents.get? agentId :=
    fun agent other => ⟨rfl, (get?_putAgent shared _ agentId agent).trans (if_neg (differs other))⟩
  cases instruction with
  | upsert entry =>
    refine ⟨?_, rfl⟩
    change (shared.startupStore.upsert config.codec entry world.disk).2.get agentId = _
    rcases StartupStore.get_upsert entry world.disk with ⟨_, _, kept⟩ | ⟨_, written⟩
    · rw [kept]
    · rw [written, update_of_ne (differs elsewhere)]
  | update changed mutate =>
    refine ⟨?_, rfl⟩
    change (shared.startupStore.update config.codec changed mutate world.disk).2.get agentId = _
    rcases StartupStore.get_update changed mutate world.disk with kept | ⟨_, _, written⟩
    · rw [kept]
    · rw [written, update_of_ne (differs elsewhere)]
  | remove changed =>
    refine ⟨?_, rfl⟩
    change (shared.startupStore.remove config.codec changed world.disk).2.get agentId = _
    rcases StartupStore.get_remove changed world.disk with kept | written
    · rw [kept]
    · rw [written, update_of_ne (differs elsewhere)]
  | insert agent => exact put agent elsewhere
  | publish agent running port inventoryOnly =>
    change (shared.publish world agent running port inventoryOnly).2.startupStore.get agentId =
      _ ∧ (shared.publish world agent running port inventoryOnly).2.agents.get? agentId = _
    rcases publish_cases shared world agent running port inventoryOnly with
      ⟨result, kept, _⟩ | ⟨stored, revision, _, _, published⟩
    · rw [kept]
      exact ⟨rfl, rfl⟩
    · rw [published]
      exact put stored elsewhere
  | respond process status =>
    change (shared.respond world process status).2.startupStore.get agentId = _ ∧
      (shared.respond world process status).2.agents.get? agentId = _
    unfold respond
    split
    · exact ⟨rfl, rfl⟩
    · exact put _ elsewhere
  | observe process =>
    change (shared.observe world process).2.startupStore.get agentId = _ ∧
      (shared.observe world process).2.agents.get? agentId = _
    unfold observe
    split
    · exact ⟨rfl, rfl⟩
    · exact put _ elsewhere
  | world | request | get | entries | isDenied | agent => exact ⟨rfl, rfl⟩

/-! ## Events -/

/-- The agents that an event can change. -/
def eventIds (config : Config β) (process : HostProcessInfo) : List String :=
  process.processId ::
    match config.metadata.fromText process.metadata with
    | .ok metadata => [metadata.agentId]
    | .error _ => []

/-- What an event of a run does: no declaration changes, and nothing of a newer run. -/
structure EventStep (generation : Nat) (before after : Shared β) : Prop where
  quiet : Quiet before after
  entries : ∀ agentId entry, before.startupStore.get agentId = some entry →
    generation < entry.spec.generation → after.startupStore.get agentId = some entry
  records : ∀ agentId agent, before.agents.get? agentId = some agent →
    generation < agent.info.runGeneration → after.agents.get? agentId = some agent

theorem EventStep.refl (generation : Nat) (shared : Shared β) :
    EventStep generation shared shared :=
  ⟨Quiet.refl shared, fun _ _ found _ => found, fun _ _ found _ => found⟩

/-- A record of a run that is not newer is replaced. -/
theorem eventStep_putAgent
    (older : ∀ current, shared.agents.get? agentId = some current →
      current.info.runGeneration ≤ generation) (agent : ControllerAgent) :
    EventStep generation shared (shared.putAgent agentId agent) where
  quiet := quiet_of_store_eq rfl rfl
  entries _ _ found _ := found
  records other current found newer := by
    rw [get?_putAgent, if_neg]
    · exact found
    · rintro rfl
      exact absurd (older current found) (not_le.mpr newer)

/-- An entry that is not newer is switched off. -/
theorem eventStep_disable (config : Config β)
    {entry : StoredAgentStartup} (found : shared.startupStore.get entry.spec.agentId = some entry)
    (older : entry.spec.generation ≤ generation) (world : World) :
    EventStep generation shared (machine config (.upsert (disabled entry)) world shared).2 where
  quiet := by
    obtain ⟨attempts, ⟨_, _, kept⟩ | ⟨_, written⟩⟩ :=
      machine_upsert config (disabled entry) world shared
    · exact ⟨kept, attempts⟩
    refine ⟨?_, attempts⟩
    rw [written]
    have same : some (declaration (disabled entry)) =
        shared.declarations (disabled entry).spec.agentId := by
      change _ = (shared.startupStore.get entry.spec.agentId).map declaration
      rw [found]
      rfl
    rw [same]
    exact update_eq_self _ shared.declarations
  entries agentId newer newerFound newerGeneration := by
    change (shared.startupStore.upsert config.codec (disabled entry) world.disk).2.get agentId = _
    rcases StartupStore.get_upsert (disabled entry) world.disk with ⟨_, _, kept⟩ | ⟨_, written⟩
    · rw [kept]
      exact newerFound
    rw [written, update_of_ne]
    · exact newerFound
    rintro rfl
    cases found.symm.trans newerFound
    exact absurd older (not_le.mpr newerGeneration)
  records _ _ found _ := found

variable {config : Config β} {process : HostProcessInfo}

/-- The judgment of a part of the handling of an event. -/
abbrev Handles (config : Config β) (process : HostProcessInfo) (post : α → Shared β → Prop)
    (program : Program Call α) (shared : Shared β) : Prop :=
  program.Keeps (machine config) (Untouched (eventIds config process))
    (EventStep (runGenerationOf config process)) post shared

/-- The call does not change the state. -/
def Call.reads {α : Type} : Call α → Bool
  | .world | .get _ | .entries | .isDenied _ | .agent _ => true
  | _ => false

theorem machine_reads (reads : instruction.reads = true) (world : World) :
    (machine config instruction world shared).2 = shared := by
  cases instruction <;> first | rfl | cases reads

theorem handles_read {rest : α → Procedure γ} {post : Except ProtocolError γ → Shared β → Prop}
    (reads : instruction.reads = true)
    (follows : ∀ between world, Untouched (eventIds config process) shared between →
      Handles config process post (rest (machine config instruction world between).1).run between) :
    Handles config process post (call instruction >>= rest).run shared := by
  apply keeps_call_bind
  intro between world allowed
  rw [machine_reads reads]
  exact ⟨EventStep.refl _ between, follows between world allowed⟩

variable {metadata : AgentMetadata}

section
variable (parsed : config.metadata.fromText process.metadata = .ok metadata)
include parsed

theorem handles_disableCompleted {info : AgentInfo}
    (agentId : info.agentId = metadata.agentId)
    (generation : info.runGeneration = metadata.runGeneration) :
    Handles config process (fun _ _ => True) (disableCompleted info).run shared := by
  have counted : runGenerationOf config process = metadata.runGeneration := by
    rw [runGenerationOf, parsed]
  have mem : metadata.agentId ∈ eventIds config process := by
    rw [eventIds, parsed]
    exact mem_cons_of_mem _ mem_cons_self
  apply handles_read rfl
  intro between world _
  split
  · rename_i entry found
    split
    · rename_i older
      apply keeps_perform
      intro later disk untouched
      have named : entry.spec.agentId = info.agentId := (Table.find?_eq_some_iff.mp found).2
      have still : later.startupStore.get entry.spec.agentId = some entry := by
        rw [named, agentId, (untouched metadata.agentId mem).1, ← agentId]
        exact found
      rw [generation, ← counted] at older
      exact ⟨eventStep_disable config still older disk, trivial⟩
    · exact .done trivial
  · exact .done trivial

theorem handles_publishProcess (restoredText : Option String) :
    Handles config process (fun _ _ => True)
      (publishProcess config process metadata restoredText).run shared := by
  have counted : runGenerationOf config process = metadata.runGeneration := by
    rw [runGenerationOf, parsed]
  apply keeps_settle_bind
  · intros
    trivial
  intro _ _
  apply handles_read rfl
  intro between world _
  generalize (machine config .world world between).1 = clock
  have published := fun (later : Shared β) answers => publish_cases later answers
    (agentOfProcess config process metadata restoredText clock.now) process.running
    metadata.httpProxyPort restoredText.isNone
  apply keeps_attempt_bind
  · intro later answers _
    change EventStep _ later (later.publish _ _ _ _ _).2
    rcases published later answers with ⟨result, kept, _⟩ | ⟨stored, revision, _, older, published⟩
    · rw [kept]
      exact .refl _ later
    rw [published]
    apply eventStep_putAgent
    intro current found
    have notNewer := older current found
    simp only [ControllerAgent.supersedes, Bool.or_eq_false_iff, decide_eq_false_iff_not,
      not_lt] at notNewer
    rw [counted]
    exact notNewer.1
  · intros
    trivial
  · intro later answers answer _ answered
    cases answer with
    | superseded => exact .done trivial
    | stored info =>
      change (later.publish _ _ _ _ _).1 = _ at answered
      rcases published later answers with
        ⟨result, kept, refused⟩ | ⟨stored, revision, infoEq, _, published⟩
      · rw [kept] at answered
        exact absurd answered (refused info)
      rw [published] at answered
      cases answered
      change Handles config process _ (if _ then _ else _ : Procedure AgentInfo).run _
      split
      · apply keeps_bind (handles_disableCompleted parsed _ _)
        · intros
          trivial
        · intros
          exact .done trivial
        · rw [infoEq]
          rfl
        · rw [infoEq]
          rfl
      · exact .done trivial

end

theorem handles_upsertProcess (restoredText : Option String) :
    Handles config process (fun _ _ => True) (upsertProcess config process restoredText).run
      shared := by
  have allowed : Handles config process (fun _ _ => True) (requireNotDenied process.processId).run
      shared := by
    apply handles_read rfl
    intros
    exact .done trivial
  apply keeps_bind allowed
  · intros
    trivial
  intro _ after _
  apply keeps_settle_bind
  · intros
    trivial
  intro metadata read
  have parsed := mapError_eq_ok_iff.mp read
  apply handles_read rfl
  intro between world _
  split
  · exact .done trivial
  · exact handles_publishProcess parsed restoredText

/-- The answer of a call that does not change the state. -/
theorem handles_perform (reads : instruction.reads = true) : Handles config process
      (fun result after => Untouched (eventIds config process) shared after ∧
        ∃ world, result = (machine config instruction world after).1)
      (.perform instruction) shared := by
  apply keeps_perform
  intro between world allowed
  rw [machine_reads reads]
  exact ⟨EventStep.refl _ between, allowed, world, rfl⟩

/-- No newer run of the agent is stored or recorded. -/
structure NotNewer (config : Config β) (process : HostProcessInfo) (shared : Shared β) : Prop where
  entry : ∀ entry, shared.startupStore.get process.processId = some entry →
    entry.spec.generation ≤ runGenerationOf config process
  record : ∀ agent, shared.agents.get? process.processId = some agent →
    agent.info.runGeneration ≤ runGenerationOf config process

section
variable (known : NotNewer config process shared)
include known

theorem NotNewer.untouched {after : Shared β}
    (untouched : Untouched (eventIds config process) shared after) :
    NotNewer config process after := by
  obtain ⟨entry, record⟩ := untouched process.processId mem_cons_self
  constructor
  · rw [entry]
    exact known.entry
  · rw [record]
    exact known.record

theorem handles_recordProcess :
    Handles config process (fun _ _ => True) (recordProcess config process) shared := by
  apply keeps_call_iff.mpr
  intro between world allowed
  have still := known.untouched allowed
  constructor
  · change EventStep _ between (between.observe world process).2
    unfold observe
    split
    · exact .refl _ between
    · exact eventStep_putAgent still.record _
  · change Handles config process _ (if _ then _ else _ : Program Call Unit) _
    split
    · exact .done trivial
    apply (handles_upsertProcess none).bind
    intros
    exact .done trivial

theorem handles_disableExited :
    Handles config process (fun _ after => NotNewer config process after)
      (disableExited process) shared := by
  apply (handles_perform rfl).bind
  rintro _ _ ⟨untouched, _⟩
  have stillFirst := known.untouched untouched
  split
  · apply (handles_perform rfl).bind
    rintro copy _ ⟨untouchedSecond, _, read⟩
    have stillSecond := stillFirst.untouched untouchedSecond
    cases copy with
    | none => exact .done stillSecond
    | some entry =>
      apply keeps_call_iff.mpr
      intro between disk untouchedBetween
      have still := stillSecond.untouched untouchedBetween
      have named : entry.spec.agentId = process.processId :=
        (Table.find?_eq_some_iff.mp read.symm).2
      have found : between.startupStore.get entry.spec.agentId = some entry := by
        rw [named, (untouchedBetween _ mem_cons_self).1]
        exact read.symm
      have older := still.entry entry (by rw [← named]; exact found)
      have step := eventStep_disable config found older disk
      refine ⟨step, .done ⟨?_, still.record⟩⟩
      intro stored storedFound
      have counted : (machine config (.upsert (disabled entry)) disk between).2.generation?
          process.processId = some stored.spec.generation := by
        rw [generation?, declarations, storedFound]
        rfl
      rw [step.quiet.generation?, generation?, declarations, ← named, found] at counted
      rw [← Option.some.inj counted]
      exact older
  · exact .done stillFirst

end

/-- The check at the top holds until the event is handled. -/
theorem handles_applyProcess :
    Handles config process (fun _ _ => True) (applyProcess config process) shared := by
  apply (handles_perform rfl).bind
  rintro entry first ⟨_, _, read⟩
  change entry = first.startupStore.get process.processId at read
  split
  · exact .done trivial
  rename_i current
  apply (handles_perform rfl).bind
  rintro agent second ⟨untouched, _, readAgent⟩
  change agent = second.agents.get? process.processId at readAgent
  split
  · exact .done trivial
  · apply (handles_upsertProcess none).bind
    intros
    exact .done trivial
  · rename_i same
    have known : NotNewer config process second := by
      constructor
      · intro stored found
        rw [(untouched _ mem_cons_self).1, ← read] at found
        rw [found] at current
        simpa using current
      · intro record found
        rw [← readAgent] at found
        rw [found] at same
        by_contra newer
        simp [eventKind, ControllerAgent.supersedes, not_le.mp newer] at same
    split
    · apply (handles_disableExited known).bind
      intro _ after knownAfter
      exact handles_recordProcess knownAfter
    · exact handles_recordProcess known

/-- An operation that holds the recovery lock while it runs. -/
structure LockedOperation where
  operation : Operation
  locked : operation.holdsRecoveryLock = true

inductive Activity where
  | event (process : HostProcessInfo)
  | operation (locked : LockedOperation)

namespace Activity

def program (config : Config β) : Activity → Program Call Unit
  | .event process => applyProcess config process
  | .operation locked => do
    let _ ← locked.operation.program config
    return ()

/-- Events are handled one after the other, and so are the operations. -/
def compatible : Activity → Activity → Bool
  | .event _, .operation _ | .operation _, .event _ => true
  | _, _ => false

end Activity

variable {before after : Shared β} {place : Nat}

/-- The activities of a Controller on its state. -/
abbrev Activities (β : Type) := Pool Call Activity (Shared β)

def Activities.step (config : Config β) :
    Activities β → Move Activity World → Unit × Activities β :=
  Pool.step (machine config) (Activity.program config) Activity.compatible

/-- No operation makes a call that can change the agent of an event while it is handled. -/
def Undisturbed (config : Config β) (activities : Activities β) : Move Activity World → Prop
  | .start _ => True
  | .advance place _ =>
    ∀ locked, ∀ γ : Type, ∀ (instruction : Call γ) (next),
      activities.tasks[place]? = some ⟨.operation locked, .call instruction next⟩ →
      ∀ task ∈ activities.tasks, task.rest.finished = false →
      ∀ process, task.label = .event process →
      ∀ agentId ∈ eventIds config process, instruction.touches agentId = false

/-- The stored generations do not decrease, and no declaration disappears. -/
def GenerationsGrow (before after : Shared β) : Prop :=
  ∀ agentId generation, before.generation? agentId = some generation →
    ∃ later, after.generation? agentId = some later ∧ generation ≤ later

theorem GenerationsGrow.ofQuiet (quiet : Quiet before after) : GenerationsGrow before after := by
  intro agentId generation found
  rw [quiet.generation?]
  exact ⟨generation, found, le_rfl⟩

theorem GenerationsGrow.ofWrite {new : StoredAgentStartup}
    (grows : ∀ old, before.declarations agentId = some old →
      old.spec.generation ≤ new.spec.generation)
    (declarations : after.declarations = update before.declarations agentId (some new)) :
    GenerationsGrow before after := by
  intro other generation found
  rw [generation?, declarations, update_apply]
  split
  · rename_i same
    subst same
    obtain ⟨old, oldFound, rfl⟩ := Option.map_eq_some_iff.mp found
    exact ⟨_, rfl, grows old oldFound⟩
  · exact ⟨generation, found, le_rfl⟩

theorem Change.generationsGrow {revision : Option Nat}
    (change : Change revision before after) : GenerationsGrow before after := by
  cases change with
  | quiet kept => exact .ofQuiet kept
  | write agentId new allowed declarations =>
    refine .ofWrite ?_ declarations
    intro old found
    rw [found] at allowed
    exact allowed.generation_le
  | spawn agentId generation declarations =>
    intro other stored found
    rw [generation?, declarations]
    exact ⟨stored, found, le_rfl⟩

theorem SetChange.generationsGrow (change : SetChange before after) :
    GenerationsGrow before after := by
  cases change with
  | quiet kept => exact .ofQuiet kept
  | set agentId new generation declarations =>
    refine .ofWrite ?_ declarations
    intro old found
    have stored : before.generation? agentId = some old.spec.generation := by
      rw [generation?, found]
      rfl
    exact (generation _ stored).ge

def Activity.rely (config : Config β) : Activity → Shared β → Shared β → Prop
  | .event process => Untouched (eventIds config process)
  | .operation _ => Quiet

def Activity.guarantee (config : Config β) : Activity → Shared β → Shared β → Prop
  | .event process => EventStep (runGenerationOf config process)
  | .operation _ => GenerationsGrow

theorem rely_refl (config : Config β) (activity : Activity) (shared : Shared β) :
    activity.rely config shared shared := by
  cases activity with
  | event => exact Untouched.refl _ shared
  | operation => exact .refl shared

theorem rely_trans (config : Config β) {activity : Activity} {first second third : Shared β}
    (earlier : activity.rely config first second) (later : activity.rely config second third) :
    activity.rely config first third := by
  cases activity with
  | event => exact Untouched.trans earlier later
  | operation => exact Quiet.trans earlier later

theorem keeps_operation (config : Config β) (locked : LockedOperation) (shared : Shared β) :
    (locked.operation.program config).Keeps (machine config) Quiet GenerationsGrow
      (fun _ _ => True) shared := by
  obtain ⟨operation, locked⟩ := locked
  cases allowed : operation.writesAllowed with
  | true =>
    have judged : Judged config operation.revision False (fun _ _ => True)
        (operation.program config) shared :=
      judged_program operation allowed False.elim False.elim
    exact judged.weaken fun _ _ kept => kept.change.generationsGrow
  | false =>
    cases operation with
    | setStartup agentId request =>
      apply Keeps.bind
        ((keeps_setStartup agentId request).weaken fun _ _ => SetChange.generationsGrow)
      intros
      exact .done trivial
    | clearStartup => cases locked
    | create | ensureAppLifecycle | start | stop | updateAppStartup | replaceStartup
    | restartWithStartup | restoreStartupOutcomes => cases allowed

/-- Every activity keeps its judgment, and at most one event and one operation are under
way. -/
structure Orderly (config : Config β) (activities : Activities β) : Prop where
  keeps : activities.AllKeep (machine config) (Activity.rely config) (Activity.guarantee config)
  compatible : activities.Compatible Activity.compatible

variable {activities : Activities β}

theorem Orderly.step (orderly : Orderly config activities) {move : Move Activity World}
    (undisturbed : Undisturbed config activities move) :
    Orderly config (activities.step config move).2 := by
  cases move with
  | start activity =>
    refine ⟨orderly.keeps.start ?_, orderly.compatible.start ?_ activity⟩
    · cases activity with
      | event process => exact handles_applyProcess
      | operation locked =>
        apply (keeps_operation config locked activities.shared).bind
        intros
        exact .done trivial
    · intro first second
      cases first <;> cases second <;> rfl
  | advance place world =>
    refine ⟨?_, orderly.compatible.advance place world⟩
    rcases advance_cases activities place with idle | ⟨activity, δ, instruction, next, task⟩
    · change (activities.advance (machine config) place world).AllKeep _ _ _
      rw [idle world]
      exact orderly.keeps
    · apply orderly.keeps.advance (rely_refl config) (rely_trans config) task world
      intro other task' differs found unfinished
      -- The call is within the rely of every other activity.
      have allowed := orderly.compatible differs found task unfinished rfl
      cases label : task'.label with
      | event process =>
        cases activity with
        | event =>
          rw [label] at allowed
          cases allowed
        | operation locked =>
          intro agentId mem
          apply untouched_machine
          exact undisturbed locked δ instruction next task task' (mem_of_getElem? found)
            unfinished process label agentId mem
      | operation =>
        cases activity with
        | event => exact (orderly.keeps.within_guarantee (rely_refl config) task world).quiet
        | operation =>
          rw [label] at allowed
          cases allowed

/-- What every step does: generations grow, and an event leaves every newer run alone. -/
theorem grows_of_step (orderly : Orderly config activities) (move : Move Activity World) :
    GenerationsGrow activities.shared (activities.step config move).2.shared ∧
      ∀ place world process rest, move = .advance place world →
        activities.tasks[place]? = some ⟨.event process, rest⟩ →
        EventStep (runGenerationOf config process) activities.shared
          (activities.step config move).2.shared := by
  rw [Activities.step]
  rcases shared_cases activities move with
    same | ⟨place, world, activity, _, _, _, rfl, task, made⟩
  · rw [same]
    exact ⟨.ofQuiet (Quiet.refl _), fun _ _ _ _ _ _ => .refl _ _⟩
  have within := orderly.keeps.within_guarantee (rely_refl config) task world
  rw [made]
  constructor
  · cases activity with
    | event => exact .ofQuiet within.quiet
    | operation => exact within
  · rintro _ _ _ _ ⟨⟩ found
    cases task.symm.trans found
    exact within

/-- In a run in which no operation changes the agent of an event while it is handled, no stored
generation decreases, and an event changes neither the declaration nor the record of a newer run. -/
theorem generations_never_go_backwards (config : Config β) (shared : Shared β)
    (moves : List (Move Activity World))
    (undisturbed : AllSteps (Activities.step config) (Undisturbed config) (init shared) moves) :
    ∀ entry ∈ trace (Activities.step config) (init shared) moves,
      GenerationsGrow entry.before.shared entry.after.shared ∧
      ∀ place world process rest, entry.action = .advance place world →
        entry.before.tasks[place]? = some ⟨.event process, rest⟩ →
        ∀ agentId,
          (∀ stored, entry.before.shared.startupStore.get agentId = some stored →
            runGenerationOf config process < stored.spec.generation →
            entry.after.shared.startupStore.get agentId = some stored) ∧
          (∀ agent, entry.before.shared.agents.get? agentId = some agent →
            runGenerationOf config process < agent.info.runGeneration →
            entry.after.shared.agents.get? agentId = some agent) := by
  intro entry mem
  obtain ⟨_, _, rfl, reached, stepped⟩ := of_mem_trace mem
  have orderly : Orderly config entry.before := by
    rw [← reached]
    exact undisturbed.invariant (fun _ _ holds allowed => holds.step allowed)
      ⟨fun _ mem => absurd mem not_mem_nil, compatible_init shared⟩
  obtain ⟨grows, events⟩ := grows_of_step orderly entry.action
  have after : (entry.before.step config entry.action).2 = entry.after := congrArg Prod.snd stepped
  rw [after] at grows events
  refine ⟨grows, ?_⟩
  intro place world process rest action found agentId
  have event := events place world process rest action found
  exact ⟨event.entries agentId, event.records agentId⟩

/-! ## A restart while an exit is handled -/

theorem undisturbed_event {world : World} {rest : Program Call Unit}
    (task : activities.tasks[place]? = some ⟨.event process, rest⟩) :
    Undisturbed config activities (.advance place world) := by
  intro locked δ instruction next found
  cases task.symm.trans found

/-- No event is being handled. -/
def Activities.eventsIdle (activities : Activities β) : Bool :=
  activities.tasks.all fun task =>
    match task.label with
    | .event _ => task.rest.finished
    | .operation _ => true

theorem undisturbed_idle (idle : activities.eventsIdle = true) {world : World} :
    Undisturbed config activities (.advance place world) := by
  intro locked δ instruction next _ task mem unfinished process label
  have ended := all_eq_true.mp idle task mem
  rw [label] at ended
  rw [unfinished] at ended
  cases ended

namespace Sample

/-- The metadata of the runs of one agent, written as one letter for each run. -/
def runsOf (base : AgentMetadata) : MetadataCodec where
  toText metadata :=
    if metadata = { base with runGeneration := metadata.runGeneration } then
      .ok (String.ofList (List.replicate metadata.runGeneration 'x'))
    else .error "not a run of the agent"
  fromText text := .ok { base with runGeneration := text.toList.length }
  reads := by
    intro metadata text written
    split at written
    · rename_i same
      cases written
      rw [String.toList_ofList, List.length_replicate, ← same]
    · cases written

/-- A credential of the form the Controller accepts. -/
def credential : String :=
  String.ofList ("wlc_".toList ++ List.replicate 64 'a')

def base (kind : String) : AgentMetadata where
  agentId := "ag_1"
  runGeneration := 0
  workspaceId := "workspace_1"
  serverId := "server_1"
  kind
  name := "worker"
  cwd := "."
  workloadCredential := credential
  httpProxyPort := some 9000

def settings (kind : String) : Config StoreFile where
  workspaceId := "workspace_1"
  serverId := "server_1"
  hostEpoch := "host_1"
  codec := plain
  metadata := runsOf (base kind)
  interactiveShell := "sh"
  environment _ _ _ := Table.empty
  tailSignals _ := ⟨false, false, false⟩

/-- A process of the agent that started at the given time. -/
def hostProcess (metadata : String) (startedAt : Int) (running : Bool) : HostProcessInfo where
  processId := "ag_1"
  pid := some 7
  cwd := "."
  running
  startedAt
  lastOutputAt := startedAt
  exitedAt := if running then none else some (startedAt + 1)
  exitCode := if running then none else some 0
  streamEpoch := "epoch_" ++ metadata
  firstRevision := 1
  nextRevision := 1
  bracketedPaste := false
  metadata

def world (host : HostResponse) : World where
  now := 0
  host := .ok host
  directory := .ok true
  command := .ok "/bin/sh"
  privateState := .ok ()
  proxyPort := .ok 9000
  disk := willing
  arrange := id
  arrange_perm := List.Perm.refl

/-- The first run of the agent is on record. -/
def firstRun : Shared StoreFile where
  startupStore :=
    { state :=
        { StoreState.default with
          entries := Table.empty.put { worker "ag_1" with workloadCredential := credential } }
      disk := none }
  agents := KeyedMap.insert Table.empty "ag_1"
    (agentOfProcess (settings "command") (hostProcess "x" 10 true)
      { base "command" with runGeneration := 1 } none 10)
  sent := []

def inventory : World :=
  world (.synced "host_1" ⟨"1", "commit"⟩ [hostProcess "x" 10 false] [])

def spawned : World :=
  world (.process (hostProcess "xx" 20 true))

def exited : Activity :=
  .event (hostProcess "x" 10 false)

def restart : Activity :=
  .operation ⟨.start "restart_1" "ag_1" true, rfl⟩

/-- A restart has read the entry; the exit of the first run passes the check and reads its copy; the
restart starts the second run. -/
def interleaved : List (Move Activity World) :=
  [.start restart, .advance 0 inventory, .advance 0 inventory,
    .start exited, .advance 1 inventory, .advance 1 inventory, .advance 1 inventory,
    .advance 1 inventory,
    .advance 0 spawned, .advance 0 spawned, .advance 0 spawned, .advance 0 spawned,
    .advance 0 spawned, .advance 0 spawned, .advance 0 spawned]

/-- The copy is written back, and the record is marked. -/
def finishing : List (Move Activity World) :=
  [.advance 1 inventory, .advance 1 inventory]

/-- The exit is handled before the restart counts the next run. -/
def ordered : List (Move Activity World) :=
  [.start restart, .advance 0 inventory, .advance 0 inventory,
    .start exited, .advance 1 inventory, .advance 1 inventory, .advance 1 inventory,
    .advance 1 inventory, .advance 1 inventory, .advance 1 inventory,
    .advance 0 spawned]

def init : Activities StoreFile :=
  Pool.init firstRun

def run (moves : List (Move Activity World)) : Shared StoreFile :=
  (exec (Activities.step (settings "command")) init moves).shared

end Sample

open Sample

/-- The exit of the first run takes back the generation of the second and switches it off. -/
theorem old_exit_cancels_restart : (run interleaved).generation? "ag_1" = some 2 ∧
    ((run interleaved).startupStore.get "ag_1").map (·.spec.enabled) = some true ∧
    ((run interleaved).agents.get? "ag_1").map
      (fun agent => (agent.info.runGeneration, agent.info.status)) = some (2, .working) ∧
    (run (interleaved ++ finishing)).generation? "ag_1" = some 1 ∧
    ((run (interleaved ++ finishing)).startupStore.get "ag_1").map (·.spec.enabled) = some false ∧
    ((run (interleaved ++ finishing)).agents.get? "ag_1").map
      (fun agent => (agent.info.runGeneration, agent.info.status)) = some (2, .exited) := by
  decide +kernel

theorem undisturbed_ordered : AllSteps (Activities.step (settings "command"))
      (Undisturbed (settings "command")) init ordered := by
  refine ⟨trivial, undisturbed_idle rfl, undisturbed_idle rfl, trivial, ?_⟩
  refine ⟨undisturbed_event rfl, undisturbed_event rfl, undisturbed_event rfl, ?_⟩
  exact ⟨undisturbed_event rfl, undisturbed_event rfl, undisturbed_event rfl,
    undisturbed_idle rfl, trivial⟩

/-- The exit is handled in full before the restart counts its run. -/
theorem ordered_exit_keeps_generations : (run ordered).generation? "ag_1" = some 2 ∧
    ∀ entry ∈ trace (Activities.step (settings "command")) init ordered,
      GenerationsGrow entry.before.shared entry.after.shared := by
  refine ⟨by decide +kernel, ?_⟩
  intro entry mem
  exact (generations_never_go_backwards (settings "command") firstRun
    ordered undisturbed_ordered entry mem).1

end Treer.Controller
