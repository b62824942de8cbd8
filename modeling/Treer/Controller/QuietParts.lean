import Treer.Controller.Writes

/-!
# Parts of the operations that are quiet

Most of an operation only reads, adopts processes and switches declarations off. Such a
part is quiet as long as everything between its calls is: it writes an entry back only
with the declaration it has read.
-/

namespace Treer.Controller

open Foundation Protocol Host Startup Program
open Foundation.Procedure (call attempt settle)
variable {β : Type} {α γ : Type}

instance : IsPreorder (Shared β) Quiet where
  refl := Quiet.refl
  trans _ _ _ := Quiet.trans

/-- The program keeps the declarations and the attempts. -/
abbrev IsQuiet (config : Config β) (program : Program Call α) : Prop :=
  program.Stays (machine config) Quiet

variable {config : Config β}

namespace IsQuiet

theorem perform {instruction : Call α} (quiet : instruction.quiet = true) :
    IsQuiet config (.perform instruction) :=
  Stays.perform fun world shared => quiet_machine config quiet world shared

theorem call {instruction : Call α} (quiet : instruction.quiet = true) :
    IsQuiet config (call instruction : Procedure α).run :=
  (perform quiet).bind fun answer => .done (Except.ok answer)

theorem attempt {instruction : Call (Except ProtocolError α)} (quiet : instruction.quiet = true) :
    IsQuiet config (attempt instruction : Procedure α).run :=
  perform quiet

/-- An update that keeps the declaration. -/
theorem update {agentId : String} {mutate : StoredAgentStartup → StoredAgentStartup}
    (keeps : ∀ entry, declaration (mutate entry) = declaration entry) :
    IsQuiet config (Procedure.attempt (.update agentId mutate) : Procedure Unit).run :=
  Stays.perform fun world shared => quiet_update config agentId keeps world shared

/-- An entry that was read is written back with its declaration. -/
theorem writeBack {agentId : String} {rest : Option StoredAgentStartup → Program Call α}
    (absent : IsQuiet config (rest none))
    (present : ∀ entry shared,
      shared.declarations agentId = some (declaration entry) → entry.spec.agentId = agentId →
      (rest (some entry)).Keeps (machine config) Quiet Quiet (fun _ after => Quiet shared after)
        shared) :
    IsQuiet config (.perform (.get agentId) >>= rest) := by
  intro shared
  apply keeps_call_iff.mpr
  intro between world allowed
  refine ⟨Quiet.refl between, ?_⟩
  change (rest (between.startupStore.get agentId)).Keeps _ _ _ _ between
  cases found : between.startupStore.get agentId with
  | none =>
    apply (absent between).mono
    intro _ after later
    exact allowed.trans later
  | some entry =>
    have declared : between.declarations agentId = some (declaration entry) := by
      rw [Shared.declarations, found]
      rfl
    have named := (Table.find?_eq_some_iff.mp found).2
    apply (present entry between declared named).mono
    intro _ after later
    exact allowed.trans later

end IsQuiet

open IsQuiet

/-- Writing a known declaration back is quiet. -/
theorem keeps_upsert_same {entry : StoredAgentStartup} {shared : Shared β}
    (declared : shared.declarations entry.spec.agentId = some (declaration entry)) :
    (perform (.upsert entry)).Keeps (machine config) Quiet Quiet
      (fun _ after => Quiet shared after) shared := by
  apply keeps_perform
  intro between world allowed
  have step : Quiet between (machine config (.upsert entry) world between).2 := by
    obtain ⟨attempts, ⟨_, _, kept⟩ | ⟨_, written⟩⟩ := machine_upsert config entry world between
    · exact ⟨kept, attempts⟩
    refine ⟨?_, attempts⟩
    rw [written, ← declared, ← allowed.declarations]
    exact Function.update_eq_self entry.spec.agentId between.declarations
  exact ⟨step, allowed.trans step⟩

/-! ## The parts -/

variable (agentId : String)

theorem isQuiet_requireNotDenied : IsQuiet config (requireNotDenied agentId).run := by
  refine .seq (call rfl) ?_
  intro denied
  exact .settle _

theorem isQuiet_resolveMachineDirectory (requested : String) :
    IsQuiet config (resolveMachineDirectory requested).run := by
  refine .seq (call rfl) ?_
  intro world
  exact .settle _

theorem isQuiet_hostRequest {command : HostCommand} {operationId : Option OperationId}
    {failure : String → ProtocolError} (quiet : (Call.request command operationId).quiet = true) :
    IsQuiet config (hostRequest command operationId failure).run := by
  refine .seq (call quiet) ?_
  intro answer
  exact .settle _

theorem isQuiet_syncProcesses : IsQuiet config syncProcesses.run := by
  refine .seq (isQuiet_hostRequest rfl) ?_
  intro response
  exact .pure _

theorem isQuiet_processResponse (response : HostResponse) (status : Option AgentStatus) :
    IsQuiet config (processResponse response status).run := by
  unfold processResponse
  split
  · exact .attempt rfl
  · exact .throw _

theorem isQuiet_disableCompleted (info : AgentInfo) :
    IsQuiet config (disableCompleted info).run := by
  apply writeBack
  · exact .pure ()
  intro entry shared declared named
  rw [← named] at declared
  change (if entry.spec.generation ≤ info.runGeneration then
    attempt (.upsert (disabled entry)) else pure () : Procedure Unit).run.Keeps _ _ _ _ shared
  split
  · exact keeps_upsert_same declared
  · exact .done (Quiet.refl shared)

variable (process : HostProcessInfo)

theorem isQuiet_publishProcess (metadata : AgentMetadata) (restoredText : Option String) :
    IsQuiet config (publishProcess config process metadata restoredText).run := by
  refine .seq (.settle _) ?_
  intro _
  refine .seq (call rfl) ?_
  intro world
  refine .seq (attempt rfl) ?_
  intro published
  split
  · exact .pure _
  split
  · refine .seq (isQuiet_disableCompleted _) ?_
    intro _
    exact .pure _
  · exact .pure _

theorem isQuiet_upsertProcess (restoredText : Option String) :
    IsQuiet config (upsertProcess config process restoredText).run := by
  refine .seq (isQuiet_requireNotDenied _) ?_
  intro _
  refine .seq (.settle _) ?_
  intro metadata
  refine .seq (call rfl) ?_
  intro current
  split
  · exact .pure _
  · exact isQuiet_publishProcess process metadata restoredText

theorem isQuiet_materializeStartup (entry : StoredAgentStartup) :
    IsQuiet config (materializeStartup entry).run := by
  refine .seq (call rfl) ?_
  intro current
  split
  · exact .pure _
  refine .seq (call rfl) ?_
  intro world
  refine .seq (call rfl) ?_
  intro _
  exact .pure _

theorem isQuiet_adoptOrStop (operationId agentId : String) (restart : Bool)
    (processes : List HostProcessInfo) :
    IsQuiet config (adoptOrStop config operationId agentId restart processes).run := by
  induction processes with
  | nil => exact .pure none
  | cons process rest ih =>
    refine .seq (isQuiet_upsertProcess process none) ?_
    intro info
    split
    · refine .seq (isQuiet_hostRequest rfl) ?_
      intro response
      refine .seq (isQuiet_processResponse _ _) ?_
      intro _
      exact ih
    · apply Stays.seq
      · exact update fun entry => rfl
      · intro _
        exact .pure _

theorem isQuiet_persistStoppedStartup : IsQuiet config (persistStoppedStartup agentId).run := by
  apply writeBack
  · exact .pure ()
  intro entry shared declared named
  rw [← named] at declared
  exact keeps_upsert_same declared

variable (processes : List HostProcessInfo)

theorem isQuiet_adoptAll (running : Bool) :
    IsQuiet config (adoptAll config processes running).run := by
  induction processes generalizing running with
  | nil => exact .pure running
  | cons process rest ih =>
    refine .seq (isQuiet_upsertProcess process none) ?_
    intro _
    exact ih process.running

theorem isQuiet_stop (operationId agentId : String) :
    IsQuiet config (stop config operationId agentId).run := by
  refine .seq (isQuiet_persistStoppedStartup agentId) ?_
  intro _
  refine .seq isQuiet_syncProcesses ?_
  intro processes
  refine .seq (isQuiet_adoptAll _ _) ?_
  intro running
  split
  · refine .seq (isQuiet_hostRequest rfl) ?_
    intro response
    exact isQuiet_processResponse _ _
  · refine .seq (call rfl) ?_
    intro current
    split
    · exact .pure _
    refine .seq (call rfl) ?_
    intro entry
    split
    · exact isQuiet_materializeStartup _
    · exact .throw _

theorem isQuiet_getStartup : IsQuiet config (getStartup config agentId).run := by
  refine .seq (call rfl) ?_
  intro entry
  split
  · exact .pure _
  · exact .throw _

theorem isQuiet_adoptRunning : IsQuiet config (adoptRunning config processes).run := by
  induction processes with
  | nil => exact .pure ()
  | cons process rest ih =>
    refine .seq (isQuiet_upsertProcess process none) ?_
    intro _
    exact ih

theorem isQuiet_stopUnwanted (operationId agentId : String) :
    IsQuiet config (stopUnwanted operationId agentId).run := by
  apply Stays.seq
  · exact update fun entry => rfl
  intro _
  refine .seq (call rfl) ?_
  intro current
  split
  · refine .seq (isQuiet_hostRequest rfl) ?_
    intro response
    refine .seq (isQuiet_processResponse _ _) ?_
    intro info
    exact .pure _
  · exact .pure _

theorem isQuiet_resolveGivenDirectory (cwd : Option String) :
    IsQuiet config (resolveGivenDirectory cwd).run := by
  cases cwd with
  | none => exact .pure ()
  | some cwd => exact isQuiet_resolveMachineDirectory cwd

theorem isQuiet_holdBack (startMissing : Bool) :
    IsQuiet config (holdBack agentId startMissing).run := by
  unfold holdBack
  split
  · exact .pure ()
  · exact update fun entry => rfl

theorem isQuiet_stopUnlessEnabled (operationId agentId : String) (enabled : Bool) :
    IsQuiet config (stopUnlessEnabled operationId agentId enabled).run := by
  unfold stopUnlessEnabled
  split
  · exact .pure none
  · exact isQuiet_stopUnwanted operationId agentId

theorem isQuiet_adoptCreated : IsQuiet config (adoptCreated config process).run := by
  refine .seq (call rfl) ?_
  intro current
  split
  · exact .pure _
  · exact isQuiet_upsertProcess process none

theorem isQuiet_resolveNewCommand : IsQuiet config (resolveNewCommand agentId).run := by
  refine .seq (call rfl) ?_
  intro world
  split
  · exact .pure _
  split
  · refine .seq (call rfl) ?_
    intro entry
    refine .seq (call rfl) ?_
    intro current
    exact .throw _
  · exact .throw _

theorem isQuiet_restoreInventory : IsQuiet config (restoreInventory config processes) := by
  induction processes with
  | nil => exact .done []
  | cons process rest ih =>
    refine .bind (perform rfl) ?_
    intro denied
    split
    · exact ih
    split
    · refine .bind (perform rfl) ?_
      intro current
      split
      · exact ih.bind fun running => .done _
      refine .bind (isQuiet_upsertProcess process none) ?_
      intro _
      exact ih.bind fun running => .done _
    · refine .bind (isQuiet_upsertProcess process none) ?_
      intro _
      exact ih

theorem isQuiet_disableExited : IsQuiet config (disableExited process) := by
  refine .bind (perform rfl) ?_
  intro entry
  split
  · apply writeBack
    · exact .done ()
    intro entry shared declared named
    apply Keeps.bind (keeps_upsert_same (named ▸ declared))
    intro _ after quiet
    exact .done quiet
  · exact .done ()

theorem isQuiet_recordProcess : IsQuiet config (recordProcess config process) := by
  refine .bind (perform rfl) ?_
  intro found
  split
  · exact .done ()
  refine .bind (isQuiet_upsertProcess process none) ?_
  intro _
  exact .done ()

theorem isQuiet_applyProcess : IsQuiet config (applyProcess config process) := by
  refine .bind (perform rfl) ?_
  intro entry
  split
  · exact .done ()
  refine .bind (perform rfl) ?_
  intro current
  split
  · exact .done ()
  · refine .bind (isQuiet_upsertProcess process none) ?_
    intro _
    exact .done ()
  · split
    · refine .bind (isQuiet_disableExited process) ?_
      intro _
      exact isQuiet_recordProcess process
    · exact isQuiet_recordProcess process

end Treer.Controller
