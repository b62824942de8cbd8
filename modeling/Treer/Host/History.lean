import Mathlib.Data.List.Perm.Subperm
import Treer.Host.Runtime

/-!
# The list of completed processes

When the monitor is done with a process, the record stays in the registry and its
id goes on a list. The list is bounded, and a record that falls off it leaves the
registry. The registry then holds no more finished records than the list has room
for, provided that every finished record is on the list.

A `spawn` under the id of a finished record takes the id off the list before it
starts the process. When the start fails, the record stays in the registry and is
on the list no more.
-/

namespace Treer.Host

open Foundation KeyedMap List Option Prod

namespace HostRuntime

variable {process : HostProcess} {processId : String} {runtime : HostRuntime} {place : Nat}

/-- The monitor is done with the current record of the id. -/
def Finished (runtime : HostRuntime) (processId : String) : Prop :=
  ∃ place process, runtime.current? processId = some (place, process) ∧ process.monitor = .finished

/-- Every finished record of the registry is on the list once. -/
def AllListed (runtime : HostRuntime) : Prop :=
  ∀ processId, runtime.Finished processId → runtime.completedProcesses.count processId = 1

/-- The rows of the registry whose record is finished. -/
def finishedRows (runtime : HostRuntime) : List (String × Nat) :=
  runtime.processes.rows.filter fun row =>
    (runtime.records[row.2]?).any fun process => process.monitor = .finished

/-- A process that ended is not running. -/
def Settled (process : HostProcess) : Prop :=
  process.monitor ≠ .watching → process.info.running = false

/-- What holds of the registry and the list after any calls. -/
structure Sound (runtime : HostRuntime) : Prop where
  known : ∀ processId place, runtime.processes.get? processId = some place →
    ∃ process, runtime.records[place]? = some process ∧ process.info.processId = processId
  settled : ∀ process ∈ runtime.records, Settled process
  listed : ∀ processId ∈ runtime.completedProcesses, runtime.Finished processId
  nodup : runtime.completedProcesses.Nodup
  bounded : runtime.completedProcesses.length ≤ completedProcessLimit

theorem current?_eq_some_iff : runtime.current? processId = some (place, process) ↔
      runtime.processes.get? processId = some place ∧ runtime.records[place]? = some process := by
  simp [current?, bind_eq_some_iff]

/-- The current record of an id is a record of that id. -/
theorem Sound.processId_eq (sound : runtime.Sound)
    (current : runtime.current? processId = some (place, process)) :
    process.info.processId = processId := by
  rcases current?_eq_some_iff.mp current with ⟨found, record⟩
  rcases sound.known _ _ found with ⟨_, knownRecord, processIdEq⟩
  cases record.symm.trans knownRecord
  exact processIdEq

theorem Sound.current_of_found (sound : runtime.Sound)
    (found : runtime.processes.get? processId = some place) :
    ∃ process, runtime.current? processId = some (place, process) := by
  rcases sound.known _ _ found with ⟨process, record, _⟩
  exact ⟨process, current?_eq_some_iff.mpr ⟨found, record⟩⟩

/-- The finished records are as few as the list allows, when they are all on it. -/
theorem AllListed.length_finishedRows_le (allListed : runtime.AllListed)
    (sound : runtime.Sound) : runtime.finishedRows.length ≤ completedProcessLimit := by
  have listed : runtime.finishedRows.map fst ⊆ runtime.completedProcesses := by
    intro processId mem
    rcases mem_map.mp mem with ⟨row, rowMem, rfl⟩
    rcases mem_filter.mp rowMem with ⟨inRegistry, finished⟩
    have found : runtime.processes.get? row.1 = some row.2 := by
      rw [get?, Table.find?_eq_some_iff.mpr ⟨inRegistry, rfl⟩]
      rfl
    rcases sound.current_of_found found with ⟨process, current⟩
    have isFinished : process.monitor = .finished := by
      simpa [(current?_eq_some_iff.mp current).2] using finished
    have once := allListed row.1 ⟨row.2, process, current, isFinished⟩
    exact count_pos_iff.mp (by rw [once]; exact Nat.one_pos)
  have distinct : (runtime.finishedRows.map fst).Nodup :=
    runtime.processes.nodup.sublist (filter_sublist.map fst)
  calc
    runtime.finishedRows.length = (runtime.finishedRows.map fst).length :=
      (length_map fst).symm
    _ ≤ runtime.completedProcesses.length := (subperm_of_subset distinct listed).length_le
    _ ≤ completedProcessLimit := sound.bounded

/-- Two states of a record that the registry and the list cannot tell apart. -/
structure Alike (before after : HostProcess) : Prop where
  processId : after.info.processId = before.info.processId
  finished : after.monitor = .finished ↔ before.monitor = .finished
  settled : Settled before → Settled after

theorem records_updateProcess (runtime : HostRuntime) (place other : Nat)
    (mutation : HostProcess → HostProcess) :
    (runtime.updateProcess place mutation).records[other]? =
      (runtime.records[other]?).map fun process =>
        if place = other then mutation process else process := by
  rw [updateProcess, getElem?_modify]
  rfl

theorem current?_updateProcess (runtime : HostRuntime) (place : Nat)
    (mutation : HostProcess → HostProcess) (processId : String) :
    (runtime.updateProcess place mutation).current? processId =
      (runtime.current? processId).map fun found =>
        (found.1, if place = found.1 then mutation found.2 else found.2) := by
  have sameRegistry : (runtime.updateProcess place mutation).processes = runtime.processes := rfl
  rw [current?, current?, sameRegistry]
  cases runtime.processes.get? processId with
  | none => rfl
  | some found =>
    simp only [bind_eq_bind, bind_some, records_updateProcess]
    cases runtime.records[found]? <;> rfl

/-- A record may change if it is of the same process, stays settled and stays finished. -/
theorem Sound.change {mutation : HostProcess → HostProcess} (sound : runtime.Sound)
    (kept : ∀ process, runtime.records[place]? = some process →
      (mutation process).info.processId = process.info.processId ∧
        (Settled process → Settled (mutation process)))
    (listed : ∀ processId, runtime.Finished processId →
      (runtime.updateProcess place mutation).Finished processId) :
    (runtime.updateProcess place mutation).Sound where
  known processId wanted found := by
    rcases sound.known processId wanted found with ⟨process, record, processIdEq⟩
    rw [records_updateProcess, record]
    refine ⟨_, rfl, ?_⟩
    split
    · rename_i here
      exact (kept process (here ▸ record)).1.trans processIdEq
    · exact processIdEq
  settled process mem := by
    rcases mem_iff_getElem?.mp mem with ⟨other, record⟩
    rw [records_updateProcess, map_eq_some_iff] at record
    rcases record with ⟨old, oldRecord, rfl⟩
    have oldSettled := sound.settled old (mem_of_getElem? oldRecord)
    split
    · rename_i here
      exact (kept old (here ▸ oldRecord)).2 oldSettled
    · exact oldSettled
  listed processId mem := listed processId (sound.listed processId mem)
  __ := sound

section
variable {place : Nat} {mutation : HostProcess → HostProcess}
  (alike : ∀ process, runtime.records[place]? = some process → Alike process (mutation process))
include alike

theorem finished_updateProcess_iff (processId : String) :
    (runtime.updateProcess place mutation).Finished processId ↔ runtime.Finished processId := by
  unfold Finished
  rw [current?_updateProcess]
  cases current : runtime.current? processId with
  | none => simp
  | some found =>
    rcases found with ⟨other, process⟩
    have record := (current?_eq_some_iff.mp current).2
    by_cases here : place = other
    · simp [here, (alike process (here ▸ record)).finished]
    · simp [here]

theorem Sound.updateProcess (sound : runtime.Sound) :
    (runtime.updateProcess place mutation).Sound :=
  sound.change
    (fun process record => ⟨(alike process record).processId, (alike process record).settled⟩)
    fun processId => (finished_updateProcess_iff alike processId).mpr

theorem AllListed.updateProcess (allListed : runtime.AllListed) :
    (runtime.updateProcess place mutation).AllListed := fun processId finished =>
  allListed processId ((finished_updateProcess_iff alike processId).mp finished)

end

theorem Alike.refl (process : HostProcess) : Alike process process := ⟨rfl, Iff.rfl, id⟩

theorem alike_pushOutput (process : HostProcess) (bytes : List UInt8) (now : Int) :
    Alike process (pushOutput process bytes now) := by
  unfold pushOutput
  split
  · split
    · exact .refl process
    · exact ⟨rfl, Iff.rfl, id⟩
  · exact .refl process

/-- The chunk that the output thread has appended to the ring and not yet sent. -/
def pendingChunk (process : HostProcess) : Option HostOutputChunk :=
  match process.reader with
  | .pushed chunk _ _ _ => some chunk
  | .noted chunk => some chunk
  | _ => none

/-- The stream of the record is left alone too. -/
structure Still (before after : HostProcess) : Prop extends Alike before after where
  output : after.output = before.output
  pending : pendingChunk after = pendingChunk before

theorem Still.refl (process : HostProcess) : Still process process := ⟨.refl process, rfl, rfl⟩

theorem still_noteOutput (process : HostProcess) : Still process (noteOutput process) := by
  unfold noteOutput
  split
  · rename_i pushed
    exact ⟨⟨rfl, Iff.rfl, id⟩, rfl, by rw [pendingChunk, pendingChunk, pushed]⟩
  · exact .refl process

theorem still_endOutput (process : HostProcess) : Still process (endOutput process) := by
  unfold endOutput
  split
  · rename_i waiting
    exact ⟨⟨rfl, Iff.rfl, id⟩, rfl, by rw [pendingChunk, pendingChunk, waiting]⟩
  · exact .refl process

theorem still_observeExit (process : HostProcess) (exitCode : Option Int) (now : Int) :
    Still process (observeExit process exitCode now) := by
  unfold observeExit
  split
  · rename_i watching
    exact ⟨⟨rfl, by simp [watching], fun _ _ => rfl⟩, rfl, rfl⟩
  · exact .refl process

variable {found : Nat × HostProcess}

theorem get_eq_ok_iff :
    runtime.get processId = .ok found ↔ runtime.current? processId = some found := by
  rw [get]
  cases runtime.current? processId <;> simp

theorem getRunning_eq_ok (done : runtime.getRunning processId = .ok found) :
    runtime.current? processId = some found := by
  obtain ⟨_, held, checked⟩ := bind_eq_ok_iff.mp done
  obtain ⟨_, _, ⟨⟩⟩ := bind_eq_ok_iff.mp checked
  exact get_eq_ok_iff.mp held

/-- The registry may lose rows, and the list may be any list of finished records still there. -/
theorem Sound.restrict (sound : runtime.Sound)
    {kept : KeyedMap String Nat} {completed : List String}
    (fewer : ∀ processId place, kept.get? processId = some place →
      runtime.processes.get? processId = some place)
    (listed : ∀ processId ∈ completed, runtime.Finished processId ∧
      kept.get? processId = runtime.processes.get? processId)
    (nodup : completed.Nodup) (bounded : completed.length ≤ completedProcessLimit) :
    Sound { runtime with processes := kept, completedProcesses := completed } where
  known processId place found := sound.known processId place (fewer processId place found)
  settled := sound.settled
  listed processId mem := by
    rcases listed processId mem with ⟨⟨place, process, current, finished⟩, same⟩
    rcases current?_eq_some_iff.mp current with ⟨found, record⟩
    exact ⟨place, process, current?_eq_some_iff.mpr ⟨same.trans found, record⟩, finished⟩
  nodup := nodup
  bounded := bounded

/-! ## The end of a process -/

theorem pushBounded_cases (completed : List String) (processId : String) (limit : Nat)
    (bounded : completed.length ≤ limit) (positive : 0 < limit) :
    (completed.length < limit ∧
      pushBounded completed processId limit = (none, completed ++ [processId])) ∨
    ∃ oldest rest, completed = oldest :: rest ∧
      pushBounded completed processId limit = (some oldest, rest ++ [processId]) := by
  unfold pushBounded
  rcases Nat.lt_or_eq_of_le bounded with room | full
  · left
    rw [if_neg (by simpa using Nat.not_lt.mpr room)]
    exact ⟨room, rfl⟩
  · right
    rw [if_pos (by simp [full])]
    cases completed with
    | nil => simp at full; omega
    | cons oldest rest => exact ⟨oldest, rest, rfl, rfl⟩

/-- The record at a place, after its monitor is done with it. -/
theorem finishProcess_cases (runtime : HostRuntime) (place : Nat) :
    runtime.finishProcess place = runtime ∨
      ∃ process, runtime.records[place]? = some process ∧ process.monitor = .exited ∧
        runtime.finishProcess place =
          if runtime.processes.get? process.info.processId = some place then
            (runtime.updateProcess place releasedProcess).complete process.info.processId
          else runtime.updateProcess place releasedProcess := by
  unfold finishProcess
  split
  · rename_i process record
    split
    · rename_i exited
      exact .inr ⟨process, record, exited, rfl⟩
    · exact .inl rfl
  · exact .inl rfl

section
variable {place : Nat} (sound : runtime.Sound) (record : runtime.records[place]? = some process)
  (exited : process.monitor = .exited)
include record in
theorem finished_release_iff (processId : String) :
    (runtime.updateProcess place releasedProcess).Finished processId ↔
      runtime.Finished processId ∨ runtime.processes.get? processId = some place := by
  unfold Finished
  rw [current?_updateProcess]
  constructor
  · rintro ⟨other, _, current, finished⟩
    rcases map_eq_some_iff.mp current with ⟨⟨found, old⟩, oldCurrent, same⟩
    cases same
    by_cases here : place = found
    · right
      rw [here]
      exact (current?_eq_some_iff.mp oldCurrent).1
    · left
      rw [if_neg here] at finished
      exact ⟨found, old, oldCurrent, finished⟩
  · rintro (⟨other, _, current, finished⟩ | found)
    · rw [current]
      refine ⟨other, _, rfl, ?_⟩
      split
      · rfl
      · exact finished
    · rw [current?_eq_some_iff.mpr ⟨found, record⟩]
      exact ⟨place, _, rfl, by rw [if_pos rfl]; rfl⟩

include sound record exited in
theorem Sound.release : (runtime.updateProcess place releasedProcess).Sound := by
  apply sound.change
  · intro other found
    cases record.symm.trans found
    exact ⟨rfl, fun settled _ => settled (by rw [exited]; nofun)⟩
  · intro processId finished
    exact (finished_release_iff record processId).mpr (.inl finished)

include sound record exited in
/-- A record that is not yet finished is not on the list. -/
theorem Sound.not_mem_of_exited
    (found : runtime.processes.get? process.info.processId = some place) :
    process.info.processId ∉ runtime.completedProcesses := by
  intro mem
  rcases sound.listed _ mem with ⟨_, _, current, finished⟩
  rcases current?_eq_some_iff.mp current with ⟨foundOther, otherRecord⟩
  cases found.symm.trans foundOther
  cases record.symm.trans otherRecord
  cases exited.symm.trans finished

end

theorem complete_cases (sound : runtime.Sound) (processId : String) :
    (runtime.completedProcesses.length < completedProcessLimit ∧
      runtime.complete processId =
        { runtime with completedProcesses := runtime.completedProcesses ++ [processId] }) ∨
    ∃ oldest rest, runtime.completedProcesses = oldest :: rest ∧
      runtime.complete processId =
        { runtime with
          completedProcesses := rest ++ [processId]
          processes := runtime.processes.erase oldest } := by
  unfold complete
  rcases pushBounded_cases runtime.completedProcesses processId completedProcessLimit sound.bounded
    (by decide) with ⟨room, pushed⟩ | ⟨oldest, rest, order, pushed⟩
  · rw [pushed]
    exact .inl ⟨room, rfl⟩
  · rw [pushed]
    exact .inr ⟨oldest, rest, order, rfl⟩

section
variable (sound : runtime.Sound)
  (finished : runtime.Finished processId) (fresh : processId ∉ runtime.completedProcesses)
include sound finished fresh

theorem Sound.complete : (runtime.complete processId).Sound := by
  have distinct : (runtime.completedProcesses ++ [processId]).Nodup := by
    rw [nodup_append]
    refine ⟨sound.nodup, nodup_singleton _, ?_⟩
    intro listed mem other otherMem same
    cases mem_singleton.mp otherMem
    exact fresh (same ▸ mem)
  have listed : ∀ listed ∈ runtime.completedProcesses ++ [processId], runtime.Finished listed := by
    intro listed mem
    rcases mem_append.mp mem with mem | mem
    · exact sound.listed listed mem
    · cases mem_singleton.mp mem
      exact finished
  rcases complete_cases sound processId with ⟨room, next⟩ | ⟨oldest, rest, order, next⟩
  · rw [next]
    apply sound.restrict (fun _ _ found => found)
    · exact fun other mem => ⟨listed other mem, rfl⟩
    · exact distinct
    · rw [length_append]
      exact room
  · rw [next]
    rw [order, cons_append] at distinct listed
    rw [nodup_cons] at distinct
    have stays : ∀ listed ∈ rest ++ [processId],
        (runtime.processes.erase oldest).get? listed = runtime.processes.get? listed := by
      intro listed mem
      rw [get?_erase, if_neg]
      rintro rfl
      exact distinct.1 mem
    apply sound.restrict
    · intro wanted place found
      rw [get?_erase] at found
      split at found
      · cases found
      · exact found
    · exact fun other mem => ⟨listed other (mem_cons_of_mem oldest mem), stays other mem⟩
    · exact distinct.2
    · have bounded := sound.bounded
      rw [order] at bounded
      simpa using bounded

omit finished fresh in
/-- The records that are finished after the list was extended were finished before. -/
theorem finished_of_complete {other : String}
    (after : (runtime.complete processId).Finished other) :
    runtime.Finished other := by
  rcases after with ⟨place, process, current, isFinished⟩
  rcases current?_eq_some_iff.mp current with ⟨found, record⟩
  rcases complete_cases sound processId with ⟨_, next⟩ | ⟨_, _, _, next⟩
  · rw [next] at found record
    exact ⟨place, process, current?_eq_some_iff.mpr ⟨found, record⟩, isFinished⟩
  rw [next, get?_erase] at found
  rw [next] at record
  split at found
  · cases found
  · exact ⟨place, process, current?_eq_some_iff.mpr ⟨found, record⟩, isFinished⟩

theorem allListed_complete
    (others : ∀ other, runtime.Finished other → other ≠ processId →
      runtime.completedProcesses.count other = 1) :
    (runtime.complete processId).AllListed := by
  intro other after
  have before := finished_of_complete sound after
  have nextSound := sound.complete finished fresh
  -- The list has no id twice, so it is enough that the id is on it.
  apply count_eq_one_of_mem nextSound.nodup
  have old : other ≠ processId → other ∈ runtime.completedProcesses := fun different =>
    count_pos_iff.mp (by rw [others other before different]; exact Nat.one_pos)
  rcases complete_cases sound processId with ⟨_, next⟩ | ⟨oldest, rest, order, next⟩
  · rw [next, mem_append, mem_singleton]
    by_cases same : other = processId
    · exact .inr same
    · exact .inl (old same)
  · rw [next, mem_append, mem_singleton]
    by_cases same : other = processId
    · exact .inr same
    rcases mem_cons.mp (order ▸ old same) with rfl | mem
    · rcases after with ⟨_, _, current, _⟩
      have found := (current?_eq_some_iff.mp current).1
      rw [next, get?_erase, if_pos rfl] at found
      cases found
    · exact .inl mem

end

theorem Sound.finishProcess (sound : runtime.Sound) (place : Nat) :
    (runtime.finishProcess place).Sound := by
  rcases finishProcess_cases runtime place with same | ⟨_, record, exited, next⟩
  · rw [same]
    exact sound
  have released := sound.release record exited
  rw [next]
  split
  · rename_i found
    apply released.complete
    · exact (finished_release_iff record _).mpr (Or.inr found)
    · exact sound.not_mem_of_exited record exited found
  · exact released

theorem AllListed.finishProcess (allListed : runtime.AllListed)
    (sound : runtime.Sound) (place : Nat) : (runtime.finishProcess place).AllListed := by
  rcases finishProcess_cases runtime place with same | ⟨process, record, exited, next⟩
  · rw [same]
    exact allListed
  have released := sound.release record exited
  have onlyHere : ∀ other, runtime.processes.get? other = some place →
      other = process.info.processId := by
    intro other found
    exact (sound.processId_eq (current?_eq_some_iff.mpr ⟨found, record⟩)).symm
  rw [next]
  split
  · rename_i found
    apply allListed_complete released
    · exact (finished_release_iff record _).mpr (Or.inr found)
    · exact sound.not_mem_of_exited record exited found
    intro other finished different
    rcases (finished_release_iff record other).mp finished with before | here
    · exact allListed other before
    · exact absurd (onlyHere other here) different
  · rename_i elsewhere
    intro other finished
    rcases (finished_release_iff record other).mp finished with before | here
    · exact allListed other before
    · exact absurd (onlyHere other here ▸ here) elsewhere

/-! ## Starting a process -/

section
variable (sound : runtime.Sound) (request : HostSpawnRequest) (launch : Launch)
include sound

theorem claim_eq_ok {claimed : HostRuntime} (passed : runtime.claim processId = .ok claimed) :
    claimed =
      { runtime with
        completedProcesses := runtime.completedProcesses.filter (· != processId) } := by
  unfold claim at passed
  split at passed
  · rename_i absent
    cases passed
    -- An id that is not in the registry is not on the list either.
    have unlisted : processId ∉ runtime.completedProcesses := by
      intro mem
      rcases sound.listed processId mem with ⟨_, _, current, _⟩
      cases absent.symm.trans current
    have same : runtime.completedProcesses.filter (· != processId) =
        runtime.completedProcesses := by
      rw [filter_eq_self]
      intro listed mem
      simp only [bne_iff_ne, ne_eq]
      rintro rfl
      exact unlisted mem
    rw [same]
  · split at passed
    · cases passed
    · cases passed
      rfl

/-- The record of a process that ended gives its id free. -/
theorem Sound.claim_of_finished (finished : runtime.Finished processId) :
    ∃ claimed, runtime.claim processId = .ok claimed := by
  rcases finished with ⟨_, process, current, isFinished⟩
  have record := (current?_eq_some_iff.mp current).2
  have stopped : process.info.running = false :=
    sound.settled process (mem_of_getElem? record) (by rw [isFinished]; nofun)
  unfold claim
  rw [current]
  simp only [stopped]
  exact ⟨_, rfl⟩

/-- The ways a `spawn` can end. -/
inductive Spawned (runtime : HostRuntime) (request : HostSpawnRequest) (launch : Launch) :
    HostRuntime → Prop where
  | refused (free : wellFormed request → ¬ runtime.Finished request.processId) :
      Spawned runtime request launch runtime
  | failed (error : RuntimeError) (wellFormed : wellFormed request)
      (failed : start runtime.root request launch = .error error) :
      Spawned runtime request launch
        { runtime with
          completedProcesses := runtime.completedProcesses.filter (· != request.processId) }
  | started (cwd : List String) (pid : Option Nat)
      (started : start runtime.root request launch = .ok (cwd, pid)) :
      Spawned runtime request launch
        (register
          { runtime with
            completedProcesses := runtime.completedProcesses.filter (· != request.processId) }
          (startedInfo runtime.root request launch cwd pid))

theorem spawned : Spawned runtime request launch (runtime.spawn request launch).2 := by
  unfold spawn
  split
  · rename_i malformed
    refine .refused fun wellFormed => ?_
    simp [wellFormed] at malformed
  · rename_i wellFormed
    simp only [Bool.not_eq_true', Bool.not_eq_false] at wellFormed
    cases passed : runtime.claim request.processId with
    | error =>
      refine .refused fun _ finished => ?_
      rcases sound.claim_of_finished finished with ⟨_, free⟩
      cases passed.symm.trans free
    | ok =>
      cases claim_eq_ok sound passed
      cases outcome : start runtime.root request launch with
      | error error => exact Spawned.failed error wellFormed outcome
      | ok begun => exact Spawned.started begun.1 begun.2 outcome

theorem current?_register (info : HostProcessInfo) (processId : String) :
    (runtime.register info).current? processId =
      if processId = info.processId then some (runtime.records.length, startedProcess info)
      else runtime.current? processId := by
  by_cases same : processId = info.processId
  · rw [if_pos same]
    refine current?_eq_some_iff.mpr ⟨?_, ?_⟩
    · rw [register, get?_insert, if_pos same]
    · rw [register, getElem?_append_right (Nat.le_refl _), Nat.sub_self]
      rfl
  · rw [if_neg same, current?, current?, register, get?_insert, if_neg same]
    cases found : runtime.processes.get? processId with
    | none => rfl
    | some place =>
      rcases sound.known processId place found with ⟨_, record, _⟩
      have inRange := (List.getElem?_eq_some_iff.mp record).1
      simp only [bind_eq_bind, bind_some, getElem?_append_left inRange]

theorem finished_register_iff (info : HostProcessInfo) (processId : String) :
    (runtime.register info).Finished processId ↔
      processId ≠ info.processId ∧ runtime.Finished processId := by
  unfold Finished
  rw [current?_register sound]
  by_cases same : processId = info.processId
  · simp [same, startedProcess]
  · simp [same]

theorem Sound.register (info : HostProcessInfo)
    (unlisted : info.processId ∉ runtime.completedProcesses) :
    (runtime.register info).Sound where
  known processId place found := by
    have current : ∃ process, (runtime.register info).current? processId = some (place, process) ∧
        process.info.processId = processId := by
      by_cases same : processId = info.processId
      · rw [HostRuntime.register, get?_insert, if_pos same] at found
        cases found
        exact ⟨startedProcess info, by rw [current?_register sound, if_pos same], same.symm⟩
      · rw [HostRuntime.register, get?_insert, if_neg same] at found
        rcases sound.current_of_found found with ⟨process, current⟩
        refine ⟨process, ?_, sound.processId_eq current⟩
        rw [current?_register sound, if_neg same, current]
    rcases current with ⟨process, current, processIdEq⟩
    exact ⟨process, (current?_eq_some_iff.mp current).2, processIdEq⟩
  settled process mem := by
    rcases mem_append.mp mem with old | new
    · exact sound.settled process old
    cases mem_singleton.mp new
    intro ended
    exact absurd rfl ended
  listed processId mem := by
    rw [finished_register_iff sound]
    constructor
    · rintro rfl
      exact unlisted mem
    · exact sound.listed processId mem
  __ := sound

/-- Ids can be taken off the list. -/
theorem Sound.unlist (processId : String) : Sound
      { runtime with
        completedProcesses := runtime.completedProcesses.filter (· != processId) } := by
  apply sound.restrict (fun _ _ found => found)
  · intro listed mem
    exact ⟨sound.listed listed (mem_of_mem_filter mem), rfl⟩
  · exact sound.nodup.filter _
  · exact (length_filter_le _ _).trans sound.bounded

theorem Sound.spawn : (runtime.spawn request launch).2.Sound := by
  have ended := spawned sound request launch
  generalize (runtime.spawn request launch).2 = next at ended ⊢
  cases ended with
  | refused => exact sound
  | failed => exact sound.unlist request.processId
  | started =>
    apply (sound.unlist request.processId).register
    simp [startedInfo]

end

variable {action : Action}

/-- The working directory and everything the operating system does for a start are
in order. -/
structure Succeeds (root : List String) (request : HostSpawnRequest) (launch : Launch) : Prop where
  relative : Text.startsWith (if Text.trim request.cwd = "" then "." else request.cwd) "/" = false
  inside : ∃ cwd, launch.canonical = .ok cwd ∧ root.isPrefixOf cwd = true
  openpty : launch.openpty (max request.rows 1) (max request.cols 1) = .ok ()
  program : launch.program = .ok ()
  spawnCommand : ∃ pid, launch.spawnCommand = .ok pid
  cloneReader : launch.cloneReader = .ok ()
  takeWriter : launch.takeWriter = .ok ()

theorem succeeds_iff {root : List String} {request : HostSpawnRequest} {launch : Launch} :
    Succeeds root request launch ↔ ∃ begun, start root request launch = .ok begun := by
  constructor
  · rintro ⟨relative, ⟨cwd, canonical, inside⟩, openpty, program, ⟨pid, spawnCommand⟩, cloneReader,
      takeWriter⟩
    refine ⟨(cwd, pid), ?_⟩
    simp only [start, resolveCwd, bind_eq_ok_iff, refuse_eq_ok_iff, mapError_eq_ok_iff]
    exact ⟨cwd, ⟨(), relative, cwd, canonical, (), by simpa using inside, rfl⟩, (), openpty, (),
      program, pid, spawnCommand, (), cloneReader, (), takeWriter, rfl⟩
  · rintro ⟨_, started⟩
    simp only [start, resolveCwd, bind_eq_ok_iff, refuse_eq_ok_iff, mapError_eq_ok_iff] at started
    rcases started with ⟨_, ⟨_, relative, _, canonical, _, inside, _⟩, _, openpty, _, program,
      pid, spawnCommand, _, cloneReader, _, takeWriter, _⟩
    exact ⟨relative, ⟨_, canonical, by simpa using inside⟩, openpty, program, ⟨pid, spawnCommand⟩,
      cloneReader, takeWriter⟩

/-- The action is no `spawn` that fails to start a process under the id of a finished
record. -/
def KeepsRecord (runtime : HostRuntime) : Action → Prop
  | .spawn request launch =>
    wellFormed request → runtime.Finished request.processId → Succeeds runtime.root request launch
  | _ => True

theorem allListed_spawn_iff (sound : runtime.Sound)
    (allListed : runtime.AllListed) (request : HostSpawnRequest) (launch : Launch) :
    (runtime.spawn request launch).2.AllListed ↔ runtime.KeepsRecord (.spawn request launch) := by
  have countOthers : ∀ processId, processId ≠ request.processId →
      (runtime.completedProcesses.filter (· != request.processId)).count processId =
        runtime.completedProcesses.count processId := by
    intro processId different
    exact count_filter (by simpa using different)
  have ended := spawned sound request launch
  generalize (runtime.spawn request launch).2 = next at ended ⊢
  cases ended with
  | refused free =>
    apply iff_of_true allListed
    intro wellFormed finished
    exact absurd finished (free wellFormed)
  | failed error wellFormed failed =>
    constructor
    · -- The id of the request is off the list, so its record cannot be a finished one.
      intro stillListed _ finished
      have once := stillListed request.processId finished
      have off : (runtime.completedProcesses.filter (· != request.processId)).count
          request.processId = 0 := by
        simp [count_eq_zero]
      rw [off] at once
      cases once
    · intro keeps processId finished
      by_cases same : processId = request.processId
      · subst same
        rcases succeeds_iff.mp (keeps wellFormed finished) with ⟨_, started⟩
        cases failed.symm.trans started
      · rw [countOthers processId same]
        exact allListed processId finished
  | started cwd pid started =>
    apply iff_of_true
    · intro processId finished
      rcases (finished_register_iff (sound.unlist request.processId) _ processId).mp finished with
        ⟨different, before⟩
      change (runtime.completedProcesses.filter _).count processId = 1
      rw [countOthers processId different]
      exact allListed processId before
    · intro _ _
      exact succeeds_iff.mpr ⟨_, started⟩

/-! ## Runs -/

theorem alike_sent (process : HostProcess) : Alike process { process with reader := .waiting } :=
  ⟨rfl, Iff.rfl, id⟩

/-- What an action does to the runtime. Most change one record, and leave its stream
alone. -/
inductive Stepped (runtime : HostRuntime) : Action → HostRuntime → Prop where
  | idle {action : Action} (noSpawn : ∀ request launch, action ≠ .spawn request launch) :
      Stepped runtime action runtime
  | still {action : Action} {place : Nat} {mutation : HostProcess → HostProcess}
      (noSpawn : ∀ request launch, action ≠ .spawn request launch)
      (still : ∀ process, runtime.records[place]? = some process →
        Still process (mutation process)) :
      Stepped runtime action (runtime.updateProcess place mutation)
  | spawn (request : HostSpawnRequest) (launch : Launch) :
      Stepped runtime (.spawn request launch) (runtime.spawn request launch).2
  | push (place : Nat) (bytes : List UInt8) (now : Int) :
      Stepped runtime (.pushOutput place bytes now)
        (runtime.updateProcess place fun process => HostRuntime.pushOutput process bytes now)
  | send (place : Nat) {process : HostProcess} {chunk : HostOutputChunk}
      (record : runtime.records[place]? = some process) (noted : process.reader = .noted chunk) :
      Stepped runtime (.sendOutput place)
        { runtime.updateProcess place fun process => { process with reader := .waiting } with
          outputEvents := runtime.outputEvents ++ [chunk] }
  | finish (place : Nat) : Stepped runtime (.finishProcess place) (runtime.finishProcess place)

theorem stepped (runtime : HostRuntime) (action : Action) :
    Stepped runtime action (runtime.step action).2 := by
  cases action with
  | spawn request launch =>
    dsimp only [step]
    exact .spawn request launch
  | stop processId kill now =>
    change Stepped runtime _ (runtime.stop processId kill now).2
    unfold stop
    split
    · exact .idle (by simp)
    rename_i place process running
    have current := getRunning_eq_ok running
    split
    · exact .idle (by simp)
    split
    · exact .idle (by simp)
    refine .still (by simp) fun other record => ?_
    cases (current?_eq_some_iff.mp current).2.symm.trans record
    exact ⟨⟨rfl, Iff.rfl, fun _ _ => rfl⟩, rfl, rfl⟩
  | pushOutput place bytes now => exact .push place bytes now
  | noteOutput => exact .still (by simp) fun process _ => still_noteOutput process
  | sendOutput place =>
    change Stepped runtime _ (runtime.sendOutput place)
    unfold sendOutput
    split
    · rename_i process record
      split
      · rename_i chunk noted
        exact .send place record noted
      · exact .idle (by simp)
    · exact .idle (by simp)
  | endOutput => exact .still (by simp) fun process _ => still_endOutput process
  | observeExit place exitCode now =>
    exact .still (by simp) fun process _ => still_observeExit process exitCode now
  | finishProcess place => exact .finish place

theorem Sound.step (sound : runtime.Sound) (action : Action) : (runtime.step action).2.Sound := by
  have stepped := stepped runtime action
  generalize (runtime.step action).2 = next at stepped ⊢
  cases stepped with
  | idle => exact sound
  | still _ still => exact sound.updateProcess fun process record => (still process record).toAlike
  | spawn request launch => exact sound.spawn request launch
  | push place bytes now =>
    exact sound.updateProcess fun process _ => alike_pushOutput process bytes now
  | send place =>
    have sent := @Sound.updateProcess runtime place _ (fun process _ => alike_sent process) sound
    exact { sent with }
  | finish place => exact sound.finishProcess place

theorem keepsRecord_of_noSpawn
    (noSpawn : ∀ request launch, action ≠ .spawn request launch) : runtime.KeepsRecord action := by
  cases action with
  | spawn request launch => exact absurd rfl (noSpawn request launch)
  | _ => trivial

/-- The list stays complete in exactly the steps that lose no record. -/
theorem allListed_step_iff (sound : runtime.Sound)
    (allListed : runtime.AllListed) (action : Action) :
    (runtime.step action).2.AllListed ↔ runtime.KeepsRecord action := by
  have stepped := stepped runtime action
  generalize (runtime.step action).2 = next at stepped ⊢
  cases stepped with
  | idle noSpawn => exact iff_of_true allListed (keepsRecord_of_noSpawn noSpawn)
  | still noSpawn still =>
    refine iff_of_true ?_ (keepsRecord_of_noSpawn noSpawn)
    exact allListed.updateProcess fun process record => (still process record).toAlike
  | spawn request launch => exact allListed_spawn_iff sound allListed request launch
  | push place bytes now =>
    exact iff_of_true
      (allListed.updateProcess fun process _ => alike_pushOutput process bytes now) trivial
  | send => exact iff_of_true (allListed.updateProcess fun process _ => alike_sent process) trivial
  | finish place => exact iff_of_true (allListed.finishProcess sound place) trivial

theorem current?_updateProcess_ne_none {place : Nat} {mutation : HostProcess → HostProcess}
    (present : runtime.current? processId ≠ none) :
    (runtime.updateProcess place mutation).current? processId ≠ none := by
  rw [current?_updateProcess]
  simpa using present

/-- Only the end of a process takes an id out of the registry, one whose record was finished. -/
theorem Sound.finished_of_evicted (sound : runtime.Sound)
    (present : runtime.current? processId ≠ none)
    (gone : (runtime.step action).2.current? processId = none) : runtime.Finished processId := by
  have stepped := stepped runtime action
  generalize (runtime.step action).2 = next at stepped gone
  cases stepped with
  | idle => exact absurd gone present
  | still | push | send => exact absurd gone (current?_updateProcess_ne_none present)
  | spawn request launch =>
    have ended := spawned sound request launch
    generalize (runtime.spawn request launch).2 = next at ended gone
    cases ended with
    | refused | failed => exact absurd gone present
    | started =>
      rw [current?_register (sound.unlist request.processId)] at gone
      split at gone
      · cases gone
      · exact absurd gone present
  | finish place =>
    rcases finishProcess_cases runtime place with same | ⟨process, record, exited, next⟩
    · rw [same] at gone
      exact absurd gone present
    have stays : (runtime.updateProcess place releasedProcess).current? processId ≠ none :=
      current?_updateProcess_ne_none present
    rw [next] at gone
    split at gone
    · rcases complete_cases (sound.release record exited) process.info.processId with
        ⟨_, completed⟩ | ⟨oldest, rest, order, completed⟩
      · rw [completed] at gone
        exact absurd gone stays
      -- Only the oldest id of the list goes, and the list has finished records only.
      by_cases same : processId = oldest
      · apply sound.listed
        change processId ∈ (runtime.updateProcess place releasedProcess).completedProcesses
        rw [order, same]
        exact mem_cons_self
      · rw [completed, current?, get?_erase, if_neg same] at gone
        exact absurd gone stays
    · exact absurd gone stays

theorem sound_new (hostEpoch : String) (root : List String) : (new hostEpoch root).Sound where
  known _ _ := nofun
  settled _ := nofun
  listed _ := nofun
  nodup := nodup_nil
  bounded := Nat.zero_le _

theorem allListed_new (hostEpoch : String) (root : List String) :
    (new hostEpoch root).AllListed := by
  rintro _ ⟨_, _, current, _⟩
  cases current

theorem sound_exec (hostEpoch : String) (root : List String) (actions : List Action) :
    (exec step (new hostEpoch root) actions).Sound :=
  exec_invariant (fun _ action sound => sound.step action) (sound_new hostEpoch root) actions

/-- In every run the finished records of the registry are all on the list, each once, exactly if no
`spawn` under the id of a finished record failed to start a process; they are then no more than the
list has room for. A record that leaves the registry was finished, in any run. -/
theorem completed_history_is_bounded (hostEpoch : String) (root : List String)
    (actions : List Action) :
    ((∀ earlier later, actions = earlier ++ later →
        (exec step (new hostEpoch root) earlier).AllListed) ↔
      AllSteps step KeepsRecord (new hostEpoch root) actions) ∧
    (AllSteps step KeepsRecord (new hostEpoch root) actions →
      ∀ earlier later, actions = earlier ++ later →
        (exec step (new hostEpoch root) earlier).finishedRows.length ≤ completedProcessLimit) ∧
    ∀ entry ∈ trace step (new hostEpoch root) actions,
      ∀ processId place process, entry.before.current? processId = some (place, process) →
        entry.after.current? processId = none →
          process.monitor = .finished ∧ process.info.running = false := by
  have exactly := @allSteps_iff _ _ _ step _ AllListed KeepsRecord Sound
    (fun _ action sound => sound.step action)
    (fun _ action sound allListed => allListed_step_iff sound allListed action)
    (sound_new hostEpoch root) (allListed_new hostEpoch root) actions
  refine ⟨exactly, ?_, ?_⟩
  · intro allSteps earlier later split
    exact (exactly.mpr allSteps earlier later split).length_finishedRows_le 
      (sound_exec hostEpoch root earlier)
  · intro entry mem processId place process current gone
    rcases of_mem_trace mem with ⟨earlier, _, _, reached, stepped⟩
    have sound : entry.before.Sound := reached ▸ sound_exec hostEpoch root earlier
    have evicted : (entry.before.step entry.action).2.current? processId = none := by
      rw [stepped]
      exact gone
    rcases sound.finished_of_evicted (by rw [current]; nofun) evicted with
      ⟨_, _, finishedCurrent, finished⟩
    cases current.symm.trans finishedCurrent
    refine ⟨finished, sound.settled process ?_ (by rw [finished]; nofun)⟩
    exact mem_of_getElem? (current?_eq_some_iff.mp current).2

namespace Sample

/-- A request to run a shell. -/
def shell (processId : String) : HostSpawnRequest where
  processId
  command := "sh"
  args := []
  cwd := "."
  env := Table.empty
  cols := 80
  rows := 24
  metadata := ""

/-- Everything that a start needs is there. -/
def launched (streamEpoch : String) : Launch where
  canonical := .ok ["srv"]
  openpty _ _ := .ok ()
  program := .ok ()
  spawnCommand := .ok (some 100)
  cloneReader := .ok ()
  takeWriter := .ok ()
  streamEpoch
  now := 0

/-- The program is not there. -/
def missing (streamEpoch : String) : Launch :=
  { launched streamEpoch with program := .error "sh was not found" }

/-- A process ends, and the start of the next one under its id fails. -/
def lostRecord : List Action :=
  [.spawn (shell "p") (launched "stream_1"), .observeExit 0 (some 0) 1, .finishProcess 0,
    .spawn (shell "p") (missing "stream_2")]

end Sample

/-- The record of a finished process is not on the list after a `spawn` under its id
failed. -/
theorem failed_spawn_loses_record :
    ¬ ∀ hostEpoch root actions, (exec step (new hostEpoch root) actions).AllListed := by
  intro always
  have once := always "host_1" ["srv"] Sample.lostRecord "p" ⟨0, _, rfl, rfl⟩
  cases once

end HostRuntime
end Treer.Host
