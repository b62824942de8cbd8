import Treer.Host.Frame
import Treer.Host.Live
import Treer.Host.Results

/-!
# Attaching to the Host

A connection that sends `Sync` gets a replay of the output of every process, and
after it the chunks of its subscription that the replay does not have. The parts of
a replay are read one after the other, while the threads of the processes go on; the
gate keeps new processes away until the answer.
-/

namespace Treer.Host

open Foundation HostRuntime List

namespace HostState

structure Regular (state : HostState) : Prop where
  sound : state.runtime.Sound
  streams : state.runtime.Streams
  exclusive : state.Exclusive
  inRange : ∀ (place : Nat) (connection : Connection),
    state.connections[place]? = some connection →
      connection.position ≤ state.runtime.outputEvents.length

section
variable {state : HostState} (regular : state.Regular) (action : HostAction)
include regular

theorem Regular.grows : Grows state.runtime (state.step action).2.runtime := by
  rw [runtime_step]
  cases state.runtimeAction action with
  | none => exact .refl state.runtime
  | some called => exact grows_step regular.sound called

theorem Regular.step (fresh : FreshStreams state action) : (state.step action).2.Regular := by
  have grows := regular.grows action
  constructor
  · rw [runtime_step]
    cases state.runtimeAction action with
    | none => exact regular.sound
    | some called => exact regular.sound.step called
  · rw [runtime_step]
    cases called : state.runtimeAction action with
    | none => exact regular.streams
    | some runtimeAction =>
      exact regular.streams.step regular.sound runtimeAction (fresh runtimeAction called)
  · exact regular.exclusive.moves (moves_of_step state action)
  · intro place after present
    refine Nat.le_trans ?_ grows.events.length_le
    rcases turn_of_step state place action with
      ⟨before, turned, beforePresent, turnedPresent, turn⟩ | ⟨_, new⟩
    · cases present.symm.trans turnedPresent
      have inRange := regular.inRange place before beforePresent
      cases turn with
      | same | listed | read | answered => exact inRange
      | other _ position =>
        rw [position]
        exact inRange
      | delivered chunk _ found =>
        have below := (List.getElem?_eq_some_iff.mp found).1
        unfold takeChunk
        split
        · exact below
        · exact below
    · exact (new after present).1.le

/-- While `Sync` has the gate, no other request starts a process. -/
theorem Regular.noSpawn {place : Nat} {request : HostRequest} {phase : Phase}
    (called : state.call? place = some (request, phase)) (isSync : request.command.isSync)
    (ofSync : Phase.OfSync request phase) (spawned : HostSpawnRequest) (launch : Launch) :
    state.runtimeAction action ≠ some (.spawn spawned launch) := by
  have held := regular.exclusive place request phase called
    (by simp [HostRequest.needsGate, isSync]) ofSync.ne_waiting
  cases action with
  | perform spot =>
    intro spawns
    rw [runtimeAction] at spawns
    split at spawns
    · rename_i other otherCalled
      have mutating : other.command.isMutating := by
        cases command : other.command with
        | spawn => rfl
        | _ =>
          rw [command] at spawns
          cases spawns
      have otherHeld := regular.exclusive spot other _ otherCalled
        (by simp [HostRequest.needsGate, mutating]) (by simp)
      cases held.symm.trans otherHeld
      cases called.symm.trans otherCalled
      rcases ofSync with ⟨entered, _⟩ | ⟨_, _, _, reads⟩
      · cases entered
      · cases reads
    · cases spawns
  | thread =>
    intro spawns
    rw [runtimeAction] at spawns
    split at spawns
    · rename_i ofThread
      cases spawns
      cases ofThread
    · cases spawns
  | _ =>
    intro spawns
    cases spawns

end

/-! ## While a replay is read -/

variable {runtime : HostRuntime} {position first place : Nat} {request : HostRequest}
variable {part : HostOutputReplay} {processes : List HostProcessInfo}
variable {replay : List HostOutputReplay} {state : HostState} {before : Connection}
  {action : HostAction} {last : Nat}

/-- A part of a replay, and the record that it was read from. -/
structure Replayed (runtime : HostRuntime) (position : Nat) (request : HostRequest)
    (part : HostOutputReplay) (spot : Nat) (process : HostProcess) : Prop where
  record : runtime.records[spot]? = some process
  streamEpoch : process.output.streamEpoch = part.streamEpoch
  processId : process.info.processId = part.processId
  /-- No other record of the process is current. -/
  current : ∀ place, runtime.processes.get? part.processId = some place → place = spot
  next_le : part.nextRevision ≤ process.output.nextRevision
  first_le : part.firstAvailableRevision ≤ process.output.firstRevision
  /-- What the subscription had before is older. -/
  taken : ∀ event ∈ runtime.outputEvents.take position,
    event.streamEpoch = part.streamEpoch → event.revision < part.nextRevision
  source : ∃ buffer : OutputBuffer,
    part = buffer.replay part.processId (request.cursor? part.processId)

theorem Replayed.step {next : HostRuntime} {spot : Nat} {process : HostProcess}
    (replayed : Replayed runtime position request part spot process)
    (inRange : position ≤ runtime.outputEvents.length) (grows : Grows runtime next)
    (loses : ∀ processId place, next.processes.get? processId = some place →
      runtime.processes.get? processId = some place) :
    ∃ after, Replayed next position request part spot after := by
  rcases grows.records spot process replayed.record with ⟨after, record, same⟩
  refine ⟨after, ?_⟩
  constructor
  · exact record
  · exact same.streamEpoch.trans replayed.streamEpoch
  · exact same.processId.trans replayed.processId
  · intro place found
    exact replayed.current place (loses part.processId place found)
  · exact replayed.next_le.trans same.grows
  · exact replayed.first_le.trans same.retains
  · rw [grows.take_events inRange]
    exact replayed.taken
  · exact replayed.source

/-- A replay that is being read: its parts are those of the first processes of the list, and every
process is on the list. -/
structure Reading (runtime : HostRuntime) (position : Nat) (request : HostRequest)
    (processes pending : List HostProcessInfo) (replay : List HostOutputReplay) : Prop where
  isSync : request.command.isSync
  ids : processes.map (·.processId) = replay.map (·.processId) ++ pending.map (·.processId)
  distinct : (processes.map (·.processId)).Nodup
  all : ∀ processId place, runtime.processes.get? processId = some place →
    processId ∈ processes.map (·.processId)
  parts : ∀ part ∈ replay, ∃ spot process, Replayed runtime position request part spot process

theorem reading_listed (sound : runtime.Sound) (position : Nat) (isSync : request.command.isSync) :
    Reading runtime position request runtime.list runtime.list [] := by
  have ids : (runtime.list.map (·.processId)).Perm (runtime.processes.rows.map Prod.fst) := by
    have listed := (list_perm runtime).map (·.processId)
    rw [map_map] at listed
    exact listed.trans (.of_eq sound.ids_currentRecords)
  constructor
  · exact isSync
  · rfl
  · rw [ids.nodup_iff]
    exact runtime.processes.nodup
  · intro processId place found
    rw [ids.mem_iff]
    exact mem_map_of_mem (KeyedMap.get?_eq_some_iff.mp found)
  · nofun

variable {pending : List HostProcessInfo}

theorem Reading.step {next : HostRuntime}
    (reading : Reading runtime position request processes pending replay)
    (inRange : position ≤ runtime.outputEvents.length) (grows : Grows runtime next)
    (loses : ∀ processId place, next.processes.get? processId = some place →
      runtime.processes.get? processId = some place) :
    Reading next position request processes pending replay where
  __ := reading
  all processId place found := reading.all processId place (loses processId place found)
  parts part mem := by
    obtain ⟨spot, _, replayed⟩ := reading.parts part mem
    exact ⟨spot, replayed.step inRange grows loses⟩

theorem replayed_read (sound : runtime.Sound) (streams : runtime.Streams)
    (position : Nat) (request : HostRequest) {processId : String}
    (read : runtime.read processId (request.cursor? processId) = .ok part) :
    part.processId = processId ∧
      ∃ spot process, Replayed runtime position request part spot process := by
  rw [HostRuntime.read, bind_eq_ok_iff] at read
  obtain ⟨⟨spot, process⟩, found, replayed⟩ := read
  cases replayed
  have current : runtime.current? processId = some (spot, process) := get_eq_ok_iff.mp found
  have named := sound.processId_eq current
  obtain ⟨registered, record⟩ := current?_eq_some_iff.mp current
  refine ⟨rfl, spot, process, ?_⟩
  constructor
  · exact record
  · rfl
  · exact named
  · intro place other
    exact Option.some.inj (other.symm.trans registered)
  · exact Nat.le_refl _
  · exact Nat.le_refl _
  · intro event mem same
    exact (streams.revision_bounds (mem_of_getElem? record) (mem_of_mem_take mem) same).2
  · exact ⟨process.output, rfl⟩

theorem Reading.read {process : HostProcessInfo} (sound : runtime.Sound) (streams : runtime.Streams)
    (reading : Reading runtime position request processes (process :: pending) replay)
    (read : runtime.read process.processId (request.cursor? process.processId) = .ok part) :
    Reading runtime position request processes pending (replay ++ [part]) := by
  obtain ⟨named, replayed⟩ := replayed_read sound streams position request read
  refine { reading with ids := ?_, parts := ?_ }
  · rw [reading.ids, map_append, append_assoc, map_cons, map_singleton, named]
    rfl
  intro other mem
  rcases mem_append.mp mem with old | new
  · exact reading.parts other old
  · cases mem_singleton.mp new
    exact replayed

/-- Every connection that reads has read what `Reading` says. -/
def AllReading (state : HostState) : Prop :=
  ∀ (place : Nat) (connection : Connection) (request : HostRequest)
      (processes pending : List HostProcessInfo) (replay : List HostOutputReplay),
    state.connections[place]? = some connection →
    connection.call = some (request, .reading processes pending replay) →
      Reading state.runtime connection.position request processes pending replay

theorem AllReading.step (regular : state.Regular) (reading : state.AllReading)
    (action : HostAction) : (state.step action).2.AllReading := by
  intro place after request processes pending replay present called
  have grows := regular.grows action
  rcases turn_of_step state place action with
    ⟨before, turned, beforePresent, turnedPresent, turn⟩ | ⟨_, new⟩
  · cases present.symm.trans turnedPresent
    have inRange := regular.inRange place before beforePresent
    -- What a connection has read stays right, since the gate is its own.
    have carry : ∀ {phase processes pending replay},
        before.call = some (request, phase) → Phase.OfSync request phase →
        Reading state.runtime before.position request processes pending replay →
        Reading (state.step action).2.runtime before.position request processes pending replay := by
      intro phase processes pending replay beforeCalled ofSync held
      apply held.step inRange grows
      intro processId spot
      rw [runtime_step]
      cases moved : state.runtimeAction action with
      | none => exact id
      | some =>
        apply processes_of_step regular.sound
        rintro spawned launch rfl
        have reads : state.call? place = some (request, phase) := by
          rw [call?, beforePresent]
          exact beforeCalled
        exact regular.noSpawn action reads held.isSync ofSync spawned launch moved
    cases turn with
    | same =>
      exact carry called (Or.inr ⟨_, _, _, rfl⟩)
        (reading place _ request processes pending replay beforePresent called)
    | other _ _ _ _ notReading => exact absurd called (notReading _ _ _ _)
    | listed own ownCalled isSync =>
      cases called
      exact carry ownCalled (Or.inl ⟨rfl, isSync⟩)
        (reading_listed regular.sound before.position isSync)
    | read own list process rest parts part ownCalled read =>
      cases called
      have held := reading place before _ _ _ _ beforePresent ownCalled
      exact carry ownCalled (Or.inr ⟨_, _, _, rfl⟩) (held.read regular.sound regular.streams read)
    | answered => cases called
    | delivered chunk idle =>
      rw [takeChunk] at called
      split at called
      · cases idle.symm.trans called
      · cases idle.symm.trans called
  · have idle := (new after present).2
    rw [idle] at called
    cases called

/-- What holds in every state of a run. -/
structure Orderly (state : HostState) : Prop where
  regular : state.Regular
  reading : state.AllReading

theorem Orderly.step (orderly : state.Orderly)
    (fresh : FreshStreams state action) : (state.step action).2.Orderly where
  regular := orderly.regular.step action fresh
  reading := orderly.reading.step orderly.regular action

theorem orderly_initial (hostEpoch : String) (root : List String) (build : HostBuildInfo) :
    (initial (new hostEpoch root) build).Orderly where
  regular := ⟨sound_new hostEpoch root, streams_new hostEpoch root, fun _ _ _ => nofun,
    fun _ _ => nofun⟩
  reading _ _ _ _ _ _ := nofun

/-- The chunks that a subscription took from a place on. -/
def taken (state : HostState) (first last : Nat) : List HostOutputChunk :=
  (state.runtime.outputEvents.take last).drop first

/-- A connection since it was told the cursors: it handed on what they do not have. -/
structure Attached (cursors : KeyedMap String OutputCursor) (first : Nat)
    (answered : List HostMessage) (state : HostState) (connection : Connection) : Prop where
  first_le : first ≤ connection.position
  outgoing : ∃ rest, connection.outgoing = answered ++ rest ∧
    outputs rest = (relay cursors (taken state first connection.position)).2
  liveAfter : connection.liveAfter = (relay cursors (taken state first connection.position)).1

theorem taken_of_grows {next : HostState} (grows : Grows state.runtime next.runtime)
    (inRange : last ≤ state.runtime.outputEvents.length) (first : Nat) :
    taken next first last = taken state first last := by
  rw [taken, grows.take_events inRange, taken]

theorem taken_succ {chunk : HostOutputChunk}
    (found : state.runtime.outputEvents[last]? = some chunk) (first_le : first ≤ last) :
    taken state first (last + 1) = taken state first last ++ [chunk] := by
  have inRange := (List.getElem?_eq_some_iff.mp found).1
  rw [taken, taken, take_add_one, found, Option.toList_some, drop_append_of_le_length]
  rw [length_take]
  exact le_min first_le (first_le.trans inRange.le)

variable {cursors : KeyedMap String OutputCursor} {answered : List HostMessage}

theorem Attached.turn (regular : state.Regular) {after : Connection}
    (present : state.connections[place]? = some before)
    (attached : Attached cursors first answered state before)
    (turn : Turn state place action before after) (noAnswer : action ≠ .answerSync place) :
    Attached cursors first answered (state.step action).2 after := by
  have inRange := regular.inRange place before present
  have grows := regular.grows action
  obtain ⟨rest, outgoing, outputsEq⟩ := attached.outgoing
  -- A turn that takes no chunk.
  have carry : ∀ {after : Connection} {extra : List HostMessage},
      after.position = before.position → after.liveAfter = before.liveAfter →
      after.outgoing = before.outgoing ++ extra → outputs extra = [] →
      Attached cursors first answered (state.step action).2 after := by
    intro after extra position liveAfter sent silent
    constructor
    · rw [position]
      exact attached.first_le
    · refine ⟨rest ++ extra, ?_, ?_⟩
      · rw [sent, outgoing, append_assoc]
      · rw [position, taken_of_grows grows inRange, outputs_append, silent, append_nil, outputsEq]
    · rw [position, taken_of_grows grows inRange, liveAfter, attached.liveAfter]
  cases turn with
  | same | listed | read => exact carry rfl rfl (append_nil _).symm rfl
  | other _ position liveAfter sent =>
    obtain ⟨_, sent, silent⟩ := sent
    exact carry position liveAfter sent silent
  | answered _ _ _ _ own => exact absurd own noAnswer
  | delivered chunk _ found =>
    have below := (List.getElem?_eq_some_iff.mp found).1
    have more : taken (state.step action).2 first (before.position + 1) =
        taken state first before.position ++ [chunk] := by
      rw [taken_of_grows grows below, taken_succ found attached.first_le]
    have relayed := relay_append cursors (taken state first before.position) [chunk]
    rw [← attached.liveAfter, ← outputsEq, relay] at relayed
    unfold takeChunk
    split
    · rename_i sends
      rw [if_pos sends] at relayed
      constructor
      · exact attached.first_le.trans (Nat.le_succ _)
      · refine ⟨rest ++ [.output chunk], ?_, ?_⟩
        · rw [outgoing, append_assoc]
        · rw [more, relayed, outputs_append]
          rfl
      · rw [more, relayed]
        rfl
    · rename_i skips
      rw [if_neg skips] at relayed
      constructor
      · exact attached.first_le.trans (Nat.le_succ _)
      · refine ⟨rest, outgoing, ?_⟩
        rw [more, relayed]
        exact (append_nil _).symm
      · rw [more, relayed]
        rfl

theorem attached_afterSync (present : state.connections[place]? = some before)
    (called : state.call? place = some (request, .reading processes [] replay)) :
    ∃ after, (state.step (.answerSync place)).2.connections[place]? = some after ∧
      Attached (replayCursors replay) before.position
        (before.outgoing ++ [state.syncedAnswer request processes replay])
        (state.step (.answerSync place)).2 after := by
  have stepped : (state.step (.answerSync place)).2 = state.answerSync place := rfl
  have nothing : ∀ next : HostState, taken next before.position before.position = [] := by
    intro next
    rw [taken, drop_eq_nil_iff, length_take]
    exact Nat.min_le_left _ _
  refine ⟨state.afterSync request processes replay before, ?_, ?_⟩
  · rw [stepped, answerSync_of_called called]
    change (state.connections.modify place _)[place]? = _
    rw [getElem?_modify_eq, present]
    rfl
  · constructor
    · exact Nat.le_refl _
    · exact ⟨[], (append_nil _).symm, by rw [afterSync, nothing]; rfl⟩
    · rw [afterSync, nothing]
      rfl

variable {actions : List HostAction}

/-- An attached connection stays attached while no other `Sync` is answered. -/
theorem Attached.run (orderly : state.Orderly) (fresh : AllSteps step FreshStreams state actions)
    (noAnswer : .answerSync place ∉ actions) (present : state.connections[place]? = some before)
    (attached : Attached cursors first answered state before) :
    ∃ after, (exec step state actions).connections[place]? = some after ∧
      Attached cursors first answered (exec step state actions) after := by
  induction actions generalizing state before with
  | nil => exact ⟨before, present, attached⟩
  | cons action rest ih =>
    have notThis : action ≠ .answerSync place := fun same => noAnswer (same ▸ mem_cons_self)
    have notRest : .answerSync place ∉ rest := fun mem => noAnswer (mem_cons_of_mem _ mem)
    rcases turn_of_step state place action with
      ⟨old, after, oldPresent, afterPresent, turn⟩ | ⟨absent, _⟩
    · cases present.symm.trans oldPresent
      exact ih (orderly.step fresh.1) fresh.2 notRest afterPresent
        (attached.turn orderly.regular present turn notThis)
    · cases present.symm.trans absent

theorem Orderly.run (orderly : state.Orderly)
    (fresh : AllSteps HostState.step FreshStreams state actions) :
    (exec HostState.step state actions).Orderly ∧
      Grows state.runtime (exec HostState.step state actions).runtime := by
  induction actions generalizing state with
  | nil => exact ⟨orderly, Grows.refl state.runtime⟩
  | cons action rest ih =>
    obtain ⟨last, later⟩ := ih (orderly.step fresh.1) fresh.2
    exact ⟨last, (orderly.regular.grows action).trans later⟩

end HostState
end Treer.Host
