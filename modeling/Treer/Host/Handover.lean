import Treer.Host.Attach

/-!
# What an attached client gets

Of every stream that is current at the `Sync` or later, the client gets the part that
the ring still has and its cursor does not, and then every chunk as it comes.
-/

namespace Treer.Host

open Foundation HostRuntime HostRuntime.Sample Table AllSteps List

/-- The revision up to which a request says that it has a stream. -/
def HostRequest.seen (request : HostRequest) (processId streamEpoch : String) : Nat :=
  match request.cursor? processId with
  | none => 0
  | some cursor => if cursor.streamEpoch = streamEpoch then cursor.revision else 0

namespace HostState

/-! ## One stream -/

/-- The part of a replay that is of a stream. -/
def partOf? (replay : List HostOutputReplay) (streamEpoch : String) : Option HostOutputReplay :=
  replay.find? fun part => part.streamEpoch = streamEpoch

/-- The first revision that the ring had when the replay was read. -/
def firstHeld (replay : List HostOutputReplay) (streamEpoch : String) : Nat :=
  (partOf? replay streamEpoch).elim 1 (·.firstAvailableRevision)

/-- The first revision that comes after the replay; it has nothing of a new stream. -/
def liveFrom (replay : List HostOutputReplay) (streamEpoch : String) : Nat :=
  (partOf? replay streamEpoch).elim 1 (·.nextRevision)

/-- The revisions of a stream that a client has got: in the replay, and then one by one. -/
def handed (replay : List HostOutputReplay) (messages : List HostMessage) (streamEpoch : String) :
    List Nat :=
  revisionsOf (replay.flatMap (·.chunks) ++ outputs messages) streamEpoch

/-- The revisions of a stream that a subscription has before it, or that are not sent yet. -/
def onTheWay (state : HostState) (position : Nat) (process : HostProcess) : List Nat :=
  revisionsOf (state.runtime.outputEvents.drop position) process.output.streamEpoch ++
    (pendingChunk process).toList.map (·.revision)

/-- The stream of the record at a place is current, or will be. -/
def CurrentFrom (runtime : HostRuntime) (spot : Nat) : Prop :=
  runtime.records.length ≤ spot ∨ ∃ processId, runtime.processes.get? processId = some spot

/-- Revisions before `live` are handed over from the ring, later ones as they come; what the client
has seen or the ring has lost is left out. -/
structure HandedOnce (first seen live next : Nat) (handed onTheWay : List Nat) : Prop where
  increasing : handed.Pairwise (· < ·)
  replayed : ∀ revision, revision < live → (revision ∈ handed ↔ first ≤ revision ∧ seen < revision)
  live : ∀ revision, live ≤ revision → (revision ∈ handed ↔ revision < next ∧ revision ∉ onTheWay)

variable {revision : Nat} {chunk : HostOutputChunk} {request : HostRequest} {runtime : HostRuntime}
  {process : HostProcess} {part : HostOutputReplay}

theorem Replayed.positive {position spot : Nat}
    (replayed : Replayed runtime position request part spot process) : 0 < part.nextRevision := by
  obtain ⟨buffer, source⟩ := replayed.source
  rw [source]
  exact buffer.positive

variable {replay : List HostOutputReplay}

/-- A replay with distinct streams has those chunks of a stream that its part has. -/
theorem revisionsOf_flatMap
    (own : ∀ part ∈ replay, ∀ chunk ∈ part.chunks, chunk.streamEpoch = part.streamEpoch)
    (distinct : (replay.map (·.streamEpoch)).Nodup) (streamEpoch : String) :
    revisionsOf (replay.flatMap (·.chunks)) streamEpoch =
      (partOf? replay streamEpoch).elim [] fun part => part.chunks.map (·.revision) := by
  induction replay with
  | nil => rfl
  | cons part rest ih =>
    rw [map_cons, nodup_cons] at distinct
    have ownRest := fun other mem => own other (mem_cons_of_mem part mem)
    have first := revisionsOf_of_same (own part mem_cons_self) streamEpoch
    rw [flatMap_cons, revisionsOf_append, first, ih ownRest distinct.2]
    by_cases here : part.streamEpoch = streamEpoch
    · have noOther : partOf? rest streamEpoch = none := by
        apply find?_eq_none.mpr
        intro other mem same
        apply distinct.1
        rw [here, ← of_decide_eq_true same]
        exact mem_map_of_mem mem
      rw [if_pos here, noOther, partOf?, find?_cons_of_pos (by simpa using here)]
      exact append_nil _
    · rw [if_neg here, partOf?, partOf?, find?_cons_of_neg (by simpa using here)]
      rfl

variable {streamEpoch : String} {processes : List HostProcessInfo} {processId : String}

section
variable {position : Nat}
  (streams : runtime.Streams) (reading : Reading runtime position request processes [] replay)
  {spot : Nat}
include reading

theorem Reading.nodup_ids : (replay.map (·.processId)).Nodup := by
  have distinct := reading.distinct
  rw [reading.ids, map_nil, append_nil] at distinct
  exact distinct

include streams

/-- A replay has at most one part of a stream. -/
theorem Reading.nodup_streams : (replay.map (·.streamEpoch)).Nodup := by
  refine reading.nodup_ids.of_map.map_on ?_
  intro first firstMem second secondMem same
  obtain ⟨_, firstProcess, firstReplayed⟩ := reading.parts first firstMem
  obtain ⟨_, secondProcess, secondReplayed⟩ := reading.parts second secondMem
  have epochs : firstProcess.output.streamEpoch = secondProcess.output.streamEpoch :=
    firstReplayed.streamEpoch.trans (same.trans secondReplayed.streamEpoch.symm)
  cases streams.place_eq firstReplayed.record secondReplayed.record epochs
  cases firstReplayed.record.symm.trans secondReplayed.record
  exact inj_on_of_nodup_map reading.nodup_ids firstMem secondMem
    (firstReplayed.processId.symm.trans secondReplayed.processId)

theorem Reading.partOf?_eq_some_iff :
    partOf? replay streamEpoch = some part ↔ part ∈ replay ∧ part.streamEpoch = streamEpoch := by
  let parts : Table HostOutputReplay (·.streamEpoch) := ⟨replay, reading.nodup_streams streams⟩
  exact parts.find?_eq_some_iff

omit streams in
theorem Reading.liveFrom_pos (streamEpoch : String) : 0 < liveFrom replay streamEpoch := by
  rw [liveFrom]
  cases found : partOf? replay streamEpoch with
  | none => exact Nat.one_pos
  | some part =>
    obtain ⟨_, _, replayed⟩ := reading.parts part (mem_of_find?_eq_some found)
    exact replayed.positive

theorem Reading.revisions_replay (streamEpoch : String) :
    revisionsOf (replay.flatMap (·.chunks)) streamEpoch =
      (partOf? replay streamEpoch).elim [] fun part => part.chunks.map (·.revision) := by
  apply revisionsOf_flatMap
  · intro part mem chunk chunkMem
    obtain ⟨_, _, replayed⟩ := reading.parts part mem
    obtain ⟨buffer, source⟩ := replayed.source
    rw [source] at chunkMem ⊢
    exact buffer.ownEpoch chunk (buffer.mem_replay_chunks_iff.mp chunkMem).1
  · exact reading.nodup_streams streams

theorem Reading.replay_increasing (streamEpoch : String) :
    (revisionsOf (replay.flatMap (·.chunks)) streamEpoch).Pairwise (· < ·) := by
  rw [reading.revisions_replay streams]
  cases found : partOf? replay streamEpoch with
  | none => exact .nil
  | some part =>
    have mem := ((reading.partOf?_eq_some_iff streams).mp found).1
    obtain ⟨_, _, replayed⟩ := reading.parts part mem
    obtain ⟨buffer, source⟩ := replayed.source
    rw [Option.elim_some, source]
    exact buffer.revisions_increase.sublist (filter_sublist.map _)

/-- The replay has a part for every current stream. -/
theorem Reading.part_of_current (found : runtime.processes.get? processId = some spot)
    (record : runtime.records[spot]? = some process) :
    ∃ part, partOf? replay process.output.streamEpoch = some part ∧
      Replayed runtime position request part spot process := by
  have listed := reading.all processId spot found
  rw [reading.ids, map_nil, append_nil] at listed
  obtain ⟨part, mem, rfl⟩ := mem_map.mp listed
  obtain ⟨_, _, replayed⟩ := reading.parts part mem
  cases replayed.current spot found
  cases replayed.record.symm.trans record
  exact ⟨part, (reading.partOf?_eq_some_iff streams).mpr ⟨mem, replayed.streamEpoch.symm⟩, replayed⟩

end

section
variable {final : HostState} {first : Nat}
  (streams : runtime.Streams) (finalStreams : final.runtime.Streams)
  (grows : Grows runtime final.runtime)
  (reading : Reading runtime first request processes [] replay)
  {spot last : Nat}
include streams finalStreams grows reading

/-- A chunk is left out after the replay exactly when its revision comes before the end of the
replay. -/
theorem Reading.covers_iff (mem : chunk ∈ final.runtime.outputEvents) :
    Covers (replayCursors replay) chunk ↔ chunk.revision < liveFrom replay chunk.streamEpoch := by
  have distinct := reading.nodup_ids
  rw [liveFrom]
  constructor
  · rintro ⟨_, found, epochEq, reached⟩
    obtain ⟨part, partMem, _, rfl⟩ := (get?_replayCursors distinct).mp found
    obtain ⟨spot, process, replayed⟩ := reading.parts part partMem
    have positive := replayed.positive
    rw [(reading.partOf?_eq_some_iff streams).mpr ⟨partMem, epochEq⟩]
    change chunk.revision < part.nextRevision
    change chunk.revision ≤ part.nextRevision - 1 at reached
    omega
  · intro below
    cases found : partOf? replay chunk.streamEpoch with
    | none =>
      rw [found] at below
      obtain ⟨_, ownerMem, ownerEpoch, _⟩ := finalStreams.owned chunk mem
      have positive := (finalStreams.revision_bounds ownerMem mem ownerEpoch.symm).1
      exact absurd below (Nat.not_lt.mpr positive)
    | some part =>
      rw [found] at below
      obtain ⟨partMem, epochEq⟩ := (reading.partOf?_eq_some_iff streams).mp found
      obtain ⟨spot, process, replayed⟩ := reading.parts part partMem
      obtain ⟨after, record, same⟩ := grows.records spot process replayed.record
      have ownEpoch : chunk.streamEpoch = after.output.streamEpoch :=
        epochEq.symm.trans (replayed.streamEpoch.symm.trans same.streamEpoch.symm)
      have ownProcess := finalStreams.processId_eq (mem_of_getElem? record) mem ownEpoch
      refine ⟨_, (get?_replayCursors distinct).mpr ⟨part, partMem, ?_, rfl⟩, epochEq, ?_⟩
      · exact replayed.processId.symm.trans (same.processId.symm.trans ownProcess.symm)
      · exact Nat.le_sub_one_of_lt below

/-- The replay has no part of a stream that is made after it. -/
theorem Reading.partOf?_of_new (record : final.runtime.records[spot]? = some process)
    (new : runtime.records.length ≤ spot) :
    partOf? replay process.output.streamEpoch = none := by
  cases found : partOf? replay process.output.streamEpoch with
  | none => rfl
  | some part =>
    obtain ⟨partMem, epochEq⟩ := (reading.partOf?_eq_some_iff streams).mp found
    obtain ⟨_, _, replayed⟩ := reading.parts part partMem
    obtain rfl := grows.place_eq finalStreams replayed.record record
      (replayed.streamEpoch.trans epochEq)
    exact absurd (List.getElem?_eq_some_iff.mp replayed.record).1 (Nat.not_lt.mpr new)

/-- What the subscription had before the replay comes before the end of the replay. -/
theorem Reading.old_lt (sound : runtime.Sound) (inRange : first ≤ runtime.outputEvents.length)
    (record : final.runtime.records[spot]? = some process) (current : CurrentFrom runtime spot)
    (old : revision ∈ revisionsOf (final.runtime.outputEvents.take first)
      process.output.streamEpoch) :
    revision < liveFrom replay process.output.streamEpoch := by
  rw [grows.take_events inRange] at old
  obtain ⟨event, mem, epochEq, rfl⟩ := mem_revisionsOf_iff.mp old
  rcases current with new | ⟨processId, found⟩
  · obtain ⟨_, ownerMem, ownerEpoch, _⟩ := streams.owned event (mem_of_mem_take mem)
    obtain ⟨_, ownerRecord⟩ := mem_iff_getElem?.mp ownerMem
    obtain rfl := grows.place_eq finalStreams ownerRecord record (ownerEpoch.trans epochEq)
    exact absurd (List.getElem?_eq_some_iff.mp ownerRecord).1 (Nat.not_lt.mpr new)
  · obtain ⟨held, heldRecord, _⟩ := sound.known processId spot found
    obtain ⟨_, afterRecord, same⟩ := grows.records spot held heldRecord
    cases afterRecord.symm.trans record
    obtain ⟨_, partEq, replayed⟩ := reading.part_of_current streams found heldRecord
    rw [liveFrom, same.streamEpoch, partEq]
    exact replayed.taken event mem (epochEq.trans (same.streamEpoch.trans replayed.streamEpoch))

section
variable (record : final.runtime.records[spot]? = some process)
include record

/-- What the replay has of the stream of a record. -/
theorem Reading.mem_replay_iff (revision : Nat) :
    revision ∈ revisionsOf (replay.flatMap (·.chunks)) process.output.streamEpoch ↔
      firstHeld replay process.output.streamEpoch ≤ revision ∧
        request.seen process.info.processId process.output.streamEpoch < revision ∧
        revision < liveFrom replay process.output.streamEpoch := by
  rw [reading.revisions_replay streams, firstHeld, liveFrom]
  cases found : partOf? replay process.output.streamEpoch with
  | none =>
    simp only [Option.elim_none, not_mem_nil, false_iff]
    omega
  | some part =>
    obtain ⟨mem, epochEq⟩ := (reading.partOf?_eq_some_iff streams).mp found
    obtain ⟨_, _, replayed⟩ := reading.parts part mem
    obtain ⟨_, afterRecord, same⟩ := grows.records _ _ replayed.record
    cases grows.place_eq finalStreams replayed.record record (replayed.streamEpoch.trans epochEq)
    cases afterRecord.symm.trans record
    obtain ⟨buffer, source⟩ := replayed.source
    rw [same.processId, replayed.processId, ← epochEq, source]
    exact buffer.mem_replay_revisions_iff

/-- What a connection sends of a stream after the replay. -/
theorem Reading.mem_relay_iff
    (undisturbed : Undisturbed (replayCursors replay) (taken final first last)
      process.info.processId process.output.streamEpoch) (revision : Nat) :
    revision ∈ revisionsOf (relay (replayCursors replay) (taken final first last)).2
        process.output.streamEpoch ↔
      liveFrom replay process.output.streamEpoch ≤ revision ∧
        revision ∈ revisionsOf (taken final first last) process.output.streamEpoch := by
  have inOrder : InOrder (taken final first last) :=
    finalStreams.inOrder.sublist ((drop_sublist _ _).trans (take_sublist _ _))
  -- A chunk of the stream is sent unless the cursors have it.
  have sent : ∀ chunk ∈ taken final first last, chunk.streamEpoch = process.output.streamEpoch →
      (chunk ∈ (relay (replayCursors replay) (taken final first last)).2 ↔
        liveFrom replay process.output.streamEpoch ≤ chunk.revision) := by
    intro chunk mem epochEq
    have event : chunk ∈ final.runtime.outputEvents := mem_of_mem_take (mem_of_mem_drop mem)
    have processIdEq := finalStreams.processId_eq (mem_of_getElem? record) event epochEq
    rw [← processIdEq, ← epochEq] at undisturbed
    rw [Host.mem_relay_iff inOrder undisturbed,
      reading.covers_iff streams finalStreams grows event, epochEq, Nat.not_lt]
    exact and_iff_right mem
  rw [mem_revisionsOf_iff, mem_revisionsOf_iff]
  constructor
  · rintro ⟨chunk, mem, epochEq, rfl⟩
    have chunkTaken := (relay_sublist _ _).mem mem
    exact ⟨(sent chunk chunkTaken epochEq).mp mem, chunk, chunkTaken, epochEq, rfl⟩
  · rintro ⟨reached, chunk, mem, epochEq, rfl⟩
    exact ⟨chunk, (sent chunk mem epochEq).mpr reached, epochEq, rfl⟩

omit grows reading streams in
/-- The revisions of a stream, by where a subscription stands. -/
theorem revisions_split (first_le : first ≤ last) :
    revisionsOf (final.runtime.outputEvents.take first) process.output.streamEpoch ++
        (revisionsOf (taken final first last) process.output.streamEpoch ++
          onTheWay final last process) =
      range' 1 (process.output.nextRevision - 1) := by
  have events : final.runtime.outputEvents.take first ++
      (taken final first last ++ final.runtime.outputEvents.drop last) =
        final.runtime.outputEvents := by
    have front : final.runtime.outputEvents.take first =
        (final.runtime.outputEvents.take last).take first := by
      rw [take_take, Nat.min_eq_left first_le]
    rw [← append_assoc, front, taken, take_append_drop, take_append_drop]
  have sent := congrArg (revisionsOf · process.output.streamEpoch) events
  simp only [revisionsOf_append] at sent
  rw [← (finalStreams.inStream process (mem_of_getElem? record)).revisions, ← sent, onTheWay]
  simp only [append_assoc]

end

theorem Reading.handedOnce (sound : runtime.Sound) (inRange : first ≤ runtime.outputEvents.length)
    (record : final.runtime.records[spot]? = some process) (current : CurrentFrom runtime spot)
    (first_le : first ≤ last)
    (undisturbed : Undisturbed (replayCursors replay) (taken final first last)
      process.info.processId process.output.streamEpoch)
    {messages : List HostMessage}
    (relayed : outputs messages = (relay (replayCursors replay) (taken final first last)).2) :
    HandedOnce (firstHeld replay process.output.streamEpoch)
      (request.seen process.info.processId process.output.streamEpoch)
      (liveFrom replay process.output.streamEpoch) process.output.nextRevision
      (handed replay messages process.output.streamEpoch) (onTheWay final last process) := by
  have replayIff := reading.mem_replay_iff streams finalStreams grows record
  have relayIff := reading.mem_relay_iff streams finalStreams grows record undisturbed
  have split := revisions_split finalStreams record first_le
  rw [handed, revisionsOf_append, relayed]
  constructor
  · rw [pairwise_append]
    refine ⟨reading.replay_increasing streams _, ?_, ?_⟩
    · have sub : (revisionsOf (taken final first last) process.output.streamEpoch).Sublist
          (range' 1 (process.output.nextRevision - 1)) := by
        rw [← split]
        exact (sublist_append_left _ _).trans (sublist_append_right _ _)
      have relaySub := ((relay_sublist (replayCursors replay) (taken final first last)).filter
        (·.streamEpoch = process.output.streamEpoch)).map (·.revision)
      exact List.Pairwise.sublist (relaySub.trans sub) pairwise_lt_range'
    · intro early earlyMem late lateMem
      exact ((replayIff early).mp earlyMem).2.2.trans_le ((relayIff late).mp lateMem).1
  · intro revision below
    rw [mem_append, replayIff, relayIff]
    constructor
    · rintro (⟨held, unseen, _⟩ | ⟨reached, _⟩)
      · exact ⟨held, unseen⟩
      · exact absurd below (Nat.not_lt.mpr reached)
    · rintro ⟨held, unseen⟩
      exact .inl ⟨held, unseen, below⟩
  · intro revision reached
    have once : (range' 1 (process.output.nextRevision - 1)).Nodup := nodup_range'
    rw [← split, nodup_append'] at once
    have apart := (nodup_append'.mp once.2.1).2.2
    have issued : revision ∈ range' 1 (process.output.nextRevision - 1) ↔
        revision < process.output.nextRevision := by
      have started := reading.liveFrom_pos process.output.streamEpoch
      rw [mem_range'_1]
      omega
    rw [← split, mem_append, mem_append] at issued
    rw [mem_append, replayIff, relayIff]
    constructor
    · rintro (⟨_, _, below⟩ | ⟨_, mem⟩)
      · exact absurd below (Nat.not_lt.mpr reached)
      · exact ⟨issued.mp (Or.inr (.inl mem)), apart mem⟩
    · rintro ⟨below, notComing⟩
      rcases issued.mpr below with old | mem | coming
      · have early := reading.old_lt streams finalStreams grows sound inRange record current old
        exact absurd early (Nat.not_lt.mpr reached)
      · exact .inr ⟨reached, mem⟩
      · exact absurd coming notComing

omit finalStreams in
/-- The replay is not newer than what the ring of a current stream has. -/
theorem Reading.bounds_of_current {held : HostProcess}
    (record : final.runtime.records[spot]? = some process) (current : CurrentFrom runtime spot)
    (heldRecord : runtime.records[spot]? = some held) :
    firstHeld replay process.output.streamEpoch ≤ held.output.firstRevision ∧
      liveFrom replay process.output.streamEpoch ≤ held.output.nextRevision := by
  rcases current with new | ⟨_, found⟩
  · exact absurd (List.getElem?_eq_some_iff.mp heldRecord).1 (Nat.not_lt.mpr new)
  obtain ⟨_, afterRecord, same⟩ := grows.records spot held heldRecord
  cases afterRecord.symm.trans record
  obtain ⟨_, partEq, replayed⟩ := reading.part_of_current streams found heldRecord
  rw [firstHeld, liveFrom, same.streamEpoch, partEq]
  exact ⟨replayed.first_le, replayed.next_le⟩

end

/-! ## Runs that can be evaluated -/

/-- What a connection does for a `Sync` of so many processes, up to its answer. -/
def syncActions (place : Nat) (request : HostRequest) (count : Nat) : List HostAction :=
  [.receive place request, .enter place, .listProcesses place] ++
    replicate count (.readOutput place)

/-- A run in which a `Sync` is answered and that ends with nothing of a current stream on the way:
how many chunks the stream has, and the revisions that the client got. -/
def Attaches (earlier later : List HostAction) (place : Nat) (request : HostRequest)
    (issued : Nat) (revisions : List Nat) : Prop :=
  ∃ (hostEpoch : String) (root : List String) (build : HostBuildInfo) (atSync final : HostState)
      (processes : List HostProcessInfo) (replay : List HostOutputReplay)
      (before after : Connection) (rest : List HostMessage) (processId : String) (spot : Nat)
      (process : HostProcess),
    AllSteps step FreshStreams (initial (new hostEpoch root) build)
      (earlier ++ .answerSync place :: later) ∧
    exec step (initial (new hostEpoch root) build) earlier = atSync ∧
    atSync.call? place = some (request, .reading processes [] replay) ∧
    exec step atSync (.answerSync place :: later) = final ∧
    .answerSync place ∉ later ∧
    atSync.connections[place]? = some before ∧
    final.connections[place]? = some after ∧
    after.outgoing = before.outgoing ++ atSync.syncedAnswer request processes replay :: rest ∧
    after.closed = false ∧
    atSync.runtime.processes.get? processId = some spot ∧
    final.runtime.records[spot]? = some process ∧
    process.output.nextRevision = issued + 1 ∧
    onTheWay final after.position process = [] ∧
    handed replay rest process.output.streamEpoch = revisions

/-- The output that a `Sync` answers with, when it has read that of all processes. -/
def replay? : Phase → Option (List HostOutputReplay)
  | .reading _ [] replay => some replay
  | _ => none

/-- What can be evaluated of a `Sync` and a process: the request, whether the connection is closed,
the next revision, and the revisions on the way and handed over. -/
def shown (atSync final : HostState) (place : Nat) (processId : String) :
    Option (HostRequest × Bool × Nat × List Nat × List Nat) := do
  let (request, phase) ← atSync.call? place
  let replay ← replay? phase
  let before ← atSync.connections[place]?
  let after ← final.connections[place]?
  let spot ← atSync.runtime.processes.get? processId
  let process ← final.runtime.records[spot]?
  return (request, after.closed, process.output.nextRevision,
    onTheWay final after.position process,
    handed replay (after.outgoing.drop (before.outgoing.length + 1)) process.output.streamEpoch)

instance (state : HostState) (action : HostAction) : Decidable (FreshStreams state action) :=
  match found : state.runtimeAction action with
  | some (.spawn _ launch) =>
    decidable_of_iff (∀ process ∈ state.runtime.records,
      process.output.streamEpoch ≠ launch.streamEpoch) (by simp [FreshStreams, found, FreshStream])
  | some (.stop ..) | some (.pushOutput ..) | some (.noteOutput _) | some (.sendOutput _)
  | some (.endOutput _) | some (.observeExit ..) | some (.finishProcess _) | none =>
    isTrue (by simp [FreshStreams, found, FreshStream])

section
variable {hostEpoch : String} {root : List String} {build : HostBuildInfo}
  {earlier later : List HostAction} {atSync final : HostState} {place : Nat}

section
variable (fresh : AllSteps step FreshStreams (initial (new hostEpoch root) build)
    (earlier ++ .answerSync place :: later))
  (reached : exec step (initial (new hostEpoch root) build) earlier = atSync)
  (called : atSync.call? place = some (request, .reading processes [] replay))
  (ran : exec step atSync (.answerSync place :: later) = final)
  (once : .answerSync place ∉ later)
include fresh reached called ran once

/-- A connection that has answered a `Sync` sends what it takes from then on. -/
theorem exists_attached :
    ∃ before after, atSync.Orderly ∧ final.Orderly ∧ Grows atSync.runtime final.runtime ∧
      atSync.connections[place]? = some before ∧ final.connections[place]? = some after ∧
      Attached (replayCursors replay) before.position
        (before.outgoing ++ [atSync.syncedAnswer request processes replay]) final after := by
  rw [append_iff, reached] at fresh
  obtain ⟨freshBefore, freshAfter⟩ := fresh
  have orderly : atSync.Orderly :=
    reached ▸ ((orderly_initial hostEpoch root build).run freshBefore).1
  obtain ⟨ended, grows⟩ := orderly.run freshAfter
  rw [ran] at ended grows
  obtain ⟨before, present⟩ := connection_of_call? called
  obtain ⟨_, answeredPresent, attached⟩ := attached_afterSync present called
  obtain ⟨after, afterPresent, stillAttached⟩ :=
    attached.run (orderly.step freshAfter.1) freshAfter.2 once answeredPresent
  rw [exec] at ran
  rw [ran] at afterPresent stillAttached
  exact ⟨before, after, orderly, ended, grows, present, afterPresent, stillAttached⟩

/-- A client that attached gets of every stream that is current then or later what the ring had and
it had not seen, and then every chunk as it comes, each once and in order. -/
theorem attached_stream_is_handed_once :
    ∃ before after rest, atSync.connections[place]? = some before ∧
      final.connections[place]? = some after ∧
      after.outgoing = before.outgoing ++ atSync.syncedAnswer request processes replay :: rest ∧
      ∀ (spot : Nat) (process : HostProcess), final.runtime.records[spot]? = some process →
        CurrentFrom atSync.runtime spot →
          (atSync.runtime.records.length ≤ spot → liveFrom replay process.output.streamEpoch = 1) ∧
          (∀ held, atSync.runtime.records[spot]? = some held →
            firstHeld replay process.output.streamEpoch ≤ held.output.firstRevision ∧
              liveFrom replay process.output.streamEpoch ≤ held.output.nextRevision) ∧
          (Undisturbed (replayCursors replay) (taken final before.position after.position)
              process.info.processId process.output.streamEpoch →
            HandedOnce (firstHeld replay process.output.streamEpoch)
              (request.seen process.info.processId process.output.streamEpoch)
              (liveFrom replay process.output.streamEpoch) process.output.nextRevision
              (handed replay rest process.output.streamEpoch)
              (onTheWay final after.position process)) := by
  obtain ⟨before, after, orderly, ended, grows, present, afterPresent, attached⟩ :=
    exists_attached fresh reached called ran once
  have reading := orderly.reading place before request processes [] replay present
    (call_of_call? called present)
  have inRange := orderly.regular.inRange place before present
  obtain ⟨rest, outgoing, relayed⟩ := attached.outgoing
  refine ⟨before, after, rest, present, afterPresent, ?_, ?_⟩
  · rw [outgoing, append_assoc]
    rfl
  intro spot process record current
  have streams := orderly.regular.streams
  have finalStreams := ended.regular.streams
  refine ⟨?_, ?_, ?_⟩
  · intro new
    rw [liveFrom, reading.partOf?_of_new streams finalStreams grows record new]
    rfl
  · intro held heldRecord
    exact reading.bounds_of_current streams grows record current heldRecord
  · intro undisturbed
    exact reading.handedOnce streams finalStreams grows orderly.regular.sound inRange record
      current attached.first_le undisturbed relayed

end

theorem exists_reading {phase : Phase} (read : replay? phase = some replay) :
    ∃ processes, phase = .reading processes [] replay := by
  unfold replay? at read
  split at read
  · cases read
    exact ⟨_, rfl⟩
  · cases read

theorem attaches_of_shown {issued : Nat} {revisions : List Nat}
    (fresh : AllSteps step FreshStreams (initial (new hostEpoch root) build)
      (earlier ++ .answerSync place :: later))
    (once : .answerSync place ∉ later)
    (shows : shown (exec step (initial (new hostEpoch root) build) earlier)
      (exec step (initial (new hostEpoch root) build) (earlier ++ .answerSync place :: later))
      place processId = some (request, false, issued + 1, [], revisions)) :
    Attaches earlier later place request issued revisions := by
  rw [exec_append] at shows
  simp only [shown, Option.bind_eq_bind, Option.bind_eq_some_iff, Option.pure_def,
    Option.some.injEq, Prod.mk.injEq] at shows
  obtain ⟨⟨_, phase⟩, called, replay, read, before, present, after, afterPresent, spot,
    registered, process, record, rfl, isOpen, next, nothing, got⟩ := shows
  obtain ⟨processes, rfl⟩ := exists_reading read
  obtain ⟨_, _, _, _, _, present', afterPresent', attached⟩ :=
    exists_attached fresh rfl called rfl once
  cases present.symm.trans present'
  cases afterPresent.symm.trans afterPresent'
  obtain ⟨rest, outgoing, _⟩ := attached.outgoing
  rw [append_assoc, singleton_append] at outgoing
  refine ⟨hostEpoch, root, build, _, _, processes, replay, before, after, rest, processId, spot,
    process, fresh, rfl, called, rfl, once, present, afterPresent, outgoing, isOpen, registered,
    record, next, nothing, ?_⟩
  rwa [outgoing, drop_append, drop_of_length_le (Nat.le_succ _), nil_append,
    Nat.add_sub_cancel_left] at got

end

namespace Sample

def spawning (operationId : String) : HostRequest where
  protocol := hostProtocolVersion
  requestId := operationId
  operationId := some operationId
  command := .spawn (shell (name 0))

def syncing (cursors : KeyedMap String OutputCursor) : HostRequest where
  protocol := hostProtocolVersion
  requestId := "sync_1"
  operationId := none
  command := .sync cursors

/-- A client starts a process. -/
def spawned (operationId streamEpoch : String) : List HostAction :=
  [.receive 0 (spawning operationId), .enter 0, .lookup 0,
    .perform 0 { willing with launch := launched streamEpoch }, .record 0]

/-- A process fills the buffer of its reader a number of times. -/
def filled (count : Nat) : List HostAction :=
  .accept :: spawned "op_1" "stream" ++ (rounds 0 count).map .thread

/-- A process writes a chunk. -/
def seen : List HostAction :=
  .accept :: spawned "op_1" "stream" ++
    [.thread (.pushOutput 0 [0x61] 0), .thread (.noteOutput 0), .thread (.sendOutput 0)]

/-- A client has the first chunk of a stream. -/
def cursors : KeyedMap String OutputCursor :=
  KeyedMap.insert empty (name 0) ⟨"stream", 1⟩

/-- A process ends before its last chunk is sent, and the next one under its id writes. -/
def replaced : List HostAction :=
  .accept :: spawned "op_1" "stream_1" ++
    [.thread (.pushOutput 0 [0x61] 0), .thread (.noteOutput 0), .thread (.observeExit 0 none 0)] ++
    spawned "op_2" "stream_2" ++
    [.thread (.pushOutput 1 [0x62] 0), .thread (.noteOutput 1)]

/-- Both chunks are sent. -/
def bothSent : List HostAction :=
  [.thread (.sendOutput 0), .thread (.sendOutput 1), .deliver 1, .deliver 1]

/-- The process writes another chunk, which the client gets. -/
def goesOn : List HostAction :=
  [.thread (.pushOutput 0 [0x62] 1), .thread (.noteOutput 0), .thread (.sendOutput 0), .deliver 1]

/-- A new Host. -/
def start : HostState := initial (new "host_1" ["srv"]) ⟨"1", "c"⟩

end Sample

open Sample

theorem attaches_seen :
    Attaches (seen ++ .accept :: syncActions 1 (syncing cursors) 1) [] 1 (syncing cursors) 1 [] :=
  attaches_of_shown (by decide +kernel : AllSteps step FreshStreams start _) not_mem_nil
    (by decide +kernel : shown _ _ _ (name 0) = _)

/-- A filled ring that gets one more chunk loses the first one. -/
theorem attaches_lost : Attaches (filled 65 ++ .accept :: syncActions 1 (syncing empty) 1) [] 1
      (syncing empty) 65 (range' 2 64) :=
  attaches_of_shown (by decide +kernel : AllSteps step FreshStreams start _) not_mem_nil
    (by decide +kernel : shown _ _ _ (name 0) = _)

theorem attaches_repeated : Attaches (replaced ++ .accept :: syncActions 1 (syncing empty) 1)
      bothSent 1 (syncing empty) 1 [1, 1] :=
  attaches_of_shown (by decide +kernel : AllSteps step FreshStreams start _) (by simp [bothSent])
    (by decide +kernel : shown _ _ _ (name 0) = _)

/-- A client attaches when a process has written one chunk, and gets a second one after that. -/
theorem attached_stream_is_handed_once_chunk : ∃ final after replay rest process,
      exec step start (seen ++ .accept ::
        syncActions 1 (syncing empty) 1 ++ .answerSync 1 :: goesOn) = final ∧
      final.connections[1]? = some after ∧ final.runtime.records[0]? = some process ∧
      HandedOnce (firstHeld replay "stream") 0 (liveFrom replay "stream") 3
        (handed replay rest "stream") (onTheWay final after.position process) := by
  obtain ⟨atSync, reached⟩ : ∃ state,
    exec step start (seen ++ .accept :: syncActions 1 (syncing empty) 1) = state := ⟨_, rfl⟩
  obtain ⟨final, ran⟩ : ∃ state, exec step atSync (.answerSync 1 :: goesOn) = state := ⟨_, rfl⟩
  have fresh : AllSteps step FreshStreams start
      (seen ++ .accept :: syncActions 1 (syncing empty) 1 ++ .answerSync 1 :: goesOn) := by
    decide +kernel
  have asked : (atSync.call? 1).map (fun call => (call.1, (replay? call.2).isSome)) =
      some (syncing empty, true) := by
    rw [← reached]
    decide +kernel
  have position : (atSync.connections[1]?).map (·.position) = some 1 := by
    rw [← reached]
    decide +kernel
  have current : atSync.runtime.processes.get? (name 0) = some 0 := by
    rw [← reached]
    decide +kernel
  have stream : (final.runtime.records[0]?).map (fun process =>
      (process.output.streamEpoch, process.output.nextRevision)) = some ("stream", 3) := by
    rw [← ran, ← reached]
    decide +kernel
  have sent : final.runtime.outputEvents.length = 2 := by
    rw [← ran, ← reached]
    decide +kernel
  obtain ⟨⟨_, _⟩, called, request⟩ := Option.map_eq_some_iff.mp asked
  obtain ⟨rfl, read⟩ := Prod.mk.inj request
  obtain ⟨replay, read⟩ := Option.isSome_iff_exists.mp read
  obtain ⟨processes, rfl⟩ := exists_reading read
  obtain ⟨process, record, named⟩ := Option.map_eq_some_iff.mp stream
  obtain ⟨epoch, next⟩ := Prod.mk.inj named
  obtain ⟨before, after, rest, present, afterPresent, _, streams⟩ :=
    attached_stream_is_handed_once fresh reached called ran (by simp [goesOn])
  rw [present, Option.map_some, Option.some_inj] at position
  obtain ⟨_, _, handedOnce⟩ := streams 0 process record (Or.inr ⟨name 0, current⟩)
  rw [epoch, next] at handedOnce
  refine ⟨final, after, replay, rest, process, by rw [exec_append, reached, ran], afterPresent,
    record, handedOnce ?_⟩
  -- The client has taken one chunk at most, so that none comes before it.
  intro front chunk back split _ _ _
  have few := congrArg length split
  rw [taken, length_drop, length_take, sent, position, length_append, length_cons] at few
  rw [eq_nil_of_length_eq_zero (by omega : front.length = 0)]
  exact forall_mem_nil _

/-- A chunk that the client had seen or the ring had lost is not handed over; a chunk of the replay
is handed over again after a late chunk of the stream before. -/
theorem attach_leaves_out_and_repeats :
    (∃ earlier later place request, Attaches earlier later place request 1 []) ∧
    (∃ earlier later place request issued revisions, request.command = .sync empty ∧
      Attaches earlier later place request issued revisions ∧ 0 < issued ∧ 1 ∉ revisions) ∧
    ∃ earlier later place request, request.command = .sync empty ∧
      Attaches earlier later place request 1 [1, 1] := by
  refine ⟨⟨_, _, _, _, attaches_seen⟩, ⟨_, _, _, _, _, _, rfl, attaches_lost, by decide, by decide⟩,
    ?_⟩
  exact ⟨_, _, _, _, rfl, attaches_repeated⟩

end HostState
end Treer.Host
