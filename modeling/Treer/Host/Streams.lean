import Treer.Host.History

/-!
# Streams of output

Every record has a stream of its own, and its thread sends the chunks of the stream
in order. What was sent of a stream, with the chunk that its thread holds, is all
of the stream.
-/

namespace Treer.Host

open Foundation List Option

namespace HostRuntime

variable {chunks : List HostOutputChunk} {before after : HostProcess} {place : Nat}
variable {runtime : HostRuntime} {mutation : HostProcess → HostProcess}

/-- The revisions of a stream among some chunks. -/
def revisionsOf (chunks : List HostOutputChunk) (streamEpoch : String) : List Nat :=
  (chunks.filter (·.streamEpoch = streamEpoch)).map (·.revision)

/-- The chunks of a stream are those that were sent and the one that is about to be. -/
structure InStream (events : List HostOutputChunk) (process : HostProcess) : Prop where
  own : ∀ chunk ∈ process.output.chunks.items, chunk.processId = process.info.processId
  pending : ∀ chunk, pendingChunk process = some chunk →
    chunk.streamEpoch = process.output.streamEpoch ∧ chunk.processId = process.info.processId
  revisions : revisionsOf events process.output.streamEpoch ++
      (pendingChunk process).toList.map (·.revision) =
    List.range' 1 (process.output.nextRevision - 1)

structure Streams (runtime : HostRuntime) : Prop where
  distinct : (runtime.records.map (·.output.streamEpoch)).Nodup
  inStream : ∀ process ∈ runtime.records, InStream runtime.outputEvents process
  owned : ∀ event ∈ runtime.outputEvents, ∃ process ∈ runtime.records,
    process.output.streamEpoch = event.streamEpoch ∧ process.info.processId = event.processId

theorem streams_new (hostEpoch : String) (root : List String) : (new hostEpoch root).Streams where
  distinct := nodup_nil
  inStream _ := nofun
  owned _ := nofun

theorem revisionsOf_append (first second : List HostOutputChunk) (streamEpoch : String) :
    revisionsOf (first ++ second) streamEpoch =
      revisionsOf first streamEpoch ++ revisionsOf second streamEpoch := by
  rw [revisionsOf, filter_append, map_append, revisionsOf, revisionsOf]

/-- When all chunks are of one stream, it has them all and another has none. -/
theorem revisionsOf_of_same {own : String}
    (same : ∀ chunk ∈ chunks, chunk.streamEpoch = own) (streamEpoch : String) :
    revisionsOf chunks streamEpoch = if own = streamEpoch then chunks.map (·.revision) else [] := by
  rw [revisionsOf]
  split
  · rename_i here
    rw [filter_eq_self.mpr]
    intro chunk mem
    simp [same chunk mem, here]
  · rename_i elsewhere
    rw [filter_eq_nil_iff.mpr, map_nil]
    intro chunk mem
    simp [same chunk mem, elsewhere]

/-! ## Changes of one record -/

/-- A record of the same stream. -/
structure SameStream (before after : HostProcess) : Prop where
  streamEpoch : after.output.streamEpoch = before.output.streamEpoch
  processId : after.info.processId = before.info.processId
  grows : before.output.nextRevision ≤ after.output.nextRevision
  retains : before.output.firstRevision ≤ after.output.firstRevision

theorem SameStream.refl (process : HostProcess) : SameStream process process :=
  ⟨rfl, rfl, Nat.le_refl _, Nat.le_refl _⟩

theorem SameStream.trans {first second third : HostProcess} (earlier : SameStream first second)
    (later : SameStream second third) : SameStream first third where
  streamEpoch := later.streamEpoch.trans earlier.streamEpoch
  processId := later.processId.trans earlier.processId
  grows := earlier.grows.trans later.grows
  retains := earlier.retains.trans later.retains

theorem sameStream_of_output (output : after.output = before.output)
    (processId : after.info.processId = before.info.processId) : SameStream before after :=
  ⟨by rw [output], processId, by rw [output], by rw [output]⟩

theorem map_modify_eq {α β : Type*} {view : α → β} {change : α → α}
    {items : List α} (same : ∀ item, items[place]? = some item → view (change item) = view item) :
    (items.modify place change).map view = items.map view := by
  apply ext_getElem?
  intro other
  rw [getElem?_map, getElem?_map, getElem?_modify]
  by_cases here : place = other
  · subst here
    cases found : items[place]? with
    | none => rfl
    | some item => simp [same item found]
  · cases items[other]? <;> simp [here]

theorem mem_updateProcess (mem : after ∈ (runtime.updateProcess place mutation).records) :
    (∃ before, runtime.records[place]? = some before ∧ after = mutation before) ∨
      ∃ other, other ≠ place ∧ runtime.records[other]? = some after := by
  rcases mem_iff_getElem?.mp mem with ⟨other, record⟩
  rw [records_updateProcess, map_eq_some_iff] at record
  rcases record with ⟨before, beforeRecord, rfl⟩
  by_cases here : place = other
  · subst here
    rw [if_pos rfl]
    exact .inl ⟨before, beforeRecord, rfl⟩
  · rw [if_neg here]
    exact .inr ⟨other, Ne.symm here, beforeRecord⟩

/-- What was sent stays sent, and records keep their streams. -/
structure Grows (runtime next : HostRuntime) : Prop where
  events : runtime.outputEvents <+: next.outputEvents
  records : ∀ (place : Nat) (process : HostProcess), runtime.records[place]? = some process →
    ∃ after, next.records[place]? = some after ∧ SameStream process after

theorem Grows.refl (runtime : HostRuntime) : Grows runtime runtime :=
  ⟨prefix_rfl, fun _ process record => ⟨process, record, SameStream.refl process⟩⟩

theorem Grows.trans {first second third : HostRuntime} (earlier : Grows first second)
    (later : Grows second third) : Grows first third where
  events := earlier.events.trans later.events
  records place process record := by
    rcases earlier.records place process record with ⟨middle, middleRecord, firstSame⟩
    rcases later.records place middle middleRecord with ⟨after, afterRecord, secondSame⟩
    exact ⟨after, afterRecord, firstSame.trans secondSame⟩

/-- What was sent before stays where it is. -/
theorem Grows.take_events {next : HostRuntime} (grows : Grows runtime next) {position : Nat}
    (inRange : position ≤ runtime.outputEvents.length) :
    next.outputEvents.take position = runtime.outputEvents.take position := by
  obtain ⟨_, events⟩ := grows.events
  rw [← events, take_append_of_le_length inRange]

theorem grows_updateProcess
    (same : ∀ process, runtime.records[place]? = some process →
      SameStream process (mutation process)) :
    Grows runtime (runtime.updateProcess place mutation) where
  events := prefix_rfl
  records other process record := by
    rw [records_updateProcess, record, map_some]
    refine ⟨_, rfl, ?_⟩
    by_cases here : place = other
    · subst here
      rw [if_pos rfl]
      exact same process record
    · rw [if_neg here]
      exact .refl process

theorem Streams.place_eq (streams : runtime.Streams) {first second : Nat}
    {firstProcess secondProcess : HostProcess}
    (firstRecord : runtime.records[first]? = some firstProcess)
    (secondRecord : runtime.records[second]? = some secondProcess)
    (same : firstProcess.output.streamEpoch = secondProcess.output.streamEpoch) :
    first = second := by
  have inRange := (List.getElem?_eq_some_iff.mp firstRecord).1
  apply (getElem?_inj (by rw [length_map]; exact inRange) streams.distinct).mp
  rw [getElem?_map, getElem?_map, firstRecord, secondRecord, map_some, map_some, same]

variable {process : HostProcess}

/-- A record is replaced by one of its stream, of which some chunks are sent. -/
theorem Streams.replace (streams : runtime.Streams)
    (record : runtime.records[place]? = some process) (same : SameStream process (mutation process))
    (own : ∀ chunk ∈ chunks, chunk.streamEpoch = process.output.streamEpoch ∧
      chunk.processId = process.info.processId)
    (inStream : InStream (runtime.outputEvents ++ chunks) (mutation process)) :
    Streams { runtime.updateProcess place mutation with
      outputEvents := runtime.outputEvents ++ chunks } := by
  have sameStream : ∀ found, runtime.records[place]? = some found →
      SameStream found (mutation found) := by
    intro found foundRecord
    cases record.symm.trans foundRecord
    exact same
  constructor
  · change ((runtime.records.modify place _).map _).Nodup
    rw [map_modify_eq]
    · exact streams.distinct
    · exact fun found foundRecord => (sameStream found foundRecord).streamEpoch
  · intro after mem
    rcases mem_updateProcess mem with ⟨before, beforeRecord, rfl⟩ | ⟨_, elsewhere, otherRecord⟩
    · cases record.symm.trans beforeRecord
      exact inStream
    -- The chunks are not of another stream.
    have other := streams.inStream after (mem_of_getElem? otherRecord)
    have nothing : revisionsOf chunks after.output.streamEpoch = [] := by
      rw [revisionsOf_of_same fun chunk mem => (own chunk mem).1, if_neg]
      exact fun same => elsewhere (streams.place_eq otherRecord record same.symm)
    refine ⟨other.own, other.pending, ?_⟩
    rw [revisionsOf_append, nothing, append_nil]
    exact other.revisions
  · intro event mem
    have owner : ∃ before ∈ runtime.records, before.output.streamEpoch = event.streamEpoch ∧
        before.info.processId = event.processId := by
      rcases mem_append.mp mem with old | new
      · exact streams.owned event old
      · exact ⟨process, mem_of_getElem? record, (own event new).1.symm, (own event new).2.symm⟩
    rcases owner with ⟨before, beforeMem, epochEq, processIdEq⟩
    rcases mem_iff_getElem?.mp beforeMem with ⟨other, beforeRecord⟩
    rcases (grows_updateProcess sameStream).records other before beforeRecord with
      ⟨after, afterRecord, kept⟩
    exact ⟨after, mem_of_getElem? afterRecord, kept.streamEpoch.trans epochEq,
      kept.processId.trans processIdEq⟩

theorem Streams.updateProcess (streams : runtime.Streams)
    (same : ∀ process, runtime.records[place]? = some process →
      SameStream process (mutation process))
    (inStream : ∀ process, runtime.records[place]? = some process →
      InStream runtime.outputEvents (mutation process)) :
    (runtime.updateProcess place mutation).Streams := by
  cases record : runtime.records[place]? with
  | none =>
    rw [HostRuntime.updateProcess, modify_eq_self (getElem?_eq_none_iff.mp record)]
    exact streams
  | some process =>
    have replaced := @streams.replace [] _ _ _ _ record (same process record) (by rintro _ ⟨⟩)
    rw [append_nil] at replaced
    exact replaced (inStream process record)

variable {events : List HostOutputChunk}

/-- A change that leaves the stream alone. -/
theorem Streams.quiet (streams : runtime.Streams)
    (output : ∀ process, runtime.records[place]? = some process →
      (mutation process).output = process.output)
    (processId : ∀ process, runtime.records[place]? = some process →
      (mutation process).info.processId = process.info.processId)
    (pending : ∀ process, runtime.records[place]? = some process →
      pendingChunk (mutation process) = pendingChunk process) :
    (runtime.updateProcess place mutation).Streams := by
  apply streams.updateProcess
  · intro process record
    exact sameStream_of_output (output process record) (processId process record)
  intro process record
  have inStream := streams.inStream process (mem_of_getElem? record)
  constructor
  · rw [output process record, processId process record]
    exact inStream.own
  · rw [output process record, processId process record, pending process record]
    exact inStream.pending
  · rw [output process record, pending process record]
    exact inStream.revisions

theorem sameStream_pushOutput (process : HostProcess) (bytes : List UInt8) (now : Int) :
    SameStream process (pushOutput process bytes now) := by
  unfold pushOutput
  split
  · split
    · exact .refl process
    · exact ⟨rfl, rfl, Nat.le_succ _, process.output.firstRevision_le_push _ bytes now⟩
  · exact .refl process

theorem InStream.pushOutput (inStream : InStream events process) (bytes : List UInt8) (now : Int) :
    InStream events (pushOutput process bytes now) := by
  unfold HostRuntime.pushOutput
  split
  · rename_i waiting
    split
    · exact inStream
    constructor
    · intro chunk mem
      rcases mem_append.mp ((process.output.push_items_suffix _ bytes now).mem mem) with
        old | new
      · exact inStream.own chunk old
      · cases mem_singleton.mp new
        rfl
    · rintro _ ⟨⟩
      exact ⟨rfl, rfl⟩
    · have sent := inStream.revisions
      have positive := process.output.positive
      rw [pendingChunk, waiting, toList_none, map_nil, append_nil] at sent
      change revisionsOf events process.output.streamEpoch ++ [process.output.nextRevision] =
        range' 1 process.output.nextRevision
      rw [sent, ← Nat.sub_add_cancel positive, range'_1_concat, Nat.add_sub_cancel, Nat.add_comm 1]
  · exact inStream

theorem Streams.send (streams : runtime.Streams) {chunk : HostOutputChunk}
    (record : runtime.records[place]? = some process) (noted : process.reader = .noted chunk) :
    Streams
      { runtime.updateProcess place fun process => { process with reader := .waiting } with
        outputEvents := runtime.outputEvents ++ [chunk] } := by
  have inStream := streams.inStream process (mem_of_getElem? record)
  have pending : pendingChunk process = some chunk := by rw [pendingChunk, noted]
  have own : ∀ sent ∈ [chunk], sent.streamEpoch = process.output.streamEpoch ∧
      sent.processId = process.info.processId := by
    intro sent mem
    cases mem_singleton.mp mem
    exact inStream.pending chunk pending
  refine streams.replace record (sameStream_of_output rfl rfl) own
    ⟨inStream.own, by rintro _ ⟨⟩, ?_⟩
  have revisions := inStream.revisions
  rw [pending] at revisions
  rw [revisionsOf_append, revisionsOf_of_same fun sent mem => (own sent mem).1, if_pos rfl]
  simpa [pendingChunk] using revisions

variable {next : HostRuntime} {streamEpoch : String}

section
variable (streams : runtime.Streams)
include streams

/-- The records and what was sent are all that matters. -/
theorem Streams.of_same (records : next.records = runtime.records)
    (outputEvents : next.outputEvents = runtime.outputEvents) : next.Streams := by
  constructor
  · rw [records]
    exact streams.distinct
  · rw [records, outputEvents]
    exact streams.inStream
  · rw [records, outputEvents]
    exact streams.owned

/-- Nothing was sent of a stream that no record has. -/
theorem Streams.revisionsOf_eq_nil
    (unknown : ∀ process ∈ runtime.records, process.output.streamEpoch ≠ streamEpoch) :
    revisionsOf runtime.outputEvents streamEpoch = [] := by
  rw [revisionsOf, map_eq_nil_iff, filter_eq_nil_iff]
  intro event eventMem same
  rcases streams.owned event eventMem with ⟨owner, ownerMem, epochEq, _⟩
  exact unknown owner ownerMem (epochEq.trans (of_decide_eq_true same))

theorem Streams.register (info : HostProcessInfo)
    (fresh : ∀ process ∈ runtime.records, process.output.streamEpoch ≠ info.streamEpoch) :
    (runtime.register info).Streams where
  distinct := by
    rw [HostRuntime.register, map_append, nodup_append]
    refine ⟨streams.distinct, nodup_singleton _, ?_⟩
    intro old oldMem new newMem
    rcases mem_map.mp oldMem with ⟨process, processMem, rfl⟩
    cases mem_singleton.mp newMem
    exact fresh process processMem
  inStream process mem := by
    rcases mem_append.mp mem with old | new
    · exact streams.inStream process old
    cases mem_singleton.mp new
    refine ⟨by rintro _ ⟨⟩, by rintro _ ⟨⟩, ?_⟩
    exact congrArg (· ++ []) (streams.revisionsOf_eq_nil fresh)
  owned event mem := by
    rcases streams.owned event mem with ⟨process, processMem, owns⟩
    exact ⟨process, mem_append_left _ processMem, owns⟩

theorem Streams.finishProcess (place : Nat) : (runtime.finishProcess place).Streams := by
  rcases finishProcess_cases runtime place with same | ⟨_, _, _, next⟩
  · rw [same]
    exact streams
  have released : (runtime.updateProcess place releasedProcess).Streams :=
    streams.quiet (fun _ _ => rfl) (fun _ _ => rfl) (fun _ _ => rfl)
  rw [next]
  split
  · exact released.of_same rfl rfl
  · exact released

end

/-- The stream of a new process is not one that is there. -/
def FreshStream (runtime : HostRuntime) : Action → Prop
  | .spawn _ launch => ∀ process ∈ runtime.records, process.output.streamEpoch ≠ launch.streamEpoch
  | _ => True

theorem Streams.spawn (streams : runtime.Streams) (sound : runtime.Sound)
    (request : HostSpawnRequest) (launch : Launch)
    (fresh : runtime.FreshStream (.spawn request launch)) :
    (runtime.spawn request launch).2.Streams := by
  have ended := spawned sound request launch
  generalize (runtime.spawn request launch).2 = next at ended ⊢
  cases ended with
  | refused => exact streams
  | failed => exact streams.of_same rfl rfl
  | started =>
    apply Streams.register
    · exact streams.of_same rfl rfl
    · exact fresh

theorem Streams.step (streams : runtime.Streams) (sound : runtime.Sound)
    (action : Action) (fresh : runtime.FreshStream action) : (runtime.step action).2.Streams := by
  have stepped := stepped runtime action
  generalize (runtime.step action).2 = next at stepped ⊢
  cases stepped with
  | idle => exact streams
  | still _ still =>
    exact streams.quiet (fun process record => (still process record).output)
      (fun process record => (still process record).processId)
      (fun process record => (still process record).pending)
  | spawn request launch => exact streams.spawn sound request launch fresh
  | push place bytes now =>
    apply streams.updateProcess
    · exact fun process _ => sameStream_pushOutput process bytes now
    · exact fun process record =>
        (streams.inStream process (mem_of_getElem? record)).pushOutput bytes now
  | send place record noted => exact streams.send record noted
  | finish place => exact streams.finishProcess place

/-- Chunks of one stream are in order of their revisions. -/
def InOrder (chunks : List HostOutputChunk) : Prop :=
  chunks.Pairwise fun earlier later =>
    earlier.streamEpoch = later.streamEpoch → earlier.revision < later.revision

theorem inOrder_of_revisions
    (increase : ∀ streamEpoch, (revisionsOf chunks streamEpoch).Pairwise (· < ·)) :
    InOrder chunks := by
  induction chunks with
  | nil => exact .nil
  | cons chunk rest ih =>
    have own := increase chunk.streamEpoch
    rw [revisionsOf, filter_cons_of_pos (by simp), map_cons, pairwise_cons] at own
    refine Pairwise.cons ?_ (ih fun streamEpoch => ?_)
    · intro later mem same
      exact own.1 _ (mem_map_of_mem (mem_filter.mpr ⟨mem, by simp [same]⟩))
    · exact (increase streamEpoch).sublist (((sublist_cons_self chunk rest).filter _).map _)

theorem mem_revisionsOf_iff {revision : Nat} :
    revision ∈ revisionsOf chunks streamEpoch ↔
      ∃ chunk ∈ chunks, chunk.streamEpoch = streamEpoch ∧ chunk.revision = revision := by
  simp [revisionsOf, and_assoc]

section
variable (streams : runtime.Streams) {event : HostOutputChunk}
include streams

theorem Streams.inOrder : InOrder runtime.outputEvents := by
  apply inOrder_of_revisions
  intro streamEpoch
  by_cases known : ∃ process ∈ runtime.records, process.output.streamEpoch = streamEpoch
  · rcases known with ⟨process, mem, rfl⟩
    have all := (streams.inStream process mem).revisions
    exact Pairwise.sublist (all ▸ sublist_append_left _ _) pairwise_lt_range'
  · rw [streams.revisionsOf_eq_nil fun process mem same => known ⟨process, mem, same⟩]
    exact .nil

theorem Streams.revision_bounds (processMem : process ∈ runtime.records)
    (eventMem : event ∈ runtime.outputEvents)
    (same : event.streamEpoch = process.output.streamEpoch) :
    0 < event.revision ∧ event.revision < process.output.nextRevision := by
  have mem : event.revision ∈ range' 1 (process.output.nextRevision - 1) := by
    rw [← (streams.inStream process processMem).revisions]
    exact mem_append_left _ (mem_revisionsOf_iff.mpr ⟨event, eventMem, same, rfl⟩)
  rw [mem_range'_1] at mem
  omega

/-- The process of an event is that of its stream. -/
theorem Streams.processId_eq (processMem : process ∈ runtime.records)
    (eventMem : event ∈ runtime.outputEvents)
    (same : event.streamEpoch = process.output.streamEpoch) :
    event.processId = process.info.processId := by
  rcases streams.owned event eventMem with ⟨_, ownerMem, epochEq, processIdEq⟩
  rcases mem_iff_getElem?.mp processMem with ⟨_, record⟩
  rcases mem_iff_getElem?.mp ownerMem with ⟨_, ownerRecord⟩
  cases streams.place_eq ownerRecord record (epochEq.trans same)
  cases ownerRecord.symm.trans record
  exact processIdEq.symm

end

/-- The record of a stream stays at its place. -/
theorem Grows.place_eq (grows : Grows runtime next) (streams : next.Streams)
    {first second : Nat} {before after : HostProcess}
    (beforeRecord : runtime.records[first]? = some before)
    (afterRecord : next.records[second]? = some after)
    (epochs : before.output.streamEpoch = after.output.streamEpoch) :
    first = second := by
  obtain ⟨_, movedRecord, same⟩ := grows.records first before beforeRecord
  exact streams.place_eq movedRecord afterRecord (same.streamEpoch.trans epochs)

theorem grows_spawn (sound : runtime.Sound) (request : HostSpawnRequest)
    (launch : Launch) : Grows runtime (runtime.spawn request launch).2 := by
  have ended := spawned sound request launch
  generalize (runtime.spawn request launch).2 = next at ended ⊢
  cases ended with
  | refused => exact .refl runtime
  | failed => exact ⟨prefix_rfl, (Grows.refl runtime).records⟩
  | started =>
    refine ⟨prefix_rfl, fun place process record => ⟨process, ?_, SameStream.refl process⟩⟩
    have inRange := (List.getElem?_eq_some_iff.mp record).1
    rw [register, getElem?_append_left inRange]
    exact record

theorem grows_step (sound : runtime.Sound) (action : Action) :
    Grows runtime (runtime.step action).2 := by
  have stepped := stepped runtime action
  generalize (runtime.step action).2 = next at stepped ⊢
  cases stepped with
  | idle => exact .refl runtime
  | still _ still =>
    exact grows_updateProcess fun process record =>
      sameStream_of_output (still process record).output (still process record).processId
  | spawn request launch => exact grows_spawn sound request launch
  | push place bytes now =>
    exact grows_updateProcess fun process _ => sameStream_pushOutput process bytes now
  | send place =>
    have sent : Grows runtime (runtime.updateProcess place fun process =>
        { process with reader := .waiting }) :=
      grows_updateProcess fun _ _ => sameStream_of_output rfl rfl
    exact ⟨prefix_append _ _, sent.records⟩
  | finish place =>
    rcases finishProcess_cases runtime place with same | ⟨_, _, _, next⟩
    · rw [same]
      exact .refl runtime
    have released : Grows runtime (runtime.updateProcess place releasedProcess) :=
      grows_updateProcess fun _ _ => sameStream_of_output rfl rfl
    rw [next]
    split
    · exact ⟨released.events, released.records⟩
    · exact released

/-- Without a `spawn` the registry only loses rows. -/
theorem processes_of_step (sound : runtime.Sound) {action : Action}
    (noSpawn : ∀ request launch, action ≠ .spawn request launch) {processId : String} {place : Nat}
    (found : (runtime.step action).2.processes.get? processId = some place) :
    runtime.processes.get? processId = some place := by
  have stepped := stepped runtime action
  generalize (runtime.step action).2 = next at stepped found
  cases stepped with
  | idle | still | push | send => exact found
  | spawn request launch => exact absurd rfl (noSpawn request launch)
  | finish spot =>
    rcases finishProcess_cases runtime spot with same | ⟨process, record, exited, next⟩
    · rw [same] at found
      exact found
    rw [next] at found
    split at found
    · rcases complete_cases (sound.release record exited) process.info.processId with
        ⟨_, completed⟩ | ⟨oldest, rest, _, completed⟩
      · rw [completed] at found
        exact found
      · rw [completed, KeyedMap.get?_erase] at found
        split at found
        · cases found
        · exact found
    · exact found

end HostRuntime
end Treer.Host
