import Mathlib.Algebra.BigOperators.Ring.List
import Mathlib.Algebra.Group.Action.Defs
import Mathlib.Algebra.Order.BigOperators.Group.List
import Treer.Foundation.Bincode
import Treer.Host.Connection
import Treer.Host.History

/-!
# Frames of the Host

A message is written as one frame, and a frame has a largest size. The reply to
`Sync` has the record of every process of the registry and all the output that is
still in their rings and that the cursors of the request leave.
-/

namespace Treer.Host

open Foundation Table List KeyedMap Text

/-- The bytes of the texts and of the output in a chunk. -/
def HostOutputChunk.contentBytes (chunk : HostOutputChunk) : Nat :=
  chunk.processId.utf8ByteSize + chunk.streamEpoch.utf8ByteSize + chunk.data.length

/-- The bytes of the texts in the information about a process. -/
def HostProcessInfo.contentBytes (info : HostProcessInfo) : Nat :=
  info.processId.utf8ByteSize + info.cwd.utf8ByteSize + info.streamEpoch.utf8ByteSize +
    info.metadata.utf8ByteSize

/-- The bytes of the texts and of the output in a replay. -/
def HostOutputReplay.contentBytes (replay : HostOutputReplay) : Nat :=
  replay.processId.utf8ByteSize + replay.streamEpoch.utf8ByteSize +
    (replay.chunks.map (·.contentBytes)).sum

namespace Layout

open Bincode

/-- `HostOutputChunk`. -/
def chunk (value : HostOutputChunk) : List UInt8 :=
  text value.processId ++ text value.streamEpoch ++ unsigned value.revision ++ bytes value.data ++
    flag value.bracketedPaste ++ signed value.emittedAt

/-- `HostProcessInfo`. -/
def processInfo (value : HostProcessInfo) : List UInt8 :=
  text value.processId ++ option unsigned value.pid ++ text value.cwd ++ flag value.running ++
    signed value.startedAt ++ signed value.lastOutputAt ++ option signed value.exitedAt ++
    option signed value.exitCode ++ text value.streamEpoch ++ unsigned value.firstRevision ++
    unsigned value.nextRevision ++ flag value.bracketedPaste ++ text value.metadata

/-- `HostOutputReplay`. -/
def replay (value : HostOutputReplay) : List UInt8 :=
  text value.processId ++ text value.streamEpoch ++ unsigned value.firstAvailableRevision ++
    unsigned value.nextRevision ++ flag value.gap ++ sequence chunk value.chunks

/-- `HostBuildInfo`. -/
def buildInfo (value : HostBuildInfo) : List UInt8 :=
  text value.version ++ text value.gitCommit

/-- `HostResponse`, with the number of the variant in front. -/
def response : HostResponse → List UInt8
  | .synced hostEpoch build processes replays =>
    unsigned 0 ++ text hostEpoch ++ buildInfo build ++ sequence processInfo processes ++
      sequence replay replays
  | .process process => unsigned 1 ++ processInfo process
  | .output output => unsigned 2 ++ replay output
  | .ack => unsigned 3

/-- `HostError`. -/
def error (value : HostError) : List UInt8 :=
  text value.code ++ text value.message

/-- `HostMessage`. -/
def message : HostMessage → List UInt8
  | .response requestId answer failure =>
    unsigned 0 ++ text requestId ++ option response answer ++ option error failure
  | .output output => unsigned 1 ++ chunk output
  | .process process => unsigned 2 ++ processInfo process

end Layout

namespace HostRuntime

variable {runtime : HostRuntime} {process : HostProcess}

/-- The records of the registry. -/
def currentRecords (runtime : HostRuntime) : List HostProcess :=
  runtime.processes.rows.filterMap fun row => runtime.records[row.2]?

variable (runtime) (build : HostBuildInfo) (requestId : String)
  (cursors : KeyedMap String OutputCursor)

/-- The chunks in the ring of a record that the cursors leave. -/
def retained (process : HostProcess) : List HostOutputChunk :=
  process.output.chunks.items.filter fun chunk =>
    process.output.matchingRevision (cursors.get? process.info.processId) < chunk.revision

/-- The texts of a record, and the chunks that the cursors leave. -/
def recordBytes (process : HostProcess) : Nat :=
  process.info.contentBytes + (process.info.processId.utf8ByteSize +
    process.output.streamEpoch.utf8ByteSize + ((retained cursors process).map (·.contentBytes)).sum)

/-- The bytes of output and text that the registry has for the request. -/
def contentBytes : Nat :=
  requestId.utf8ByteSize + runtime.hostEpoch.utf8ByteSize + build.version.utf8ByteSize +
    build.gitCommit.utf8ByteSize + (runtime.currentRecords.map (recordBytes cursors)).sum

/-- How many chunks the cursors leave in the rings of the registry. -/
def chunkCount : Nat :=
  (runtime.currentRecords.map fun process => (retained cursors process).length).sum

variable {runtime} {cursors}

theorem list_perm (runtime : HostRuntime) :
    runtime.list.Perm (runtime.currentRecords.map (·.info)) := by
  rw [list, currentRecords, map_filterMap]
  exact mergeSort_perm _ _

/-- The list names the ids of the registry. -/
theorem Sound.ids_currentRecords (sound : runtime.Sound) :
    runtime.currentRecords.map (·.info.processId) = runtime.processes.rows.map Prod.fst := by
  rw [currentRecords, map_filterMap, ← filterMap_eq_map]
  apply filterMap_congr
  intro row mem
  obtain ⟨_, record, named⟩ := sound.known row.1 row.2 (get?_eq_some_iff.mpr mem)
  rw [record]
  exact congrArg some named

end HostRuntime

namespace HostRuntime

section
variable {encodeMessage : HostMessage → List UInt8}
  (standard : ∀ message, (encodeMessage message).length = (Layout.message message).length)
end

/-! ## Many full rings -/

namespace Sample

/-- The id of the process with a number. -/
def name (number : Nat) : String :=
  String.ofList (List.replicate (number + 1) 'p')

/-- A process fills the buffer of its reader. -/
def round (place : Nat) : List Action :=
  [.pushOutput place (List.replicate readBufferBytes 0) 0, .noteOutput place, .sendOutput place]

/-- A process fills the buffer a number of times. -/
def rounds (place : Nat) : Nat → List Action
  | 0 => []
  | count + 1 => rounds place count ++ round place

/-- Processes start, and the first ones fill their rings. -/
def busy (processes : Nat) : Nat → List Action
  | 0 => (List.range processes).map fun number => .spawn (shell (name number)) (launched "stream")
  | count + 1 => busy processes count ++ rounds count 64

end Sample

open Sample (name round busy)
variable {count : Nat} {counts front back : List Nat}

/-- The reader waits, the ring has full buffers of this process, and all its texts are short. -/
@[mk_iff]
structure Filling (process : HostProcess) : Prop where
  waiting : process.reader = .waiting
  texts : process.info.contentBytes + process.info.processId.utf8ByteSize +
    process.output.streamEpoch.utf8ByteSize ≤ 120
  full : ∀ chunk ∈ process.output.chunks.items,
    chunk.processId = process.info.processId ∧ chunk.data.length = readBufferBytes

/-- The processes are there that the numbers below `counts.length` name, with so many chunks in
their rings. -/
@[mk_iff]
structure Holding (counts : List Nat) (runtime : HostRuntime) : Prop where
  epoch : runtime.hostEpoch = "host_1"
  registry : runtime.processes.rows =
    (List.range counts.length).map fun number => (name number, number)
  counts : runtime.records.map (·.output.chunks.items.length) = counts
  filling : ∀ process ∈ runtime.records, Filling process

theorem filterMap_range_getElem? {α : Type} (items : List α) :
    (range items.length).filterMap (items[·]?) = items := by
  induction items with
  | nil => rfl
  | cons item items ih => simpa [range_succ_eq_map, filterMap_map] using ih

theorem Holding.currentRecords_eq (holding : Holding counts runtime) :
    runtime.currentRecords = runtime.records := by
  rw [currentRecords, holding.registry, filterMap_map, ← holding.counts, length_map]
  exact filterMap_range_getElem? runtime.records

/-- Without a cursor everything in the ring is in the reply. -/
theorem retained_empty (process : HostProcess) :
    retained empty process = process.output.chunks.items := by
  rw [retained, filter_eq_self]
  intro chunk mem
  exact decide_eq_true (process.output.revision_lt mem).1

theorem Filling.recordBytes_bounds (filling : Filling process) :
    readBufferBytes * process.output.chunks.items.length ≤ recordBytes empty process ∧
      recordBytes empty process ≤
        120 + (readBufferBytes + 120) * process.output.chunks.items.length := by
  have texts := filling.texts
  have each : ∀ size ∈ process.output.chunks.items.map (·.contentBytes),
      readBufferBytes ≤ size ∧ size ≤ readBufferBytes + 120 := by
    rintro _ mem
    obtain ⟨chunk, chunkMem, rfl⟩ := mem_map.mp mem
    obtain ⟨own, full⟩ := filling.full chunk chunkMem
    rw [HostOutputChunk.contentBytes, own, full, process.output.ownEpoch chunk chunkMem]
    omega
  have least := card_nsmul_le_sum _ _ fun size mem => (each size mem).1
  have most := sum_le_card_nsmul _ _ fun size mem => (each size mem).2
  rw [length_map, smul_eq_mul, Nat.mul_comm] at least most
  rw [recordBytes, retained_empty]
  omega

theorem Holding.content_bounds (holding : Holding counts runtime) :
    readBufferBytes * counts.sum ≤ (runtime.currentRecords.map (recordBytes empty)).sum ∧
      (runtime.currentRecords.map (recordBytes empty)).sum ≤
        120 * counts.length + (readBufferBytes + 120) * counts.sum := by
  have bounds process mem := (holding.filling process mem).recordBytes_bounds
  have least := sum_le_sum fun process mem => (bounds process mem).1
  have most := sum_le_sum fun process mem => (bounds process mem).2
  rw [sum_map_add, map_const', sum_replicate, smul_eq_mul, Nat.mul_comm _ 120] at most
  rw [sum_map_mul_left, holding.counts] at least most
  rw [← congrArg length holding.counts, length_map, holding.currentRecords_eq]
  exact ⟨least, most⟩

theorem Holding.length_eq (holding : Holding counts runtime) :
    runtime.currentRecords.length = counts.length := by
  rw [holding.currentRecords_eq, ← holding.counts, length_map]

theorem Holding.chunkCount_eq (holding : Holding counts runtime) :
    runtime.chunkCount empty = counts.sum := by
  rw [chunkCount, holding.currentRecords_eq, ← holding.counts]
  simp only [retained_empty]

/-- A process whose reader waits takes what it read into its ring, and its reader waits
again. -/
theorem exec_round {before after : List HostProcess}
    (records : runtime.records = before ++ process :: after) (waiting : process.reader = .waiting)
    {bytes : List UInt8} (nonempty : bytes ≠ []) (fits : bytes.length ≤ readBufferBytes)
    (now : Int) :
    ∃ settled events,
      exec step runtime [.pushOutput before.length bytes now, .noteOutput before.length,
          .sendOutput before.length] =
        { runtime with records := before ++ settled :: after, outputEvents := events } ∧
      settled.reader = .waiting ∧
      settled.output = (process.output.push process.info.processId bytes now).2 ∧
      settled.info.processId = process.info.processId ∧
      settled.info.contentBytes = process.info.contentBytes := by
  have modified (other : HostProcess) (mutation : HostProcess → HostProcess) :
      (before ++ other :: after).modify before.length mutation =
        before ++ mutation other :: after := by
    simp [modify_eq_set_getElem?]
  have small : ¬ readBufferBytes < bytes.length := Nat.not_lt.mpr fits
  simp [step, updateProcess, records, modified, pushOutput, waiting, nonempty, small, noteOutput,
    sendOutput, HostProcessInfo.contentBytes]

theorem Filling.total_eq (filling : Filling process) :
    process.output.chunks.total = process.output.chunks.items.length * readBufferBytes := by
  rw [process.output.chunks.total_eq, map_congr_left fun chunk mem => (filling.full chunk mem).2,
    map_const', sum_replicate, smul_eq_mul]

/-- A process fills the buffer of its reader. -/
theorem Holding.round (holding : Holding (front ++ count :: back) runtime)
    (room : (count + 1) * readBufferBytes ≤ outputLimitBytes) :
    Holding (front ++ (count + 1) :: back) (exec step runtime (round front.length)) := by
  obtain ⟨before, rest, records, rfl, heldRest⟩ := map_eq_append_iff.mp holding.counts
  obtain ⟨process, after, rfl, rfl, rfl⟩ := map_eq_cons_iff.mp heldRest
  have all := holding.filling
  rw [records, forall_mem_append, forall_mem_cons] at all
  obtain ⟨fillingBefore, filling, fillingAfter⟩ := all
  have length : (replicate readBufferBytes (0 : UInt8)).length = readBufferBytes := length_replicate
  obtain ⟨settled, events, ran, reader, output, own, texts⟩ := exec_round records filling.waiting
    (ne_nil_of_length_pos (by rw [length]; decide)) length.le 0
  have items : settled.output.chunks.items = process.output.chunks.items ++
      [process.output.nextChunk process.info.processId (replicate readBufferBytes 0) 0] := by
    rw [output]
    apply OutputBuffer.items_push_of_le
    rw [filling.total_eq, length, ← Nat.succ_mul]
    exact room
  rw [Sample.round, length_map, ran]
  constructor
  · exact holding.epoch
  · simpa using holding.registry
  · simp [items]
  · refine forall_mem_append.mpr ⟨fillingBefore, forall_mem_cons.mpr ⟨?_, fillingAfter⟩⟩
    refine ⟨reader, ?_, ?_⟩
    · rw [texts, own, output]
      exact filling.texts
    · rw [items, own, forall_mem_append]
      exact ⟨filling.full, forall_mem_singleton.mpr ⟨rfl, length⟩⟩

theorem Holding.rounds (holding : Holding (front ++ 0 :: back) runtime) {rounds : Nat}
    (room : rounds * readBufferBytes ≤ outputLimitBytes) :
    Holding (front ++ rounds :: back) (exec step runtime (Sample.rounds front.length rounds)) := by
  induction rounds with
  | zero => exact holding
  | succ rounds ih =>
    rw [Sample.rounds, exec_append]
    exact (ih (Nat.le_of_add_right_le (Nat.succ_mul .. ▸ room))).round room

theorem Holding.fits (holding : Holding (replicate 31 64 ++ replicate (33 - 31) 0) runtime) :
    runtime.contentBytes ⟨"1", "c"⟩ "req_1" empty + 46 * runtime.chunkCount empty +
      150 * runtime.currentRecords.length + 74 ≤ maxHostFrameBytes := by
  have content := holding.content_bounds.2
  have texts : "req_1".utf8ByteSize + "host_1".utf8ByteSize + "1".utf8ByteSize +
      "c".utf8ByteSize = 13 := rfl
  have chunks : (replicate 31 64 ++ replicate (33 - 31) 0).sum = 1984 := rfl
  have processes : (replicate 31 64 ++ replicate (33 - 31) 0).length = 33 := rfl
  have room : 13 + (120 * 33 + (readBufferBytes + 120) * 1984) + 46 * 1984 + 150 * 33 + 74 ≤
      maxHostFrameBytes := by decide
  rw [chunks, processes] at content
  rw [contentBytes, holding.epoch, texts, holding.chunkCount_eq, holding.length_eq, chunks,
    processes]
  refine le_trans ?_ room
  gcongr

end HostRuntime
end Treer.Host
