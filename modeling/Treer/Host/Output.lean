import Mathlib.Data.List.Infix
import Treer.Foundation.Ring
import Treer.Foundation.Run
import Treer.Host.Protocol

/-!
# The output of one stream

A process writes one stream of chunks, numbered from 1. The Host keeps the last
chunks of a stream in a ring, and replays from it what a cursor has not seen. The
chunks of a ring are the last numbers of its stream, without a hole: this is part
of the type.
-/

namespace Treer.Host

open Foundation List

def outputLimitBytes : Nat := 512 * 1024

/-- `\x1b[?2004h` -/
def bracketedPasteEnable : List UInt8 := [0x1b, 0x5b, 0x3f, 0x32, 0x30, 0x30, 0x34, 0x68]

/-- `\x1b[?2004l` -/
def bracketedPasteDisable : List UInt8 := [0x1b, 0x5b, 0x3f, 0x32, 0x30, 0x30, 0x34, 0x6c]

/-- The chunks in memory; the total of the ring is `byte_len`. -/
abbrev Chunks := Ring HostOutputChunk (·.data.length) outputLimitBytes

structure OutputBuffer where
  streamEpoch : String
  chunks : Chunks
  nextRevision : Nat
  modeTail : List UInt8
  bracketedPaste : Bool
  positive : 0 < nextRevision
  numbered : chunks.items.map (·.revision) <:+ List.range' 1 (nextRevision - 1)
  ownEpoch : ∀ chunk ∈ chunks.items, chunk.streamEpoch = streamEpoch

namespace OutputBuffer

/-- A stream that has no output yet; its epoch is a new UUID. -/
def new (streamEpoch : String) : OutputBuffer where
  streamEpoch
  chunks := Ring.empty
  nextRevision := 1
  modeTail := []
  bracketedPaste := false
  positive := Nat.one_pos
  numbered := List.nil_suffix
  ownEpoch := nofun

/-- The mode after the last switch in `scan`, if there is one. -/
def scanModes : List UInt8 → Bool → Bool
  | [], enabled => enabled
  | byte :: rest, enabled =>
    scanModes rest
      (if bracketedPasteEnable.isPrefixOf (byte :: rest) then true
      else if bracketedPasteDisable.isPrefixOf (byte :: rest) then false
      else enabled)

def updateTerminalModes (buffer : OutputBuffer) (bytes : List UInt8) : OutputBuffer :=
  let scan := buffer.modeTail ++ bytes
  let tailLen := min (max bracketedPasteEnable.length bracketedPasteDisable.length - 1) scan.length
  { buffer with
    bracketedPaste := scanModes scan buffer.bracketedPaste
    modeTail := scan.drop (scan.length - tailLen) }

/-- The chunk that the next bytes of the stream become. -/
def nextChunk (buffer : OutputBuffer) (processId : String) (bytes : List UInt8) (now : Int) :
    HostOutputChunk where
  processId
  streamEpoch := buffer.streamEpoch
  revision := buffer.nextRevision
  data := bytes
  bracketedPaste := (buffer.updateTerminalModes bytes).bracketedPaste
  emittedAt := now

def push (buffer : OutputBuffer) (processId : String) (bytes : List UInt8) (now : Int) :
    HostOutputChunk × OutputBuffer :=
  let chunk := buffer.nextChunk processId bytes now
  (chunk,
    { buffer.updateTerminalModes bytes with
      chunks := buffer.chunks.push chunk
      nextRevision := buffer.nextRevision + 1
      positive := Nat.succ_pos _
      numbered := by
        have pushed : (buffer.chunks.items ++ [chunk]).map (·.revision) <:+
            List.range' 1 buffer.nextRevision := by
          have split : buffer.nextRevision = (buffer.nextRevision - 1) + 1 :=
            (Nat.sub_add_cancel buffer.positive).symm
          rw [List.map_append, split, List.range'_concat, Nat.one_mul, Nat.add_comm 1, ← split]
          exact List.suffix_append_self_iff.mpr buffer.numbered
        exact ((buffer.chunks.push_suffix chunk).map _).trans pushed
      ownEpoch := by
        intro kept keptMem
        rcases List.mem_append.mp ((buffer.chunks.push_suffix chunk).mem keptMem) with old | new
        · exact buffer.ownEpoch kept old
        · cases List.mem_singleton.mp new
          rfl })

def firstRevision (buffer : OutputBuffer) : Nat :=
  match buffer.chunks.items with
  | [] => buffer.nextRevision
  | oldest :: _ => oldest.revision

/-- The last revision that a cursor has seen of this stream. -/
def matchingRevision (buffer : OutputBuffer) (cursor : Option OutputCursor) : Nat :=
  match cursor with
  | none => 0
  | some cursor => if cursor.streamEpoch = buffer.streamEpoch then cursor.revision else 0

def replay (buffer : OutputBuffer) (processId : String) (cursor : Option OutputCursor) :
    HostOutputReplay where
  processId
  streamEpoch := buffer.streamEpoch
  firstAvailableRevision := buffer.firstRevision
  nextRevision := buffer.nextRevision
  gap := cursor.any fun cursor =>
    cursor.streamEpoch != buffer.streamEpoch || cursor.revision + 1 < buffer.firstRevision
  chunks := buffer.chunks.items.filter fun chunk => buffer.matchingRevision cursor < chunk.revision

variable {buffer : OutputBuffer} {revision : Nat} {chunk : HostOutputChunk}

section
variable (buffer : OutputBuffer)

theorem revision_lt (mem : chunk ∈ buffer.chunks.items) :
    0 < chunk.revision ∧ chunk.revision < buffer.nextRevision := by
  have issued := buffer.numbered.mem (mem_map_of_mem mem)
  rw [mem_range'_1] at issued
  omega

theorem revisions_increase : (buffer.chunks.items.map (·.revision)).Pairwise (· < ·) :=
  Pairwise.sublist buffer.numbered.sublist pairwise_lt_range'

variable (processId : String) (bytes : List UInt8)

theorem items_push_of_le {bytes : List UInt8}
    (room : buffer.chunks.total + bytes.length ≤ outputLimitBytes) (processId : String)
    (now : Int) : (buffer.push processId bytes now).2.chunks.items =
      buffer.chunks.items ++ [buffer.nextChunk processId bytes now] :=
  Ring.items_push_of_le room

theorem push_items_suffix (now : Int) : (buffer.push processId bytes now).2.chunks.items <:+
      buffer.chunks.items ++ [buffer.nextChunk processId bytes now] :=
  buffer.chunks.push_suffix _

theorem firstRevision_le : buffer.firstRevision ≤ buffer.nextRevision := by
  unfold firstRevision
  split
  · exact Nat.le_refl _
  · rename_i oldest rest items
    exact Nat.le_of_lt (buffer.revision_lt (items ▸ mem_cons_self)).2

/-- The ring has exactly the last revisions. -/
theorem revisions_eq : buffer.chunks.items.map (·.revision) =
    range' buffer.firstRevision (buffer.nextRevision - buffer.firstRevision) := by
  have suffix := buffer.numbered
  rw [suffix_iff_eq_drop, drop_range'] at suffix
  have short := buffer.numbered.length_le
  rw [length_map, length_range'] at short
  unfold firstRevision
  cases items : buffer.chunks.items with
  | nil => simp
  | cons oldest rest =>
    rw [items] at suffix short
    rw [length_cons] at short
    -- The revisions count up from that of the oldest chunk.
    have first : oldest.revision = buffer.nextRevision - (rest.length + 1) := by
      have head := congrArg head? suffix
      rw [map_cons, head?_cons, head?_range', if_neg] at head
      · have same := Option.some.inj head
        simp only [length_range', length_cons, length_map] at same
        omega
      · simp only [length_range', length_cons, length_map]
        omega
    rw [suffix]
    simp only [length_range', length_cons, length_map, first]
    congr 1 <;> omega

theorem mem_revisions_iff : revision ∈ buffer.chunks.items.map (·.revision) ↔
      buffer.firstRevision ≤ revision ∧ revision < buffer.nextRevision := by
  have below := buffer.firstRevision_le
  rw [revisions_eq, mem_range'_1]
  omega

/-- The ring loses chunks from its front only. -/
theorem firstRevision_le_push (now : Int) :
    buffer.firstRevision ≤ (buffer.push processId bytes now).2.firstRevision := by
  have below := buffer.firstRevision_le
  have suffix := buffer.push_items_suffix processId bytes now
  rw [firstRevision.eq_def (buffer.push processId bytes now).2]
  split
  · exact Nat.le_trans below (Nat.le_succ _)
  rename_i oldest rest items
  rcases mem_append.mp (suffix.mem (items ▸ mem_cons_self)) with old | new
  · exact (buffer.mem_revisions_iff.mp (mem_map_of_mem old)).1
  · cases mem_singleton.mp new
    exact below

variable {cursor : Option OutputCursor} {processId : String}

theorem mem_replay_chunks_iff :
    chunk ∈ (buffer.replay processId cursor).chunks ↔
      chunk ∈ buffer.chunks.items ∧ buffer.matchingRevision cursor < chunk.revision := by
  simp [replay]

/-- A replay has exactly the revisions in the ring that the cursor leaves. -/
theorem mem_replay_revisions_iff :
    revision ∈ (buffer.replay processId cursor).chunks.map (·.revision) ↔
      buffer.firstRevision ≤ revision ∧ buffer.matchingRevision cursor < revision ∧
        revision < buffer.nextRevision := by
  have left : revision ∈ (buffer.replay processId cursor).chunks.map (·.revision) ↔
      revision ∈ buffer.chunks.items.map (·.revision) ∧
        buffer.matchingRevision cursor < revision := by
    simp only [mem_map, mem_replay_chunks_iff]
    grind
  rw [left, buffer.mem_revisions_iff]
  tauto

end

/-- The arguments of one `push`, and the time of its chunk. -/
structure Write where
  processId : String
  bytes : List UInt8
  now : Int

def write (buffer : OutputBuffer) (write : Write) : HostOutputChunk × OutputBuffer :=
  buffer.push write.processId write.bytes write.now

/-- The chunks that were pushed have all revisions, and the ring has the last of them. -/
structure Holds (pushed : List HostOutputChunk) (buffer : OutputBuffer) : Prop where
  suffix : buffer.chunks.items <:+ pushed
  revisions : pushed.map (·.revision) = List.range' 1 (buffer.nextRevision - 1)

section
variable {pushed front : List HostOutputChunk}

theorem Holds.write (holds : Holds pushed buffer) (write : Write) :
    Holds (pushed ++ [(buffer.write write).1]) (buffer.write write).2 where
  suffix := (buffer.push_items_suffix ..).trans (suffix_append_self_iff.mpr holds.suffix)
  revisions := by
    have split : buffer.nextRevision = (buffer.nextRevision - 1) + 1 :=
      (Nat.sub_add_cancel buffer.positive).symm
    change _ = range' 1 buffer.nextRevision
    rw [map_append, holds.revisions, split, range'_concat, Nat.one_mul, Nat.add_comm 1, ← split]
    rfl

theorem Holds.run (streamEpoch : String) (writes : List Write) :
    Holds ((trace OutputBuffer.write (new streamEpoch) writes).map (·.outcome))
      (exec OutputBuffer.write (new streamEpoch) writes) := by
  have initial : Holds [] (new streamEpoch) := ⟨suffix_rfl, rfl⟩
  refine trace_invariant (fun history buffer => Holds (history.map (·.outcome)) buffer) ?_
    initial writes
  intro history buffer write holds
  rw [map_append]
  exact holds.write write

section
variable (holds : Holds pushed buffer) (split : front ++ buffer.chunks.items = pushed)
include holds split

theorem Holds.lt_firstRevision (evicted : chunk ∈ front) :
    chunk.revision < buffer.firstRevision := by
  subst split
  have distinct : ((front ++ buffer.chunks.items).map (·.revision)).Nodup :=
    holds.revisions ▸ nodup_range'
  rw [map_append, nodup_append] at distinct
  have issued : chunk.revision ∈ range' 1 (buffer.nextRevision - 1) :=
    holds.revisions ▸ mem_map_of_mem (mem_append_left _ evicted)
  rw [mem_range'_1] at issued
  by_contra late
  have held := buffer.mem_revisions_iff.mpr ⟨Nat.le_of_not_lt late, by omega⟩
  exact distinct.2.2 _ (mem_map_of_mem evicted) _ held rfl

theorem Holds.notMem_of_evicted (evicted : chunk ∈ front) : chunk ∉ buffer.chunks.items := by
  intro held
  have first := (buffer.mem_revisions_iff.mp (mem_map_of_mem held)).1
  exact Nat.not_lt_of_le first (holds.lt_firstRevision split evicted)

/-- Some chunk after a revision has left the ring exactly if the next one has. -/
theorem Holds.evicted_iff :
    (∃ chunk ∈ front, revision < chunk.revision) ↔ revision + 1 < buffer.firstRevision := by
  constructor
  · rintro ⟨chunk, evicted, later⟩
    exact Nat.lt_of_le_of_lt later (holds.lt_firstRevision split evicted)
  intro gap
  have next : revision + 1 ∈ pushed.map (·.revision) := by
    have below := buffer.firstRevision_le
    rw [holds.revisions, mem_range'_1]
    omega
  obtain ⟨chunk, mem, _⟩ := mem_map.mp next
  refine ⟨chunk, (mem_append.mp (split ▸ mem)).resolve_right fun held => ?_, by omega⟩
  have first := (buffer.mem_revisions_iff.mp (mem_map_of_mem held)).1
  omega

end

/-- After every push the ring is within its limit and has the last revisions without a hole.
A replay has a gap exactly if it lacks a chunk that was pushed. -/
theorem replay_is_exact (streamEpoch : String) (writes : List Write)
    (fit : ∀ write ∈ writes, write.bytes.length ≤ outputLimitBytes) :
    let buffer := exec write (new streamEpoch) writes
    let pushed := (trace write (new streamEpoch) writes).map (·.outcome)
    buffer.chunks.total = (buffer.chunks.items.map (·.data.length)).sum ∧
    buffer.chunks.total ≤ outputLimitBytes ∧
    buffer.chunks.items.map (·.revision) =
      range' buffer.firstRevision (buffer.nextRevision - buffer.firstRevision) ∧
    (writes ≠ [] → buffer.firstRevision < buffer.nextRevision) ∧
    ∀ processId cursor, cursor.streamEpoch = buffer.streamEpoch →
      cursor.revision < buffer.nextRevision →
      let replay := buffer.replay processId (some cursor)
      (replay.gap = false ↔
        replay.chunks = pushed.filter fun chunk => cursor.revision < chunk.revision) ∧
      (replay.gap = true ↔ ∃ chunk ∈ pushed,
        cursor.revision < chunk.revision ∧ chunk ∉ buffer.chunks.items) := by
  intro buffer pushed
  have holds : Holds pushed buffer := Holds.run streamEpoch writes
  refine ⟨buffer.chunks.total_eq, buffer.chunks.bounded, buffer.revisions_eq, ?_, ?_⟩
  · intro some
    obtain ⟨_, last, rfl⟩ := (eq_nil_or_concat' writes).resolve_left some
    have kept : buffer.chunks.items ≠ [] := by
      rw [show buffer = _ from exec_append ..]
      exact Ring.push_ne_nil _ (fit last (by simp))
    have count := congrArg length buffer.revisions_eq
    rw [length_map, length_range'] at count
    have positive := length_pos_iff.mpr kept
    omega
  · intro processId cursor same seen
    obtain ⟨front, split⟩ := holds.suffix
    have gap : (buffer.replay processId (some cursor)).gap = true ↔
        ∃ chunk ∈ front, cursor.revision < chunk.revision := by
      rw [holds.evicted_iff split]
      simp [replay, same]
    constructor
    · have matching : buffer.matchingRevision (some cursor) = cursor.revision := if_pos same
      rw [← Bool.not_eq_true, gap, replay, matching, ← split, filter_append,
        self_eq_append_left, filter_eq_nil_iff]
      simp
    · rw [gap]
      constructor
      · rintro ⟨chunk, evicted, later⟩
        exact ⟨chunk, split ▸ mem_append_left _ evicted, later,
          holds.notMem_of_evicted split evicted⟩
      · rintro ⟨chunk, mem, later, lost⟩
        exact ⟨chunk, (mem_append.mp (split ▸ mem)).resolve_right lost, later⟩

theorem replay_of_two_writes :
    let writes : List Write := [⟨"p1", [0x6f], 0⟩, ⟨"p1", [0x6e], 1⟩]
    let buffer := exec write (new "stream") writes
    (buffer.replay "p1" (some ⟨"stream", 1⟩)).chunks.map (·.data) = [[0x6e]] ∧
      (buffer.replay "p1" (some ⟨"stream", 1⟩)).gap = false := by
  have exact_ := replay_is_exact "stream" [⟨"p1", [0x6f], 0⟩, ⟨"p1", [0x6e], 1⟩] (by decide)
  refine ⟨by decide, ?_⟩
  exact (exact_.2.2.2.2 "p1" ⟨"stream", 1⟩ rfl (by decide)).1.mpr (by decide)

end

/-- A switch of the mode begins here. -/
def Switches (stream : List UInt8) : Prop :=
  bracketedPasteEnable <+: stream ∨ bracketedPasteDisable <+: stream

/-- The last switch in a stream is one that enables. -/
def LastSwitchEnables (stream : List UInt8) : Prop :=
  ∃ byte rest, byte :: rest <:+ stream ∧ bracketedPasteEnable <+: byte :: rest ∧
    ∀ later, later <:+ rest → ¬ Switches later

/-- What a buffer knows of the bytes that were pushed: the mode, and the last of them. -/
structure Scanned (stream : List UInt8) (buffer : OutputBuffer) : Prop where
  mode : buffer.bracketedPaste = scanModes stream false
  tail : buffer.modeTail = stream.drop (stream.length - 7)

section
variable {enabled : Bool} {stream : List UInt8}

theorem scanModes_cons (byte : UInt8) (rest : List UInt8) (enabled : Bool) :
    scanModes (byte :: rest) enabled = scanModes rest
      (if bracketedPasteEnable <+: byte :: rest then true
      else if bracketedPasteDisable <+: byte :: rest then false else enabled) := by
  simp only [scanModes, isPrefixOf_iff_prefix]

/-- No switch fits in the bytes that are carried over. -/
theorem scanModes_of_length_le (short : stream.length ≤ 7) :
    scanModes stream enabled = enabled := by
  induction stream with
  | nil => rfl
  | cons byte rest ih =>
    have none (switch : List UInt8) (length : switch.length = 8) : ¬ switch <+: byte :: rest := by
      intro starts
      have fits := starts.length_le
      omega
    rw [scanModes_cons, if_neg (none _ rfl), if_neg (none _ rfl)]
    exact ih (Nat.le_of_succ_le short)

/-- A scan of the carried bytes and the new ones finds what a scan of all bytes does. -/
theorem scanModes_append (bytes : List UInt8) : scanModes (stream ++ bytes) enabled =
    scanModes (stream.drop (stream.length - 7) ++ bytes) (scanModes stream enabled) := by
  induction stream generalizing enabled with
  | nil => rfl
  | cons byte rest ih =>
    by_cases short : rest.length < 7
    · rw [@scanModes_of_length_le _ (byte :: rest) short, length_cons, Nat.sub_eq_zero_of_le short]
      rfl
    have same (switch : List UInt8) (length : switch.length = 8) :
        switch <+: byte :: (rest ++ bytes) ↔ switch <+: byte :: rest := by
      rw [← cons_append]
      exact isPrefix_append_of_length (by rw [length, length_cons]; omega)
    rw [cons_append, scanModes_cons, scanModes_cons, ih, length_cons,
      Nat.succ_sub (Nat.le_of_not_lt short)]
    simp only [same bracketedPasteEnable rfl, same bracketedPasteDisable rfl, drop_succ_cons]

theorem scanModes_eq_true_iff : scanModes stream enabled = true ↔
    LastSwitchEnables stream ∨ enabled = true ∧ ∀ later, later <:+ stream → ¬ Switches later := by
  induction stream generalizing enabled with
  | nil =>
    simp [scanModes, LastSwitchEnables, Switches, bracketedPasteEnable, bracketedPasteDisable]
  | cons byte rest ih =>
    have last : LastSwitchEnables (byte :: rest) ↔ LastSwitchEnables rest ∨
        bracketedPasteEnable <+: byte :: rest ∧ ∀ later, later <:+ rest → ¬ Switches later := by
      simp only [LastSwitchEnables, suffix_cons_iff, cons.injEq]
      grind
    have here : Switches (byte :: rest) ↔
        bracketedPasteEnable <+: byte :: rest ∨ bracketedPasteDisable <+: byte :: rest := Iff.rfl
    rw [scanModes_cons, ih, last]
    simp only [suffix_cons_iff, forall_eq_or_imp, here]
    split_ifs with enables disables
    · simp [enables]
    · simp [enables, disables]
    · simp [enables, disables]

theorem Scanned.write (scanned : Scanned stream buffer) (write : Write) :
    Scanned (stream ++ write.bytes) (buffer.write write).2 := by
  rcases scanned with ⟨mode, tail⟩
  constructor
  · change scanModes (buffer.modeTail ++ write.bytes) buffer.bracketedPaste = _
    exact mode ▸ tail ▸ (scanModes_append write.bytes).symm
  · change (buffer.modeTail ++ write.bytes).drop (_ - min 7 _) = _
    rw [tail]
    simp only [length_append, length_drop, drop_append, drop_drop]
    congr 2 <;> omega

/-- However a stream is cut into chunks, the mode is that of its last switch. -/
theorem paste_mode_is_last_switch (streamEpoch : String) (writes : List Write) :
    ((exec write (new streamEpoch) writes).bracketedPaste = true ↔
      LastSwitchEnables (writes.flatMap (·.bytes))) ∧
    ∀ others, others.flatMap (·.bytes) = writes.flatMap (·.bytes) →
      (exec write (new streamEpoch) others).bracketedPaste =
        (exec write (new streamEpoch) writes).bracketedPaste := by
  have scanned (writes : List Write) :
      Scanned (writes.flatMap (·.bytes)) (exec write (new streamEpoch) writes) := by
    induction writes using reverseRecOn with
    | nil => exact ⟨rfl, rfl⟩
    | append_singleton writes last ih =>
      rw [flatMap_append, exec_append, flatMap_singleton]
      exact ih.write last
  constructor
  · rw [(scanned writes).mode, scanModes_eq_true_iff]
    simp
  · intro others same
    rw [(scanned writes).mode, (scanned others).mode, same]

end
end OutputBuffer
end Treer.Host
