import Treer.Host.Connection
import Treer.Host.Streams

/-!
# Output after a replay

A connection remembers one cursor for each process: that of the replay, and then
that of the last chunk it sent. A chunk is left out when the cursor is of its
stream and not before it. Chunks that a replay has are left out as long as no
chunk of another stream of the process came between.
-/

namespace Treer.Host

open Foundation HostRuntime List KeyedMap
variable {live : KeyedMap String OutputCursor} {chunk : HostOutputChunk}
  {processId : String} {cursor : OutputCursor}

/-- What a connection does with chunks: its cursors after them, and the chunks it sends. -/
def relay (live : KeyedMap String OutputCursor) :
    List HostOutputChunk → KeyedMap String OutputCursor × List HostOutputChunk
  | [] => (live, [])
  | chunk :: rest =>
    if shouldSend live chunk then
      let later := relay
        (live.insert chunk.processId
          { streamEpoch := chunk.streamEpoch
            revision := chunk.revision })
        rest
      (later.1, chunk :: later.2)
    else relay live rest

theorem relay_append (live : KeyedMap String OutputCursor) (first second : List HostOutputChunk) :
    relay live (first ++ second) =
      ((relay (relay live first).1 second).1,
        (relay live first).2 ++ (relay (relay live first).1 second).2) := by
  induction first generalizing live with
  | nil => rfl
  | cons chunk rest ih =>
    rw [cons_append, relay, relay]
    split
    · rw [ih]
      rfl
    · exact ih live

/-- A connection sends chunks that it took, in their order. -/
theorem relay_sublist (live : KeyedMap String OutputCursor) (chunks : List HostOutputChunk) :
    (relay live chunks).2.Sublist chunks := by
  induction chunks generalizing live with
  | nil => exact Sublist.slnil
  | cons chunk rest ih =>
    rw [relay]
    split
    · exact (ih _).cons_cons chunk
    · exact (ih live).cons chunk

/-- The cursor of a process is the first one, or that of a chunk that was sent. -/
theorem relay_cursor (live : KeyedMap String OutputCursor) (chunks : List HostOutputChunk)
    (processId : String) :
    ((relay live chunks).1.get? processId = live.get? processId ∧
      ∀ chunk ∈ (relay live chunks).2, chunk.processId ≠ processId) ∨
    ∃ chunk ∈ (relay live chunks).2, chunk.processId = processId ∧
      (relay live chunks).1.get? processId =
        some { streamEpoch := chunk.streamEpoch, revision := chunk.revision } := by
  induction chunks generalizing live with
  | nil => exact .inl ⟨rfl, nofun⟩
  | cons chunk rest ih =>
    rw [relay]
    split
    · rcases ih (live.insert chunk.processId ⟨chunk.streamEpoch, chunk.revision⟩) with
        ⟨same, none⟩ | ⟨last, lastMem, lastProcess, cursor⟩
      · by_cases own : chunk.processId = processId
        · right
          refine ⟨chunk, mem_cons_self, own, ?_⟩
          rw [same, get?_insert, if_pos own.symm]
        · left
          rw [same, get?_insert, if_neg (Ne.symm own)]
          refine ⟨rfl, ?_⟩
          intro sent mem
          rcases mem_cons.mp mem with rfl | mem
          · exact own
          · exact none sent mem
      · exact .inr ⟨last, mem_cons_of_mem _ lastMem, lastProcess, cursor⟩
    · exact ih live

/-- The cursors have the chunk: they are of its stream, and not before it. -/
def Covers (live : KeyedMap String OutputCursor) (chunk : HostOutputChunk) : Prop :=
  ∃ cursor, live.get? chunk.processId = some cursor ∧ cursor.streamEpoch = chunk.streamEpoch ∧
    chunk.revision ≤ cursor.revision

theorem shouldSend_eq_false_iff : shouldSend live chunk = false ↔ Covers live chunk := by
  unfold shouldSend Covers
  cases live.get? chunk.processId with
  | none | some => simp

variable {chunks : List HostOutputChunk}

/-- While only chunks come that the cursor of a process has, it stays. -/
theorem relay_cursor_of_covered (found : live.get? processId = some cursor)
    (covered : ∀ chunk ∈ chunks, chunk.processId = processId →
      cursor.streamEpoch = chunk.streamEpoch ∧ chunk.revision ≤ cursor.revision) :
    (relay live chunks).1.get? processId = some cursor := by
  induction chunks generalizing live with
  | nil => exact found
  | cons chunk rest ih =>
    have coveredRest := fun other mem => covered other (mem_cons_of_mem chunk mem)
    by_cases own : chunk.processId = processId
    · have skipped : shouldSend live chunk = false :=
        shouldSend_eq_false_iff.mpr ⟨cursor, own ▸ found, covered chunk mem_cons_self own⟩
      rw [relay, if_neg (by simp [skipped])]
      exact ih found coveredRest
    · rw [relay]
      split
      · apply ih _ coveredRest
        rw [get?_insert, if_neg (Ne.symm own)]
        exact found
      · exact ih found coveredRest

/-- Left out are the chunks that the first cursors have and that no chunk of another stream of the
process came before. -/
theorem covers_relay_iff {front : List HostOutputChunk} (inOrder : InOrder (front ++ [chunk])) :
    Covers (relay live front).1 chunk ↔
      Covers live chunk ∧ ∀ other ∈ front, other.processId = chunk.processId →
        other.streamEpoch = chunk.streamEpoch := by
  have before : ∀ other ∈ front, other.streamEpoch = chunk.streamEpoch →
      other.revision < chunk.revision := fun other mem =>
    (pairwise_append.mp inOrder).2.2 other mem chunk (mem_singleton_self chunk)
  constructor
  · rintro ⟨cursor, found, epochEq, reached⟩
    rcases relay_cursor live front chunk.processId with
      ⟨same, none⟩ | ⟨last, lastMem, lastProcess, lastCursor⟩
    · refine ⟨⟨cursor, same ▸ found, epochEq, reached⟩, ?_⟩
      intro other mem otherProcess
      -- The other chunk was left out with the same cursor.
      rcases append_of_mem mem with ⟨earlier, _, rfl⟩
      rw [relay_append] at none
      rcases relay_cursor live earlier chunk.processId with
        ⟨sameEarlier, _⟩ | ⟨sent, sentMem, sentProcess, _⟩
      · have skipped : shouldSend (relay live earlier).1 other = false := by
          by_contra sends
          refine none other (mem_append_right _ ?_) otherProcess
          rw [relay, if_pos (by simpa using sends)]
          exact mem_cons_self
        rcases shouldSend_eq_false_iff.mp skipped with ⟨_, otherFound, otherEpoch, _⟩
        rw [otherProcess, sameEarlier, ← same, found] at otherFound
        cases otherFound
        exact otherEpoch.symm.trans epochEq
      · exact absurd sentProcess (none sent (mem_append_left _ sentMem))
    · rw [lastCursor] at found
      cases found
      have earlier := before last ((relay_sublist live front).mem lastMem) epochEq
      exact absurd reached (Nat.not_le.mpr earlier)
  · rintro ⟨⟨cursor, found, epochEq, reached⟩, undisturbed⟩
    refine ⟨cursor, relay_cursor_of_covered found ?_, epochEq, reached⟩
    intro other mem otherProcess
    have otherEpoch := undisturbed other mem otherProcess
    exact ⟨epochEq.trans otherEpoch.symm, (before other mem otherEpoch).le.trans reached⟩

/-- No chunk of another stream of the process comes before one of this stream that the cursors have.
-/
def Undisturbed (live : KeyedMap String OutputCursor) (chunks : List HostOutputChunk)
    (processId streamEpoch : String) : Prop :=
  ∀ front chunk back, chunks = front ++ chunk :: back → chunk.processId = processId →
    chunk.streamEpoch = streamEpoch → Covers live chunk →
      ∀ other ∈ front, other.processId = processId → other.streamEpoch = streamEpoch

/-- Of an undisturbed stream, exactly the chunks that the cursors do not have are sent. -/
theorem mem_relay_iff (inOrder : InOrder chunks)
    (undisturbed : Undisturbed live chunks chunk.processId chunk.streamEpoch) :
    chunk ∈ (relay live chunks).2 ↔ chunk ∈ chunks ∧ ¬ Covers live chunk := by
  constructor
  · intro sent
    have mem := (relay_sublist live chunks).mem sent
    refine ⟨mem, fun covered => ?_⟩
    rcases append_of_mem mem with ⟨front, back, rfl⟩
    have others := undisturbed front chunk back rfl rfl rfl covered
    have parts := pairwise_append.mp inOrder
    have skipped : shouldSend (relay live front).1 chunk = false := by
      apply shouldSend_eq_false_iff.mpr
      apply (covers_relay_iff _).mpr ⟨covered, others⟩
      exact inOrder.sublist ((singleton_sublist.mpr mem_cons_self).append_left front)
    -- The chunk would have been sent in another place, but its revision comes once.
    rw [relay_append, relay, if_neg (by simp [skipped])] at sent
    rcases mem_append.mp sent with early | late
    · have below := parts.2.2 chunk ((relay_sublist live front).mem early) chunk mem_cons_self rfl
      exact absurd below (Nat.lt_irrefl _)
    · have below := (pairwise_cons.mp parts.2.1).1 chunk ((relay_sublist _ back).mem late) rfl
      exact absurd below (Nat.lt_irrefl _)
  · rintro ⟨mem, uncovered⟩
    rcases append_of_mem mem with ⟨front, _, rfl⟩
    have sends : shouldSend (relay live front).1 chunk = true := by
      by_contra skipped
      have covers := shouldSend_eq_false_iff.mp (Bool.eq_false_iff.mpr skipped)
      apply uncovered
      refine ((covers_relay_iff ?_).mp covers).1
      exact inOrder.sublist ((singleton_sublist.mpr mem_cons_self).append_left front)
    rw [relay_append, relay, if_pos sends]
    exact mem_append_right _ mem_cons_self

/-- The cursors after a replay, when it has each process once. -/
theorem get?_replayCursors {replay : List HostOutputReplay}
    (distinct : (replay.map (·.processId)).Nodup) :
    (replayCursors replay).get? processId = some cursor ↔
      ∃ part ∈ replay, part.processId = processId ∧
        cursor = { streamEpoch := part.streamEpoch, revision := part.nextRevision - 1 } := by
  induction replay using reverseRecOn with
  | nil => simp [replayCursors, get?]
  | append_singleton replay last ih =>
    rw [map_append, nodup_append] at distinct
    have unfolded : replayCursors (replay ++ [last]) =
        (replayCursors replay).insert last.processId
          { streamEpoch := last.streamEpoch, revision := last.nextRevision - 1 } := by
      rw [replayCursors, foldl_append]
      rfl
    rw [unfolded, get?_insert]
    by_cases own : processId = last.processId
    · rw [if_pos own, Option.some.injEq]
      constructor
      · rintro rfl
        exact ⟨last, by simp, own.symm, rfl⟩
      rintro ⟨part, mem, partProcess, rfl⟩
      rcases mem_append.mp mem with old | new
      · have clash := distinct.2.2 part.processId (mem_map_of_mem old) last.processId
          (mem_singleton_self _)
        exact absurd (partProcess.trans own) clash
      · cases mem_singleton.mp new
        rfl
    · rw [if_neg own, ih distinct.1]
      constructor
      · rintro ⟨part, mem, rest⟩
        exact ⟨part, mem_append_left _ mem, rest⟩
      rintro ⟨part, mem, partProcess, rest⟩
      rcases mem_append.mp mem with old | new
      · exact ⟨part, old, partProcess, rest⟩
      · cases mem_singleton.mp new
        exact absurd partProcess.symm own

end Treer.Host
