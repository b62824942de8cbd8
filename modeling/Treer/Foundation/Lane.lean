import Mathlib.Algebra.Order.Ring.Nat

/-!
# Lanes with credit

One direction of a connection with flow control. The sender takes chunks from
its source as long as they fit into its window and sends the end last; the
receiver writes one chunk after the other and then gives its length back as
credit. Parcels and credits arrive in order and none is lost.

What the window, the parcels, the chunk in hand and the credits hold together is
the same in every state, and what was written is a front part of what was read.
-/

namespace Treer.Foundation

open List Option

universe u

/-- What a lane carries: some of the source, or its end. -/
inductive Parcel (β : Type u) where
  | chunk (content : List β)
  | close
deriving DecidableEq

variable {β : Type u}

namespace Parcel

def content : Parcel β → List β
  | .chunk content => content
  | .close => []

end Parcel

/-- A lane with both its ends. -/
structure Lane (β : Type u) where
  /-- What the sender may still send. -/
  window : Nat
  parcels : List (Parcel β)
  /-- What the receiver has still to write of the chunk in hand, and the chunk's length. -/
  writing : Option (List β × Nat)
  credits : List Nat
  /-- The sender has sent the end. -/
  finished : Bool
  /-- The receiver has taken the end. -/
  closed : Bool
  (read written : List β)

namespace Lane

/-- Everything that is on the way. -/
def content (parcels : List (Parcel β)) : List β :=
  parcels.flatMap Parcel.content

@[simp]
theorem content_nil : content ([] : List (Parcel β)) = [] :=
  rfl

@[simp]
theorem content_cons (parcel : Parcel β) (rest : List (Parcel β)) :
    content (parcel :: rest) = parcel.content ++ content rest :=
  flatMap_cons

@[simp]
theorem content_append (first second : List (Parcel β)) :
    content (first ++ second) = content first ++ content second :=
  flatMap_append

/-- What is left of the chunk in hand. -/
def unwritten (lane : Lane β) : List β :=
  (lane.writing.map Prod.fst).getD []

/-- What the receiver has in hand and has not given back. -/
def uncredited (lane : Lane β) : Nat :=
  (lane.writing.map Prod.snd).getD 0

/-- What the two ends do with chunks of at most `largest` bytes. -/
inductive Step (largest : Nat) : Lane β → Lane β → Prop where
  | send {lane} (chunk : List β) (unfinished : lane.finished = false)
      (some : chunk ≠ []) (fits : chunk.length ≤ lane.window) (small : chunk.length ≤ largest) :
      Step largest lane
        { lane with
          window := lane.window - chunk.length
          parcels := lane.parcels ++ [.chunk chunk]
          read := lane.read ++ chunk }
  | finish {lane} (unfinished : lane.finished = false) :
      Step largest lane { lane with parcels := lane.parcels ++ [.close], finished := true }
  | take {lane chunk rest}
      (first : lane.parcels = .chunk chunk :: rest) (free : lane.writing = none) :
      Step largest lane { lane with parcels := rest, writing := some (chunk, chunk.length) }
  | write {lane left} {length : Nat} (count : Nat)
      (hand : lane.writing = some (left, length)) :
      Step largest lane
        { lane with
          writing := some (left.drop count, length)
          written := lane.written ++ left.take count }
  | credit {lane} {length : Nat} (hand : lane.writing = some ([], length)) :
      Step largest lane { lane with writing := none, credits := lane.credits ++ [length] }
  | collect {lane amount rest} (first : lane.credits = amount :: rest) :
      Step largest lane { lane with window := lane.window + amount, credits := rest }
  | close {lane rest} (first : lane.parcels = .close :: rest)
      (free : lane.writing = none) :
      Step largest lane { lane with parcels := rest, closed := true }

/-- The books of a lane that started with the window `initial`. -/
structure Sound (initial largest : Nat) (lane : Lane β) : Prop where
  conserved : lane.window + (content lane.parcels).length + lane.uncredited +
    lane.credits.sum = initial
  ordered : lane.written ++ lane.unwritten ++ content lane.parcels = lane.read
  /-- The end is the last parcel, and nothing is left once it was taken. -/
  ending : ∃ chunks : List (List β),
    lane.parcels = chunks.map .chunk ++ (if lane.finished && !lane.closed then [.close] else []) ∧
    (lane.closed → lane.finished ∧ chunks = [] ∧ lane.writing = none)
  sized : ∀ chunk, .chunk chunk ∈ lane.parcels → chunk ≠ [] ∧ chunk.length ≤ largest
  hand : ∀ left length, lane.writing = some (left, length) → 0 < length ∧ length ≤ largest
  positive : ∀ amount ∈ lane.credits, 0 < amount

variable {initial largest : Nat} {lane next : Lane β}

/-- A lane on which nothing was sent. -/
def start (initial : Nat) : Lane β where
  window := initial
  parcels := []
  writing := none
  credits := []
  finished := false
  closed := false
  read := []
  written := []

theorem sound_start : (start initial : Lane β).Sound initial largest where
  conserved := by simp [start, uncredited]
  ordered := by simp [start, unwritten]
  ending := ⟨[], rfl, by simp [start]⟩
  sized := by simp [start]
  hand := by simp [start]
  positive := by simp [start]

namespace Sound

section
variable (sound : lane.Sound initial largest)
include sound

theorem window_le : lane.window ≤ initial := by
  have := sound.conserved
  omega

/-- The receiver has not taken an end that was not sent. -/
theorem not_closed (unfinished : lane.finished = false) : lane.closed = false := by
  obtain ⟨chunks, -, shut⟩ := sound.ending
  cases closed : lane.closed with
  | false => rfl
  | true => exact absurd (shut closed).1 (by simp [unfinished])

/-- Before the end is sent only chunks are on the way. -/
theorem parcels_of_unfinished (unfinished : lane.finished = false) :
    ∃ chunks : List (List β), lane.parcels = chunks.map .chunk := by
  obtain ⟨chunks, parcels, -⟩ := sound.ending
  rw [parcels, unfinished]
  simp

variable {rest : List (Parcel β)}

/-- Nothing comes after the end. -/
theorem of_close (first : lane.parcels = .close :: rest) :
    rest = [] ∧ lane.finished = true ∧ lane.closed = false := by
  obtain ⟨chunks, parcels, -⟩ := sound.ending
  cases chunks with
  | nil =>
    rw [first] at parcels
    cases finished : lane.finished <;> cases closed : lane.closed <;>
      simp [finished, closed] at parcels
    exact ⟨parcels, rfl, rfl⟩
  | cons chunk others =>
    rw [first] at parcels
    cases parcels

variable {chunk : List β}

/-- While a chunk is on the way the end has not been taken. -/
theorem of_chunk (first : lane.parcels = .chunk chunk :: rest) : lane.closed = false := by
  obtain ⟨chunks, parcels, shut⟩ := sound.ending
  cases closed : lane.closed with
  | false => rfl
  | true =>
    rw [first, (shut closed).2.1, closed] at parcels
    simp at parcels

/-- Once the receiver has taken the end, everything was written. -/
theorem written_eq_read (closed : lane.closed = true) : lane.written = lane.read := by
  obtain ⟨chunks, parcels, shut⟩ := sound.ending
  obtain ⟨-, rfl, free⟩ := shut closed
  have ordered := sound.ordered
  rw [parcels, closed] at ordered
  simpa [unwritten, free] using ordered

theorem send (unfinished : lane.finished = false) (some : chunk ≠ [])
    (fits : chunk.length ≤ lane.window) (small : chunk.length ≤ largest) :
    Lane.Sound initial largest
      { lane with
        window := lane.window - chunk.length
        parcels := lane.parcels ++ [.chunk chunk]
        read := lane.read ++ chunk } where
  conserved := by
    have conserved := sound.conserved
    simp only [uncredited, content_append, content_cons, content_nil, length_append,
      Parcel.content, append_nil] at conserved ⊢
    omega
  ordered := by
    rw [← sound.ordered]
    simp [unwritten, Parcel.content]
  ending := by
    obtain ⟨chunks, parcels⟩ := sound.parcels_of_unfinished unfinished
    refine ⟨chunks ++ [chunk], ?_, ?_⟩
    · simp [parcels, unfinished]
    · intro closed
      exact absurd closed (by simp [sound.not_closed unfinished])
  sized := by
    intro other mem
    rcases mem_append.mp mem with mem | mem
    · exact sound.sized other mem
    · cases mem_singleton.mp mem
      exact ⟨some, small⟩
  __ := sound

theorem finish (unfinished : lane.finished = false) : Lane.Sound initial largest
      { lane with parcels := lane.parcels ++ [.close], finished := true } where
  conserved := by
    have conserved := sound.conserved
    simpa [uncredited, Parcel.content] using conserved
  ordered := by
    rw [← sound.ordered]
    simp [unwritten, Parcel.content]
  ending := by
    obtain ⟨chunks, parcels⟩ := sound.parcels_of_unfinished unfinished
    have opened := sound.not_closed unfinished
    exact ⟨chunks, by simp [parcels, opened], by simp [opened]⟩
  sized := by
    intro chunk mem
    rcases mem_append.mp mem with mem | mem
    · exact sound.sized chunk mem
    · cases mem_singleton.mp mem
  __ := sound

theorem take (first : lane.parcels = .chunk chunk :: rest) (free : lane.writing = none) :
    Lane.Sound initial largest
      { lane with parcels := rest, writing := some (chunk, chunk.length) } where
  conserved := by
    have conserved := sound.conserved
    simp only [uncredited, first, free, content_cons, length_append, Parcel.content,
      map_none, getD_none, map_some, getD_some] at conserved ⊢
    omega
  ordered := by
    rw [← sound.ordered]
    simp [unwritten, first, free, Parcel.content]
  ending := by
    obtain ⟨chunks, parcels, -⟩ := sound.ending
    have opened := sound.of_chunk first
    cases chunks with
    | nil =>
      rw [first, opened] at parcels
      cases finished : lane.finished <;> simp [finished] at parcels
    | cons head others =>
      rw [first] at parcels
      exact ⟨others, (cons.inj parcels).2, by simp [opened]⟩
  sized := by
    intro other mem
    exact sound.sized other (by rw [first]; exact mem_cons_of_mem _ mem)
  hand := by
    intro left length hand
    cases hand
    have := sound.sized chunk (by rw [first]; exact mem_cons_self)
    exact ⟨length_pos_iff.mpr this.1, this.2⟩
  positive := sound.positive

theorem write {left : List β} {length : Nat}
    (hand : lane.writing = some (left, length)) (count : Nat) :
    Lane.Sound initial largest
      { lane with
        writing := some (left.drop count, length)
        written := lane.written ++ left.take count } where
  conserved := by
    have conserved := sound.conserved
    simpa [uncredited, hand] using conserved
  ordered := by
    rw [← sound.ordered]
    simp [unwritten, hand]
  ending := by
    obtain ⟨chunks, parcels, shut⟩ := sound.ending
    refine ⟨chunks, parcels, ?_⟩
    intro closed
    exact absurd (shut closed).2.2 (by simp [hand])
  __ := sound
  hand := by
    intro _ _ same
    cases same
    exact sound.hand left length hand

theorem credit {length : Nat} (hand : lane.writing = some ([], length)) : Lane.Sound initial largest
      { lane with writing := none, credits := lane.credits ++ [length] } where
  conserved := by
    have conserved := sound.conserved
    simp only [uncredited, hand, map_some, getD_some, map_none,
      getD_none, sum_append, sum_singleton] at conserved ⊢
    omega
  ordered := by
    rw [← sound.ordered]
    simp [unwritten, hand]
  ending := by
    obtain ⟨chunks, parcels, shut⟩ := sound.ending
    exact ⟨chunks, parcels, fun closed => ⟨(shut closed).1, (shut closed).2.1, rfl⟩⟩
  sized := sound.sized
  hand := by simp
  positive := by
    intro amount mem
    rcases mem_append.mp mem with mem | mem
    · exact sound.positive amount mem
    · cases mem_singleton.mp mem
      exact (sound.hand [] length hand).1

theorem collect {amount : Nat} {rest : List Nat} (first : lane.credits = amount :: rest) :
    Lane.Sound initial largest { lane with window := lane.window + amount, credits := rest } where
  conserved := by
    have conserved := sound.conserved
    simp only [uncredited, first, sum_cons] at conserved ⊢
    omega
  __ := sound
  positive := by
    intro other mem
    exact sound.positive other (by rw [first]; exact mem_cons_of_mem _ mem)

theorem close (first : lane.parcels = .close :: rest) (free : lane.writing = none) :
    Lane.Sound initial largest { lane with parcels := rest, closed := true } where
  conserved := by
    have conserved := sound.conserved
    simpa [uncredited, first, Parcel.content] using conserved
  ordered := by
    rw [← sound.ordered]
    simp [unwritten, first, Parcel.content]
  ending := by
    obtain ⟨rfl, finished, -⟩ := sound.of_close first
    exact ⟨[], by simp, fun _ => ⟨finished, rfl, free⟩⟩
  sized := by
    intro chunk mem
    exact sound.sized chunk (by rw [first]; exact mem_cons_of_mem _ mem)
  __ := sound

theorem step (step : Step largest lane next) : next.Sound initial largest := by
  cases step with
  | send chunk unfinished some fits small => exact sound.send unfinished some fits small
  | finish unfinished => exact sound.finish unfinished
  | take first free => exact sound.take first free
  | write count hand => exact sound.write hand count
  | credit hand => exact sound.credit hand
  | collect first => exact sound.collect first
  | close first free => exact sound.close first free

/-- The books stay right however long the lane is used. -/
theorem steps
    (steps : Relation.ReflTransGen (Step largest) lane next) : next.Sound initial largest := by
  induction steps with
  | refl => exact sound
  | tail _ step sound => exact sound.step step

end
end Sound
end Lane
end Treer.Foundation
