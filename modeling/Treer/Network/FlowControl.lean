import Treer.Foundation.Lane
import Treer.Network.Bridge

/-!
# Flow control of a service stream

Each direction of a stream is a lane with credit: `Link.lane` reads it off the two
bridges and the frames between them. Whatever happens to a bridge is a few steps
of the lane it sends on and of the lane it receives from, or none of theirs.

So the books of both lanes are right in every state. The Controller's checks of
chunks and credits never fail, although the Proxy makes none, and a bridge that
ends without an error has written everything its peer has read.
-/

namespace Treer.Network

open Foundation Phase List Function Bool Relation

/-- The frame that waits to be sent. -/
@[simp]
def Phase.held : Phase → List NetworkBinaryFrame
  | .sending frame => [frame]
  | .selecting | .writing _ _ | .shutting => []

/-- The chunk that is being written. -/
def Phase.inHand : Phase → Option (List UInt8 × Nat)
  | .writing rest length => some (rest, length)
  | .selecting | .sending _ | .shutting => none

namespace NetworkBinaryFrame

variable (frame : NetworkBinaryFrame)

/-- The bytes of a data frame. -/
def dataLength : Nat :=
  if frame.kind = .data then frame.payload.length else 0

/-- The credit of a window update. -/
@[simp]
def credit? : Option Nat :=
  if frame.kind = .windowUpdate then fromBeBytes frame.payload else none

/-- The parcel of its direction's lane that a frame is. -/
@[simp]
def parcel? : Option (Parcel UInt8) :=
  match frame.kind with
  | .data => some (.chunk frame.payload)
  | .halfClose => some .close
  | _ => none

/-- The frames of an open stream. -/
def Regular : Prop :=
  match frame.kind with
  | .data | .halfClose | .reset => True
  | .windowUpdate => (fromBeBytes frame.payload).isSome
  | _ => False

theorem dataLength_eq : frame.dataLength = (Lane.content frame.parcel?.toList).length := by
  rcases frame with ⟨kind, _⟩
  cases kind <;> simp [dataLength, parcel?, Parcel.content]

end NetworkBinaryFrame

open NetworkBinaryFrame

namespace Link

variable (codec : ResetCodec) (link : Link) (party : Party)

/-- The frames from a party that its peer has not taken. -/
def pipeline : List NetworkBinaryFrame :=
  link.queue party.other ++ (link.side party).phase.held

/-- The bytes of the party that its peer has not received. -/
def dataInFlight : Nat :=
  ((link.pipeline party).map dataLength).sum

/-- The bytes of the party that its peer has received and not credited. -/
def uncredited : Nat :=
  ((link.side party.other).phase.inHand.map Prod.snd).getD 0

/-- The credit on the way back to the party. -/
def creditInFlight : Nat :=
  ((link.pipeline party.other).filterMap credit?).sum

end Link

/-- The bridge has taken the end of its peer. -/
def Side.sawEnd (side : Side) : Bool :=
  side.remoteClosed || side.phase = .shutting

/-- The lane between two bridges, with the frames in its direction and those that
come back. -/
def laneOf (sender receiver : Side) (ahead back : List NetworkBinaryFrame) : Lane UInt8 where
  window := sender.sendWindow
  parcels := (ahead ++ sender.phase.held).filterMap parcel?
  writing := receiver.phase.inHand
  credits := (back ++ receiver.phase.held).filterMap credit?
  finished := sender.localClosed
  closed := receiver.sawEnd
  read := sender.readBytes
  written := receiver.written

def Link.lane (link : Link) (party : Party) : Lane UInt8 :=
  laneOf (link.side party) (link.side party.other) (link.queue party.other) (link.queue party)

theorem Link.dataInFlight_eq (link : Link) (party : Party) :
    link.dataInFlight party = (Lane.content (link.lane party).parcels).length := by
  rw [dataInFlight, lane, laneOf, pipeline]
  generalize link.queue party.other ++ (link.side party).phase.held = frames
  induction frames with
  | nil => rfl
  | cons frame rest ih =>
    rw [map_cons, sum_cons, ih, frame.dataLength_eq, filterMap_cons]
    cases frame.parcel? <;> simp

theorem Link.uncredited_eq (link : Link) (party : Party) :
    link.uncredited party = (link.lane party).uncredited :=
  rfl

theorem Link.creditInFlight_eq (link : Link) (party : Party) :
    link.creditInFlight party = (link.lane party).credits.sum := by
  rw [creditInFlight, pipeline, Party.other_other]
  rfl

/-- What a bridge does with the frames of a peer that keeps the rules. -/
structure Bridge.Obeys (bridge : Bridge) : Prop where
  startWindow_eq : bridge.startWindow = initialWindow
  chunkLimit_eq : bridge.chunkLimit = maxChunk
  amount_eq : ∀ {length : Nat}, length ≤ maxChunk → bridge.amount length = length
  data : ∀ {side : Side} {payload : List UInt8}, side.remoteClosed = false →
    payload.length ≤ maxChunk →
    bridge.receive side ⟨.data, payload⟩ = side.writeAll bridge.amount payload payload.length
  windowUpdate : ∀ {side : Side} {payload : List UInt8} {credit : Nat},
    fromBeBytes payload = some credit → 0 < credit → side.sendWindow + credit ≤ initialWindow →
    bridge.receive side ⟨.windowUpdate, payload⟩ =
      { side with sendWindow := side.sendWindow + credit }.top
  halfClose : ∀ {side : Side} {payload : List UInt8}, side.remoteClosed = false →
    bridge.receive side ⟨.halfClose, payload⟩ = { side with phase := .shutting }
  reset : ∀ {side : Side} {payload : List UInt8},
    bridge.receive side ⟨.reset, payload⟩ = side.fail (.reset payload)

theorem controllerBridge_obeys : controllerBridge.Obeys where
  startWindow_eq := rfl
  chunkLimit_eq := rfl
  amount_eq := by
    intro length small
    refine Nat.mod_eq_of_lt (small.trans_lt ?_)
    decide
  data := by
    intro side payload opened small
    simp [controllerBridge, controllerReceive, opened, small]
  windowUpdate := by
    intro side payload credit decoded positive fits
    have room : credit ≤ initialWindow - side.sendWindow := by omega
    simp [controllerBridge, controllerReceive, decoded, positive, room]
  halfClose := by
    intro side payload opened
    simp [controllerBridge, controllerReceive, opened]
  reset := rfl

theorem proxyBridge_obeys (decode : List UInt8 → Option Protocol.ProtocolError) :
    (proxyBridge decode).Obeys where
  startWindow_eq := rfl
  chunkLimit_eq := rfl
  amount_eq := by
    intro length small
    refine if_pos (small.trans_lt ?_)
    decide
  data := by
    intro side payload opened small
    rfl
  windowUpdate := by
    intro side payload credit decoded positive fits
    have exact : saturatingAdd side.sendWindow credit = side.sendWindow + credit := by
      refine min_eq_left (fits.trans ?_)
      decide
    simp [proxyBridge, proxyReceive, decoded, exact]
  halfClose := by
    intro side payload opened
    simp [proxyBridge, proxyReceive, opened]
  reset := rfl

theorem ResetCodec.bridge_obeys (codec : ResetCodec) (party : Party) :
    (codec.bridge party).Obeys := by
  cases party with
  | controller => exact controllerBridge_obeys
  | proxy => exact proxyBridge_obeys codec.decode

variable {side : Side}

namespace Side

/-- The top of the loop chooses the phase, and may end the bridge. -/
@[simp]
theorem top_fields (side : Side) :
    side.top.phase = .selecting ∧ side.top.sendWindow = side.sendWindow ∧
      side.top.localClosed = side.localClosed ∧ side.top.remoteClosed = side.remoteClosed ∧
      side.top.readBytes = side.readBytes ∧ side.top.written = side.written := by
  rw [top]
  split <;> exact ⟨rfl, rfl, rfl, rfl, rfl, rfl⟩

end Side

open Side (mayRead sawEnd writeAll)
variable {amount : Nat → Nat} {bytes : List UInt8} {frame : NetworkBinaryFrame} {length : Nat}
  {bridge : Bridge}

section
open Lane
variable {peer : Side} {ahead back : List NetworkBinaryFrame} {rest : List UInt8}

/-- A frame that is no credit does not show in the lane back. -/
theorem laneOf_cons_back (silent : frame.credit? = none) :
    laneOf side peer ahead (frame :: back) = laneOf side peer ahead back := by
  rw [laneOf, laneOf, cons_append, filterMap_cons_none silent]

theorem step_laneOf_read (selecting : side.phase = .selecting) (may : side.mayRead maxChunk bytes) :
    Step maxChunk (laneOf side peer ahead back) (laneOf (side.read bytes) peer ahead back) := by
  simp only [mayRead, and_eq_true, not_eq_true', decide_eq_true_eq, Nat.le_min] at may
  obtain ⟨⟨opened, -⟩, fits, small⟩ := may
  cases bytes with
  | nil =>
    have step : Step maxChunk (laneOf side peer ahead back) _ := Step.finish opened
    simpa [laneOf, Side.read, selecting] using step
  | cons byte rest =>
    have step : Step maxChunk (laneOf side peer ahead back) _ :=
      Step.send (byte :: rest) opened (cons_ne_nil _ _) fits small
    simpa [laneOf, Side.read, selecting] using step

/-- The socket takes some bytes of a chunk; after the last one the chunk is given
back. -/
theorem steps_laneOf_writeAll (obeys : bridge.Obeys) (small : length ≤ maxChunk)
    (phase : side.phase = .writing rest length) :
    ReflTransGen (Step maxChunk) (laneOf peer side back ahead)
      (laneOf peer (side.writeAll bridge.amount rest length) back ahead) := by
  cases rest with
  | cons => rw [writeAll, ← phase]
  | nil =>
    have step : Step maxChunk (laneOf peer side back ahead) _ :=
      Step.credit (by rw [laneOf, phase, inHand])
    have decoded : fromBeBytes (toBeBytes length) = some length :=
      fromBeBytes_toBeBytes (small.trans_lt (by decide))
    refine .single ?_
    simpa [laneOf, writeAll, phase, inHand, sawEnd, obeys.amount_eq small, decoded] using step

theorem steps_laneOf_write (obeys : bridge.Obeys) (small : length ≤ maxChunk)
    (phase : side.phase = .writing rest length) (count : Nat) :
    ReflTransGen (Step maxChunk) (laneOf peer side back ahead)
      (laneOf peer (side.write bridge.amount rest length count) back ahead) := by
  rw [Side.write]
  split
  · exact .refl
  have written : Step maxChunk (laneOf peer side back ahead) _ :=
    Step.write count (by rw [laneOf, phase, inHand])
  let later : Side :=
    { side with
      phase := .writing (rest.drop count) length
      written := side.written ++ rest.take count }
  have reached : Step maxChunk (laneOf peer side back ahead) (laneOf peer later back ahead) := by
    simpa [later, laneOf, phase, inHand, sawEnd] using written
  have whole : ReflTransGen (Step maxChunk) (laneOf peer later back ahead)
      (laneOf peer (later.writeAll bridge.amount (rest.drop count) length) back ahead) :=
    steps_laneOf_writeAll obeys small rfl
  refine (ReflTransGen.single reached).trans ?_
  exact whole

theorem laneOf_writeAll_sender (quiet : side.phase.held = []) :
    laneOf (side.writeAll amount rest length) peer ahead back = laneOf side peer ahead back := by
  rw [laneOf, laneOf, quiet]
  cases rest <;> simp [writeAll]

end

/-- A bridge ends after both ends were seen, or because of something else than a
violated rule. -/
structure Side.Proper (side : Side) : Prop where
  lawful : ∀ error, side.ended = some (.error error) → error.isViolation = false
  complete : side.ended = some (.ok ()) → side.localClosed = true ∧ side.remoteClosed = true

namespace Side

variable {rest : List UInt8}

theorem proper_of_running (running : side.ended = none) : side.Proper where
  lawful := by simp [running]
  complete := by simp [running]

theorem proper_top (running : side.ended = none) : side.top.Proper := by
  rw [top]
  split
  · rename_i both
    exact ⟨by simp, fun _ => by simpa using both⟩
  · exact proper_of_running running

theorem proper_fail {error : StreamError} (lawful : error.isViolation = false) :
    (side.fail error).Proper where
  lawful := by
    intro other same
    cases same
    exact lawful
  complete := by
    intro same
    cases same

theorem ended_writeAll : (side.writeAll amount rest length).ended = side.ended := by
  cases rest <;> rfl

theorem proper_write {count : Nat} (running : side.ended = none) :
    (side.write amount rest length count).Proper := by
  rw [write]
  split
  · exact proper_fail rfl
  · exact proper_of_running (ended_writeAll.trans running)

end Side

section
open Lane
variable {peer : Side} {ahead back : List NetworkBinaryFrame}

/-- What happens to the two lanes of a bridge. -/
structure Moves (side peer : Side) (ahead back : List NetworkBinaryFrame) (changed : Side)
    (aheadNow backNow : List NetworkBinaryFrame) : Prop where
  sender : Relation.ReflTransGen (Step maxChunk) (laneOf side peer ahead back)
    (laneOf changed peer aheadNow backNow)
  receiver : Relation.ReflTransGen (Step maxChunk) (laneOf peer side back ahead)
    (laneOf peer changed backNow aheadNow)
  proper : changed.Proper
  /-- A new frame that waits to be sent is one of an open stream. -/
  held : ∀ frame ∈ changed.phase.held, frame ∈ side.phase.held ∨ frame.Regular

theorem held_writeAll {rest : List UInt8} :
    ∀ frame ∈ (side.writeAll amount rest length).phase.held, frame.Regular := by
  intro frame mem
  cases rest with
  | nil =>
    cases mem_singleton.mp mem
    exact Option.isSome_some
  | cons => cases mem

theorem held_top : ∀ frame ∈ side.top.phase.held, frame ∈ side.phase.held ∨ frame.Regular := by
  intro frame mem
  rw [side.top_fields.1] at mem
  cases mem

variable {payload : List UInt8}

section
variable (obeys : bridge.Obeys) (selecting : side.phase = .selecting) (running : side.ended = none)
include obeys selecting running

theorem moves_data
    (sound : (laneOf peer side (⟨.data, payload⟩ :: back) ahead).Sound initialWindow maxChunk) :
    Moves side peer ahead (⟨.data, payload⟩ :: back)
      (bridge.receive side ⟨.data, payload⟩) ahead back := by
  have first : (laneOf peer side (⟨.data, payload⟩ :: back) ahead).parcels =
      .chunk payload :: (back ++ peer.phase.held).filterMap parcel? := by
    simp [laneOf]
  have sized := sound.sized payload (by rw [first]; exact mem_cons_self)
  have opened : side.remoteClosed = false := by
    have closed := sound.of_chunk first
    simp only [laneOf, sawEnd, or_eq_false_iff] at closed
    exact closed.1
  rw [obeys.data opened sized.2]
  refine ⟨?_, ?_, Side.proper_of_running (Side.ended_writeAll.trans running),
    fun frame mem => .inr (held_writeAll frame mem)⟩
  · rw [laneOf_writeAll_sender (by rw [selecting, held]), laneOf_cons_back rfl]
  refine .single ?_
  have step : Step maxChunk (laneOf peer side (⟨.data, payload⟩ :: back) ahead) _ :=
    Step.take first (by rw [laneOf, selecting, inHand])
  obtain ⟨_, _, rfl⟩ := exists_cons_of_ne_nil sized.1
  simpa [laneOf, writeAll, selecting, inHand, sawEnd] using step

theorem moves_windowUpdate {credit : Nat} (decoded : fromBeBytes payload = some credit)
    (sound : (laneOf side peer ahead (⟨.windowUpdate, payload⟩ :: back)).Sound initialWindow
      maxChunk) :
    Moves side peer ahead (⟨.windowUpdate, payload⟩ :: back)
      (bridge.receive side ⟨.windowUpdate, payload⟩) ahead back := by
  have first : (laneOf side peer ahead (⟨.windowUpdate, payload⟩ :: back)).credits =
      credit :: (back ++ peer.phase.held).filterMap credit? := by
    simp [laneOf, decoded]
  have positive := sound.positive credit (by rw [first]; exact mem_cons_self)
  have fits : side.sendWindow + credit ≤ initialWindow := (sound.collect first).window_le
  rw [obeys.windowUpdate decoded positive fits]
  refine ⟨?_, ?_, Side.proper_top running, held_top⟩
  · refine .single ?_
    have step : Step maxChunk (laneOf side peer ahead (⟨.windowUpdate, payload⟩ :: back)) _ :=
      Step.collect first
    simpa [laneOf, selecting] using step
  · have same : laneOf peer { side with sendWindow := side.sendWindow + credit }.top back ahead =
        laneOf peer side (⟨.windowUpdate, payload⟩ :: back) ahead := by
      simp [laneOf, selecting, sawEnd, filterMap_cons]
    rw [same]

theorem moves_halfClose
    (sound : (laneOf peer side (⟨.halfClose, payload⟩ :: back) ahead).Sound initialWindow
      maxChunk) :
    Moves side peer ahead (⟨.halfClose, payload⟩ :: back)
      (bridge.receive side ⟨.halfClose, payload⟩) ahead back := by
  have first : (laneOf peer side (⟨.halfClose, payload⟩ :: back) ahead).parcels =
      .close :: (back ++ peer.phase.held).filterMap parcel? := by
    simp [laneOf]
  have opened : side.remoteClosed = false := by
    have closed := (sound.of_close first).2.2
    simp only [laneOf, sawEnd, or_eq_false_iff] at closed
    exact closed.1
  rw [obeys.halfClose opened]
  refine ⟨?_, ?_, Side.proper_of_running running, by simp⟩
  · rw [laneOf_cons_back rfl]
    have same : laneOf { side with phase := .shutting } peer ahead back =
        laneOf side peer ahead back := by
      simp [laneOf, selecting]
    rw [same]
  · refine .single ?_
    have step : Step maxChunk (laneOf peer side (⟨.halfClose, payload⟩ :: back) ahead) _ :=
      Step.close first (by rw [laneOf, selecting, inHand])
    simpa [laneOf, selecting, inHand, sawEnd] using step

end

theorem moves_reset (obeys : bridge.Obeys) : Moves side peer ahead (⟨.reset, payload⟩ :: back)
      (bridge.receive side ⟨.reset, payload⟩) ahead back := by
  rw [obeys.reset]
  refine ⟨?_, ?_, Side.proper_fail rfl, fun _ mem => .inl mem⟩
  · exact .refl
  · exact .refl

/-- A bridge takes the frames of an open stream without complaint. -/
theorem moves_receive (obeys : bridge.Obeys) (selecting : side.phase = .selecting)
    (running : side.ended = none) (regular : frame.Regular)
    (sends : (laneOf side peer ahead (frame :: back)).Sound initialWindow maxChunk)
    (receives : (laneOf peer side (frame :: back) ahead).Sound initialWindow maxChunk) :
    Moves side peer ahead (frame :: back) (bridge.receive side frame) ahead back := by
  rcases frame with ⟨kind, _⟩
  cases kind with
  | data => exact moves_data obeys selecting running receives
  | windowUpdate =>
    obtain ⟨_, decoded⟩ := Option.isSome_iff_exists.mp regular
    exact moves_windowUpdate obeys selecting running decoded sends
  | halfClose => exact moves_halfClose obeys selecting running receives
  | reset => exact moves_reset obeys
  | «open» | opened | direct | usage | openDatagram | usageAck => exact regular.elim

end

/-! ## Both directions -/

/-- What holds of a stream at any time. -/
structure Link.Sound (link : Link) : Prop where
  lanes : ∀ party, (link.lane party).Sound initialWindow maxChunk
  regular : ∀ party, ∀ frame ∈ link.pipeline party, frame.Regular
  proper : ∀ party, (link.side party).Proper

namespace Link.Sound

variable {link next : Link} {party : Party} {changed : Side}
variable {aheadNow backNow : List NetworkBinaryFrame}

section
variable (sound : link.Sound)
include sound

/-- One bridge changes, and with it the frames around it. -/
theorem change (side : next.side = update link.side party changed)
    (ahead : next.queue party.other = aheadNow) (back : next.queue party = backNow)
    (moves : Moves (link.side party) (link.side party.other) (link.queue party.other)
      (link.queue party) changed aheadNow backNow)
    (known : ∀ frame ∈ aheadNow, frame ∈ link.pipeline party ∨ frame.Regular)
    (fewer : ∀ frame ∈ backNow, frame ∈ link.queue party) : next.Sound := by
  have self : next.side party = changed := by rw [side, update_self]
  have peer : next.side party.other = link.side party.other := by
    rw [side, update_of_ne party.other_ne]
  constructor
  · intro either
    rcases either.eq_or_eq_other party with rfl | rfl
    · rw [lane, self, peer, ahead, back]
      exact (sound.lanes either).steps moves.sender
    · rw [lane, Party.other_other, self, peer, ahead, back]
      have before := sound.lanes party.other
      rw [lane, Party.other_other] at before
      exact before.steps moves.receiver
  · intro either frame mem
    rcases either.eq_or_eq_other party with rfl | rfl
    · rw [pipeline, self, ahead] at mem
      rcases mem_append.mp mem with mem | mem
      · exact (known frame mem).elim (sound.regular either frame) id
      · refine (moves.held frame mem).elim (fun old => ?_) id
        exact sound.regular either frame (mem_append_right _ old)
    · rw [pipeline, Party.other_other, peer, back] at mem
      refine sound.regular party.other frame ?_
      rw [pipeline, Party.other_other]
      rcases mem_append.mp mem with mem | mem
      · exact mem_append_left _ (fewer frame mem)
      · exact mem_append_right _ mem
  · intro either
    rcases either.eq_or_eq_other party with rfl | rfl
    · rw [self]
      exact moves.proper
    · rw [peer]
      exact sound.proper party.other

/-- One bridge changes, and no frame moves. -/
theorem setSide (moves : Moves (link.side party) (link.side party.other) (link.queue party.other)
      (link.queue party) changed (link.queue party.other) (link.queue party)) :
    (link.setSide party changed).Sound :=
  sound.change rfl rfl rfl moves (fun _ mem => .inl (mem_append_left _ mem)) fun _ mem => mem

theorem read (running : (link.side party).ended = none)
    (selecting : (link.side party).phase = .selecting)
    (may : (link.side party).mayRead maxChunk bytes) :
    (link.setSide party ((link.side party).read bytes)).Sound := by
  refine sound.setSide ⟨.single (step_laneOf_read selecting may), ?_, ?_, ?_⟩
  · have same : ∀ peer ahead back, laneOf peer ((link.side party).read bytes) back ahead =
        laneOf peer (link.side party) back ahead := by
      cases bytes <;> simp [laneOf, Side.read, selecting, inHand, sawEnd]
    rw [same]
  · refine Side.proper_of_running ?_
    cases bytes <;> exact running
  · intro frame mem
    right
    cases bytes <;> cases mem_singleton.mp mem <;> trivial

theorem send (running : (link.side party).ended = none)
    (sending : (link.side party).phase = .sending frame) :
    ((link.push party.other frame).setSide party (link.side party).top).Sound := by
  refine sound.change rfl (update_self _ _ _)
    (update_of_ne party.other_ne.symm _ _)
    ⟨?_, ?_, Side.proper_top running, held_top⟩ ?_ fun _ mem => mem
  · simpa [laneOf, sending] using .refl
  · simpa [laneOf, sending, inHand, sawEnd] using .refl
  intro other mem
  left
  rw [pipeline, sending, Phase.held]
  exact mem

theorem receive (obeys : bridge.Obeys) (running : (link.side party).ended = none)
    (selecting : (link.side party).phase = .selecting)
    {rest : List NetworkBinaryFrame} (queue : link.queue party = frame :: rest) :
    ((link.setQueue party rest).setSide party (bridge.receive (link.side party) frame)).Sound := by
  have regular : frame.Regular := by
    refine sound.regular party.other frame ?_
    rw [pipeline, Party.other_other, queue]
    exact mem_append_left _ mem_cons_self
  have sends := sound.lanes party
  have receives := sound.lanes party.other
  rw [lane, queue] at sends
  rw [lane, Party.other_other, queue] at receives
  refine sound.change rfl (update_of_ne party.other_ne _ _) (update_self _ _ _)
    ?_ (fun _ mem => .inl (mem_append_left _ mem)) ?_
  · rw [queue]
    exact moves_receive obeys selecting running regular sends receives
  · intro other mem
    rw [queue]
    exact mem_cons_of_mem _ mem

theorem write (obeys : bridge.Obeys) (running : (link.side party).ended = none) {rest : List UInt8}
    (writing : (link.side party).phase = .writing rest length) (count : Nat) :
    (link.setSide party ((link.side party).write bridge.amount rest length count)).Sound := by
  have before := sound.lanes party.other
  rw [lane, Party.other_other] at before
  have small := (before.hand rest length (by rw [laneOf, writing, inHand])).2
  refine sound.setSide ⟨?_, steps_laneOf_write obeys small writing count,
    Side.proper_write running, ?_⟩
  · rw [Side.write]
    split
    · exact .refl
    · rw [laneOf_writeAll_sender (by rw [writing, held])]
      exact .refl
  · intro frame mem
    rw [Side.write] at mem
    split at mem
    · exact .inl mem
    · exact .inr (held_writeAll frame mem)

theorem shutdown (running : (link.side party).ended = none)
    (shutting : (link.side party).phase = .shutting) :
    (link.setSide party { link.side party with remoteClosed := true }.top).Sound := by
  refine sound.setSide ⟨?_, ?_, Side.proper_top running, held_top⟩
  · simpa [laneOf, shutting] using .refl
  · simpa [laneOf, shutting, inHand, sawEnd] using .refl

end

variable (codec : ResetCodec)

/-- Whatever happens in the loop of a bridge keeps the books. -/
theorem run (sound : link.Sound) (running : (link.side party).ended = none) (event : Event) :
    (link.run codec party event).Sound := by
  have obeys := codec.bridge_obeys party
  unfold Link.run
  dsimp only
  split
  · rename_i bytes selecting
    split
    · rename_i may
      rw [obeys.chunkLimit_eq] at may
      exact sound.read running selecting may
    · exact sound
  · rename_i selecting
    split
    · exact sound
    · rename_i frame rest queue
      exact sound.receive obeys running selecting queue
  · rename_i frame sending
    exact sound.send running sending
  · rename_i count rest length writing
    exact sound.write obeys running writing count
  · rename_i shutting
    exact sound.shutdown running shutting
  · rename_i interruption
    refine sound.setSide ⟨.refl, .refl, Side.proper_fail ?_, fun _ mem => .inl mem⟩
    cases interruption <;> rfl
  · exact sound

/-- The reset of a bridge that has ended is on no lane. -/
theorem finish (sound : link.Sound) (result : Except StreamError Unit) :
    (link.finish codec party result).Sound := by
  have proper := sound.proper party
  rw [Link.finish]
  split
  · exact sound
  split
  · exact sound.setSide ⟨.refl, .refl, { proper with }, fun _ mem => .inl mem⟩
  refine sound.change rfl
    (update_self _ _ _) (update_of_ne party.other_ne.symm _ _)
    ⟨?_, ?_, { proper with }, fun _ mem => .inl mem⟩ ?_ fun _ mem => mem
  · simpa [laneOf] using .refl
  · simpa [laneOf] using .refl
  intro frame mem
  rcases mem_append.mp mem with mem | mem
  · exact .inl (mem_append_left _ mem)
  · cases mem_singleton.mp mem
    exact .inr trivial

theorem step (sound : link.Sound) (action : Party × Event) : (link.step codec action).2.Sound := by
  rw [Link.step]
  split
  · rename_i running
    exact sound.run codec running _
  · exact sound.finish codec _
  · exact sound

end Link.Sound

theorem Link.sound_initial (codec : ResetCodec) : (Link.initial codec).Sound where
  lanes := by
    intro party
    have start : (Link.initial codec).lane party = Lane.start (codec.bridge party).startWindow :=
      rfl
    rw [start, (codec.bridge_obeys party).startWindow_eq]
    exact Lane.sound_start
  regular := by
    intro party frame mem
    cases mem
  proper := fun party => Side.proper_of_running rfl

/-- In every state each direction's window, its bytes on the way or in hand and its credit on the
way back are the initial window together. So the window stays within bounds, no bridge ends with a
violated rule, and once both have ended without an error each socket was written what was read from
the other. -/
theorem Link.credit_is_conserved (codec : ResetCodec) (actions : List (Party × Event))
    (party : Party) :
    let link := exec (Link.step codec) (Link.initial codec) actions
    let window := (link.side party).sendWindow
    window + link.dataInFlight party + link.uncredited party + link.creditInFlight party =
        (codec.bridge party).startWindow ∧
      window ≤ (codec.bridge party).startWindow ∧
      (∀ bytes, (link.side party).mayRead (codec.bridge party).chunkLimit bytes →
        bytes.length ≤ window) ∧
      link.dataInFlight party + link.uncredited party ≤ (codec.bridge party).startWindow ∧
      (∀ error, (link.side party).ended = some (.error error) → error.isViolation = false) ∧
      ((∀ either, (link.side either).ended = some (.ok ())) →
        (link.side party.other).written = (link.side party).readBytes) := by
  intro link window
  have sound : link.Sound :=
    exec_invariant (fun _ action sound => sound.step codec action) (sound_initial codec) actions
  have lane := sound.lanes party
  have conserved : window + link.dataInFlight party + link.uncredited party +
      link.creditInFlight party = (codec.bridge party).startWindow := by
    rw [link.dataInFlight_eq, link.uncredited_eq, link.creditInFlight_eq,
      (codec.bridge_obeys party).startWindow_eq]
    exact lane.conserved
  refine ⟨conserved, by omega, ?_, by omega, (sound.proper party).lawful, ?_⟩
  · intro bytes may
    simp only [mayRead, and_eq_true, decide_eq_true_eq, Nat.le_min] at may
    exact may.2.1
  · intro ended
    have closed := ((sound.proper party.other).complete (ended party.other)).2
    exact lane.written_eq_read (by simp [Link.lane, laneOf, sawEnd, closed])

/-- Three bytes to the Controller and one to the Proxy. -/
def Link.exchange : List (Party × Event) :=
  [(.proxy, .read [1, 2, 3]), (.proxy, .send), (.controller, .receive), (.controller, .write 2),
    (.controller, .write 1), (.controller, .send), (.controller, .read [4]), (.controller, .send),
    (.proxy, .receive), (.proxy, .receive), (.proxy, .write 1), (.proxy, .send),
    (.proxy, .read []), (.proxy, .send), (.controller, .receive), (.controller, .receive),
    (.controller, .shutdown), (.controller, .read []), (.controller, .send), (.proxy, .receive),
    (.proxy, .shutdown)]

/-- Resets without a text. -/
def ResetCodec.plain : ResetCodec :=
  ⟨fun _ => [], fun _ => none⟩

theorem Link.exchange_ends_with_equal_bytes :
    ((exec (Link.step .plain) (Link.initial .plain) Link.exchange).side
        Party.proxy.other).written =
      ((exec (Link.step .plain) (Link.initial .plain) Link.exchange).side .proxy).readBytes := by
  apply (Link.credit_is_conserved .plain Link.exchange .proxy).2.2.2.2.2
  intro either
  cases either <;> decide +kernel

end Treer.Network
