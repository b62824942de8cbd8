import Treer.Network.FlowControl

/-!
# The frame queue of a Controller's stream

Frames that arrive at the Controller pass through `handle_incoming`, which puts
them into the queue of their stream without waiting. The queue has room for 32
frames, and a stream whose queue does not take a frame is reset.

The window of a stream counts bytes, so it does not bound the frames. They are
bounded when neither end reads from its socket while 32 frames of the stream, of
both directions together, are not dealt with.
-/

namespace Treer.Network

open Foundation Protocol List Function Phase

def streamChannelCapacity : Nat := 32

/-- A stream with its entry in the Controller's table. The link's queue to the
Controller has the frames that did not arrive; `channel` those that the bridge has
not taken. -/
structure Delivery where
  link : Link
  channel : List NetworkBinaryFrame
  registered : Bool
  /-- A frame has found the queue full. -/
  foundFull : Bool
  /-- The stream was reset with `stream_backpressure`. -/
  backpressured : Bool

inductive Delivery.Action where
  | bridge (party : Party) (event : Event)
  | incoming
  /-- The Controller's connection is lost: `reset_all`. -/
  | resetAll

namespace Delivery

variable (codec : ResetCodec)

def initial : Delivery where
  link := Link.initial codec
  channel := []
  registered := true
  foundFull := false
  backpressured := false

variable (delivery : Delivery)

def reject (code message : String) : Delivery :=
  { delivery with
    link := delivery.link.push .proxy ⟨.reset, codec.encode ⟨code, message, none⟩⟩ }

/-- `sender.try_send(frame)` fails when the queue is full, and when the bridge has
returned and its end of the queue is gone. -/
def trySend (frame : NetworkBinaryFrame) : Option Delivery :=
  if (delivery.link.side .controller).ended.isNone &&
      delivery.channel.length < streamChannelCapacity then
    some { delivery with channel := delivery.channel ++ [frame] }
  else none

/-- `NetworkRuntime::handle_incoming` for a frame of the stream. -/
def handleIncoming (frame : NetworkBinaryFrame) : Delivery :=
  match frame.kind with
  | .open =>
    -- Without an entry it opens another stream.
    if delivery.registered then
      delivery.reject codec "stream_unavailable" "Service stream already exists or limit reached"
    else delivery
  | .openDatagram | .direct | .usage | .usageAck =>
    delivery.reject codec "unsupported_transport"
      "Only explicit registered TCP service streams are supported"
  | .reset => { delivery with registered := false }
  | .opened | .data | .windowUpdate | .halfClose =>
    if delivery.registered then
      match delivery.trySend frame with
      | some delivery => delivery
      | none =>
        { delivery with
          registered := false
          foundFull :=
            delivery.foundFull || streamChannelCapacity ≤ delivery.channel.length
          backpressured := true }.reject codec "stream_backpressure"
            "Service stream stopped accepting frames"
    else delivery.reject codec "stream_not_found" "Service stream does not exist"

/-- The Controller's bridge takes its frames from the queue of the stream. -/
def stepController (event : Event) : Delivery :=
  let seen := delivery.link.setQueue .controller delivery.channel
  let after := (seen.step codec (.controller, event)).2
  { delivery with
    link := after.setQueue .controller (delivery.link.queue .controller)
    channel := after.queue .controller }

/-- The stream's task. It is cancelled only after its entry was taken away; after the bridge it
removes its own entry and then reports. -/
def controllerTask : Event → Delivery
  | .interrupt .cancelled =>
    if delivery.registered then delivery
    else delivery.stepController codec (.interrupt .cancelled)
  | .report =>
    if delivery.registered && (delivery.link.side .controller).ended.isSome then
      { delivery.stepController codec .report with registered := false }
    else delivery
  | event => delivery.stepController codec event

def step : Action → Unit × Delivery
  | .bridge .controller event => ((), delivery.controllerTask codec event)
  | .bridge .proxy event =>
    ((), { delivery with link := (delivery.link.step codec (.proxy, event)).2 })
  | .incoming =>
    match delivery.link.queue .controller with
    | [] => ((), delivery)
    | frame :: rest =>
      ((), { delivery with link := delivery.link.setQueue .controller rest }.handleIncoming
        codec frame)
  | .resetAll => ((), { delivery with registered := false })

end Delivery

/-! ## Frames that were not dealt with -/

/-- The frames of a list that take a place in a queue. -/
def frameCount (frames : List NetworkBinaryFrame) : Nat :=
  frames.countP fun frame => frame.kind ≠ .reset

/-- A frame that waits to be sent, or a chunk in hand. -/
def Phase.load (phase : Phase) : Nat :=
  frameCount phase.held + phase.inHand.toList.length

/-- The frames that an event adds. -/
def Event.added : Event → Nat
  | .read _ => 1
  | _ => 0

/-- The frames of both directions that are on the way or in the hands of a bridge. -/
def Link.outstanding (link : Link) : Nat :=
  (link.side .controller).phase.load + (link.side .proxy).phase.load +
    frameCount (link.queue .controller) + frameCount (link.queue .proxy)

/-- The frames of both directions that no bridge has dealt with. -/
def Delivery.outstanding (delivery : Delivery) : Nat :=
  delivery.link.outstanding + frameCount delivery.channel

@[simp]
theorem frameCount_append (first second : List NetworkBinaryFrame) :
    frameCount (first ++ second) = frameCount first + frameCount second :=
  countP_append

@[simp]
theorem frameCount_reset (payload : List UInt8) : frameCount [⟨.reset, payload⟩] = 0 :=
  rfl

variable {frame : NetworkBinaryFrame}

theorem frameCount_singleton (queued : frame.kind ≠ .reset) : frameCount [frame] = 1 := by
  simp [frameCount, queued]

@[simp]
theorem load_selecting : selecting.load = 0 :=
  rfl

@[simp]
theorem load_sending (frame : NetworkBinaryFrame) : (sending frame).load = frameCount [frame] :=
  rfl

@[simp]
theorem load_shutting : shutting.load = 0 :=
  rfl

variable {side : Side}

namespace Side

@[simp]
theorem load_top : side.top.phase.load = 0 := by
  rw [side.top_fields.1, load_selecting]

theorem load_writeAll {amount : Nat → Nat} {rest : List UInt8} {length : Nat} :
    (side.writeAll amount rest length).phase.load = 1 := by
  cases rest <;> rfl

theorem load_fail (selecting : side.phase = .selecting) {error : StreamError} :
    (side.fail error).phase.load = 0 := by
  rw [fail, selecting, load_selecting]

theorem load_read {bytes : List UInt8} : (side.read bytes).phase.load = 1 := by
  cases bytes <;> rfl

end Side

open Side

/-- A received frame is dealt with, or its place is taken by the chunk in hand. -/
theorem load_controllerReceive (selecting : side.phase = .selecting) (frame : NetworkBinaryFrame) :
    (controllerReceive side frame).phase.load ≤ frameCount [frame] := by
  rcases frame with ⟨kind, _⟩
  cases kind <;> simp only [controllerReceive]
  case data =>
    split
    · rw [load_writeAll]
      exact Nat.le_refl 1
    · simp [load_fail selecting]
  case windowUpdate =>
    split
    · simp [load_fail selecting]
    · split <;> simp [load_fail selecting]
  case halfClose => split <;> simp
  all_goals simp [load_fail selecting]

theorem load_proxyReceive (selecting : side.phase = .selecting)
    (frame : NetworkBinaryFrame) : (proxyReceive side frame).phase.load ≤ frameCount [frame] := by
  rcases frame with ⟨kind, _⟩
  cases kind <;> simp only [proxyReceive]
  case data =>
    rw [load_writeAll]
    exact Nat.le_refl 1
  case windowUpdate => split <;> simp [load_fail selecting]
  case halfClose => split <;> simp
  all_goals simp [load_fail selecting]

variable {party : Party}

namespace Link

variable (codec : ResetCodec) {link : Link}

/-- The frames counted from one of the ends. -/
theorem outstanding_eq (link : Link) (party : Party) :
    link.outstanding = (link.side party).phase.load + (link.side party.other).phase.load +
      frameCount (link.queue party) + frameCount (link.queue party.other) := by
  cases party
  · rfl
  · rw [outstanding, Party.other]
    omega

theorem outstanding_setSide_le {more : Nat}
    (load : side.phase.load ≤ (link.side party).phase.load + more) :
    (link.setSide party side).outstanding ≤ link.outstanding + more := by
  rw [outstanding_eq _ party, outstanding_eq link party]
  simp only [setSide, update_self, update_of_ne party.other_ne]
  omega

theorem outstanding_setQueue (link : Link) (party : Party) (queue : List NetworkBinaryFrame) :
    (link.setQueue party queue).outstanding + frameCount (link.queue party) =
      link.outstanding + frameCount queue := by
  rw [outstanding_eq _ party, outstanding_eq link party]
  simp only [setQueue, update_self, update_of_ne party.other_ne]
  omega

theorem outstanding_push (link : Link) (party : Party) (frame : NetworkBinaryFrame) :
    (link.push party frame).outstanding = link.outstanding + frameCount [frame] := by
  have changed := outstanding_setQueue link party (link.queue party ++ [frame])
  rw [frameCount_append] at changed
  rw [push]
  omega

/-- Only a read adds to the frames, and at most one. -/
theorem outstanding_run_le (event : Event) :
    (link.run codec party event).outstanding ≤ link.outstanding + event.added := by
  unfold run
  dsimp only
  split
  · split
    · exact outstanding_setSide_le (by rw [load_read]; exact Nat.le_add_left 1 _)
    · exact Nat.le_add_right _ _
  · rename_i selecting
    split
    · exact Nat.le_refl _
    rename_i frame rest queue
    have taken := outstanding_setQueue link party rest
    have load : ((codec.bridge party).receive (link.side party) frame).phase.load ≤
        frameCount [frame] := by
      cases party with
      | controller => exact load_controllerReceive selecting frame
      | proxy => exact load_proxyReceive selecting frame
    rw [queue, ← singleton_append, frameCount_append] at taken
    have changed : ((link.setQueue party rest).setSide party _).outstanding ≤ _ :=
      outstanding_setSide_le (load.trans (Nat.le_add_left _ _))
    exact changed.trans (by omega)
  · rename_i frame sending
    have pushed := outstanding_push link party.other frame
    rw [outstanding_eq _ party] at pushed ⊢
    simp only [setSide, push, setQueue, update_self,
      update_of_ne party.other_ne, sending, load_sending, load_top] at pushed ⊢
    omega
  · rename_i count rest length writing
    refine outstanding_setSide_le ?_
    rw [write]
    split
    · exact Nat.le_refl _
    · rw [load_writeAll, writing]
      exact Nat.le_refl _
  · exact outstanding_setSide_le (by rw [load_top]; exact Nat.zero_le _)
  · exact outstanding_setSide_le (Nat.le_refl _)
  · exact Nat.le_add_right _ _

theorem outstanding_finish_le (result : Except StreamError Unit) :
    (link.finish codec party result).outstanding ≤ link.outstanding := by
  have changed : (link.setSide party { link.side party with reported := true }).outstanding ≤
      link.outstanding + 0 := outstanding_setSide_le (Nat.le_refl _)
  rw [finish]
  split
  · exact Nat.le_refl _
  split
  · exact changed
  · rw [outstanding_push, frameCount_reset]
    exact changed

theorem outstanding_step_le (link : Link) (party : Party) (event : Event) :
    (link.step codec (party, event)).2.outstanding ≤ link.outstanding + event.added := by
  unfold step
  split
  · exact outstanding_run_le codec _
  · exact (outstanding_finish_le codec _).trans (Nat.le_add_right _ _)
  · exact Nat.le_add_right _ _

end Link

/-! ## Runs -/

variable {event : Event}

theorem Link.mem_queue_of_step (codec : ResetCodec) {link : Link}
    (mem : frame ∈ (link.step codec (party, event)).2.queue party) : frame ∈ link.queue party := by
  have elsewhere : ∀ queue, update link.queue party.other queue party = link.queue party :=
    fun _ => update_of_ne party.other_ne.symm _ _
  unfold Link.step Link.run Link.finish at mem
  dsimp only [setSide, push, setQueue] at mem
  split at mem
  · split at mem
    · split at mem <;> exact mem
    · split at mem
      · exact mem
      rename_i queue
      simp only [update_self] at mem
      rw [queue]
      exact mem_cons_of_mem _ mem
    · simpa only [elsewhere] using mem
    all_goals exact mem
  · split at mem
    · exact mem
    split at mem
    · exact mem
    · simpa only [elsewhere] using mem
  · exact mem

namespace Delivery

variable (codec : ResetCodec) {delivery : Delivery}

/-- A bridge reads only while fewer frames than the queue has room for are not dealt
with, and no frame arrives between the end of the Controller's bridge and the removal
of its entry. -/
def Roomy (delivery : Delivery) : Action → Prop
  | .bridge _ (.read _) => delivery.outstanding < streamChannelCapacity
  | .incoming => delivery.registered = true → (delivery.link.side .controller).ended = none
  | _ => True

instance (delivery : Delivery) (action : Action) : Decidable (delivery.Roomy action) := by
  unfold Roomy
  split <;> infer_instance

structure Bounded (delivery : Delivery) : Prop where
  outstanding : delivery.outstanding ≤ streamChannelCapacity
  queued : ∀ frame ∈ delivery.channel, frame.kind ≠ .reset
  found : delivery.foundFull = false
  accepted : delivery.backpressured = false

theorem Bounded.length_channel (bounded : delivery.Bounded) :
    delivery.channel.length = frameCount delivery.channel := by
  refine (countP_eq_length.mpr fun frame mem => ?_).symm
  simpa using bounded.queued frame mem

theorem Bounded.reject (bounded : delivery.Bounded) (code message : String) :
    (delivery.reject codec code message).Bounded where
  outstanding := by
    have pushed := Link.outstanding_push delivery.link .proxy
      ⟨.reset, codec.encode ⟨code, message, none⟩⟩
    have before := bounded.outstanding
    rw [frameCount_reset] at pushed
    simp only [Delivery.outstanding, Delivery.reject] at before ⊢
    omega
  __ := bounded

theorem outstanding_stepController_le (delivery : Delivery) (event : Event) :
    (delivery.stepController codec event).outstanding ≤ delivery.outstanding + event.added := by
  have shown := Link.outstanding_setQueue delivery.link .controller delivery.channel
  have stepped := Link.outstanding_step_le codec
    (delivery.link.setQueue .controller delivery.channel) .controller event
  have hidden := Link.outstanding_setQueue
    ((delivery.link.setQueue .controller delivery.channel).step codec (.controller, event)).2
    .controller (delivery.link.queue .controller)
  simp only [outstanding, stepController]
  omega

section
variable (bounded : delivery.Bounded)
include bounded

theorem Bounded.fits (roomy : delivery.Roomy (.bridge party event)) :
    delivery.outstanding + event.added ≤ streamChannelCapacity := by
  cases event with
  | read => exact roomy
  | _ => exact bounded.outstanding

theorem Bounded.stepController (roomy : delivery.Roomy (.bridge .controller event)) :
    (delivery.stepController codec event).Bounded where
  outstanding := (outstanding_stepController_le codec delivery event).trans (bounded.fits roomy)
  queued frame mem := by
    have taken := Link.mem_queue_of_step codec mem
    exact bounded.queued frame taken
  __ := bounded

theorem Bounded.proxy (roomy : delivery.Roomy (.bridge .proxy event)) :
    Bounded { delivery with link := (delivery.link.step codec (.proxy, event)).2 } where
  outstanding := by
    have stepped := Link.outstanding_step_le codec delivery.link .proxy event
    have before := bounded.fits roomy
    simp only [Delivery.outstanding] at before ⊢
    omega
  __ := bounded

end

/-- The queue has room for a frame that arrives. -/
theorem Bounded.handleIncoming {arrived : Delivery} (bounded : arrived.Bounded)
    (fits : arrived.outstanding + frameCount [frame] ≤ streamChannelCapacity)
    (running : arrived.registered = true → (arrived.link.side .controller).ended = none) :
    (arrived.handleIncoming codec frame).Bounded := by
  unfold Delivery.handleIncoming
  split
  · split
    · exact bounded.reject codec _ _
    · exact bounded
  · exact bounded.reject codec _ _
  · exact bounded.reject codec _ _
  · exact bounded.reject codec _ _
  · exact bounded.reject codec _ _
  · exact { bounded with }
  all_goals
    rename_i kind
    have queued : frame.kind ≠ .reset := by rw [kind]; exact nofun
    split
    · rename_i registered
      have room : arrived.channel.length < streamChannelCapacity := by
        rw [frameCount_singleton queued, Delivery.outstanding] at fits
        rw [bounded.length_channel]
        omega
      rw [trySend, running registered]
      simp only [Option.isNone_none, Bool.true_and, room, decide_true, if_true]
      refine ⟨?_, ?_, bounded.found, bounded.accepted⟩
      · simpa [Delivery.outstanding, Nat.add_assoc] using fits
      intro other mem
      rcases mem_append.mp mem with mem | mem
      · exact bounded.queued other mem
      · cases mem_singleton.mp mem
        exact queued
    · exact bounded.reject codec _ _

theorem Bounded.step (bounded : delivery.Bounded) (action : Action)
    (roomy : delivery.Roomy action) : (delivery.step codec action).2.Bounded := by
  cases action with
  | bridge party event =>
    cases party with
    | proxy => exact bounded.proxy codec roomy
    | controller =>
      change (delivery.controllerTask codec event).Bounded
      unfold controllerTask
      split
      · split
        · exact bounded
        · exact bounded.stepController codec roomy
      · split
        · have stepped := bounded.stepController codec roomy
          exact { stepped with }
        · exact bounded
      · exact bounded.stepController codec roomy
  | incoming =>
    simp only [Delivery.step]
    split
    · exact bounded
    rename_i frame rest queue
    have taken := Link.outstanding_setQueue delivery.link .controller rest
    have before := bounded.outstanding
    rw [queue, ← singleton_append, frameCount_append] at taken
    simp only [Delivery.outstanding] at before
    have fits : Delivery.outstanding
          { delivery with link := delivery.link.setQueue .controller rest } +
        frameCount [frame] ≤ streamChannelCapacity := by
      simp only [Delivery.outstanding]
      omega
    refine Bounded.handleIncoming codec ?_ fits roomy
    exact ⟨by omega, bounded.queued, bounded.found, bounded.accepted⟩
  | resetAll => exact { bounded with }

/-- In a run in which no bridge reads while 32 frames are not dealt with, and no frame arrives
between the end of the Controller's bridge and the removal of its entry, no frame finds the queue
full and the stream is not reset for backpressure. -/
theorem stream_accepts_every_frame {actions : List Action}
    (roomy : AllSteps (step codec) Roomy (initial codec) actions) :
    let delivery := exec (step codec) (initial codec) actions
    delivery.foundFull = false ∧ delivery.backpressured = false := by
  have bounded : (exec (step codec) (initial codec) actions).Bounded := by
    rw [← append_nil actions] at roomy
    exact AllSteps.invariant (fun _ action bounded roomy => bounded.step codec action roomy)
      ⟨Nat.zero_le _, nofun, rfl, rfl⟩ roomy
  exact ⟨bounded.found, bounded.accepted⟩

/-- One byte after the other, while the Controller's bridge does nothing. -/
def manyBytes (count : Nat) : List Action :=
  (List.replicate count [.bridge .proxy (.read [0]), .bridge .proxy .send, .incoming]).flatten

/-- 33 bytes in as many frames are too many for the queue. -/
theorem small_chunks_are_refused :
    let delivery := exec (step .plain) (initial .plain) (manyBytes 33)
    (delivery.link.side .proxy).sendWindow = networkInitialWindow - 33 ∧
      delivery.foundFull = true ∧ delivery.backpressured = true := by
  decide +kernel

theorem few_chunks_are_accepted :
    (exec (step .plain) (initial .plain) (manyBytes 32)).backpressured = false :=
  (stream_accepts_every_frame .plain (by decide +kernel)).2

end Delivery
end Treer.Network
