import Treer.Controller.Relay

/-!
# What a terminal session shows

Between a `Ready` and the next `Ready` or `TerminalClosed`, a session should be sent the
chunks that follow the revision of the `Ready`, of the stream epoch that it announced. The
relay of a session compares revisions only, so the condition is about the events that reach
it: an event of another epoch has to be a jump.
-/

namespace Treer.Controller

open Foundation Host KeyedMap List

/-- What a session was sent since its last `Ready`. -/
structure Shown where
  streamEpoch : String
  /-- The revision of the `Ready`. -/
  revision : Nat
  /-- The number of chunks after it. -/
  forwarded : Nat

/-- The last revision that the session has. -/
def Shown.last (shown : Shown) : Nat :=
  shown.revision + shown.forwarded

def Shown.after : Option Shown → TerminalMessage → Option Shown
  | _, .ready _ snapshot => some ⟨snapshot.streamEpoch, snapshot.revision, 0⟩
  | shown, .output _ _ => shown.map fun shown => { shown with forwarded := shown.forwarded + 1 }
  | _, .closed _ _ _ => none

def shown (messages : List TerminalMessage) : Option Shown :=
  messages.foldl Shown.after none

/-- A chunk is the one after the last revision, and of the announced epoch. -/
def Shown.Continues (shown : Shown) : TerminalMessage → Prop
  | .output _ chunk => chunk.streamEpoch = shown.streamEpoch ∧ chunk.revision = shown.last + 1
  | .ready _ _ | .closed _ _ _ => True

/-- Every chunk between a `Ready` and the next `Ready` or `TerminalClosed` continues it. -/
def Contiguous (messages : List TerminalMessage) : Prop :=
  ∀ earlier message later, messages = earlier ++ message :: later →
    ∀ current, shown earlier = some current → current.Continues message

theorem shown_append (messages : List TerminalMessage) (message : TerminalMessage) :
    shown (messages ++ [message]) = Shown.after (shown messages) message := by
  rw [shown, foldl_append]
  rfl

variable {messages : List TerminalMessage}

theorem contiguous_append {message : TerminalMessage} (contiguous : Contiguous messages)
    (continues : ∀ current, shown messages = some current → current.Continues message) :
    Contiguous (messages ++ [message]) := by
  intro earlier next later split
  rcases eq_nil_or_concat' later with rfl | ⟨later, last, rfl⟩
  · obtain ⟨rfl, same⟩ := append_inj' split rfl
    cases same
    exact continues
  · rw [← cons_append, ← append_assoc] at split
    exact contiguous earlier next later (append_inj' split rfl).1

/-- The messages to one session. -/
def toSession (sessionId : String) (messages : List TerminalMessage) : List TerminalMessage :=
  messages.filter (·.sessionId == sessionId)

theorem toSession_append (sessionId : String) (messages : List TerminalMessage)
    (message : TerminalMessage) :
    toSession sessionId (messages ++ [message]) =
      toSession sessionId messages ++ if message.sessionId = sessionId then [message] else [] := by
  by_cases same : message.sessionId = sessionId <;> simp [toSession, same]

namespace RelayState

variable {state next : RelayState}

/-- Every chunk that may still reach the loop, in its order. -/
def pipeline (state : RelayState) : List HostOutputChunk :=
  state.terminalEvents ++ state.outputs

/-- Two chunks of one stream are in the order of their revisions. -/
def InOrder (earlier later : HostOutputChunk) : Prop :=
  earlier.processId = later.processId → earlier.streamEpoch = later.streamEpoch →
    earlier.revision < later.revision

structure Feed (state : RelayState) : Prop where
  ordered : state.pipeline.Pairwise InOrder
  known : ∀ chunk ∈ state.pipeline, chunk.streamEpoch ∈ state.epochs
  issued : ∀ chunk ∈ state.pipeline, ∀ buffer,
    state.streams.get? chunk.processId = some buffer →
    chunk.streamEpoch = buffer.streamEpoch → chunk.revision < buffer.nextRevision
  current : ∀ processId buffer, state.streams.get? processId = some buffer →
    buffer.streamEpoch ∈ state.epochs ∧ ∀ chunk ∈ buffer.chunks.items, chunk.data ≠ []

/-- The relay stands where its session does: nothing on its way lies between the `Ready` and the
last revision. -/
structure Tracks (state : RelayState) (relay : TerminalRelay) (messages : List TerminalMessage) :
    Prop where
  known : relay.streamEpoch ∈ state.epochs
  bounded : ∃ buffer, state.streams.get? relay.processId = some buffer ∧
    (relay.streamEpoch = buffer.streamEpoch → relay.lastRevision < buffer.nextRevision)
  epoch : ∀ current, shown messages = some current → relay.streamEpoch = current.streamEpoch
  last : ∀ current, shown messages = some current → relay.lastRevision = current.last
  ahead : ∀ current, shown messages = some current → ∀ chunk ∈ state.pipeline,
    chunk.processId = relay.processId → chunk.streamEpoch = relay.streamEpoch →
    chunk.revision ≤ current.revision ∨ relay.lastRevision < chunk.revision

structure Sound (state : RelayState) : Prop where
  feed : Feed state
  tracks : ∀ sessionId relay, state.terminalSessions.get? sessionId = some relay →
    Tracks state relay (toSession sessionId state.sent)
  contiguous : ∀ sessionId, Contiguous (toSession sessionId state.sent)

theorem sound_initial : Sound initial where
  feed :=
    { ordered := Pairwise.nil
      known := nofun
      issued := nofun
      current := nofun }
  tracks := nofun
  contiguous _ := by
    intro earlier message later split
    cases earlier <;> cases split

/-! ## Steps before the loop -/

/-- Chunks may get lost on their way. -/
theorem Feed.of_sublist (feed : Feed state)
    (sublist : next.pipeline.Sublist state.pipeline) (streams : next.streams = state.streams)
    (epochs : next.epochs = state.epochs) : Feed next where
  ordered := feed.ordered.sublist sublist
  known chunk mem := epochs ▸ feed.known chunk (sublist.mem mem)
  issued chunk mem buffer found := feed.issued chunk (sublist.mem mem) buffer (streams ▸ found)
  current processId buffer found := epochs ▸ feed.current processId buffer (streams ▸ found)

theorem Tracks.of_sublist {relay : TerminalRelay} (tracks : Tracks state relay messages)
    (sublist : next.pipeline.Sublist state.pipeline) (streams : next.streams = state.streams)
    (epochs : next.epochs = state.epochs) : Tracks next relay messages where
  known := epochs ▸ tracks.known
  bounded := streams ▸ tracks.bounded
  epoch := tracks.epoch
  last := tracks.last
  ahead current shows chunk mem := tracks.ahead current shows chunk (sublist.mem mem)

section
variable (sound : Sound state)
include sound

theorem Sound.of_sublist (sublist : next.pipeline.Sublist state.pipeline)
    (sessions : ∀ sessionId relay, next.terminalSessions.get? sessionId = some relay →
      state.terminalSessions.get? sessionId = some relay := by exact fun _ _ found => found)
    (streams : next.streams = state.streams := by rfl)
    (epochs : next.epochs = state.epochs := by rfl)
    (sent : next.sent = state.sent := by rfl) : Sound next where
  feed := sound.feed.of_sublist sublist streams epochs
  tracks sessionId relay found := by
    rw [sent]
    exact (sound.tracks sessionId relay (sessions sessionId relay found)).of_sublist sublist
      streams epochs
  contiguous := by
    rw [sent]
    exact sound.contiguous

theorem sound_applyOutput : Sound state.applyOutput := by
  unfold applyOutput
  cases outputs : state.outputs with
  | nil => exact sound
  | cons chunk rest =>
    have whole : state.pipeline = state.terminalEvents ++ chunk :: rest := by rw [pipeline, outputs]
    dsimp only
    split
    · refine sound.of_sublist ?_
      rw [whole]
      change ((state.terminalEvents ++ [chunk]) ++ rest).Sublist _
      rw [append_assoc]
      exact .refl _
    · refine sound.of_sublist ?_
      rw [whole]
      exact (sublist_cons_self chunk rest).append_left state.terminalEvents

theorem sound_lagOutputs (count : Nat) : Sound (state.lagOutputs count) :=
  sound.of_sublist ((drop_sublist count _).append_left _)

theorem sound_spawn (processId streamEpoch : String) :
    Sound (state.spawn processId streamEpoch) := by
  unfold spawn
  split
  case isTrue => exact sound
  case isFalse fresh =>
    -- Nothing on its way, and no relay, has the new epoch.
    constructor
    case feed =>
      constructor
      case ordered => exact sound.feed.ordered
      case known =>
        intro chunk mem
        exact mem_cons_of_mem _ (sound.feed.known chunk mem)
      case issued =>
        intro chunk mem buffer found same
        rw [get?_insert] at found
        split at found
        · cases found
          exact absurd (Eq.subst same (sound.feed.known chunk mem)) fresh
        · exact sound.feed.issued chunk mem buffer found same
      case current =>
        intro other buffer found
        rw [get?_insert] at found
        split at found
        · cases found
          exact ⟨mem_cons_self, by rintro _ ⟨⟩⟩
        · obtain ⟨known, full⟩ := sound.feed.current other buffer found
          exact ⟨mem_cons_of_mem _ known, full⟩
    case tracks =>
      intro sessionId relay found
      have tracks := sound.tracks sessionId relay found
      refine ⟨mem_cons_of_mem _ tracks.known, ?_, tracks.epoch, tracks.last, tracks.ahead⟩
      rw [get?_insert]
      split
      · exact ⟨_, rfl, fun same => absurd (Eq.subst same tracks.known) fresh⟩
      · exact tracks.bounded
    case contiguous => exact sound.contiguous

theorem sound_write (processId : String)
    (bytes : List UInt8) (now : Int) : Sound (state.write processId bytes now) := by
  unfold write
  split
  case h_1 => exact sound
  case h_2 buffer found =>
    split
    case isTrue => exact sound
    case isFalse nonempty =>
      have mem_pipeline : ∀ chunk,
          chunk ∈ (state.terminalEvents ++
            (state.outputs ++ [buffer.nextChunk processId bytes now])) ↔
          chunk ∈ state.pipeline ∨ chunk = buffer.nextChunk processId bytes now := by
        intro chunk
        rw [← append_assoc, mem_append, mem_singleton]
        rfl
      obtain ⟨known, full⟩ := sound.feed.current processId buffer found
      constructor
      case feed =>
        constructor
        case ordered =>
          change (state.terminalEvents ++ (state.outputs ++ [_])).Pairwise InOrder
          rw [← append_assoc, pairwise_append]
          refine ⟨sound.feed.ordered, pairwise_singleton _ _, ?_⟩
          intro chunk mem last lastMem sameProcess sameEpoch
          cases mem_singleton.mp lastMem
          exact sound.feed.issued chunk mem buffer (sameProcess ▸ found) sameEpoch
        case known =>
          intro chunk mem
          rcases (mem_pipeline chunk).mp mem with old | rfl
          · exact sound.feed.known chunk old
          · exact known
        case issued =>
          intro chunk mem other otherFound same
          rw [get?_insert] at otherFound
          rcases (mem_pipeline chunk).mp mem with old | rfl
          · split at otherFound
            case isTrue sameProcess =>
              cases otherFound
              have before := sound.feed.issued chunk old buffer (sameProcess ▸ found) same
              exact Nat.lt_succ_of_lt before
            case isFalse => exact sound.feed.issued chunk old other otherFound same
          · rw [if_pos (show (buffer.nextChunk processId bytes now).processId = processId from rfl)]
              at otherFound
            cases otherFound
            exact Nat.lt_succ_self _
        case current =>
          intro other otherBuffer otherFound
          rw [get?_insert] at otherFound
          split at otherFound
          · cases otherFound
            refine ⟨known, ?_⟩
            intro chunk mem
            rcases mem_append.mp ((buffer.push_items_suffix _ _ _).mem mem) with old | new
            · exact full chunk old
            · cases mem_singleton.mp new
              exact nonempty
          · exact sound.feed.current other otherBuffer otherFound
      case tracks =>
        intro sessionId relay attached
        have tracks := sound.tracks sessionId relay attached
        obtain ⟨own, ownFound, bounded⟩ := tracks.bounded
        refine ⟨tracks.known, ?_, tracks.epoch, tracks.last, ?_⟩
        · rw [get?_insert]
          split
          case isTrue same =>
            rw [same, found] at ownFound
            cases ownFound
            exact ⟨_, rfl, fun same => Nat.lt_succ_of_lt (bounded same)⟩
          case isFalse => exact ⟨own, ownFound, bounded⟩
        · intro current shows chunk mem sameProcess sameEpoch
          rcases (mem_pipeline chunk).mp mem with old | rfl
          · exact tracks.ahead current shows chunk old sameProcess sameEpoch
          -- The next chunk of a stream is ahead of every relay of the stream.
          change processId = relay.processId at sameProcess
          rw [← sameProcess, found] at ownFound
          cases ownFound
          exact .inr (bounded sameEpoch.symm)
      case contiguous => exact sound.contiguous

/-- A message that is no chunk concerns its own session only. -/
theorem Sound.send (message : TerminalMessage)
    (whole : ∀ current : Shown, current.Continues message)
    {sessions : KeyedMap String TerminalRelay}
    (others : ∀ other, other ≠ message.sessionId →
      sessions.get? other = state.terminalSessions.get? other)
    (own : ∀ relay, sessions.get? message.sessionId = some relay →
      Tracks state relay (toSession message.sessionId state.sent ++ [message])) :
    Sound ({ state with terminalSessions := sessions }.send message) := by
  have sent : ∀ other, toSession other (state.sent ++ [message]) =
      toSession other state.sent ++ if message.sessionId = other then [message] else [] :=
    fun other => toSession_append other _ _
  refine ⟨sound.feed.of_sublist (Sublist.refl _) rfl rfl, fun other relay found => ?_,
    fun other => ?_⟩
  · suffices tracks : Tracks state relay (toSession other (state.sent ++ [message])) from
      tracks.of_sublist (Sublist.refl _) rfl rfl
    rw [sent]
    split
    · next same => exact same ▸ own relay (same ▸ found)
    next different =>
      rw [append_nil]
      exact sound.tracks other relay ((others other (Ne.symm different)).symm.trans found)
  · change Contiguous (toSession other (state.sent ++ [message]))
    rw [sent]
    split
    · exact contiguous_append (sound.contiguous other) fun current _ => whole current
    · rw [append_nil]
      exact sound.contiguous other

theorem sound_send_closed (sessionId reason : String)
    (exitCode : Option Int) : Sound (state.send (.closed sessionId reason exitCode)) := by
  refine sound.send (.closed _ _ _) (fun _ => trivial) (fun _ _ => rfl) fun relay found => ?_
  have tracks := sound.tracks sessionId relay found
  have hidden : ∀ current, shown (toSession sessionId state.sent ++
      [.closed sessionId reason exitCode]) ≠ some current := by
    rw [shown_append]
    exact nofun
  exact ⟨tracks.known, tracks.bounded, fun current shows => absurd shows (hidden current),
    fun current shows => absurd shows (hidden current),
    fun current shows => absurd shows (hidden current)⟩

end

variable {cursor : Option OutputCursor} {snapshot : TerminalSnapshot}

/-- A `Ready` is sent, and the relay is set to it. -/
theorem sound_ready (sound : Sound state) {agentId : String}
    (read : state.terminalSnapshot agentId cursor = .ok snapshot) (sessionId : String) :
    Sound ({ state with
      terminalSessions := state.terminalSessions.insert sessionId
        ⟨agentId, snapshot.streamEpoch, snapshot.revision⟩ }.send (.ready sessionId snapshot)) := by
  unfold terminalSnapshot at read
  split at read
  case h_1 => cases read
  case h_2 buffer found =>
    cases read
    have positive := buffer.positive
    refine sound.send (.ready _ _) (fun _ => trivial) (fun other different => ?_)
      fun relay attached => ?_
    · rw [get?_insert]
      exact if_neg different
    change get? _ sessionId = _ at attached
    rw [get?_insert, if_pos rfl] at attached
    cases attached
    refine ⟨(sound.feed.current agentId buffer found).1,
      ⟨buffer, found, fun _ => Nat.sub_one_lt_of_lt positive⟩, ?_, ?_, ?_⟩
    all_goals
      intro current shows
      rw [shown_append] at shows
      cases shows
    · rfl
    · rfl
    · exact fun chunk _ _ _ => le_or_gt chunk.revision _

/-! ## Events in the loop -/

end RelayState

theorem TerminalRelay.step_cases (relay : TerminalRelay) (processId : String) (revision : Nat) :
    (relay.step processId revision = (.skip, relay) ∧
      (relay.processId = processId → revision ≤ relay.lastRevision)) ∨
    (relay.step processId revision = (.resync, relay) ∧ relay.processId = processId ∧
      relay.lastRevision + 1 < revision) ∨
    (relay.step processId revision = (.forward, { relay with lastRevision := revision }) ∧
      relay.processId = processId ∧ revision = relay.lastRevision + 1) := by
  by_cases same : relay.processId = processId
  · rcases Nat.lt_trichotomy revision (relay.lastRevision + 1) with seen | next | jump
    · have seen : revision ≤ relay.lastRevision := by omega
      simp [step, seen]
    · simp [step, same, next]
    · right
      have unseen : ¬ revision ≤ relay.lastRevision := by omega
      have jumps : revision ≠ relay.lastRevision + 1 := by omega
      simp [step, same, unseen, jumps, jump]
  · simp [step, same]

/-- An event of another stream would be read as the next of the relay's, or as an old one, unless it
is a jump. -/
def TerminalRelay.Fits (relay : TerminalRelay) (chunk : HostOutputChunk) : Prop :=
  relay.processId = chunk.processId →
    chunk.streamEpoch = relay.streamEpoch ∨ relay.lastRevision + 1 < chunk.revision
deriving Decidable

namespace RelayState

variable {state : RelayState} {relay : TerminalRelay} {chunk : HostOutputChunk}

/-- The frames of one event: a session gets one if its relay forwards the event. -/
theorem toSession_frames (sessions : KeyedMap String TerminalRelay) (chunk : HostOutputChunk)
    (sessionId : String) :
    toSession sessionId
      (((sessions.mapValues (·.step chunk.processId chunk.revision)).rows.filter
        (·.2.1 == .forward)).map fun entry => .output entry.1 chunk) =
      ((sessions.get? sessionId).toList.filter fun relay =>
        (relay.step chunk.processId chunk.revision).1 == .forward).map
          fun _ => .output sessionId chunk := by
  rw [toSession, filter_map, filter_filter]
  have swapped : ∀ rows : List (String × (RelayStep × TerminalRelay)), (rows.filter fun entry =>
        (((fun message : TerminalMessage => message.sessionId == sessionId) ∘
          fun entry : String × (RelayStep × TerminalRelay) => .output entry.1 chunk) entry &&
          entry.2.1 == .forward)) =
        (rows.filter (·.1 == sessionId)).filter (·.2.1 == .forward) := by
    intro rows
    rw [filter_filter]
    congr 1
    funext entry
    exact Bool.and_comm _ _
  rw [swapped, rows_filter_key, get?_mapValues]
  cases sessions.get? sessionId with
  | none => rfl
  | some relay =>
    by_cases forwards : (relay.step chunk.processId chunk.revision).1 = .forward <;>
      simp [forwards]

/-- The relay takes the next event of its own stream. -/
theorem Tracks.forward {next : RelayState} (tracks : Tracks state relay messages)
    (feed : Feed state) (first : state.pipeline = chunk :: next.pipeline)
    (streams : next.streams = state.streams) (epochs : next.epochs = state.epochs)
    (sameProcess : relay.processId = chunk.processId)
    (sameEpoch : chunk.streamEpoch = relay.streamEpoch)
    (follows : chunk.revision = relay.lastRevision + 1) (sessionId : String) :
    Tracks next { relay with lastRevision := chunk.revision }
      (messages ++ [.output sessionId chunk]) := by
  have counted : ∀ current, shown (messages ++ [.output sessionId chunk]) = some current →
      ∃ before, shown messages = some before ∧
        current = { before with forwarded := before.forwarded + 1 } := by
    intro current shows
    rw [shown_append] at shows
    obtain ⟨before, earlier, rfl⟩ := Option.map_eq_some_iff.mp shows
    exact ⟨before, earlier, rfl⟩
  have mem : chunk ∈ state.pipeline := first ▸ mem_cons_self
  constructor
  case known => exact epochs ▸ tracks.known
  case bounded =>
    obtain ⟨buffer, found, _⟩ := tracks.bounded
    refine ⟨buffer, streams ▸ found, ?_⟩
    intro same
    exact feed.issued chunk mem buffer (sameProcess ▸ found) (sameEpoch.trans same)
  case epoch =>
    intro current shows
    obtain ⟨before, earlier, rfl⟩ := counted current shows
    exact tracks.epoch before earlier
  case last =>
    intro current shows
    obtain ⟨before, earlier, rfl⟩ := counted current shows
    have last := tracks.last before earlier
    change chunk.revision = before.revision + (before.forwarded + 1)
    rw [follows, last, Shown.last]
    omega
  case ahead =>
    intro current shows other otherMem otherProcess otherEpoch
    have ordered := feed.ordered
    rw [first] at ordered
    -- What comes after the event in its stream is ahead of it.
    exact .inr (rel_of_pairwise_cons ordered otherMem
      (sameProcess.symm.trans otherProcess.symm) (sameEpoch.trans otherEpoch.symm))

variable {rest : List HostOutputChunk}

theorem receiveEvent_pipeline (events : state.terminalEvents = chunk :: rest) :
    state.pipeline = chunk :: state.receiveEvent.pipeline := by
  unfold receiveEvent
  rw [events, pipeline, events]
  rfl

theorem toSession_receiveEvent (events : state.terminalEvents = chunk :: rest)
    (sessionId : String) :
    toSession sessionId state.receiveEvent.sent = toSession sessionId state.sent ++
      ((state.terminalSessions.get? sessionId).toList.filter fun relay =>
        (relay.step chunk.processId chunk.revision).1 == .forward).map
          fun _ => .output sessionId chunk := by
  rw [← toSession_frames]
  unfold receiveEvent
  rw [events]
  exact filter_append ..

theorem receiveEvent_same (state : RelayState) :
    state.receiveEvent.streams = state.streams ∧ state.receiveEvent.epochs = state.epochs := by
  unfold receiveEvent
  split <;> exact ⟨rfl, rfl⟩

section
variable (sound : Sound state)
include sound

theorem sound_receiveEvent (fits : ∀ chunk ∈ state.terminalEvents.head?, ∀ sessionId relay,
      state.terminalSessions.get? sessionId = some relay → relay.Fits chunk) :
    Sound state.receiveEvent := by
  cases events : state.terminalEvents with
  | nil =>
    have idle : state.receiveEvent = state := by
      unfold receiveEvent
      rw [events]
    rw [idle]
    exact sound
  | cons chunk =>
    have first := receiveEvent_pipeline events
    have sublist : state.receiveEvent.pipeline.Sublist state.pipeline :=
      first ▸ sublist_cons_self chunk _
    have ⟨streams, epochs⟩ := state.receiveEvent_same
    have sameEpoch : ∀ sessionId relay, state.terminalSessions.get? sessionId = some relay →
        relay.processId = chunk.processId → chunk.revision = relay.lastRevision + 1 →
        chunk.streamEpoch = relay.streamEpoch := by
      intro sessionId relay attached sameProcess follows
      rcases fits chunk (by rw [events]; rfl) sessionId relay attached sameProcess with
        same | jump
      · exact same
      · omega
    constructor
    case feed => exact sound.feed.of_sublist sublist streams epochs
    case tracks =>
      intro sessionId stepped found
      rw [receiveEvent, events, get?_mapValues, get?_mapValues, Option.map_map,
        Option.map_eq_some_iff] at found
      obtain ⟨relay, attached, rfl⟩ := found
      have tracks := sound.tracks sessionId relay attached
      have kept := tracks.of_sublist sublist streams epochs
      rw [toSession_receiveEvent events, attached]
      rcases relay.step_cases chunk.processId chunk.revision with
        ⟨stepEq, _⟩ | ⟨stepEq, _⟩ | ⟨stepEq, sameProcess, follows⟩
      · simpa [stepEq] using kept
      · simpa [stepEq] using kept
      · simpa [stepEq] using tracks.forward sound.feed first streams epochs sameProcess
          (sameEpoch sessionId relay attached sameProcess follows) follows sessionId
    case contiguous =>
      intro sessionId
      have contiguous := sound.contiguous sessionId
      rw [toSession_receiveEvent events]
      cases attached : state.terminalSessions.get? sessionId with
      | none => simpa using contiguous
      | some relay =>
        have tracks := sound.tracks sessionId relay attached
        rcases relay.step_cases chunk.processId chunk.revision with
          ⟨stepEq, _⟩ | ⟨stepEq, _⟩ | ⟨stepEq, sameProcess, follows⟩
        · simpa [stepEq] using contiguous
        · simpa [stepEq] using contiguous
        have continues : ∀ current, shown (toSession sessionId state.sent) = some current →
            current.Continues (.output sessionId chunk) := by
          intro current shows
          have same := sameEpoch sessionId relay attached sameProcess follows
          exact ⟨same.trans (tracks.epoch current shows),
            follows.trans (congrArg (· + 1) (tracks.last current shows))⟩
        simpa [stepEq] using contiguous_append contiguous continues

theorem sound_lagEvents (count : Nat) : Sound (state.lagEvents count) :=
  sound.of_sublist ((drop_sublist count _).append_right _)

theorem sound_receiveProcess (process : HostProcessInfo) (now : Nat) : Sound
    (state.receiveProcess process now) := by
  unfold receiveProcess
  split
  · exact sound
  · exact sound.of_sublist (.refl _)

theorem sound_detach (sessionId : String) : Sound (state.detach sessionId) := by
  refine sound.of_sublist (.refl _) ?_
  intro other relay found
  change get? (erase _ _) _ = _ at found
  rw [get?_erase] at found
  split at found
  · cases found
  · exact found

theorem sound_resize (sessionId : String)
    (refusal : Option String) : Sound (state.resize sessionId refusal) := by
  unfold resize
  split
  · exact sound_send_closed (sound_detach sound sessionId) ..
  · exact sound

theorem sound_attach (sessionId agentId : String)
    (cursor : Option OutputCursor) (refusal : Option String) :
    Sound (state.attach sessionId agentId cursor refusal) := by
  unfold attach
  split
  · exact sound_send_closed sound ..
  · exact sound_send_closed sound ..
  · next read => exact sound_ready sound read sessionId

theorem sound_closeExited (sessionId : String) : Sound (state.closeExited sessionId) := by
  unfold closeExited
  cases state.pendingCloses.get? sessionId with
  | none => exact sound
  | some =>
    dsimp only
    split
    · exact sound.of_sublist (.refl _)
    · exact sound_send_closed (sound_detach sound sessionId) ..

theorem sound_closeTick (now : Nat) : Sound (state.closeTick now) :=
  foldlRecOn _ _ sound fun _ sound sessionId _ => sound_closeExited sound sessionId

theorem sound_resync (answered : Bool) : Sound (state.resync answered) := by
  unfold resync
  split
  · exact sound
  next sessionId rest _ =>
    have sound : Sound { state with resyncing := rest } := sound.of_sublist (.refl _)
    dsimp only
    split
    · exact sound
    split
    · exact sound
    next read =>
      split
      · exact sound
      · exact sound_ready sound read sessionId

end

variable {sessionId : String} {current : Shown}

/-- The events that the loop receives fit the relays, and the Host answers the reads of a
resynchronization. -/
def Allowed (state : RelayState) : RelayAction → Prop
  | .loop .receiveEvent => state.resyncing = [] →
      ∀ chunk ∈ state.terminalEvents.head?, ∀ entry ∈ state.terminalSessions.rows,
        entry.2.Fits chunk
  | .resync answered => answered = true
  | _ => True

instance (state : RelayState) (action : RelayAction) : Decidable (state.Allowed action) := by
  unfold Allowed
  split <;> infer_instance

theorem sound_turn (sound : Sound state) (idle : state.resyncing = [])
    {action : LoopAction} (allowed : state.Allowed (.loop action)) :
    Sound (state.turn action) := by
  cases action with
  | receiveEvent =>
    refine sound_receiveEvent sound ?_
    intro chunk first sessionId relay attached
    exact allowed idle chunk first (sessionId, relay) (get?_eq_some_iff.mp attached)
  | lagEvents count => exact sound_lagEvents sound count
  | receiveProcess process now => exact sound_receiveProcess sound process now
  | closeTick now => exact sound_closeTick sound now
  | attach sessionId agentId cursor refusal =>
    exact sound_attach sound sessionId agentId cursor refusal
  | resize sessionId refusal => exact sound_resize sound sessionId refusal
  | detach sessionId => exact sound_detach sound sessionId

theorem sound_step (state : RelayState) (action : RelayAction) (sound : Sound state)
    (allowed : state.Allowed action) : Sound (state.step action).2 := by
  cases action with
  | spawn processId streamEpoch => exact sound_spawn sound processId streamEpoch
  | write processId bytes now => exact sound_write sound processId bytes now
  | record => exact sound.of_sublist (.refl _)
  | lagOutputs count => exact sound_lagOutputs sound count
  | applyOutput => exact sound_applyOutput sound
  | loop action =>
    change Sound (if state.resyncing = [] then state.turn action else state)
    split
    case isTrue idle => exact sound_turn sound idle allowed
    case isFalse => exact sound
  | resync answered => exact sound_resync sound answered

end RelayState

namespace Sample

/-- A process writes two chunks, and a session attaches. -/
def attached : List RelayAction :=
  [.spawn "p" "first", .record "p" "first", .write "p" [97] 1, .write "p" [98] 2, .applyOutput,
    .applyOutput, .loop (.attach "s" "p" none none)]

end Sample

open Sample

end Treer.Controller
