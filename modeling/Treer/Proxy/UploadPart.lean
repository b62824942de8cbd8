import Treer.Foundation.Run

/-!
# The chunks of an upload part

The body of a part goes to the Controller in chunks, and two may be on their way. Every
chunk has a task of its own that hands its command over, so a later chunk can come first.
The connection keeps the order of the commands, and the disk takes what is written.
-/

namespace Treer.Proxy.UploadPart

open Foundation List

/-- `MACHINE_UPLOAD_CHUNK_BYTES`. -/
def chunkBytes : Nat := 192 * 1024

/-- Bytes of the upload. -/
structure Chunk where
  (offset length : Nat)

/-- Why a chunk is not written. -/
inductive Refusal where
  | chunkTooLarge
  | offset
  | tooLarge

/-- The Controller's record of an upload. -/
structure Upload where
  (declared committed written : Nat)

namespace Upload

/-- Forget what is not committed. -/
def rewind (upload : Upload) : Upload :=
  { upload with written := upload.committed }

/-- The bytes that are written, or why the chunk is not. -/
def chunk (upload : Upload) (chunk : Chunk) : Except Refusal Nat × Upload :=
  if chunkBytes < chunk.length then (.error .chunkTooLarge, upload)
  else
    let upload := if chunk.offset = upload.committed ∧ upload.committed < upload.written then
      upload.rewind else upload
    let total := upload.written + chunk.length
    if chunk.offset ≠ upload.written then (.error .offset, upload)
    else if upload.declared < total then (.error .tooLarge, upload.rewind)
    else (.ok total, { upload with written := total })

/-- A chunk is taken when it is the next one, or the first of the part. -/
theorem chunk_eq_ok {upload : Upload} {chunk : Chunk} (small : chunk.length ≤ chunkBytes)
    (above : upload.committed ≤ chunk.offset) (fits : chunk.offset + chunk.length ≤ upload.declared)
    (next : upload.written = chunk.offset ∨
      chunk.offset = upload.committed ∧ upload.committed ≤ upload.written) :
    upload.chunk chunk = (.ok (chunk.offset + chunk.length),
      { upload with written := chunk.offset + chunk.length }) := by
  rw [Upload.chunk, if_neg (Nat.not_lt.mpr small)]
  by_cases rewinds : chunk.offset = upload.committed ∧ upload.committed < upload.written
  · simp only [if_pos rewinds, rewind]
    rw [if_neg (by omega), if_neg (by omega), rewinds.1]
  · have written : chunk.offset = upload.written := by omega
    simp only [if_neg rewinds]
    rw [if_neg (by omega), if_neg (by omega), written]

/-- `part_commit` refuses the offset. -/
def refusesPart (upload : Upload) (offset length : Nat) : Prop :=
  upload.committed < offset + length ∧
    (offset ≠ upload.committed ∨ offset + length ≠ upload.written)

end Upload

/-- A part that was let in: it starts where the Controller's committed bytes end. -/
structure Request where
  length : Nat
  upload : Upload
  fits : upload.committed + length ≤ upload.declared
  ahead : upload.committed ≤ upload.written

/-- The request while it runs. -/
structure Part where
  received : Nat
  /-- The rest of the last frame of the body. -/
  (frame buffer position : Nat)
  tasks : List Chunk
  /-- The tasks whose command the Controller got, with its answers. -/
  answers : List (Nat × Except Refusal Nat)
  upload : Upload

/-- What the request or a task does. -/
inductive Action where
  | receive (bytes : Nat)
  | fill
  | dispatch
  /-- A task hands its command over. -/
  | send (task : Nat)

/-- Chunks that follow each other between two offsets. -/
def Contiguous : Nat → List Chunk → Nat → Prop
  | start, [], stop => start = stop
  | start, chunk :: rest, stop =>
    chunk.offset = start ∧ chunk.length ≤ chunkBytes ∧ Contiguous (start + chunk.length) rest stop

theorem Contiguous.append {start middle stop : Nat} {first second : List Chunk}
    (begins : Contiguous start first middle) (ends : Contiguous middle second stop) :
    Contiguous start (first ++ second) stop := by
  induction first generalizing start with
  | nil =>
    cases begins
    exact ends
  | cons chunk rest ih => exact ⟨begins.1, begins.2.1, ih begins.2.2⟩

theorem Contiguous.le {start stop : Nat} {chunks : List Chunk}
    (contiguous : Contiguous start chunks stop) : start ≤ stop := by
  induction chunks generalizing start with
  | nil => exact Nat.le_of_eq contiguous
  | cons chunk rest ih => exact Nat.le_trans (Nat.le_add_right _ _) (ih contiguous.2.2)

namespace Part

variable {request : Request} {part : Part}

/-- Nothing has been read. -/
def start (request : Request) : Part :=
  ⟨0, 0, 0, request.upload.committed, [], [], request.upload⟩

/-- At most one task may be without its answer when another is spawned. -/
def settled (part : Part) : Bool :=
  (range (part.tasks.length - 1)).all fun task =>
    part.answers.any fun answer => answer.1 = task && answer.2.toBool

/-- One turn of the request or a task. -/
def step (request : Request) (part : Part) : Action → Unit × Part
  | .receive bytes =>
    if part.frame = 0 ∧ part.buffer < chunkBytes ∧ part.received < request.length then
      let received := part.received + bytes
      ((), { part with received, frame := if request.length < received then 0 else bytes })
    else ((), part)
  | .fill =>
    let taken := min (chunkBytes - part.buffer) part.frame
    ((), { part with buffer := part.buffer + taken, frame := part.frame - taken })
  | .dispatch =>
    if (part.buffer = chunkBytes ∨
        part.frame = 0 ∧ part.received = request.length ∧ 0 < part.buffer) ∧ part.settled then
      ((), { part with
        tasks := part.tasks ++ [⟨part.position, part.buffer⟩]
        position := part.position + part.buffer
        buffer := 0 })
    else ((), part)
  | .send task =>
    match part.tasks[task]? with
    | some chunk =>
      if task ∈ part.answers.map Prod.fst then ((), part)
      else
        let (answer, upload) := part.upload.chunk chunk
        ((), { part with upload, answers := part.answers ++ [(task, answer)] })
    | none => ((), part)

/-- The Controller has got the chunks in the order of their offsets, without a gap, and has
taken them all. -/
structure Ordered (request : Request) (part : Part) : Prop where
  order : part.answers.map Prod.fst = range part.answers.length
  taken : ∀ answer ∈ part.answers, answer.2.toBool
  known : part.answers.length ≤ part.tasks.length
  contiguous : ∃ reached,
    Contiguous request.upload.committed (part.tasks.take part.answers.length) reached ∧
    Contiguous reached (part.tasks.drop part.answers.length) part.position ∧
    (part.upload.written = reached ∨
      part.answers = [] ∧ request.upload.committed ≤ part.upload.written)
  buffer : part.buffer ≤ chunkBytes
  room : part.position + part.buffer + part.frame ≤ request.upload.committed + request.length
  whole : part.received ≤ request.length →
    part.position + part.buffer + part.frame = request.upload.committed + part.received
  committed : part.upload.committed = request.upload.committed
  declared : part.upload.declared = request.upload.declared

/-- A task hands its command over after those before it. -/
def InOrder (part : Part) : Action → Prop
  | .send task => task < part.tasks.length → task ≤ part.answers.length
  | _ => True

section
variable (ordered : part.Ordered request)
include ordered

theorem Ordered.receive (bytes : Nat) : (part.step request (.receive bytes)).2.Ordered request := by
  have room := ordered.room
  have whole := ordered.whole
  rw [step]
  split
  · refine { ordered with room := ?_, whole := ?_ }
    all_goals
      simp only
      split
    all_goals omega
  · exact ordered

theorem Ordered.fill : (part.step request .fill).2.Ordered request := by
  have buffer := ordered.buffer
  have room := ordered.room
  have whole := ordered.whole
  refine { ordered with buffer := ?_, room := ?_, whole := ?_ }
  all_goals
    simp only [step]
    omega

theorem Ordered.dispatch : (part.step request .dispatch).2.Ordered request := by
  have room := ordered.room
  have whole := ordered.whole
  rw [step]
  split
  · obtain ⟨reached, sent, waiting, written⟩ := ordered.contiguous
    have known := ordered.known
    refine { ordered with
      known := ?_, contiguous := ⟨reached, ?_, ?_, written⟩, buffer := ?_, room := ?_, whole := ?_ }
    · simp
      omega
    · rw [take_append_of_le_length known]
      exact sent
    · rw [drop_append_of_le_length known]
      exact waiting.append ⟨rfl, ordered.buffer, rfl⟩
    · simp
    · simp
      omega
    · simp
      omega
  · exact ordered

theorem Ordered.send_iff (task : Nat) :
    (part.step request (.send task)).2.Ordered request ↔ part.InOrder (.send task) := by
  have order := ordered.order
  rw [step]
  by_cases inRange : task < part.tasks.length
  · rw [getElem?_eq_getElem inRange]
    by_cases answered : task ∈ part.answers.map Prod.fst
    · simp only [if_pos answered]
      refine iff_of_true ordered fun _ => ?_
      rw [order, mem_range] at answered
      omega
    · simp only [if_neg answered]
      constructor
      · intro after _
        have last := after.order
        rw [map_append, order, length_append, map_singleton, length_singleton, range_succ,
          append_cancel_left_eq, singleton_inj] at last
        omega
      · intro inOrder
        rw [order, mem_range] at answered
        obtain rfl : task = part.answers.length := by
          have := inOrder inRange
          omega
        obtain ⟨reached, sent, waiting, written⟩ := ordered.contiguous
        rw [drop_eq_getElem_cons inRange] at waiting
        obtain ⟨here, small, later⟩ := waiting
        have fits := later.le
        have above := sent.le
        have room := ordered.room
        have within := request.fits
        have taken := @Upload.chunk_eq_ok part.upload _ small
          (by rw [ordered.committed, here]; exact above)
          (by rw [ordered.declared, here]; omega) (by
            rw [ordered.committed, here]
            refine written.imp_right fun ⟨first, ahead⟩ => ⟨?_, ahead⟩
            rw [first] at sent
            exact sent.symm)
        rw [here] at taken
        simp only [taken]
        refine { ordered with
          order := ?_, taken := ?_, known := ?_, contiguous := ⟨_, ?_, ?_, .inl rfl⟩ }
        · simp [order, range_succ]
        · intro answer mem
          rcases mem_append.mp mem with old | new
          · exact ordered.taken answer old
          · cases mem_singleton.mp new
            rfl
        · simp
          omega
        · rw [length_append, length_singleton, take_add_one, getElem?_eq_getElem inRange]
          exact sent.append ⟨here, small, rfl⟩
        · rw [length_append]
          exact later
  · rw [getElem?_eq_none (Nat.not_lt.mp inRange)]
    exact iff_of_true ordered fun known => absurd known inRange

theorem Ordered.step_iff (action : Action) :
    (part.step request action).2.Ordered request ↔ part.InOrder action := by
  cases action with
  | receive bytes => exact iff_of_true (ordered.receive bytes) trivial
  | fill => exact iff_of_true ordered.fill trivial
  | dispatch => exact iff_of_true ordered.dispatch trivial
  | send task => exact ordered.send_iff task

end

/-- The whole body was sent and taken. -/
def Complete (request : Request) (part : Part) : Prop :=
  part.received = request.length ∧ part.frame = 0 ∧ part.buffer = 0 ∧
    part.answers.length = part.tasks.length

theorem Ordered.not_refusesPart (ordered : part.Ordered request)
    (complete : part.Complete request) :
    ¬ part.upload.refusesPart request.upload.committed request.length := by
  obtain ⟨received, frame, buffer, all⟩ := complete
  obtain ⟨reached, sent, waiting, written⟩ := ordered.contiguous
  have whole := ordered.whole (Nat.le_of_eq received)
  rw [all, drop_length] at waiting
  cases waiting
  have committed := ordered.committed
  rw [Upload.refusesPart]
  rintro ⟨some, refused⟩
  rcases written with written | ⟨none, _⟩
  · omega
  rw [none] at sent
  have same : request.upload.committed = part.position := sent
  omega

/-- Every run of a part: the Controller gets the chunks in order and takes them all exactly if the
tasks hand their commands over in the order they were spawned in, and then refuses no offset of a
body sent to the end. -/
theorem chunks_arrive_in_order_iff (request : Request) (actions : List Action) :
    ((∀ earlier later, actions = earlier ++ later →
        (exec (step request) (start request) earlier).Ordered request) ↔
      AllSteps (step request) InOrder (start request) actions) ∧
    (AllSteps (step request) InOrder (start request) actions →
      (exec (step request) (start request) actions).Complete request →
        ¬ (exec (step request) (start request) actions).upload.refusesPart
          request.upload.committed request.length) := by
  have initial : (start request).Ordered request := by
    constructor
    case contiguous => exact ⟨_, rfl, rfl, .inr ⟨rfl, request.ahead⟩⟩
    all_goals simp [start]
  have exactly := @allSteps_iff _ _ _ (step request) _ (Ordered request) InOrder (fun _ => True)
    (fun _ _ _ => trivial) (fun _ action _ ordered => ordered.step_iff action) trivial initial
    actions
  refine ⟨exactly, fun inOrder => ?_⟩
  exact (exactly.mpr inOrder actions [] (append_nil _).symm).not_refusesPart

/-- The second of two chunks comes first. -/
theorem later_chunk_can_come_first :
    ¬ ∀ request actions, (exec (step request) (start request) actions).Ordered request := by
  intro always
  have ordered := always ⟨393216, ⟨393216, 0, 0⟩, Nat.le_refl _, Nat.le_refl _⟩
    [.receive 393216, .fill, .dispatch, .fill, .dispatch, .send 1]
  have taken := ordered.taken
  revert taken
  decide

end Part
end Treer.Proxy.UploadPart
