import Treer.Proxy.Answers

/-!
# Commands in flight

Every snapshot makes the Proxy send pending commands once more, whether or not the machine has
connected again since, and answers those that must not be replayed as if it had.
-/

namespace Treer.Proxy.Commands

open Foundation Protocol List
variable {π ν : Type}

/-- The error says that the connection of a machine has changed. -/
def saysStale (error : ProtocolError) : Bool :=
  error.code == "machine_transfer_stale" || error.code == "controller_update_dispatch_stale"

/-- The Proxy itself answers so. -/
def Delivery.isStale (delivery : Delivery ν) : Bool :=
  delivery.origin.isNone && delivery.result.error.any saysStale

section
variable (earlier : List PendingCommand) (key : ServerKey) (connection : ServerConnection)

/-- A command of the machine that the connection of the machine can carry out, and that is none of
those from before the connection. -/
def inFlight (command : PendingCommand) : Bool :=
  command.server == key && command.requiredCapability.all connection.capabilities.contains &&
    !earlier.contains command

namespace Shared

variable (shared : Shared ν)

/-- No command in flight is answered as stale on the way to a later state. -/
def KeepsInFlight (after : Shared ν) : Prop :=
  ∀ told, after.delivered = told ++ shared.delivered → ∀ command ∈ shared.pending,
    inFlight earlier key connection command = true →
      ∀ delivery, (command.commandId, delivery) ∈ told → delivery.isStale = false

/-- A snapshot looks through the commands of the machine when none in flight must not be replayed.
-/
def replayable {β : Type} : Call ν β → Bool
  | .rejectStale other _ => other != key || shared.pending.rows.all fun command =>
      !(inFlight earlier key connection command && command.single)
  | _ => true

end Shared

/-- The connection is the one that is registered for the machine. -/
def Operations.Registered (operations : Operations π ν) : Prop :=
  operations.shared.connections.get? key = some connection
deriving Decidable

end

/-- The other errors of the Proxy have codes of their own. -/
def ownCodes {β : Type} : Call ν β → Bool
  | .reject _ error | .rejectAll _ error => !saysStale error
  | _ => true

section
variable {earlier : List PendingCommand} {key : ServerKey} {connection : ServerConnection}

section
variable {shared : Shared ν}

theorem keepsInFlight_of_delivered {after : Shared ν}
    (same : after.delivered = shared.delivered) :
    shared.KeepsInFlight earlier key connection after := by
  intro told split command _ _ delivery mem
  rw [same, self_eq_append_left] at split
  rw [split] at mem
  cases mem

theorem keepsInFlight_answer_iff {selected : PendingCommand → Bool}
    {delivery : PendingCommand → Delivery ν} :
    shared.KeepsInFlight earlier key connection (shared.answer selected delivery) ↔
      ∀ command ∈ shared.pending, selected command = true →
        inFlight earlier key connection command = true → (delivery command).isStale = false := by
  constructor
  · intro keeps command pending chosen inFlight
    refine keeps _ rfl command pending inFlight _ (mem_map.mpr ⟨command, ?_, rfl⟩)
    exact mem_filter.mpr ⟨pending, chosen⟩
  · intro spares told split command pending inFlight _ mem
    rw [← append_cancel_right split] at mem
    obtain ⟨other, chosen, same⟩ := mem_map.mp mem
    obtain ⟨sameId, rfl⟩ := Prod.mk.inj same
    obtain ⟨otherPending, chosen⟩ := mem_filter.mp chosen
    cases Table.eq_of_key_eq otherPending pending sameId
    exact spares command pending chosen inFlight

theorem saysStale_staleError (serverId : String) (command : PendingCommand) :
    saysStale (Shared.staleError serverId command) = command.single := by
  unfold Shared.staleError PendingCommand.single
  split_ifs with transfer update
  · simp [transfer, saysStale]
  · simp [update, saysStale]
  · simp [transfer, update, saysStale]

/-- Commands that must not be replayed are told that they are stale. -/
theorem keepsInFlight_rejectStale_iff (other : ServerKey) (capabilities : List String) :
    shared.KeepsInFlight earlier key connection (shared.rejectStale other capabilities).2 ↔
      shared.replayable earlier key connection (.rejectStale other capabilities) = true := by
  have said : ∀ command : PendingCommand,
      (⟨.failure command.commandId (Shared.staleError other.serverId command), none⟩ :
        Delivery ν).isStale = command.single := fun _ => saysStale_staleError ..
  refine keepsInFlight_answer_iff.trans ?_
  simp only [said, Shared.replayable, Bool.or_eq_true, bne_iff_ne, all_eq_true, Bool.not_eq_true',
    Bool.and_eq_false_imp]
  constructor
  · intro spares
    by_cases same : other = key
    · refine .inr fun command pending inFlight => ?_
      by_contra single
      have own : command.server = key := by
        simp only [Commands.inFlight, Bool.and_eq_true, beq_iff_eq] at inFlight
        exact inFlight.1.1
      refine single (spares command pending ?_ inFlight)
      simp [Shared.stale, own, same, Bool.eq_true_of_not_eq_false single]
    · exact .inl same
  · rintro (differs | spares) command pending chosen inFlight
    · simp only [Shared.stale, Commands.inFlight, Bool.and_eq_true, beq_iff_eq] at chosen inFlight
      exact absurd (chosen.1.symm.trans inFlight.1.1) differs
    · exact spares command pending inFlight

theorem keepsInFlight_iff {β : Type} (call : Call ν β) (world : World)
    (own : ownCodes call = true) :
    shared.KeepsInFlight earlier key connection (machine call world shared).2 ↔
      shared.replayable earlier key connection call = true := by
  cases call with
  | rejectStale other capabilities => exact keepsInFlight_rejectStale_iff other capabilities
  | reject | rejectAll =>
    refine iff_of_true (keepsInFlight_answer_iff.mpr fun _ _ _ _ => ?_) rfl
    exact (Bool.not_eq_true' _).mp own
  | complete =>
    refine iff_of_true ?_ rfl
    simp only [machine, Shared.complete]
    split
    · exact keepsInFlight_of_delivered rfl
    · exact keepsInFlight_answer_iff.mpr fun _ _ _ _ => rfl
  | arrive =>
    refine iff_of_true (keepsInFlight_of_delivered ?_) rfl
    simp only [machine, Shared.arrive]
    split <;> rfl
  | send | disconnectCurrent =>
    refine iff_of_true (keepsInFlight_of_delivered ?_) rfl
    simp only [machine]
    split <;> rfl
  | _ => exact iff_of_true (keepsInFlight_of_delivered rfl) rfl

end

namespace Operations

theorem keepsInFlight_step_iff (encode : CommandEnvelope π → Except String String)
    {operations : Operations π ν} {move : Move (Operation π ν) World}
    (own : operations.Makes (fun call => ownCodes call = true) move) :
    operations.shared.KeepsInFlight earlier key connection
        (operations.step encode move).2.shared ↔
      operations.Makes
        (fun call => operations.shared.replayable earlier key connection call = true) move := by
  cases move with
  | start operation =>
    refine iff_of_true (keepsInFlight_of_delivered (congrArg Shared.delivered ?_)) trivial
    change (Pool.start _ _ operations operation).shared = _
    unfold Pool.start
    split <;> rfl
  | advance place world =>
    change operations.shared.KeepsInFlight _ _ _ (operations.advance machine place world).shared ↔
      ∀ task ∈ operations.tasks[place]?, task.rest.Begins _
    cases found : operations.tasks[place]? with
    | none => simp [Pool.advance, found, keepsInFlight_of_delivered]
    | some task =>
      have own := own task found
      rcases Pool.advance_of_found machine found world with
        ⟨done, same⟩ | ⟨_, call, next, calls, made⟩
      · rw [same]
        simp [done, Program.Begins, keepsInFlight_of_delivered]
      · rw [calls] at own
        rw [made]
        simp only [Option.mem_some_iff, forall_eq', calls]
        exact keepsInFlight_iff call world own

/-- As long as a connection of a machine stays registered, no pending command is answered as stale
exactly if every snapshot comes when none that is pending must not be replayed. The commands from
before the connection, which may be answered so, can be left out on both sides. -/
theorem snapshots_keep_commands_in_flight_iff (encode : CommandEnvelope π → Except String String)
    (operations : Operations π ν) (moves : List (Move (Operation π ν) World))
    (stays : AllSteps (step encode) (fun operations _ => operations.Registered key connection)
      operations moves)
    (own : AllSteps (step encode) (fun operations => operations.Makes fun call =>
      ownCodes call = true) operations moves) :
    AllSteps (step encode) (fun operations move => operations.shared.KeepsInFlight earlier key
        connection (operations.step encode move).2.shared) operations moves ↔
      AllSteps (step encode) (fun operations => operations.Makes fun call =>
        operations.shared.replayable earlier key connection call = true) operations moves := by
  induction moves generalizing operations with
  | nil => exact Iff.rfl
  | cons move rest ih =>
    exact and_congr (keepsInFlight_step_iff encode own.1) (ih _ stays.2 own.2)

end Operations
end

namespace Sample

/-- The text of a command is its id. -/
def encode (envelope : CommandEnvelope Unit) : Except String String := .ok envelope.commandId

/-- The machine can transfer files. -/
def connection (connectionId : String) : ServerConnection :=
  ⟨connectionId, "controller", [Capability.machineFileTransfer]⟩

/-- A command is entered and sent by the task at a place. -/
def sending (place : Nat) (commandId : String) (kind : CommandKind) :
    List (Move (Operation Unit Unit) World) :=
  .start (.send "srv_1" none ⟨commandId, "alpha", ⟨kind, ()⟩⟩) :: replicate 4 (.advance place world)

/-- The machine connects, a transfer is sent to it, and it connects again. -/
def reconnected : Operations Unit Unit :=
  exec (Operations.step encode) (Pool.init Shared.empty)
    (.start (.connect key (connection "c1")) :: .advance 0 world ::
      sending 1 "cmd_1" .fileTransfer ++
      [.start (.connect key (connection "c2")), .advance 2 world])

/-- Over the second connection a read is sent and a transfer carried out; for the snapshot the first
transfer is answered as stale and the read is sent again. -/
def transferred : List (Move (Operation Unit Unit) World) :=
  sending 3 "cmd_2" .read ++ sending 4 "cmd_3" .fileTransfer ++
    .start (.complete key "c2" (.success "cmd_3" ())) :: replicate 2 (.advance 5 world) ++
      .start (.resend key) :: replicate 4 (.advance 6 world)

/-- The snapshot comes while the second transfer is pending. -/
def transferring : List (Move (Operation Unit Unit) World) :=
  sending 3 "cmd_2" .fileTransfer ++ .start (.resend key) :: replicate 2 (.advance 4 world)

end Sample

theorem snapshot_keeps_read :
    AllSteps (Operations.step Sample.encode) (fun operations move =>
        operations.shared.KeepsInFlight Sample.reconnected.shared.pending.rows Sample.key
          (Sample.connection "c2") (operations.step Sample.encode move).2.shared)
      Sample.reconnected Sample.transferred :=
  (Operations.snapshots_keep_commands_in_flight_iff Sample.encode _ _ (by decide +kernel)
    (by decide +kernel)).mpr (by decide +kernel)

/-- The connection stays, and its transfer is answered as if it had not. -/
theorem snapshot_fails_transfer :
    AllSteps (Operations.step Sample.encode) (fun operations _ =>
        operations.Registered Sample.key (Sample.connection "c2"))
      Sample.reconnected Sample.transferring ∧
    ¬ AllSteps (Operations.step Sample.encode) (fun operations move =>
        operations.shared.KeepsInFlight Sample.reconnected.shared.pending.rows Sample.key
          (Sample.connection "c2") (operations.step Sample.encode move).2.shared)
      Sample.reconnected Sample.transferring := by
  refine ⟨by decide +kernel, fun keeps => ?_⟩
  have spared := keeps.2.2.2.2.2.2.2.1 _ rfl
    ⟨"cmd_2", Sample.key, "cmd_2", some Capability.machineFileTransfer, none⟩
    (mem_of_mem_tail mem_cons_self) (by decide +kernel) _ (mem_of_mem_tail mem_cons_self)
  exact absurd spared (by decide)

end Treer.Proxy.Commands
