import Treer.Proxy.Commands

/-!
# Commands are answered once

Every operation leaves the commands of other callers alone, but for taking them out of the
table with an answer. A caller therefore finds its own command as it has left it, or
answered, and what it is told came from its machine or from the Proxy.
-/

namespace Treer.Proxy.Commands

open Foundation Protocol Procedure Table List Pool Program
open Foundation.Procedure (call attempt settle)
variable {command : PendingCommand} {commandId : String}

section
variable {ν : Type} {before shared after : Shared ν}

def Shared.framesOf (shared : Shared ν) (commandId : String) : List Frame :=
  shared.sent.filter (·.commandId == commandId)

/-- A result of a machine is for a command that was issued to it, and arrived over the
connection that was registered. -/
def Shared.Vouches (shared : Shared ν) (commandId : String)
    (origin : Option (ServerKey × String)) : Prop :=
  ∀ entry ∈ origin, ∃ command ∈ shared.issued, command.commandId = commandId ∧
    command.server = entry.1 ∧ ⟨commandId, entry.1, entry.2⟩ ∈ shared.arrivals

/-- The command is not in the table. -/
def Shared.Settled (shared : Shared ν) (commandId : String) : Prop :=
  ∀ command ∈ shared.pending, command.commandId ≠ commandId

structure Shared.Consistent (shared : Shared ν) : Prop where
  pending : ∀ command ∈ shared.pending, command ∈ shared.issued
  sent : ∀ frame ∈ shared.sent, ∃ command ∈ shared.issued,
    command.commandId = frame.commandId ∧ command.encoded = frame.text
  single : ∀ command ∈ shared.issued, command.single = true →
    (shared.framesOf command.commandId).length ≤ 1
  delivered : ∀ entry ∈ shared.delivered, (∃ command ∈ shared.issued, command.commandId = entry.1) ∧
    shared.Settled entry.1 ∧ shared.Vouches entry.1 entry.2.origin
  outcomes : ∀ outcome ∈ shared.outcomes,
    shared.Settled outcome.commandId ∧ shared.Vouches outcome.commandId outcome.origin
  once : (shared.outcomes.map (·.commandId)).Nodup

theorem consistent_empty : (Shared.empty : Shared ν).Consistent where
  pending := forall_mem_nil _
  sent := forall_mem_nil _
  single := forall_mem_nil _
  delivered := forall_mem_nil _
  outcomes := forall_mem_nil _
  once := nodup_nil

structure Grows (before after : Shared ν) : Prop where
  issued : ∀ command ∈ before.issued, command ∈ after.issued
  arrivals : ∀ arrival ∈ before.arrivals, arrival ∈ after.arrivals

theorem Grows.refl (shared : Shared ν) : Grows shared shared := ⟨fun _ => id, fun _ => id⟩

theorem Grows.trans (first : Grows before shared) (second : Grows shared after) :
    Grows before after :=
  ⟨fun command mem => second.issued command (first.issued command mem),
    fun arrival mem => second.arrivals arrival (first.arrivals arrival mem)⟩

theorem Grows.vouches {origin : Option (ServerKey × String)} (grows : Grows before after)
    (vouches : before.Vouches commandId origin) : after.Vouches commandId origin := by
  intro entry mem
  obtain ⟨command, issued, sameId, sameServer, arrived⟩ := vouches entry mem
  exact ⟨command, grows.issued command issued, sameId, sameServer, grows.arrivals _ arrived⟩

/-- The command of another caller is left alone or answered, and sent again only if it may
be. -/
structure Undisturbed (commandId : String) (before after : Shared ν) : Prop where
  pending : ∀ command ∈ after.pending, command.commandId = commandId → command ∈ before.pending
  issued : after.issued.find? commandId = before.issued.find? commandId
  outcomes : ∀ outcome ∈ after.outcomes, outcome.commandId = commandId → outcome ∈ before.outcomes
  frames : after.framesOf commandId = before.framesOf commandId ∨
    ∃ command ∈ before.issued, command.commandId = commandId ∧ command.single = false

theorem Undisturbed.refl (commandId : String) (shared : Shared ν) :
    Undisturbed commandId shared shared :=
  ⟨fun _ mem _ => mem, rfl, fun _ mem _ => mem, .inl rfl⟩

theorem Undisturbed.trans (first : Undisturbed commandId before shared)
    (second : Undisturbed commandId shared after) : Undisturbed commandId before after where
  pending command mem same := first.pending command (second.pending command mem same) same
  issued := second.issued.trans first.issued
  outcomes outcome mem same := first.outcomes outcome (second.outcomes outcome mem same) same
  frames := by
    rcases second.frames with same | ⟨command, mem, sameId, replayed⟩
    · rcases first.frames with same' | replayed
      · exact .inl (same.trans same')
      · exact .inr replayed
    · right
      have found := find?_eq_some_iff.mpr ⟨mem, sameId⟩
      rw [first.issued] at found
      exact ⟨command, (find?_eq_some_iff.mp found).1, sameId, replayed⟩

/-- A caller that was not answered still is not. -/
theorem Undisturbed.unanswered (undisturbed : Undisturbed commandId before after)
    (none : ∀ outcome ∈ before.outcomes, outcome.commandId ≠ commandId) :
    ∀ outcome ∈ after.outcomes, outcome.commandId ≠ commandId :=
  fun outcome mem same => none outcome (undisturbed.outcomes outcome mem same) same

theorem Undisturbed.settled (undisturbed : Undisturbed commandId before after)
    (settled : before.Settled commandId) : after.Settled commandId :=
  fun command mem same => settled command (undisturbed.pending command mem same) same

/-- A step for the caller of `own`. -/
structure Proper (own : Option String) (before after : Shared ν) : Prop where
  consistent : after.Consistent
  grows : Grows before after
  others : ∀ commandId, own ≠ some commandId → Undisturbed commandId before after

/-! ## Calls -/

variable (own : Option String)

section
variable (consistent : shared.Consistent) {selected : PendingCommand → Bool}
include consistent

/-- Nothing but the connections changes, and results that arrive. -/
theorem proper_quiet (connections : KeyedMap ServerKey ServerConnection) {arrivals : List Arrival}
    (more : ∀ arrival ∈ shared.arrivals, arrival ∈ arrivals) :
    Proper own shared { shared with connections, arrivals } := by
  have grows : Grows shared { shared with connections, arrivals } := ⟨fun _ => id, more⟩
  refine ⟨{ consistent with delivered := ?_, outcomes := ?_ }, grows,
    fun _ _ => ⟨fun _ mem _ => mem, rfl, fun _ mem _ => mem, .inl rfl⟩⟩
  · intro entry mem
    obtain ⟨issued, done, origin⟩ := consistent.delivered entry mem
    exact ⟨issued, done, grows.vouches origin⟩
  · intro outcome mem
    exact ⟨(consistent.outcomes outcome mem).1, grows.vouches (consistent.outcomes outcome mem).2⟩

theorem proper_refl : Proper own shared shared :=
  proper_quiet own consistent shared.connections fun _ => id

/-- Commands leave the table, and some of them with a delivery. -/
theorem proper_delete {deliveries : List (String × Delivery ν)}
    (each : ∀ entry ∈ deliveries, ∃ command ∈ shared.pending, selected command = true ∧
      command.commandId = entry.1 ∧ shared.Vouches entry.1 entry.2.origin) :
    Proper own shared { shared with
      pending := shared.pending.delete selected, delivered := deliveries ++ shared.delivered } := by
  have fewer : ∀ command ∈ shared.pending.delete selected,
      command ∈ shared.pending ∧ selected command = false :=
    fun command mem => mem_delete_iff.mp mem
  refine ⟨{ consistent with pending := ?_, delivered := ?_, outcomes := ?_ },
    ⟨fun _ => id, fun _ => id⟩, ?_⟩
  · intro command mem
    exact consistent.pending command (fewer command mem).1
  · intro entry mem
    rcases mem_append.mp mem with new | old
    · obtain ⟨command, inPending, isSelected, named, vouches⟩ := each entry new
      refine ⟨⟨command, consistent.pending command inPending, named⟩, ?_, vouches⟩
      -- The command itself has left the table, and its id is only its own.
      intro other stays same
      obtain ⟨wasThere, notSelected⟩ := fewer other stays
      cases eq_of_key_eq wasThere inPending (same.trans named.symm)
      rw [isSelected] at notSelected
      cases notSelected
    · obtain ⟨issued, done, origin⟩ := consistent.delivered entry old
      exact ⟨issued, fun command stays => done command (fewer command stays).1, origin⟩
  · intro outcome mem
    obtain ⟨done, origin⟩ := consistent.outcomes outcome mem
    exact ⟨fun command stays => done command (fewer command stays).1, origin⟩
  · intro commandId _
    exact ⟨fun command mem _ => (fewer command mem).1, rfl, fun _ mem _ => mem, .inl rfl⟩

theorem proper_answer {delivery : PendingCommand → Delivery ν}
    (vouches : ∀ command ∈ shared.pending, selected command = true →
      shared.Vouches command.commandId (delivery command).origin) :
    Proper own shared (shared.answer selected delivery) := by
  apply proper_delete own consistent
  intro entry mem
  obtain ⟨command, chosen, rfl⟩ := mem_map.mp mem
  obtain ⟨inPending, isSelected⟩ := mem_filter.mp chosen
  exact ⟨command, inPending, isSelected, rfl, vouches command inPending isSelected⟩

theorem proper_fail (selected : PendingCommand → Bool) (error : PendingCommand → ProtocolError) :
    Proper own shared (shared.fail selected error) :=
  proper_answer own consistent fun _ _ _ _ none => by cases none

end

/-- A frame of a command that may be sent again, or was not sent yet. -/
theorem proper_send (consistent : shared.Consistent) {frame : Frame}
    (issued : command ∈ shared.issued) (sameId : command.commandId = frame.commandId)
    (sameText : command.encoded = frame.text)
    (first : command.single = true → shared.framesOf frame.commandId = [])
    (mine : own ≠ some frame.commandId → command.single = false) :
    Proper own shared { shared with sent := frame :: shared.sent } := by
  refine ⟨{ consistent with sent := ?_, single := ?_ }, ⟨fun _ => id, fun _ => id⟩, ?_⟩
  · intro other mem
    rcases mem_cons.mp mem with rfl | old
    · exact ⟨command, issued, sameId, sameText⟩
    · exact consistent.sent other old
  · intro other otherIssued isSingle
    by_cases same : frame.commandId = other.commandId
    · have equal : other = command := eq_of_key_eq otherIssued issued (same.symm.trans sameId.symm)
      rw [equal] at isSingle ⊢
      have frames : Shared.framesOf { shared with sent := frame :: shared.sent }
          command.commandId = frame :: shared.framesOf command.commandId := by
        simp [Shared.framesOf, sameId]
      rw [frames, sameId, first isSingle]
      exact Nat.le_refl 1
    · have frames : Shared.framesOf { shared with sent := frame :: shared.sent }
          other.commandId = shared.framesOf other.commandId := by
        simp [Shared.framesOf, same]
      rw [frames]
      exact consistent.single other otherIssued isSingle
  · intro commandId notOwn
    refine ⟨fun _ mem _ => mem, rfl, fun _ mem _ => mem, ?_⟩
    by_cases same : frame.commandId = commandId
    · right
      exact ⟨command, issued, sameId.trans same, mine (by rw [same]; exact notOwn)⟩
    · simp [Shared.framesOf, same]

/-- Nothing is known of the command yet. -/
structure Fresh (commandId : String) (shared : Shared ν) : Prop where
  issued : shared.issued.find? commandId = none
  outcomes : ∀ outcome ∈ shared.outcomes, outcome.commandId ≠ commandId

theorem Fresh.of_undisturbed (fresh : Fresh commandId before)
    (undisturbed : Undisturbed commandId before after) : Fresh commandId after where
  issued := undisturbed.issued.trans fresh.issued
  outcomes := undisturbed.unanswered fresh.outcomes

theorem Fresh.not_issued (fresh : Fresh commandId shared) (mem : command ∈ shared.issued) :
    command.commandId ≠ commandId :=
  find?_eq_none_iff.mp fresh.issued command mem

theorem Fresh.framesOf (fresh : Fresh commandId shared) (consistent : shared.Consistent) :
    shared.framesOf commandId = [] := by
  rw [Shared.framesOf, filter_eq_nil_iff]
  intro frame mem same
  obtain ⟨_, issued, sameId, _⟩ := consistent.sent frame mem
  exact fresh.not_issued issued (sameId.trans (beq_iff_eq.mp same))

theorem proper_insert (consistent : shared.Consistent) (command : PendingCommand)
    (fresh : Fresh command.commandId shared) :
    Proper (some command.commandId) shared (shared.insert command) := by
  have grows : Grows shared (shared.insert command) :=
    ⟨fun old mem => mem_put_iff.mpr (Or.inl ⟨mem, fresh.not_issued mem⟩), fun _ => id⟩
  have settled : ∀ {commandId}, commandId ≠ command.commandId → shared.Settled commandId →
      (shared.insert command).Settled commandId := by
    intro commandId differs before other mem
    rcases mem_put_iff.mp mem with ⟨old, _⟩ | rfl
    · exact before other old
    · exact differs.symm
  refine ⟨⟨?_, ?_, ?_, ?_, ?_, consistent.once⟩, grows, ?_⟩
  · intro other mem
    rcases mem_put_iff.mp mem with ⟨old, _⟩ | rfl
    · exact grows.issued other (consistent.pending other old)
    · exact mem_put_iff.mpr (Or.inr rfl)
  · intro frame mem
    obtain ⟨other, issued, facts⟩ := consistent.sent frame mem
    exact ⟨other, grows.issued other issued, facts⟩
  · intro other mem isSingle
    rcases mem_put_iff.mp mem with ⟨old, _⟩ | rfl
    · exact consistent.single other old isSingle
    change (shared.framesOf other.commandId).length ≤ 1
    rw [fresh.framesOf consistent]
    exact Nat.zero_le 1
  · intro entry mem
    obtain ⟨⟨other, issued, sameId⟩, done, origin⟩ := consistent.delivered entry mem
    refine ⟨⟨other, grows.issued other issued, sameId⟩, settled ?_ done, grows.vouches origin⟩
    rw [← sameId]
    exact fresh.not_issued issued
  · intro outcome mem
    obtain ⟨done, origin⟩ := consistent.outcomes outcome mem
    exact ⟨settled (fresh.outcomes outcome mem) done, grows.vouches origin⟩
  · intro commandId other
    have differs : commandId ≠ command.commandId := fun same => other (by rw [same])
    refine ⟨?_, ?_, fun _ mem _ => mem, .inl rfl⟩
    · intro found mem same
      rcases mem_put_iff.mp mem with ⟨old, _⟩ | rfl
      · exact old
      · exact absurd same.symm differs
    · change (shared.issued.put command).find? commandId = _
      rw [find?_put, if_neg differs]

theorem proper_report (consistent : shared.Consistent) {outcome : Outcome ν}
    (settled : shared.Settled outcome.commandId)
    (vouches : shared.Vouches outcome.commandId outcome.origin)
    (unanswered : ∀ other ∈ shared.outcomes, other.commandId ≠ outcome.commandId) :
    Proper (some outcome.commandId) shared
      { shared with outcomes := outcome :: shared.outcomes } := by
  refine ⟨{ consistent with outcomes := ?_, once := ?_ }, ⟨fun _ => id, fun _ => id⟩, ?_⟩
  · intro other mem
    rcases mem_cons.mp mem with rfl | old
    · exact ⟨settled, vouches⟩
    · exact consistent.outcomes other old
  · rw [map_cons, nodup_cons]
    refine ⟨?_, consistent.once⟩
    intro mem
    obtain ⟨other, inOutcomes, same⟩ := mem_map.mp mem
    exact unanswered other inOutcomes same
  · intro commandId other
    refine ⟨fun _ mem _ => mem, rfl, ?_, .inl rfl⟩
    intro reported mem same
    rcases mem_cons.mp mem with rfl | old
    · exact absurd (by rw [same]) other
    · exact old

end

/-! ## Operations -/

namespace Operation

variable {π ν : Type} {operation : Operation π ν} {shared : Shared ν}
  {commands : List PendingCommand} {before : Shared ν}

/-- Others take the command of the caller out of the table at most. -/
def Rely (operation : Operation π ν) (before after : Shared ν) : Prop :=
  before.Consistent → after.Consistent ∧ Grows before after ∧
    ∀ commandId, operation.sends = some commandId → Undisturbed commandId before after

def Guarantee (operation : Operation π ν) (before after : Shared ν) : Prop :=
  before.Consistent → Proper operation.sends before after

theorem rely_refl (operation : Operation π ν) (shared : Shared ν) : operation.Rely shared shared :=
  fun consistent => ⟨consistent, Grows.refl shared, fun commandId _ => .refl commandId shared⟩

theorem rely_trans {first second third : Shared ν} (before : operation.Rely first second)
    (after : operation.Rely second third) : operation.Rely first third := by
  intro consistent
  obtain ⟨between, grows, undisturbed⟩ := before consistent
  obtain ⟨final, grows', undisturbed'⟩ := after between
  exact ⟨final, grows.trans grows', fun commandId own =>
    (undisturbed commandId own).trans (undisturbed' commandId own)⟩

/-- A program keeps the guarantee, and ends as promised in a consistent state. -/
abbrev Safe (operation : Operation π ν) {α : Type} (program : Program (Call ν) α)
    (post : α → Shared ν → Prop) (shared : Shared ν) : Prop :=
  program.Keeps machine operation.Rely operation.Guarantee
    (fun result after => after.Consistent ∧ post result after) shared

/-- A call that is proper in every consistent state. -/
def Harmless {β : Type} (instruction : Call ν β) : Prop :=
  ∀ own world (shared : Shared ν), shared.Consistent →
    Proper own shared (machine instruction world shared).2

theorem safe_of_every {α : Type} {program : Program (Call ν) α} (consistent : shared.Consistent)
    (every : program.Every Harmless) :
    operation.Safe program (fun _ _ => True) shared := by
  have relies : ∀ before after, operation.Rely before after → before.Consistent →
      after.Consistent := fun _ _ rely before => (rely before).1
  have each : ∀ {β : Type} (instruction : Call ν β) world (state : Shared ν),
      Harmless instruction → state.Consistent →
      operation.Guarantee state (machine instruction world state).2 ∧
        (machine instruction world state).2.Consistent := by
    intro β instruction world state harmless before
    have proper := harmless operation.sends world state before
    exact ⟨fun _ => proper, proper.consistent⟩
  exact (Keeps.of_every relies each every consistent).mono fun _ _ after => ⟨after, trivial⟩

theorem harmless_arrive (arrival : Arrival) :
    Harmless (.arrive arrival : Call ν (Except ProtocolError Unit)) := by
  intro own world shared consistent
  change Proper own shared (shared.arrive arrival).2
  unfold Shared.arrive
  split
  · exact proper_quiet own consistent _ fun _ => mem_cons_of_mem arrival
  · exact proper_refl own consistent

theorem proper_complete (own : Option String) (consistent : shared.Consistent) {key : ServerKey}
    {connectionId : String} {result : CommandResult ν}
    (arrived : ⟨result.commandId, key, connectionId⟩ ∈ shared.arrivals) :
    Proper own shared (shared.complete key connectionId result).2 := by
  unfold Shared.complete
  split
  · exact proper_refl own consistent
  rename_i matching
  apply proper_answer own consistent
  intro command mem selected entry fromMachine
  cases fromMachine
  have sameId := beq_iff_eq.mp selected
  refine ⟨command, consistent.pending command mem, rfl, ?_, ?_⟩
  · rw [find?_eq_some_iff.mpr ⟨mem, sameId⟩] at matching
    simpa using matching
  · rw [sameId]
    exact arrived

theorem safe_completeCommandFrom (consistent : shared.Consistent) (key : ServerKey)
    (connectionId : String) (result : CommandResult ν) :
    operation.Safe (completeCommandFrom key connectionId result).run (fun _ _ => True) shared := by
  refine keeps_attempt_bind ?_ ?_ ?_
  · intro state world _ before
    exact harmless_arrive _ _ world state before
  · intro state world error rely _
    exact ⟨(harmless_arrive _ none world state (rely consistent).1).consistent, trivial⟩
  intro state world _ rely ok
  let arrival : Arrival := ⟨result.commandId, key, connectionId⟩
  have proper := harmless_arrive arrival none world state (rely consistent).1
  -- What `require_current_connection` lets pass has arrived.
  have arrived : arrival ∈ (state.arrive arrival).2.arrivals := by
    change (state.arrive arrival).1 = .ok _ at ok
    unfold Shared.arrive at ok ⊢
    split at ok
    · exact mem_cons_self
    · cases ok
  apply keeps_perform
  intro later world' rely'
  obtain ⟨before, grows, _⟩ := rely' proper.consistent
  have completed := proper_complete operation.sends before (grows.arrivals _ arrived)
  exact ⟨fun _ => completed, completed.consistent, trivial⟩

/-- The commands that are sent again may be, and are those that were issued. -/
def Replayable (commands : List PendingCommand) (shared : Shared ν) : Prop :=
  ∀ command ∈ commands, command ∈ shared.issued ∧ command.single = false

theorem Replayable.grows {after : Shared ν}
    (replayable : Replayable commands before) (grows : Grows before after) :
    Replayable commands after :=
  fun command mem => ⟨grows.issued command (replayable command mem).1, (replayable command mem).2⟩

theorem safe_resendEach (consistent : shared.Consistent) (connectionId : String)
    (replayable : Replayable commands shared) :
    operation.Safe (resendEach connectionId commands).run (fun _ _ => True) shared := by
  induction commands generalizing shared with
  | nil => exact .done ⟨consistent, trivial⟩
  | cons command rest ih =>
    refine keeps_call_bind fun state world rely => ?_
    obtain ⟨before, grows, _⟩ := rely consistent
    refine ⟨fun _ => proper_refl _ before, ?_⟩
    have kept := replayable.grows grows
    have others : Replayable rest state := fun other mem => kept other (mem_cons_of_mem command mem)
    split
    · refine keeps_call_bind fun later world' rely' => ?_
      obtain ⟨before', grows', _⟩ := rely' before
      obtain ⟨issued, replayed⟩ := kept command mem_cons_self
      have sends : Proper operation.sends later (machine (.send
          { commandId := command.commandId, connectionId, text := command.encoded }) world'
          later).2 := by
        simp only [machine]
        split
        · refine proper_send operation.sends before' (grows'.issued command issued) rfl rfl ?_
            fun _ => replayed
          intro single
          rw [replayed] at single
          cases single
        · exact proper_refl _ before'
      exact ⟨fun _ => sends, ih sends.consistent (others.grows (grows'.trans sends.grows))⟩
    · rename_i error _
      refine keeps_call_bind fun later world' rely' => ?_
      obtain ⟨before', grows', _⟩ := rely' before
      have rejects := proper_fail operation.sends before' (·.commandId == command.commandId)
        fun _ => error
      exact ⟨fun _ => rejects, ih rejects.consistent (others.grows (grows'.trans rejects.grows))⟩

theorem safe_resendPending (consistent : shared.Consistent) (key : ServerKey) :
    operation.Safe (resendPending key).run (fun _ _ => True) shared := by
  refine keeps_call_bind fun state world rely => ?_
  obtain ⟨before, _, _⟩ := rely consistent
  refine ⟨fun _ => proper_refl _ before, ?_⟩
  split
  · exact .done ⟨before, trivial⟩
  rename_i connection _
  refine keeps_call_bind fun later world' rely' => ?_
  obtain ⟨before', _, _⟩ := rely' before
  have rejects : Proper operation.sends later
      (later.rejectStale key connection.capabilities).2 :=
    proper_fail operation.sends before' _ _
  refine ⟨fun _ => rejects, safe_resendEach rejects.consistent _ ?_⟩
  intro command mem
  obtain ⟨inPending, kept⟩ := mem_filter.mp mem
  refine ⟨rejects.grows.issued command (before'.pending command inPending), ?_⟩
  rw [Bool.and_eq_true, beq_iff_eq, Bool.not_eq_true', Shared.stale] at kept
  obtain ⟨sameServer, notStale⟩ := kept
  rw [beq_iff_eq.mpr sameServer, Bool.true_and, Bool.or_eq_false_iff] at notStale
  exact notStale.1

/-- What a caller knows when it is told the outcome. -/
structure Ready (commandId : String) (origin : Option (ServerKey × String)) (shared : Shared ν) :
    Prop where
  settled : shared.Settled commandId
  vouches : shared.Vouches commandId origin
  unanswered : ∀ outcome ∈ shared.outcomes, outcome.commandId ≠ commandId

theorem vouches_none (shared : Shared ν) (commandId : String) : shared.Vouches commandId none :=
  fun _ mem => by cases mem

theorem ready_of_fresh (consistent : shared.Consistent)
    (fresh : Fresh commandId shared) : Ready commandId none shared where
  settled command mem := fresh.not_issued (consistent.pending command mem)
  vouches := vouches_none shared commandId
  unanswered := fresh.outcomes

/-- The command was issued, and is not sent before its first frame if it must not be sent
again. -/
structure Entered (command : PendingCommand) (shared : Shared ν) : Prop where
  issued : command ∈ shared.issued
  unsent : command.single = true → shared.framesOf command.commandId = []
  unanswered : ∀ outcome ∈ shared.outcomes, outcome.commandId ≠ command.commandId

theorem Entered.of_undisturbed {after : Shared ν} (entered : Entered command before)
    (grows : Grows before after) (undisturbed : Undisturbed command.commandId before after) :
    Entered command after where
  issued := grows.issued command entered.issued
  unsent := by
    intro single
    rcases undisturbed.frames with same | ⟨_, mem, sameId, replayed⟩
    · rw [same]
      exact entered.unsent single
    · cases eq_of_key_eq mem entered.issued sameId
      rw [single] at replayed
      cases replayed
  unanswered := undisturbed.unanswered entered.unanswered

section
variable (own : operation.sends = some commandId)
include own

section
variable (consistent : shared.Consistent)
  (unanswered : ∀ outcome ∈ shared.outcomes, outcome.commandId ≠ commandId)
include consistent unanswered

theorem safe_giveUp (error : ProtocolError) : operation.Safe (giveUp commandId error).run
      (fun result after => Ready commandId (outcome commandId result).origin after) shared := by
  refine keeps_call_bind fun state world rely => ?_
  obtain ⟨before, _, undisturbed⟩ := rely consistent
  have removes : Proper operation.sends state (state.remove commandId) :=
    proper_delete operation.sends before fun _ mem => absurd mem not_mem_nil
  refine ⟨fun _ => removes, .done ⟨removes.consistent, ?_, vouches_none _ _,
    (undisturbed commandId own).unanswered unanswered⟩⟩
  intro command mem
  exact beq_eq_false_iff_ne.mp (mem_delete_iff.mp mem).2

/-- A caller gets what was delivered for its command, or gives up. -/
theorem safe_await (cancelled timeout : ProtocolError) : operation.Safe (ExceptT.run (do
        let awaited ← call (.await commandId)
        match awaited with
        | .result delivery => return delivery
        | .cancelled => giveUp commandId cancelled
        | .timeout => giveUp commandId timeout))
      (fun result after => Ready commandId (outcome commandId result).origin after) shared := by
  refine keeps_call_bind fun state world rely => ?_
  obtain ⟨before, _, undisturbed⟩ := rely consistent
  have stillUnanswered := (undisturbed commandId own).unanswered unanswered
  refine ⟨fun _ => proper_refl _ before, ?_⟩
  split
  · rename_i delivery awaited
    change state.await commandId world.timedOut = .result delivery at awaited
    unfold Shared.await at awaited
    split at awaited
    · rename_i entry found
      split at awaited
      · cases awaited
      cases awaited
      have sameId : entry.1 = commandId := by simpa using find?_some found
      obtain ⟨_, settled, vouches⟩ := before.delivered entry (mem_of_find?_eq_some found)
      rw [sameId] at settled vouches
      exact .done ⟨before, settled, vouches, stillUnanswered⟩
    · split at awaited <;> cases awaited
  · exact safe_giveUp own before stillUnanswered cancelled
  · exact safe_giveUp own before stillUnanswered timeout

end
end

theorem safe_sendLocalCommand {encode : CommandEnvelope π → Except String String}
    {serverId : String} {expected : Option String} {envelope : CommandEnvelope π}
    (own : operation.sends = some envelope.commandId) (consistent : shared.Consistent)
    (fresh : Fresh envelope.commandId shared) :
    operation.Safe (sendLocalCommand encode serverId expected envelope).run
      (fun result after =>
        Ready envelope.commandId (outcome envelope.commandId result).origin after) shared := by
  have stays : ∀ {before after : Shared ν}, operation.Rely before after → before.Consistent →
      Fresh envelope.commandId before → after.Consistent ∧ Fresh envelope.commandId after :=
    fun rely consistent fresh =>
      ⟨(rely consistent).1, fresh.of_undisturbed ((rely consistent).2.2 _ own)⟩
  refine keeps_call_bind fun looking world rely => ?_
  obtain ⟨consistent, fresh⟩ := stays rely consistent fresh
  refine ⟨fun _ => proper_refl _ consistent, ?_⟩
  refine keeps_settle_bind (fun _ _ => ⟨consistent, ready_of_fresh consistent fresh⟩)
    fun connection _ => ?_
  refine keeps_attempt_bind (fun _ _ _ => proper_refl _) ?_ ?_
  · intro checking world error rely _
    obtain ⟨consistent, fresh⟩ := stays rely consistent fresh
    exact ⟨consistent, ready_of_fresh consistent fresh⟩
  intro checking world _ rely _
  obtain ⟨consistent, fresh⟩ := stays rely consistent fresh
  refine keeps_settle_bind (fun _ _ => ⟨consistent, ready_of_fresh consistent fresh⟩)
    fun encoded _ => ?_
  -- From here on the command is in the table, and others may answer it.
  refine keeps_call_bind fun inserting world rely => ?_
  obtain ⟨consistent, fresh⟩ := stays rely consistent fresh
  let command : PendingCommand :=
    { commandId := envelope.commandId
      server := { workspaceId := envelope.workspaceId, serverId }
      encoded
      requiredCapability := envelope.command.requiredCapability
      creationAgentId := creationAgentId envelope.command }
  have inserts : Proper (some command.commandId) inserting (inserting.insert command) :=
    proper_insert consistent command fresh
  have entered : Entered command (inserting.insert command) :=
    ⟨mem_put_iff.mpr (.inr rfl), fun _ => fresh.framesOf consistent, fresh.outcomes⟩
  refine ⟨fun _ => own ▸ inserts, ?_⟩
  refine keeps_call_bind fun sending world rely => ?_
  obtain ⟨consistent, grows, undisturbed⟩ := rely inserts.consistent
  have entered : Entered command sending := entered.of_undisturbed grows (undisturbed _ own)
  let frame : Frame :=
    { commandId := envelope.commandId, connectionId := connection.connectionId, text := encoded }
  have sends : Proper operation.sends sending (machine (.send frame) world sending).2 := by
    simp only [machine]
    split
    · refine proper_send operation.sends consistent entered.issued rfl rfl entered.unsent ?_
      exact fun notOwn => absurd own notOwn
    · exact proper_refl _ consistent
  have unanswered : ∀ reported ∈ (machine (.send frame) world sending).2.outcomes,
      reported.commandId ≠ envelope.commandId := by
    simp only [machine]
    split <;> exact entered.unanswered
  refine ⟨fun _ => sends, ?_⟩
  split
  · exact safe_await own sends.consistent unanswered _ _
  · exact safe_giveUp own sends.consistent unanswered _

theorem safe_code (encode : CommandEnvelope π → Except String String)
    (operation : Operation π ν) (consistent : shared.Consistent)
    (fresh : ∀ commandId, operation.sends = some commandId → Fresh commandId shared) :
    (operation.code encode).Keeps machine operation.Rely operation.Guarantee (fun _ _ => True)
      shared := by
  have finishes : ∀ {α : Type} {procedure : Procedure ν α},
      operation.Safe procedure.run (fun _ _ => True) shared →
      (finish procedure).Keeps machine operation.Rely operation.Guarantee (fun _ _ => True)
        shared :=
    fun safe => safe.bind fun _ _ _ => .done trivial
  have performs : ∀ {instruction : Call ν Unit}, Harmless instruction →
      (perform instruction).Keeps machine operation.Rely operation.Guarantee
        (fun _ _ => True) shared :=
    fun harmless => keeps_perform fun state world _ =>
      ⟨harmless operation.sends world state, trivial⟩
  cases operation with
  | send serverId expected envelope =>
    refine (safe_sendLocalCommand rfl consistent (fresh _ rfl)).bind ?_
    rintro result _ ⟨consistent, ready⟩
    refine keeps_perform fun state world rely => ⟨fun _ => ?_, trivial⟩
    obtain ⟨consistent, grows, undisturbed⟩ := rely consistent
    have undisturbed := undisturbed envelope.commandId rfl
    have sameId : (outcome envelope.commandId result).commandId = envelope.commandId := by
      cases result <;> rfl
    change Proper (some envelope.commandId) state _
    generalize outcome envelope.commandId result = told at sameId ready ⊢
    rw [← sameId] at undisturbed ready ⊢
    exact proper_report consistent (undisturbed.settled ready.settled)
      (grows.vouches ready.vouches) (undisturbed.unanswered ready.unanswered)
  | complete key connectionId result =>
    exact finishes (safe_completeCommandFrom consistent key connectionId result)
  | resend key => exact finishes (safe_resendPending consistent key)
  | release =>
    refine finishes (safe_of_every consistent ?_)
    exact every_bind
      (every_call fun own _ _ consistent => proper_quiet own consistent _ fun _ => id)
      fun _ => every_call fun own _ _ consistent => proper_fail own consistent _ _
  | connect => exact performs fun own _ _ consistent => proper_quiet own consistent _ fun _ => id
  | disconnect =>
    refine performs fun own world state consistent => ?_
    simp only [machine]
    split
    · exact proper_quiet own consistent _ fun _ => id
    · exact proper_refl own consistent

end Operation

/-! ## Runs -/

namespace Operations

variable {π ν : Type} {encode : CommandEnvelope π → Except String String}
  {operations : Operations π ν}

/-- The id of a command that is sent is new. -/
def NewId (operations : Operations π ν) : Move (Operation π ν) World → Prop
  | .start operation => ∀ commandId ∈ operation.sends,
      ∀ task ∈ operations.tasks, task.label.sends ≠ some commandId
  | .advance _ _ => True

instance (operations : Operations π ν) (move : Move (Operation π ν) World) :
    Decidable (operations.NewId move) := by
  unfold NewId
  split <;> infer_instance

/-- Two operations do not send one command. -/
def Apart (first second : Operation π ν) : Prop :=
  ∀ commandId, first.sends = some commandId → second.sends ≠ some commandId

structure Sound (operations : Operations π ν) : Prop where
  consistent : operations.shared.Consistent
  keeps : operations.AllKeep machine Operation.Rely Operation.Guarantee
  apart : (operations.tasks.map (·.label)).Pairwise Apart
  fresh : ∀ commandId, (∀ task ∈ operations.tasks, task.label.sends ≠ some commandId) →
    Fresh commandId operations.shared

theorem Sound.start (sound : operations.Sound) {operation : Operation π ν}
    (new : operations.NewId (.start operation)) :
    (operations.step encode (.start operation)).2.Sound := by
  have started : (operations.step encode (.start operation)).2 =
      { operations with tasks := operations.tasks ++ [⟨operation, operation.code encode⟩] } := by
    change Pool.start (Operation.code encode) (fun _ _ => true) operations operation = _
    unfold Pool.start
    rw [if_pos (by simp)]
  rw [started]
  refine ⟨sound.consistent, ?_, ?_, ?_⟩
  · rw [← started]
    exact sound.keeps.start (operation.safe_code encode sound.consistent fun commandId own =>
      sound.fresh commandId (new commandId own))
  · rw [map_append, pairwise_append]
    refine ⟨sound.apart, pairwise_singleton _ _, ?_⟩
    intro first mem second isNew commandId own same
    obtain ⟨task, inTasks, rfl⟩ := mem_map.mp mem
    cases mem_singleton.mp isNew
    exact new commandId same task inTasks own
  · intro commandId none
    exact sound.fresh commandId fun task mem => none task (mem_append_left _ mem)

theorem Sound.advance (sound : operations.Sound) (place : Nat) (world : World) :
    (operations.step encode (.advance place world)).2.Sound := by
  change Sound (operations.advance machine place world)
  have labels := labels_advance machine operations place world
  rcases advance_cases operations place with idle | ⟨_, β, _, _, task⟩
  · rw [idle world]
    exact sound
  have proper := sound.keeps.within_guarantee Operation.rely_refl task world sound.consistent
  have keeps := sound.keeps.advance Operation.rely_refl Operation.rely_trans task world
    fun other task' differs found _ _ => by
      refine ⟨proper.consistent, proper.grows, fun commandId own => proper.others _ ?_⟩
      have symm : ∀ {first second : Operation π ν}, Apart first second → Apart second first :=
        fun apart commandId own same => apart commandId same own
      exact related_of_pairwise symm sound.apart differs found task commandId own
  refine ⟨?_, keeps, labels ▸ sound.apart, ?_⟩
  · rw [advance_of_call task]
    exact proper.consistent
  intro commandId unsent
  have notSent : ∀ running ∈ operations.tasks, running.label.sends ≠ some commandId := by
    intro running mem
    have inLabels : running.label ∈ operations.tasks.map (·.label) := mem_map_of_mem mem
    rw [← labels] at inLabels
    obtain ⟨later, laterMem, same⟩ := mem_map.mp inLabels
    rw [← same]
    exact unsent later laterMem
  rw [advance_of_call task]
  exact (sound.fresh commandId notSent).of_undisturbed
    (proper.others commandId (notSent _ (mem_of_getElem? task)))

theorem sound_step (operations : Operations π ν) (move : Move (Operation π ν) World)
    (sound : operations.Sound) (new : operations.NewId move) :
    (operations.step encode move).2.Sound := by
  cases move with
  | start => exact sound.start new
  | advance place world => exact sound.advance place world

/-- What arrives in a step comes over the connection that is registered for the machine. -/
def ArrivesRegistered (encode : CommandEnvelope π → Except String String)
    (operations : Operations π ν) (move : Move (Operation π ν) World) : Prop :=
  ∀ arrival ∈ (operations.step encode move).2.shared.arrivals,
    arrival ∈ operations.shared.arrivals ∨
      operations.shared.isCurrent arrival.key arrival.connectionId = true

theorem arrivals_machine {β : Type} (instruction : Call ν β) (world : World) (shared : Shared ν) :
    ∀ arrival ∈ (machine instruction world shared).2.arrivals,
      arrival ∈ shared.arrivals ∨ shared.isCurrent arrival.key arrival.connectionId = true := by
  intro arrival mem
  cases instruction with
  | arrive arriving =>
    change arrival ∈ (shared.arrive arriving).2.arrivals at mem
    unfold Shared.arrive Shared.requireCurrent at mem
    split at mem
    · rename_i current
      rcases mem_cons.mp mem with rfl | old
      · right
        rw [Shared.isCurrent, Option.any_eq_true]
        split at current
        · rename_i connection found
          split at current
          · rename_i same
            exact ⟨connection, found, beq_iff_eq.mpr same⟩
          · cases current
        · cases current
      · exact .inl old
    · exact .inl mem
  | complete key connectionId result =>
    left
    change arrival ∈ (shared.complete key connectionId result).2.arrivals at mem
    unfold Shared.complete at mem
    split at mem <;> exact mem
  | send | disconnectCurrent =>
    left
    simp only [machine] at mem
    split at mem <;> exact mem
  | _ => exact .inl mem

theorem arrivesRegistered (operations : Operations π ν) (move : Move (Operation π ν) World) :
    operations.ArrivesRegistered encode move := by
  refine shared_step (fun shared : Shared ν => ∀ arrival ∈ shared.arrivals,
    arrival ∈ operations.shared.arrivals ∨
      operations.shared.isCurrent arrival.key arrival.connectionId = true)
    ?_ (fun _ => .inl) (operations.makes_true move)
  intro β instruction world _
  exact arrivals_machine instruction world operations.shared

/-- Every command is answered at most once; a result comes from the machine of the command over its
registered connection; what was answered is not pending; a command that must not be replayed is sent
over at most one connection; and only the command as it was issued is ever sent. -/
structure AnsweredOnce (shared : Shared ν) : Prop where
  once : (shared.outcomes.map (·.commandId)).Nodup
  ownMachine : ∀ outcome ∈ shared.outcomes, ∀ origin ∈ outcome.origin,
    ∃ command ∈ shared.issued, command.commandId = outcome.commandId ∧
      command.server = origin.1 ∧ ⟨outcome.commandId, origin.1, origin.2⟩ ∈ shared.arrivals
  notPending : ∀ outcome ∈ shared.outcomes, shared.pending.find? outcome.commandId = none
  single : ∀ command ∈ shared.issued, command.single = true →
    ∀ first ∈ shared.sent, ∀ second ∈ shared.sent, first.commandId = command.commandId →
      second.commandId = command.commandId → first.connectionId = second.connectionId
  original : ∀ frame ∈ shared.sent, ∃ command ∈ shared.issued,
    command.commandId = frame.commandId ∧ command.encoded = frame.text

theorem answeredOnce_of_consistent {shared : Shared ν} (consistent : shared.Consistent) :
    AnsweredOnce shared where
  once := consistent.once
  ownMachine outcome mem := (consistent.outcomes outcome mem).2
  notPending outcome mem := find?_eq_none_iff.mpr (consistent.outcomes outcome mem).1
  single := by
    intro command issued isSingle first firstSent second secondSent firstId secondId
    have few := consistent.single command issued isSingle
    have firstMem : first ∈ shared.framesOf command.commandId :=
      mem_filter.mpr ⟨firstSent, beq_iff_eq.mpr firstId⟩
    have secondMem : second ∈ shared.framesOf command.commandId :=
      mem_filter.mpr ⟨secondSent, beq_iff_eq.mpr secondId⟩
    generalize shared.framesOf command.commandId = frames at few firstMem secondMem
    match frames, few with
    | [only], _ => rw [mem_singleton.mp firstMem, mem_singleton.mp secondMem]
  original := consistent.sent

/-- In every run in which commands have ids of their own, every command is answered at most
once and only by its machine. -/
theorem pending_commands_are_answered_once (encode : CommandEnvelope π → Except String String)
    (moves : List (Move (Operation π ν) World))
    (newIds : AllSteps (step encode) NewId (init Shared.empty) moves) :
    (∀ earlier later, moves = earlier ++ later →
      AnsweredOnce (exec (step encode) (init Shared.empty) earlier).shared) ∧
    AllSteps (step encode) (ArrivesRegistered encode) (init Shared.empty) moves := by
  constructor
  · rintro _ _ rfl
    have start : Sound (init Shared.empty : Operations π ν) :=
      ⟨consistent_empty, forall_mem_nil _, .nil, fun _ _ => ⟨rfl, forall_mem_nil _⟩⟩
    exact answeredOnce_of_consistent (AllSteps.invariant sound_step start newIds).consistent
  · exact AllSteps.of_forall arrivesRegistered (init Shared.empty) moves

end Operations

namespace Sample

def key : ServerKey := ⟨"alpha", "srv_1"⟩

def world : World where
  creation := .ok ()
  isOpen := true
  timedOut := false

/-- A command without a payload, whose text is its id. -/
def read : CommandEnvelope Unit where
  commandId := "cmd_1"
  workspaceId := "alpha"
  command := ⟨.read, ()⟩

/-- The machine connects again before it answers, and the command is sent once more. -/
def replayed : List (Move (Operation Unit Unit) World) :=
  [.start (.connect key ⟨"c1", "controller", []⟩), .advance 0 world,
    .start (.send "srv_1" none read), .advance 1 world, .advance 1 world, .advance 1 world,
    .advance 1 world,
    .start (.connect key ⟨"c2", "controller", []⟩), .advance 2 world,
    .start (.resend key), .advance 3 world, .advance 3 world, .advance 3 world, .advance 3 world,
    .start (.complete key "c2" (.success "cmd_1" ())), .advance 4 world, .advance 4 world,
    .advance 1 world, .advance 1 world]

def after : Shared Unit :=
  (exec (Operations.step fun envelope => .ok envelope.commandId) (Pool.init Shared.empty)
    replayed).shared

end Sample

theorem replayed_command_is_answered_once : Sample.after.sent.map (·.connectionId) = ["c2", "c1"] ∧
      Sample.after.outcomes.map (·.commandId) = ["cmd_1"] ∧
      Operations.AnsweredOnce Sample.after := by
  refine ⟨by decide +kernel, by decide +kernel, ?_⟩
  exact (Operations.pending_commands_are_answered_once _ Sample.replayed (by decide +kernel)).1
    Sample.replayed [] (append_nil _).symm

end Treer.Proxy.Commands
