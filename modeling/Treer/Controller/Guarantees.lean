import Treer.Controller.QuietParts

/-!
# What the operations guarantee

While everything between their calls is quiet, the operations write declarations only in
the ways of `Write`, and an attempt is only sent with a generation that was counted for it.
`set_startup` writes in a way of its own.
-/

namespace Treer.Controller

open Foundation Protocol Host Startup IsQuiet Procedure Shared List Function
open Foundation.Procedure (call attempt settle)
variable {β : Type} {α γ : Type} {config : Config β} {revision : Option Nat} {unsaturated : Prop}
  {shared : Shared β}
  {entry : StoredAgentStartup} {after : Shared β} {agentId : String}

/-- The judgment of a part of an operation. -/
abbrev Judged (config : Config β) (revision : Option Nat) (unsaturated : Prop)
    (post : α → Shared β → Prop) (program : Program Call α) (shared : Shared β) : Prop :=
  program.Keeps (machine config) Quiet (Guarantee revision unsaturated) post shared

/-- An entry can be started: its generation is stored, and was not used before. -/
structure Ready (unsaturated : Prop) (entry : StoredAgentStartup) (shared : Shared β) : Prop where
  stored : shared.generation? entry.spec.agentId = some entry.spec.generation
  fresh : unsaturated → ∀ generation, (entry.spec.agentId, generation) ∈ shared.attempts →
    generation < entry.spec.generation

theorem Ready.quiet (ready : Ready unsaturated entry shared) (quiet : Quiet shared after) :
    Ready unsaturated entry after where
  stored := by
    rw [quiet.generation?]
    exact ready.stored
  fresh := by
    rw [quiet.attempts]
    exact ready.fresh

/-- The counters of the attempts stay as they are. -/
structure SameCounts (before after : Shared β) : Prop where
  generations : after.generation? = before.generation?
  attempts : after.attempts = before.attempts

theorem Quiet.sameCounts {before : Shared β} (quiet : Quiet before after) :
    SameCounts before after :=
  ⟨quiet.generation?, quiet.attempts⟩

theorem SameCounts.trans {first second third : Shared β} (earlier : SameCounts first second)
    (later : SameCounts second third) : SameCounts first third :=
  ⟨later.generations.trans earlier.generations, later.attempts.trans earlier.attempts⟩

/-- The generation of an agent can still be increased, or no attempt used it. -/
def Room (unsaturated : Prop) (shared : Shared β) (agentId : String) : Prop :=
  unsaturated → ∀ generation, shared.generation? agentId = some generation →
    generation + 1 < generationLimit ∨ ∀ used, (agentId, used) ∉ shared.attempts

theorem Room.congr (room : Room unsaturated shared agentId)
    (same : SameCounts shared after) : Room unsaturated after agentId := by
  intro holds generation found
  rw [same.generations] at found
  rw [same.attempts]
  exact room holds generation found

/-! ## Rules -/

variable {program : Program Call α}

theorem IsQuiet.keeps (quiet : IsQuiet config program) :
    Judged config revision unsaturated (fun _ after => Quiet shared after) program shared :=
  (quiet shared).weaken fun _ _ => .ofQuiet

theorem IsQuiet.judged (quiet : IsQuiet config program) :
    Judged config revision unsaturated (fun _ _ => True) program shared :=
  quiet.keeps.mono fun _ _ _ => trivial

variable {goal : Except ProtocolError γ → Shared β → Prop} {start : Shared β}

section
variable {program : Procedure α} {rest : α → Procedure γ}

/-- After quiet parts what was known of declarations and attempts still holds. -/
theorem IsQuiet.seqJudged (quiet : IsQuiet config program.run) (known : Quiet start shared)
    (failed : ∀ error after, Quiet start after → goal (.error error) after)
    (follows : ∀ result after, Quiet start after →
      Judged config revision unsaturated goal (rest result).run after) :
    Judged config revision unsaturated goal (program >>= rest).run shared :=
  keeps_bind quiet.keeps
    (fun error after later => failed error after (known.trans later))
    (fun result after later => follows result after (known.trans later))

/-- The same for an operation of which only the guarantee is claimed. -/
theorem IsQuiet.thenJudged (quiet : IsQuiet config program.run) (known : Quiet start shared)
    (follows : ∀ result after, Quiet start after →
      Judged config revision unsaturated (fun _ _ => True) (rest result).run after) :
    Judged config revision unsaturated (fun _ _ => True) (program >>= rest).run shared :=
  quiet.seqJudged known (fun _ _ _ => trivial) follows

theorem Judged.thenJudged {post : Except ProtocolError α → Shared β → Prop}
    (first : Judged config revision unsaturated post program.run shared)
    (follows : ∀ result after, post (.ok result) after →
      Judged config revision unsaturated (fun _ _ => True) (rest result).run after) :
    Judged config revision unsaturated (fun _ _ => True) (program >>= rest).run shared :=
  keeps_bind first (fun _ _ _ => trivial) follows

end

variable {post : α → Shared β → Prop}

/-- A part that counted its attempts leaves them counted. -/
theorem Judged.counted (judged : Judged config revision unsaturated post program shared)
    (counted : unsaturated → Counted shared) :
    Judged config revision unsaturated
      (fun result after => post result after ∧ (unsaturated → Counted after)) program shared := by
  apply judged.withInvariant _ _ counted
  · intro before after quiet known holds
    exact (known holds).quiet quiet
  · intro before after kept known holds
    exact kept.counted holds (known holds)

theorem judged_get {rest : Option StoredAgentStartup → Procedure γ} (known : Quiet start shared)
    (absent : ∀ between, Quiet start between → between.declarations agentId = none →
      Judged config revision unsaturated goal (rest none).run between)
    (present : ∀ between entry, Quiet start between →
      between.declarations agentId = some (declaration entry) → entry.spec.agentId = agentId →
      Judged config revision unsaturated goal (rest (some entry)).run between) :
    Judged config revision unsaturated goal (call (.get agentId) >>= rest).run shared := by
  apply keeps_call_bind
  intro between world quiet
  refine ⟨.ofQuiet (Quiet.refl between), ?_⟩
  change Judged config revision unsaturated goal
    (rest (between.startupStore.get agentId)).run between
  cases found : between.startupStore.get agentId with
  | none =>
    apply absent between (known.trans quiet)
    rw [declarations, found]
    rfl
  | some entry =>
    apply present between entry (known.trans quiet) _ (Table.find?_eq_some_iff.mp found).2
    rw [declarations, found]
    rfl

theorem guarantee_upsert {between : Shared β}
    (allowed : Write revision (shared.declarations entry.spec.agentId) (declaration entry))
    (quiet : Quiet shared between) (world : World) :
    Guarantee revision unsaturated between (machine config (.upsert entry) world between).2 := by
  obtain ⟨attempts, ⟨_, _, kept⟩ | ⟨_, written⟩⟩ := machine_upsert config entry world between
  · exact .ofQuiet ⟨kept, attempts⟩
  rw [← quiet.declarations] at allowed
  refine ⟨.write _ _ allowed written attempts, fun _ counted => ?_⟩
  apply counted.write _ written attempts
  intro old found
  rw [found] at allowed
  exact allowed.generation_le

variable {rest : Unit → Procedure γ}

/-- A declaration is written in one of the allowed ways. -/
theorem judged_upsert
    (allowed : Write revision (shared.declarations entry.spec.agentId) (declaration entry))
    (known : Quiet start shared)
    (failed : ∀ error after, Quiet start after → goal (.error error) after)
    (follows : ∀ after,
      after.declarations =
        update shared.declarations entry.spec.agentId (some (declaration entry)) →
      after.attempts = shared.attempts →
      Judged config revision unsaturated goal (rest ()).run after) :
    Judged config revision unsaturated goal (attempt (.upsert entry) >>= rest).run shared := by
  apply keeps_attempt_bind
  · intro between world quiet
    exact guarantee_upsert allowed quiet world
  · intro between world error quiet answered
    obtain ⟨attempts, ⟨_, _, kept⟩ | ⟨done, _⟩⟩ := machine_upsert config entry world between
    · exact failed error _ ((known.trans quiet).trans ⟨kept, attempts⟩)
    · rw [done] at answered
      cases answered
  · intro between world result quiet answered
    obtain ⟨attempts, ⟨_, fails, _⟩ | ⟨_, written⟩⟩ := machine_upsert config entry world between
    · rw [fails] at answered
      cases answered
    · apply follows
      · rw [written, quiet.declarations]
      · exact attempts.trans quiet.attempts

/-- A new attempt is counted before it is made. -/
theorem judged_nextAttempt
    (declared : shared.declarations entry.spec.agentId = some (declaration entry))
    (known : Quiet start shared) (counted : unsaturated → Counted start)
    (room : Room unsaturated start entry.spec.agentId)
    (failed : ∀ error after, Quiet start after → goal (.error error) after)
    (follows : ∀ after,
      after.declarations =
        update shared.declarations entry.spec.agentId (some (declaration (nextAttempt entry))) →
      Ready unsaturated (nextAttempt entry) after →
      Judged config revision unsaturated goal (rest ()).run after) :
    Judged config revision unsaturated goal
      (attempt (.upsert (nextAttempt entry)) >>= rest).run shared := by
  apply judged_upsert _ known failed
  · intro after declarations attempts
    apply follows after declarations
    constructor
    · rw [generation?, declarations]
      simp [declaration]
    intro holds generation mem
    rw [attempts] at mem
    have found : shared.generation? entry.spec.agentId = some entry.spec.generation := by
      rw [generation?, declared]
      rfl
    rcases room.congr known.sameCounts holds _ found with below | unused
    · obtain ⟨_, same, _⟩ := ((counted holds).quiet known).bounded _ _ mem
      cases found.symm.trans same
      have next : (nextAttempt entry).spec.generation = entry.spec.generation + 1 := if_pos below
      omega
    · exact absurd mem (unused generation)
  · change Write revision (shared.declarations entry.spec.agentId) _
    rw [declared]
    exact .attempt (declaration entry)

/-- The request of an attempt that is ready. -/
theorem judged_spawn {command : HostCommand} {rest : Except String HostResponse → Procedure γ}
    (ready : Ready unsaturated entry shared)
    (follows : ∀ answer after, after.declarations = shared.declarations →
      Judged config revision unsaturated goal (rest answer).run after) :
    Judged config revision unsaturated goal
      (call (.request command (some (.startup entry.spec.agentId entry.spec.generation))) >>=
        rest).run shared := by
  apply keeps_call_bind
  intro between world quiet
  have still := ready.quiet quiet
  have attempts : ((machine config (.request command
      (some (.startup entry.spec.agentId entry.spec.generation))) world between).2).attempts =
      between.attempts ++ [(entry.spec.agentId, entry.spec.generation)] := by
    change (between.sent ++ [_]).filterMap Sent.attempt? = _
    rw [filterMap_append]
    rfl
  refine ⟨⟨.spawn _ _ rfl attempts, ?_⟩, follows _ _ quiet.declarations⟩
  intro holds counted
  constructor
  · intro agentId generation mem
    rw [attempts, mem_append, mem_singleton] at mem
    rcases mem with old | new
    · exact counted.bounded agentId generation old
    · cases new
      exact ⟨_, still.stored, le_rfl⟩
  · rw [attempts, nodup_append]
    refine ⟨counted.distinct, nodup_singleton _, ?_⟩
    intro old mem new newMem same
    cases mem_singleton.mp newMem
    subst same
    exact absurd (still.fresh holds _ mem) (lt_irrefl _)

theorem judged_spawnStartup (ready : Ready unsaturated entry shared) :
    Judged config revision unsaturated (fun _ after => after.declarations = shared.declarations)
      (spawnStartup config entry).run shared := by
  have failed : ∀ (_ : ProtocolError) (after : Shared β), Quiet shared after →
      after.declarations = shared.declarations := fun _ _ quiet => quiet.declarations
  refine seqJudged (.settle _) (.refl shared) failed ?_
  intro _ checked known
  refine seqJudged (.call rfl) known failed ?_
  intro world asked known
  refine seqJudged (.settle _) known failed ?_
  intro request built quiet
  -- What follows the request keeps the declarations.
  have afterwards : ∀ {program : Procedure AgentInfo} {after : Shared β},
      after.declarations = built.declarations → IsQuiet config program.run →
      Judged config revision unsaturated
        (fun _ final => final.declarations = shared.declarations) program.run after := by
    intro program after same isQuiet
    apply isQuiet.keeps.mono
    intro _ final later
    exact later.declarations.trans (same.trans quiet.declarations)
  apply judged_spawn (ready.quiet quiet)
  intro answer after same
  apply afterwards same
  refine .seq (.settle _) ?_
  intro response
  split
  · refine .seq (isQuiet_upsertProcess _ _) ?_
    intro info
    split
    · exact .pure _
    refine .seq (isQuiet_hostRequest rfl) ?_
    intro _
    exact .pure _
  · exact .throw _

/-- A saved version: what is stored has the revision and the launch fields of the request. -/
structure Saved (agentId : String) (request : ReplaceAgentStartupRequest) (revision : Nat)
    (entry : StoredAgentStartup) (shared : Shared β) : Prop where
  declared : shared.declarations agentId = some (declaration entry)
  named : entry.spec.agentId = agentId
  kind : entry.spec.kind = "app"
  appRevision : entry.appRevision = revision
  launch : sameLaunch entry request = true

/-- What is known after the checks of a version. -/
theorem judged_checkedAppStartup (agentId : String) (request : ReplaceAgentStartupRequest) :
    Judged config revision unsaturated
      (fun result after => Quiet shared after ∧ ∀ entry, result = .ok entry →
        after.declarations agentId = some (declaration entry) ∧ entry.spec.agentId = agentId ∧
          entry.spec.kind = "app")
      (checkedAppStartup config agentId request).run shared := by
  have refused : ∀ (error : ProtocolError) (after : Shared β), Quiet shared after →
      Quiet shared after ∧ ∀ entry, (.error error : Except ProtocolError _) = .ok entry →
        after.declarations agentId = some (declaration entry) ∧ entry.spec.agentId = agentId ∧
          entry.spec.kind = "app" := by
    intro error after quiet
    refine ⟨quiet, ?_⟩
    rintro entry ⟨⟩
  refine seqJudged (.settle _) (.refl shared) refused ?_
  intro _ validated known
  apply judged_get known
  · intro between known _
    exact .done (refused _ _ known)
  intro between entry known declared named
  refine keeps_settle_bind (fun error _ => refused error _ known) ?_
  intro _ checks
  simp only [bind_eq_ok_iff, refuse_eq_ok_iff, Bool.or_eq_false_iff, bne_eq_false_iff_eq] at checks
  obtain ⟨_, ⟨⟨kind, _⟩, _⟩, _⟩ := checks
  refine (isQuiet_resolveMachineDirectory _).seqJudged known refused ?_
  intro _ after later
  refine .done ⟨later, ?_⟩
  rintro _ ⟨⟩
  rw [later.declarations, ← known.declarations]
  exact ⟨declared, named, kind⟩

/-- What is known after a version was accepted, or refused. -/
structure SaveOutcome (agentId : String) (request : ReplaceAgentStartupRequest) (saved : Nat)
    (before : Shared β) (result : Except ProtocolError (StoredAgentStartup × Bool))
    (after : Shared β) : Prop where
  counts : SameCounts before after
  accepted : ∀ entry changed, result = .ok (entry, changed) →
    Saved agentId request saved entry after
  refused : ∀ error, result = .error error → Quiet before after

theorem judged_saveAppStartupLocked (agentId : String) (request : ReplaceAgentStartupRequest)
    (saved : Nat) :
    Judged config (some saved) unsaturated (SaveOutcome agentId request saved shared)
      (saveAppStartupLocked config agentId request saved).run shared := by
  have refused : ∀ (error : ProtocolError) (after : Shared β), Quiet shared after →
      SaveOutcome agentId request saved shared (.error error) after := by
    intro error after quiet
    refine ⟨quiet.sameCounts, ?_, fun _ _ => quiet⟩
    rintro entry _ ⟨⟩
  apply keeps_bind (judged_checkedAppStartup agentId request)
  · intro error after known
    exact refused error after known.1
  rintro entry after ⟨quiet, known⟩
  obtain ⟨declared, named, kind⟩ := known entry rfl
  split
  · exact .done (refused _ _ quiet)
  rename_i current
  split
  · rename_i same
    split
    · rename_i launch
      refine .done ⟨quiet.sameCounts, ?_, nofun⟩
      rintro _ _ ⟨⟩
      exact ⟨declared, named, kind, same.symm, launch⟩
    · exact .done (refused _ _ quiet)
  · rename_i differs
    apply judged_upsert _ quiet refused
    rotate_left
    · change Write (some saved) (after.declarations entry.spec.agentId) _
      rw [named, declared]
      refine .revise (declaration entry) request saved rfl ?_
      simp only [Bool.or_eq_true, decide_eq_true_eq, beq_iff_eq, not_or, not_lt] at current
      exact lt_of_le_of_ne current.1 (Ne.symm differs)
    · intro final declarations attempts
      have written : final.declarations agentId =
          some (declaration (withRevision entry request saved)) := by
        rw [declarations, ← named]
        exact update_self _ _ _
      refine .done ⟨quiet.sameCounts.trans ⟨?_, attempts⟩, ?_, nofun⟩
      · funext other
        rw [generation?, declarations, generation?]
        change Option.map _ (update after.declarations entry.spec.agentId _ other) = _
        by_cases same : other = agentId
        · subst same
          rw [named, update_self, declared]
          rfl
        · rw [named, update_of_ne same]
      · rintro _ _ ⟨⟩
        refine ⟨written, named, kind, rfl, ?_⟩
        cases cwd : request.cwd <;> simp [sameLaunch, withRevision, cwd]

theorem judged_entryToReplace (agentId : String) : Judged config revision unsaturated
      (fun result after => Quiet shared after ∧ ∀ entry, result = .ok entry →
        entry.spec.agentId = agentId ∧
        (after.declarations agentId = some (declaration entry) ∨ after.declarations agentId = none))
      (entryToReplace config agentId).run shared := by
  apply judged_get (.refl shared)
  · intro between known absent
    refine seqJudged (.call rfl) known (fun _ _ later => ⟨later, nofun⟩) ?_
    intro current after later
    cases current with
    | none => exact .done ⟨later, nofun⟩
    | some =>
      refine .done ⟨later, ?_⟩
      rintro entry ⟨⟩
      refine ⟨rfl, .inr ?_⟩
      rw [later.declarations, ← known.declarations]
      exact absent
  · intro between entry quiet declared named
    refine .done ⟨quiet, ?_⟩
    rintro _ ⟨⟩
    exact ⟨named, .inl declared⟩

/-- An agent that was not declared was never started. -/
theorem Counted.unused (counted : Counted shared)
    (absent : shared.declarations agentId = none) (generation : Nat) :
    (agentId, generation) ∉ shared.attempts := by
  intro mem
  obtain ⟨_, found, _⟩ := counted.bounded agentId generation mem
  rw [generation?, absent] at found
  cases found

/-! ## Ensuring a declaration -/

theorem judged_acceptRevision (agentId : String) (request : CreateAgentRequest) :
    Judged config revision unsaturated (fun _ after => SameCounts shared after)
      (acceptRevision config agentId request revision).run shared := by
  cases revision with
  | none => exact .done (Quiet.refl shared).sameCounts
  | some saved =>
    have failed : ∀ (_ : ProtocolError) (after : Shared β), Quiet shared after →
        SameCounts shared after := fun _ _ quiet => quiet.sameCounts
    refine seqJudged (.settle _) (.refl shared) failed ?_
    intro _ checked known
    refine seqJudged (.call rfl) known failed ?_
    intro entry read quiet
    split
    · apply keeps_bind (judged_saveAppStartupLocked agentId (replacementOf request) saved)
      · intro error after known
        exact quiet.sameCounts.trans known.counts
      · intro _ after known
        exact .done (quiet.sameCounts.trans known.counts)
    · refine seqJudged (.settle _) quiet failed ?_
      intro _ validated known
      refine (isQuiet_resolveMachineDirectory _).seqJudged known failed ?_
      intro _ after known
      exact .done known.sameCounts

/-- The declaration of an agent that has none; what stands before it is quiet. -/
theorem Judged.declareMissing {goal : Except ProtocolError Bool → Shared β → Prop}
    (workloadCredential : Option String) (request : CreateAgentRequest)
    (enabled startMissing : Bool)
    (failed : ∀ error after, Quiet shared after → goal (.error error) after)
    (present : ∀ after, Quiet shared after → after.declarations agentId ≠ none →
      goal (.ok false) after)
    (declares : ∀ before after launch credential generation, Quiet shared before →
      before.declarations agentId = none →
      resolveLaunch config.interactiveShell request = .ok launch →
      after.declarations = update before.declarations agentId
        (some (declaration (firstEntry config agentId launch.1 credential request launch.2 enabled
          generation (revision.getD 0)))) →
      after.attempts = before.attempts → goal (.ok true) after) :
    Judged config revision unsaturated goal
      (declareMissing config agentId workloadCredential request enabled startMissing
        revision).run shared := by
  apply judged_get (.refl shared)
  · intro between known absent
    refine keeps_settle_bind (fun error _ => failed error between known) ?_
    intro launch resolved
    refine seqJudged (.call rfl) known failed ?_
    intro live read quiet
    split
    · exact .done (failed _ _ quiet)
    refine seqJudged (.settle _) quiet failed ?_
    intro _ checked quiet
    refine seqJudged (.call rfl) quiet failed ?_
    intro live again quiet
    have undeclared : again.declarations agentId = none := by
      rw [quiet.declarations, ← known.declarations]
      exact absent
    apply judged_upsert _ quiet failed
    · intro after declarations attempts
      exact .done (declares again after launch _ _ quiet undeclared resolved declarations attempts)
    · change Write revision (again.declarations agentId) _
      rw [undeclared]
      exact .declare _
  · intro between entry known declared _
    refine .done (present between known ?_)
    rw [declared]
    exact Option.some_ne_none _

theorem judged_startDeclared (agentId : String) (enabled startMissing newlyDeclared : Bool)
    (known : Quiet start shared) (counted : unsaturated → Counted start)
    (room : Room unsaturated start agentId)
    (unused : newlyDeclared = true → unsaturated → ∀ used, (agentId, used) ∉ start.attempts) :
    Judged config revision unsaturated (fun _ _ => True)
      (startDeclared config agentId enabled startMissing newlyDeclared).run shared := by
  apply judged_get known
  · intro between _ _
    exact judged (.throw _)
  intro between entry quiet declared named
  change Judged config revision unsaturated _ (if _ then _ else _ : Procedure AgentInfo).run _
  split
  · exact (isQuiet_materializeStartup entry).judged
  split
  · rename_i newly
    refine (judged_spawnStartup ⟨?_, ?_⟩).mono fun _ _ _ => trivial
    · rw [generation?, named, declared]
      rfl
    · intro holds generation mem
      rw [quiet.attempts, named] at mem
      exact absurd mem (unused newly holds generation)
  · rw [← named] at declared room
    apply judged_nextAttempt declared quiet counted room
    · intros
      trivial
    · intro after _ ready
      exact (judged_spawnStartup ready).mono fun _ _ _ => trivial

section
variable (counted : unsaturated → Counted shared) (room : Room unsaturated shared agentId)
include counted room

theorem judged_startLocked (operationId : String) (restart : Bool) :
    Judged config revision unsaturated (fun _ _ => True)
      (startLocked config operationId agentId restart).run shared := by
  apply isQuiet_syncProcesses.thenJudged (.refl shared)
  intro processes synced known
  apply (isQuiet_adoptOrStop operationId agentId restart _).thenJudged known
  intro adopted after known
  cases adopted with
  | some info => exact judged (.pure info)
  | none =>
    apply judged_get known
    · intro between _ _
      exact judged (.throw _)
    intro between entry known declared named
    rw [← named] at declared room
    apply judged_nextAttempt
    · exact declared
    · exact known
    · exact counted
    · exact room
    · intros
      trivial
    · intro final _ ready
      exact (judged_spawnStartup ready).mono fun _ _ _ => trivial

theorem judged_replaceStartupLocked (request : ReplaceAgentStartupRequest) :
    Judged config revision unsaturated (fun _ after => Room unsaturated after agentId)
      (replaceStartupLocked config agentId request).run shared := by
  have failed : ∀ (_ : ProtocolError) (after : Shared β), Quiet shared after →
      Room unsaturated after agentId := fun _ _ quiet => room.congr quiet.sameCounts
  refine keeps_settle_bind (fun _ _ => room) ?_
  intro _ _
  apply keeps_bind (judged_entryToReplace agentId)
  · intro error after known
    exact failed error after known.1
  rintro entry found ⟨quiet, known⟩
  obtain ⟨named, declared⟩ := known entry rfl
  refine keeps_settle_bind (fun error _ => failed error found quiet) ?_
  intro _ checks
  simp only [bind_eq_ok_iff, refuse_eq_ok_iff, beq_eq_false_iff_ne] at checks
  obtain ⟨_, kind, _⟩ := checks
  refine (isQuiet_resolveGivenDirectory request.cwd).seqJudged quiet failed ?_
  intro _ resolved known
  rw [quiet.declarations, ← known.declarations] at declared
  apply judged_upsert _ known failed
  rotate_left
  · rw [show (withReplacement entry request).spec.agentId = agentId from named]
    rcases declared with present | absent
    · rw [present]
      exact .replace (declaration entry) _ request.command request.args kind
    · rw [absent]
      exact .declare _
  · intro after declarations attempts
    refine .done ?_
    intro holds generation stored
    rw [attempts]
    rcases declared with present | absent
    · apply room.congr known.sameCounts holds
      rw [generation?, declarations,
        show (withReplacement entry request).spec.agentId = agentId from named,
        update_self] at stored
      rw [generation?, present]
      exact stored
    · exact .inr (((counted holds).quiet known).unused absent)

/-- What is known after the declaration: an agent that had none was never started. -/
theorem judged_declareMissing (workloadCredential : Option String) (request : CreateAgentRequest)
    (enabled startMissing : Bool) :
    Judged config revision unsaturated
      (fun result after => Room unsaturated after agentId ∧
        (result = .ok true → unsaturated → ∀ used, (agentId, used) ∉ after.attempts))
      (declareMissing config agentId workloadCredential request enabled startMissing
        revision).run shared := by
  apply Judged.declareMissing
  · intro error after quiet
    exact ⟨room.congr quiet.sameCounts, nofun⟩
  · intro after quiet _
    exact ⟨room.congr quiet.sameCounts, nofun⟩
  intro before after _ _ _ quiet undeclared _ _ attempts
  have unused : unsaturated → ∀ used, (agentId, used) ∉ after.attempts := by
    intro holds
    rw [attempts]
    exact ((counted holds).quiet quiet).unused undeclared
  exact ⟨fun holds _ _ => .inr (unused holds), fun _ => unused⟩

theorem judged_runDeclared (operationId : String) (enabled startMissing newlyDeclared : Bool)
    (unused : newlyDeclared = true → unsaturated → ∀ used, (agentId, used) ∉ shared.attempts) :
    Judged config revision unsaturated (fun _ _ => True)
      (runDeclared config operationId agentId enabled startMissing newlyDeclared).run shared := by
  apply (isQuiet_holdBack agentId startMissing).thenJudged (.refl shared)
  intro _ held known
  apply (isQuiet_stopUnlessEnabled operationId agentId enabled).thenJudged known
  intro stopped after known
  cases stopped with
  | some info => exact judged (.pure info)
  | none =>
    refine thenJudged (.call rfl) known ?_
    intro current read known
    split
    · exact judged (.pure _)
    · exact judged_startDeclared agentId enabled startMissing newlyDeclared known counted room
        unused

theorem judged_ensureDeclared (operationId : String) (workloadCredential : Option String)
    (request : CreateAgentRequest) (enabled startMissing : Bool) :
    Judged config revision unsaturated (fun _ _ => True)
      (ensureDeclared config operationId agentId workloadCredential request enabled startMissing
        revision).run shared := by
  apply isQuiet_syncProcesses.thenJudged (.refl shared)
  intro processes synced known
  apply (isQuiet_adoptRunning _).thenJudged known
  intro _ adopted quiet
  have known : unsaturated → Counted adopted := fun holds => (counted holds).quiet quiet
  apply ((judged_declareMissing known (room.congr quiet.sameCounts) workloadCredential request
    enabled startMissing).counted known).thenJudged
  rintro newlyDeclared _ ⟨⟨roomDeclared, unused⟩, countedDeclared⟩
  apply judged_runDeclared countedDeclared roomDeclared operationId enabled startMissing
    newlyDeclared
  intro newly holds
  exact unused (congrArg Except.ok newly) holds

theorem judged_ensureAppLifecycle (operationId : String) (workloadCredential : Option String)
    (request : CreateAgentRequest) (enabled startMissing : Bool) :
    Judged config revision unsaturated (fun _ _ => True)
      (ensureAppLifecycle config operationId agentId workloadCredential request enabled
        startMissing revision).run shared := by
  apply (isQuiet_requireNotDenied agentId).thenJudged (.refl shared)
  intro _ allowed quietAllowed
  have known : unsaturated → Counted allowed := fun holds => (counted holds).quiet quietAllowed
  apply ((judged_acceptRevision agentId request).counted known).thenJudged
  rintro _ _ ⟨same, countedAfter⟩
  have roomAfter := room.congr (quietAllowed.sameCounts.trans same)
  split
  · exact judged_startLocked countedAfter roomAfter operationId true
  · exact judged_ensureDeclared countedAfter roomAfter operationId workloadCredential request
      enabled startMissing

end

theorem judged_declareNew (agentId kind credential : String) (request : CreateAgentRequest)
    (launch : AgentLaunch) :
    Judged config revision unsaturated (fun _ _ => True)
      (declareNew config agentId kind credential request launch).run shared := by
  apply judged_get (.refl shared)
  · intro between _ absent
    apply Program.keeps_perform
    intro later world quiet
    refine ⟨guarantee_upsert ?_ quiet world, trivial⟩
    change Write revision (between.declarations agentId) _
    rw [absent]
    exact .declare _
  · intros
    exact .done trivial

theorem judged_create (operationId agentId workloadCredential : String)
    (request : CreateAgentRequest) :
    Judged config revision unsaturated (fun _ _ => True)
      (create config operationId agentId workloadCredential request).run shared := by
  -- What follows the declaration is quiet, and so is what stands before it.
  apply (isQuiet_requireNotDenied agentId).thenJudged (.refl shared)
  intro _ _ known
  refine thenJudged (.settle _) known ?_
  intro _ _ known
  refine thenJudged (.settle _) known ?_
  intro launch _ known
  refine thenJudged (.settle _) known ?_
  intro _ _ known
  apply (isQuiet_resolveNewCommand agentId).thenJudged known
  intro command _ _
  apply (judged_declareNew agentId launch.1 workloadCredential request launch.2).thenJudged
  intro _ _ _
  apply judged
  refine .seq (call rfl) ?_
  intro world
  refine .seq (.settle _) ?_
  intro _
  refine .seq (.settle _) ?_
  intro proxyPort
  refine .seq (call rfl) ?_
  intro entry
  refine .seq (.settle _) ?_
  intro metadata
  refine .seq (isQuiet_hostRequest rfl) ?_
  intro response
  split
  · refine .seq (isQuiet_adoptCreated _) ?_
    intro info
    split
    · exact .pure info
    refine .seq (isQuiet_hostRequest rfl) ?_
    intro written
    exact isQuiet_processResponse _ _
  · exact .throw _

section
variable (declared : shared.declarations entry.spec.agentId = some (declaration entry))
  (counted : unsaturated → Counted shared) (room : Room unsaturated shared entry.spec.agentId)
include declared counted room

/-- The start of one entry leaves the declarations of all others. -/
theorem judged_restoreMissing : Judged config revision unsaturated
      (fun _ after => ∀ other, other ≠ entry.spec.agentId →
        after.declarations other = shared.declarations other)
      (restoreMissing config entry).run shared := by
  apply judged_nextAttempt declared (.refl shared) counted room
  · intro error after quiet other _
    rw [quiet.declarations]
  intro counting declarations ready
  have others : ∀ {after : Shared β}, after.declarations = counting.declarations →
      ∀ other, other ≠ entry.spec.agentId →
        after.declarations other = shared.declarations other := by
    intro after same other differs
    rw [same, declarations, update_of_ne differs]
  apply keeps_bind (judged_spawnStartup ready)
  · intro error after same
    exact others same
  intro info after same
  refine seqJudged (.update fun current => rfl) (.refl after) ?_ ?_
  · intro error final quiet
    exact others (quiet.declarations.trans same)
  · intro _ final quiet
    exact .done (others (quiet.declarations.trans same))

theorem judged_restoreEntry (active running : List String) : Judged config revision unsaturated
      (fun _ after => ∀ other, other ≠ entry.spec.agentId →
        after.declarations other = shared.declarations other)
      (restoreEntry config active running entry) shared := by
  unfold restoreEntry
  split
  · exact .done fun _ _ => rfl
  split
  · apply (perform rfl).keeps.bind
    intro current read quiet
    have known := declared
    rw [← quiet.declarations] at known
    split
    · refine .done fun other _ => ?_
      rw [quiet.declarations]
    apply (judged_restoreMissing known (fun holds => (counted holds).quiet quiet)
      (room.congr quiet.sameCounts)).bind
    intro result after others
    refine .done fun other differs => ?_
    rw [others other differs, quiet.declarations]
  · apply (judged_restoreMissing declared counted room).bind
    intro result after others
    exact .done others

end

/-- The loop over the entries: those that are left are still declared as they were read. -/
theorem judged_restoreEntries (active running : List String) (entries : List StoredAgentStartup)
    (declared : ∀ entry ∈ entries,
      shared.declarations entry.spec.agentId = some (declaration entry))
    (distinct : (entries.map (·.spec.agentId)).Nodup) (counted : unsaturated → Counted shared)
    (room : unsaturated → ∀ entry ∈ entries, entry.spec.generation + 1 < generationLimit) :
    Judged config revision unsaturated (fun _ _ => True)
      (restoreEntries config active running entries) shared := by
  induction entries generalizing shared with
  | nil => exact .done trivial
  | cons entry rest ih =>
    obtain ⟨others, distinctRest⟩ := nodup_cons.mp distinct
    have known := declared entry mem_cons_self
    have roomEntry : Room unsaturated shared entry.spec.agentId := by
      intro holds generation found
      rw [generation?, known] at found
      cases found
      exact .inl (room holds entry mem_cons_self)
    apply ((judged_restoreEntry known counted roomEntry active running).counted counted).bind
    rintro _ _ ⟨unchanged, countedAfter⟩
    apply (ih _ distinctRest countedAfter _).bind
    · intros
      exact .done trivial
    · intro later mem
      have differs : later.spec.agentId ≠ entry.spec.agentId := by
        intro same
        exact others (mem_map.mpr ⟨later, mem, same⟩)
      rw [unchanged later.spec.agentId differs]
      exact declared later (mem_cons_of_mem entry mem)
    · exact fun holds later mem => room holds later (mem_cons_of_mem entry mem)

theorem judged_restoreStartupOutcomes (active : List String)
    (counted : unsaturated → Counted shared)
    (room : unsaturated → ∀ agentId generation, shared.generation? agentId = some generation →
      generation + 1 < generationLimit) :
    Judged config revision unsaturated (fun _ _ => True)
      (restoreStartupOutcomes config active) shared := by
  apply (perform rfl).keeps.bind
  intro answer asked quietAsked
  split
  · exact .done trivial
  · apply (isQuiet_restoreInventory _).keeps.bind
    intro running adopted quietAdopted
    apply Program.keeps_call_iff.mpr
    intro between world quietBetween
    have quiet := (quietAsked.trans quietAdopted).trans quietBetween
    refine ⟨.ofQuiet (Quiet.refl between), ?_⟩
    change Judged config revision unsaturated _ (restoreEntries config active running
      (world.arrange between.startupStore.state.entries.rows)) between
    have perm := world.arrange_perm between.startupStore.state.entries.rows
    have stored : ∀ entry ∈ world.arrange between.startupStore.state.entries.rows,
        between.startupStore.get entry.spec.agentId = some entry := by
      intro entry mem
      exact Table.find?_eq_some_iff.mpr ⟨perm.mem_iff.mp mem, rfl⟩
    apply judged_restoreEntries
    · intro entry mem
      rw [declarations, stored entry mem]
      rfl
    · exact (perm.map _).nodup_iff.mpr between.startupStore.state.entries.nodup
    · exact fun holds => (counted holds).quiet quiet
    · intro holds entry mem
      apply room holds entry.spec.agentId
      rw [← quiet.generation?, generation?, declarations, stored entry mem]
      rfl
  · exact .done trivial

/-- The operations that write declarations only in the ways of `Write`. -/
def Operation.writesAllowed : Operation → Bool
  | .setStartup _ _ | .clearStartup _ => false
  | _ => true

theorem judged_answering {procedure : Procedure α} {wrap : α → Reply}
    (judged : Judged config revision unsaturated (fun _ _ => True) procedure.run shared) :
    Judged config revision unsaturated (fun _ _ => True) (answering wrap procedure) shared :=
  judged.bind fun _ _ _ => .done trivial

theorem judged_program (operation : Operation) (allowed : operation.writesAllowed = true)
    (counted : unsaturated → Counted shared)
    (room : unsaturated → ∀ agentId generation, shared.generation? agentId = some generation →
      generation + 1 < generationLimit) :
    Judged config operation.revision unsaturated (fun _ _ => True) (operation.program config)
      shared := by
  have rooms : ∀ agentId, Room unsaturated shared agentId :=
    fun agentId holds generation found => .inl (room holds agentId generation found)
  cases operation with
  | create operationId agentId credential request =>
    exact judged_answering (judged_create operationId agentId credential request)
  | ensureAppLifecycle operationId agentId credential request enabled startMissing =>
    exact judged_answering (judged_ensureAppLifecycle counted (rooms agentId) operationId
      credential request enabled startMissing)
  | start operationId agentId restart =>
    exact judged_answering (judged_startLocked counted (rooms agentId) operationId restart)
  | stop operationId agentId => exact judged_answering (isQuiet_stop operationId agentId).judged
  | updateAppStartup operationId agentId request revision =>
    apply judged_answering
    apply ((judged_saveAppStartupLocked agentId request revision).counted counted).thenJudged
    rintro ⟨_, _⟩ after ⟨saved, countedAfter⟩
    split
    · apply (judged_startLocked countedAfter ((rooms agentId).congr saved.counts) operationId
        true).thenJudged
      intro _ final _
      exact (isQuiet_getStartup agentId).judged
    · exact (isQuiet_getStartup agentId).judged
  | replaceStartup agentId request =>
    exact judged_answering ((judged_replaceStartupLocked counted (rooms agentId) request).mono
      fun _ _ _ => trivial)
  | restartWithStartup operationId agentId request =>
    apply judged_answering
    apply ((judged_replaceStartupLocked counted (rooms agentId) request).counted counted).thenJudged
    rintro _ _ ⟨roomAfter, countedAfter⟩
    exact judged_startLocked countedAfter roomAfter operationId true
  | restoreStartupOutcomes active =>
    exact (judged_restoreStartupOutcomes active counted room).bind fun _ _ _ => .done trivial
  | setStartup | clearStartup => cases allowed

/-- `set_startup` builds the entry anew and keeps only its generation. -/
inductive SetChange (before after : Shared β) : Prop
  | quiet (kept : Quiet before after)
  | set (agentId : String) (new : StoredAgentStartup)
      (generation : ∀ stored, before.generation? agentId = some stored →
        new.spec.generation = stored)
      (declarations : after.declarations = Function.update before.declarations agentId (some new))
      (attempts : after.attempts = before.attempts)

theorem SetChange.counted {before : Shared β} (change : SetChange before after)
    (counted : Counted before) : Counted after := by
  cases change with
  | quiet kept => exact counted.quiet kept
  | set agentId new generation declarations attempts =>
    apply counted.write _ declarations attempts
    intro old found
    have stored : before.generation? agentId = some old.spec.generation := by
      rw [generation?, found]
      rfl
    exact (generation _ stored).ge

theorem keeps_setStartup (agentId : String) (request : SetAgentStartupRequest) :
    (setStartup config agentId request).run.Keeps (machine config) Quiet SetChange
      (fun _ _ => True) shared := by
  -- Up to the write only quiet calls are made.
  have quietly : ∀ {δ : Type} {part : Procedure δ} {rest : δ → Procedure AgentStartupSpec}
      {before : Shared β}, IsQuiet config part.run →
      (∀ result after, (rest result).run.Keeps (machine config) Quiet SetChange
        (fun _ _ => True) after) →
      (part >>= rest).run.Keeps (machine config) Quiet SetChange (fun _ _ => True) before := by
    intro δ part rest before quiet follows
    apply keeps_bind ((quiet before).weaken fun _ _ => SetChange.quiet)
    · intros
      trivial
    · intro result after _
      exact follows result after
  apply quietly (.settle _)
  intro _ _
  apply quietly (isQuiet_resolveMachineDirectory _)
  intro _ _
  apply quietly (.settle _)
  intro publishPorts _
  apply quietly (.call rfl)
  intro current _
  split
  · exact .done trivial
  apply quietly (.settle _)
  intro _ before
  apply keeps_call_bind
  intro read world _
  refine ⟨.quiet (Quiet.refl read), ?_⟩
  apply keeps_attempt_bind
  · intro between disk quiet
    obtain ⟨attempts, ⟨_, _, kept⟩ | ⟨_, written⟩⟩ := machine_upsert config _ disk between
    · exact .quiet ⟨kept, attempts⟩
    refine .set agentId _ ?_ written attempts
    intro stored found
    rw [quiet.generation?, generation?] at found
    obtain ⟨_, entry, rfl⟩ := Option.map_eq_some_iff.mp found
    obtain ⟨raw, rawFound, rfl⟩ := Option.map_eq_some_iff.mp entry
    change ((read.startupStore.get agentId).map _).getD _ = _
    rw [show read.startupStore.get agentId = some raw from rawFound]
    rfl
  · intros
    trivial
  · intros
    exact .done trivial

theorem keeps_clearStartup (agentId : String) :
    (clearStartup agentId).run.Keeps (machine config) Quiet
      (fun before after => Quiet before after ∨
        after.declarations = update before.declarations agentId none ∧
          after.attempts = before.attempts)
      (fun _ _ => True) shared := by
  apply Program.keeps_perform
  intro between world _
  refine ⟨?_, trivial⟩
  rcases StartupStore.get_remove agentId world.disk with kept | removed
  · left
    refine ⟨?_, rfl⟩
    funext other
    exact congrArg (Option.map declaration) (congrFun kept other)
  · right
    refine ⟨?_, rfl⟩
    refine Eq.trans ?_ (declarations_update between.startupStore.get agentId none)
    funext other
    exact congrArg (Option.map declaration) (congrFun removed other)

end Treer.Controller
