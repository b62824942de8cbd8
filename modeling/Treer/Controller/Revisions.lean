import Treer.Controller.Attempts

/-!
# Revisions of an App

An App is deployed in numbered versions. `Versioned` says that a version is the one
stored, `Since` that it was stored once: a later version can have taken its place, an
older one cannot. Every change that the operations make keeps both apart from that.
-/

namespace Treer.Controller

open Foundation Protocol Host Startup Procedure
open Foundation.Procedure (call attempt settle)
variable {β : Type} {α γ : Type} {config : Config β} {shared : Shared β}

/-- The command, the arguments and the directory of an entry. -/
def launchOf (entry : StoredAgentStartup) : String × List String × String :=
  (entry.spec.command, entry.spec.args, entry.spec.cwd)

namespace Shared

def revision? (shared : Shared β) (agentId : String) : Option Nat :=
  (shared.declarations agentId).map (·.appRevision)

def launch? (shared : Shared β) (agentId : String) : Option (String × List String × String) :=
  (shared.declarations agentId).map launchOf

end Shared

variable {before : Shared β} {request : ReplaceAgentStartupRequest} {agentId : String}

/-- What a change by an operation with a revision leaves of a declaration. -/
structure Successor (revision : Option Nat) (old new : StoredAgentStartup) : Prop where
  kind : old.spec.kind = "app" → new.spec.kind = "app"
  grows : old.appRevision ≤ new.appRevision
  launch : old.spec.kind = "app" →
    (launchOf new = launchOf old ∧ new.appRevision = old.appRevision) ∨
      revision = some new.appRevision ∧ old.appRevision < new.appRevision

theorem Successor.refl (revision : Option Nat) (entry : StoredAgentStartup) :
    Successor revision entry entry :=
  ⟨id, le_rfl, fun _ => .inl ⟨rfl, rfl⟩⟩

theorem Successor.trans {revision : Option Nat} {first second third : StoredAgentStartup}
    (earlier : Successor revision first second) (later : Successor revision second third) :
    Successor revision first third where
  kind app := later.kind (earlier.kind app)
  grows := earlier.grows.trans later.grows
  launch app := by
    rcases later.launch (earlier.kind app) with ⟨launch, same⟩ | ⟨given, greater⟩
    · rcases earlier.launch app with ⟨first, kept⟩ | ⟨given, greater⟩
      · exact .inl ⟨launch.trans first, same.trans kept⟩
      · rw [← same] at given greater
        exact .inr ⟨given, greater⟩
    · exact .inr ⟨given, lt_of_le_of_lt earlier.grows greater⟩

theorem Write.successor {revision : Option Nat} {old new : StoredAgentStartup}
    (write : Write revision (some old) new) : Successor revision old new := by
  cases write with
  | attempt => exact ⟨id, le_rfl, fun _ => .inl ⟨rfl, rfl⟩⟩
  | revise _ request newer given greater => exact ⟨id, greater.le, fun _ => .inr ⟨given, greater⟩⟩
  | replace _ cwd command args kind => exact ⟨id, le_rfl, fun app => absurd app kind⟩

/-- A declaration that is there stays there, as a successor of what it was. -/
def Succeeds (revision : Option Nat) (before after : Shared β) : Prop :=
  ∀ agentId old, before.declarations agentId = some old →
    ∃ new, after.declarations agentId = some new ∧ Successor revision old new

variable {after : Shared β}

theorem Succeeds.ofQuiet {revision : Option Nat} (quiet : Quiet before after) :
    Succeeds revision before after := by
  intro agentId old found
  rw [quiet.declarations]
  exact ⟨old, found, .refl revision old⟩

theorem Succeeds.trans {revision : Option Nat} {first second third : Shared β}
    (earlier : Succeeds revision first second) (later : Succeeds revision second third) :
    Succeeds revision first third := by
  intro agentId old found
  obtain ⟨middle, there, kept⟩ := earlier agentId old found
  obtain ⟨new, final, further⟩ := later agentId middle there
  exact ⟨new, final, kept.trans further⟩

theorem Change.succeeds {revision : Option Nat}
    (change : Change revision before after) : Succeeds revision before after := by
  cases change with
  | quiet kept => exact .ofQuiet kept
  | spawn agentId generation declarations =>
    intro other old found
    rw [declarations]
    exact ⟨old, found, .refl revision old⟩
  | write agentId new allowed declarations =>
    intro other old found
    rw [declarations]
    by_cases same : other = agentId
    · subst same
      rw [found] at allowed
      exact ⟨new, Function.update_self _ _ _, allowed.successor⟩
    · rw [Function.update_of_ne same]
      exact ⟨old, found, .refl revision old⟩

theorem succeeds_of_runs {revision : Option Nat} {unsaturated : Prop}
    (runs : Relation.ReflTransGen (Guarantee revision unsaturated) shared after) :
    Succeeds revision shared after := by
  induction runs with
  | refl => exact .ofQuiet (Quiet.refl shared)
  | tail _ last ih => exact ih.trans last.change.succeeds

/-- The version is stored. -/
def Versioned (agentId : String) (request : ReplaceAgentStartupRequest) (revision : Nat)
    (shared : Shared β) : Prop :=
  ∃ entry, shared.declarations agentId = some entry ∧ entry.spec.kind = "app" ∧
    entry.appRevision = revision ∧ sameLaunch entry request = true

theorem sameLaunch_congr {first second : StoredAgentStartup}
    (same : launchOf second = launchOf first) (request : ReplaceAgentStartupRequest) :
    sameLaunch second request = sameLaunch first request := by
  simp only [launchOf, Prod.mk.injEq] at same
  obtain ⟨command, args, cwd⟩ := same
  rw [sameLaunch, sameLaunch, command, args, cwd]

theorem Versioned.succeeds {revision : Nat} (versioned : Versioned agentId request revision shared)
    (kept : Succeeds (some revision) shared after) :
    Versioned agentId request revision after := by
  obtain ⟨old, found, app, stored, launch⟩ := versioned
  obtain ⟨new, there, successor⟩ := kept agentId old found
  rcases successor.launch app with ⟨same, revisions⟩ | ⟨given, _⟩
  · refine ⟨new, there, successor.kind app, revisions.trans stored, ?_⟩
    rw [sameLaunch_congr same]
    exact launch
  · have reached := Option.some.inj given
    omega

theorem Saved.versioned {revision : Nat} {entry : StoredAgentStartup}
    (saved : Saved agentId request revision entry shared) :
    Versioned agentId request revision shared :=
  ⟨declaration entry, saved.declared, saved.kind, saved.appRevision, saved.launch⟩

/-- A version that was stored once: since then it was kept, or replaced by a later one. -/
def Since (agentId : String) (request : ReplaceAgentStartupRequest) (revision : Nat)
    (shared : Shared β) : Prop :=
  ∃ entry, shared.declarations agentId = some entry ∧ entry.spec.kind = "app" ∧
    revision ≤ entry.appRevision ∧
    (entry.appRevision = revision → sameLaunch entry request = true)

section
variable {agentId : String} {revision : Nat}

theorem Versioned.since (versioned : Versioned agentId request revision shared) :
    Since agentId request revision shared := by
  obtain ⟨entry, found, app, stored, launch⟩ := versioned
  exact ⟨entry, found, app, stored.ge, fun _ => launch⟩

theorem Since.succeeds {given : Option Nat} (since : Since agentId request revision shared)
    (kept : Succeeds given shared after) :
    Since agentId request revision after := by
  obtain ⟨old, found, app, le, launch⟩ := since
  obtain ⟨new, there, successor⟩ := kept agentId old found
  refine ⟨new, there, successor.kind app, le.trans successor.grows, ?_⟩
  intro same
  rcases successor.launch app with ⟨unchanged, revisions⟩ | ⟨_, _⟩
  · rw [sameLaunch_congr unchanged]
    exact launch (revisions ▸ same)
  · omega

/-- Two requests that carry the same launch fields, as far as they carry them. -/
def SameFields (first second : ReplaceAgentStartupRequest) : Prop :=
  first.command = second.command ∧ first.args = second.args ∧
    ∀ cwd ∈ first.cwd, ∀ other ∈ second.cwd, cwd = other

theorem Since.sameFields {other : ReplaceAgentStartupRequest}
    (since : Since agentId request revision shared)
    (versioned : Versioned agentId other revision shared) : SameFields request other := by
  obtain ⟨_, found, _, _, launch⟩ := since
  obtain ⟨_, again, _, stored, otherLaunch⟩ := versioned
  cases found.symm.trans again
  have first := launch stored
  simp only [sameLaunch, Bool.and_eq_true, beq_iff_eq, Option.all_eq_true] at first otherLaunch
  obtain ⟨⟨command, args⟩, cwd⟩ := first
  obtain ⟨⟨otherCommand, otherArgs⟩, otherCwd⟩ := otherLaunch
  refine ⟨command.symm.trans otherCommand, args.symm.trans otherArgs, ?_⟩
  intro given mem another otherMem
  exact (cwd given mem).trans (otherCwd another otherMem).symm

/-! ## What an operation with a version leaves -/

/-- What is stored when an operation with a version ends: that version, or what was there before. -/
def Settled (agentId : String) (request : ReplaceAgentStartupRequest) (revision : Nat)
    (before : Shared β) (result : Except ProtocolError α) (after : Shared β) : Prop :=
  Versioned agentId request revision after ∨ Quiet before after ∧ ∀ value, result ≠ .ok value

theorem Settled.refused {error : ProtocolError} (quiet : Quiet shared after) :
    Settled agentId request revision shared (.error error : Except ProtocolError α) after :=
  Or.inr ⟨quiet, nofun⟩

/-- A stored version outlives the rest of its operation. -/
theorem Versioned.settled {program : Procedure α}
    (versioned : Versioned agentId request revision shared)
    (judged : Judged config (some revision) False (fun _ _ => True) program.run shared) :
    Judged config (some revision) False (Settled agentId request revision before) program.run
      shared := by
  refine Program.Keeps.mono (Program.Keeps.withInvariant ?_ ?_ judged versioned) ?_
  · intro earlier later quiet known
    exact known.succeeds (.ofQuiet quiet)
  · intro earlier later kept known
    exact known.succeeds kept.change.succeeds
  · intro result after known
    exact .inl known.2

theorem room_of_false : Room False shared agentId := False.elim

variable (operationId : String)

theorem settled_updateAppStartup :
    Judged config (some revision) False (Settled agentId request revision shared)
      (updateAppStartup config operationId agentId request revision).run shared := by
  apply keeps_bind (judged_saveAppStartupLocked agentId request revision)
  · intro error after saved
    exact Settled.refused (saved.refused error rfl)
  rintro ⟨entry, changed⟩ _ saved
  apply (saved.accepted entry changed rfl).versioned.settled
  split
  · apply (judged_startLocked False.elim room_of_false operationId true).thenJudged
    intro _ final _
    exact (isQuiet_getStartup agentId).judged
  · exact (isQuiet_getStartup agentId).judged

/-- A version that was accepted: it is stored, or it can be, as nothing is declared. -/
inductive Accepted (agentId : String) (request : CreateAgentRequest) (revision : Nat)
    (before : Shared β) : Except ProtocolError Bool → Shared β → Prop
  | stored {after : Shared β} (changed : Bool)
      (versioned : Versioned agentId (replacementOf request) revision after) :
      Accepted agentId request revision before (.ok changed) after
  | absent {after : Shared β} (quiet : Quiet before after)
      (undeclared : after.declarations agentId = none) (kind : request.kind = "app")
      (valid : (replacementOf request).validate = .ok ()) :
      Accepted agentId request revision before (.ok false) after
  | refused {after : Shared β} (error : ProtocolError) (quiet : Quiet before after) :
      Accepted agentId request revision before (.error error) after

theorem accepted_acceptRevision (create : CreateAgentRequest) :
    Judged config (some revision) False (Accepted agentId create revision shared)
      (acceptRevision config agentId create (some revision)).run shared := by
  apply Procedure.keeps_settle_bind
  · intro error _
    exact .refused error (Quiet.refl shared)
  intro _ checked
  simp only [refuse_eq_ok_iff, Bool.or_eq_false_iff, bne_eq_false_iff_eq] at checked
  apply judged_get (.refl shared)
  · intro between quiet undeclared
    refine Procedure.keeps_settle_bind (fun error _ => .refused error quiet) ?_
    intro _ valid
    refine (isQuiet_resolveMachineDirectory _).seqJudged quiet (fun error _ => .refused error) ?_
    intro _ after later
    refine .done (.absent later ?_ checked.2 valid)
    rw [later.declarations, ← quiet.declarations]
    exact undeclared
  · intro between entry quiet _ _
    apply keeps_bind (judged_saveAppStartupLocked agentId (replacementOf create) revision)
    · intro error after saved
      exact .refused error (quiet.trans (saved.refused error rfl))
    · rintro ⟨saved, changed⟩ _ outcome
      exact .done (.stored changed (outcome.accepted saved changed rfl).versioned)

/-- A request without an executable is not valid. -/
theorem args_ne_nil_of_validate {create : CreateAgentRequest}
    (valid : (replacementOf create).validate = .ok ()) : create.args ≠ [] := by
  intro empty
  rw [ReplaceAgentStartupRequest.validate, bind_eq_ok_iff] at valid
  obtain ⟨_, accepted, _⟩ := valid
  have command : (replacementOf create).command = "" := by
    rw [replacementOf, empty]
    rfl
  have blank : (Text.trim "" == "") = true := by decide
  rw [refuse_eq_ok_iff, command, blank] at accepted
  cases accepted

variable (workloadCredential : Option String)

section
variable (create : CreateAgentRequest) (enabled startMissing : Bool)
  (undeclared : shared.declarations agentId = none) (kind : create.kind = "app")
include create enabled startMissing undeclared kind

theorem settled_declareMissing (valid : (replacementOf create).validate = .ok ()) :
    Judged config (some revision) False
      (Settled agentId (replacementOf create) revision shared)
      (declareMissing config agentId workloadCredential create enabled startMissing
        (some revision)).run shared := by
  apply Judged.declareMissing
  · intro error after quiet
    exact .refused quiet
  · intro after quiet present
    rw [quiet.declarations] at present
    exact absurd undeclared present
  · intro before after launch credential generation _ _ resolved declarations _
    have written := (congrFun declarations agentId).trans (Function.update_self _ _ _)
    simp only [resolveLaunch, bind_eq_ok_iff] at resolved
    obtain ⟨_, _, _, _, _, _, same⟩ := resolved
    cases arguments : create.args with
    | nil => exact absurd arguments (args_ne_nil_of_validate valid)
    | cons =>
      cases same
      refine Or.inl ⟨_, written, kind, rfl, ?_⟩
      simp [declaration, sameLaunch, firstEntry, replacementOf, arguments]

theorem settled_ensureDeclared (valid : (replacementOf create).validate = .ok ()) :
    Judged config (some revision) False
      (Settled agentId (replacementOf create) revision shared)
      (ensureDeclared config operationId agentId workloadCredential create enabled startMissing
        (some revision)).run shared := by
  apply isQuiet_syncProcesses.seqJudged (.refl shared) fun _ _ => .refused
  intro processes synced known
  apply (isQuiet_adoptRunning _).seqJudged known fun _ _ => .refused
  intro _ adopted quiet
  have absent : adopted.declarations agentId = none := by
    rw [quiet.declarations]
    exact undeclared
  apply keeps_bind (settled_declareMissing workloadCredential create enabled startMissing absent
    kind valid)
  · intro error after settled
    rcases settled with versioned | ⟨later, _⟩
    · exact .inl versioned
    · exact .refused (quiet.trans later)
  · intro newlyDeclared after settled
    rcases settled with versioned | ⟨_, notOk⟩
    · exact versioned.settled (judged_runDeclared False.elim room_of_false operationId enabled
        startMissing newlyDeclared fun _ => False.elim)
    · exact absurd rfl (notOk newlyDeclared)

end

theorem settled_ensureAppLifecycle (create : CreateAgentRequest) (enabled startMissing : Bool) :
    Judged config (some revision) False
      (Settled agentId (replacementOf create) revision shared)
      (ensureAppLifecycle config operationId agentId workloadCredential create enabled
        startMissing (some revision)).run shared := by
  apply (isQuiet_requireNotDenied agentId).seqJudged (.refl shared) fun _ _ => .refused
  intro _ allowed quietAllowed
  apply keeps_bind (accepted_acceptRevision create)
  · rintro _ after (_ | _ | ⟨_, later⟩)
    exact .refused (quietAllowed.trans later)
  rintro _ _ (⟨_, versioned⟩ | ⟨later, undeclared, kind, valid⟩ | _)
  · apply versioned.settled
    split
    · exact judged_startLocked False.elim room_of_false operationId true
    · exact judged_ensureDeclared False.elim room_of_false operationId workloadCredential create
        enabled startMissing
  · apply (settled_ensureDeclared operationId workloadCredential create enabled startMissing
      undeclared kind valid).mono
    intro result final settled
    exact settled.imp_right fun refused => ⟨(quietAllowed.trans later).trans refused.1, refused.2⟩

end
end Treer.Controller
