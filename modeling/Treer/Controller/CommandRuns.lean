import Treer.Controller.Commands

/-!
# A command runs at most once

What a command id is up to is one of three: nothing was started for it, its handler runs,
or its result is remembered. As long as no result is evicted and no handler is dropped with
its connection, every step of the Controller moves a command id along this line or leaves
it where it is.
-/

namespace Treer.Controller

open Foundation Protocol Table CommandResult List
open Function (update update_apply update_self update_of_ne)
variable {π ν : Type} {workspaceId : String}

inductive Progress (ν : Type) where
  | idle
  | running
  | done (result : CommandResult ν)

/-- What an outcome means for a command id. -/
inductive Progresses (commandId : String) : Progress ν → ClientOutcome π ν → Progress ν → Prop
  | started (envelope : CommandEnvelope π) (same : envelope.commandId = commandId) :
      Progresses commandId .idle (.started envelope) .running
  | recorded (result : CommandResult ν) (same : result.commandId = commandId) :
      Progresses commandId .running (.recorded result) (.done result)
  | cached (result : CommandResult ν) (same : result.commandId = commandId) :
      Progresses commandId (.done result) (.cached result) (.done result)
  | refused (progress : Progress ν) (result : CommandResult ν) :
      Progresses commandId progress (.refused result) progress
  | quiet (progress : Progress ν) : Progresses commandId progress .quiet progress
  | otherStarted (progress : Progress ν) (envelope : CommandEnvelope π)
      (other : envelope.commandId ≠ commandId) :
      Progresses commandId progress (.started envelope) progress
  | otherRecorded (progress : Progress ν) (result : CommandResult ν)
      (other : result.commandId ≠ commandId) :
      Progresses commandId progress (.recorded result) progress
  | otherCached (progress : Progress ν) (result : CommandResult ν)
      (other : result.commandId ≠ commandId) :
      Progresses commandId progress (.cached result) progress

/-- The outcomes of a run move the command id from a point of its line on. -/
inductive Advances (commandId : String) : Progress ν → List (ClientOutcome π ν) → Prop
  | nil (progress : Progress ν) : Advances commandId progress []
  | cons {before after : Progress ν} {outcome : ClientOutcome π ν}
      {rest : List (ClientOutcome π ν)} (first : Progresses commandId before outcome after)
      (later : Advances commandId after rest) : Advances commandId before (outcome :: rest)

/-- The outcome starts the handler of a command id. -/
def ClientOutcome.starts (commandId : String) : ClientOutcome π ν → Bool
  | .started envelope => envelope.commandId == commandId
  | _ => false

/-- The command id that an outcome answers or starts. -/
def ClientOutcome.commandId? : ClientOutcome π ν → Option String
  | .quiet => none
  | .started envelope => some envelope.commandId
  | .refused result | .cached result | .recorded result => some result.commandId

variable {result : CommandResult ν} {progress : Progress ν}

section
variable {commandId : String} {outcomes : List (ClientOutcome π ν)}

theorem Advances.not_starts (advances : Advances commandId progress outcomes)
    (begun : progress ≠ .idle) : ∀ outcome ∈ outcomes, outcome.starts commandId = false := by
  induction advances with
  | nil => nofun
  | @cons _ after outcome _ first _ ih =>
    have next : after ≠ .idle ∧ outcome.starts commandId = false := by
      cases first with
      | started => exact absurd rfl begun
      | recorded => exact ⟨nofun, rfl⟩
      | otherStarted _ _ other => exact ⟨begun, beq_eq_false_iff_ne.mpr other⟩
      | cached | refused | quiet | otherRecorded | otherCached => exact ⟨begun, rfl⟩
    intro other mem
    rcases mem_cons.mp mem with rfl | otherMem
    · exact next.2
    · exact ih next.1 other otherMem

theorem Advances.starts_once (advances : Advances commandId progress outcomes) :
    outcomes.countP (·.starts commandId) ≤ 1 := by
  induction advances with
  | nil => exact Nat.zero_le 1
  | @cons _ after outcome rest first later ih =>
    by_cases starts : outcome.starts commandId = true
    · have begun : after ≠ .idle := by
        cases first with
        | started => nofun
        | otherStarted _ _ other => exact absurd (beq_iff_eq.mp starts) other
        | _ => cases starts
      have none : rest.countP (·.starts commandId) = 0 := by
        rw [countP_eq_zero]
        intro other mem
        rw [later.not_starts begun other mem]
        nofun
      rw [countP_cons_of_pos starts, none]
    · rw [countP_cons_of_neg starts]
      exact ih

/-- From a remembered result on, every answer for the command id is that result or a
refusal. -/
theorem Advances.of_done (advances : Advances commandId (.done result) outcomes) :
    ∀ outcome ∈ outcomes, outcome.commandId? = some commandId →
      outcome = .cached result ∨ ∃ refusal, outcome = .refused refusal := by
  induction outcomes with
  | nil => nofun
  | cons _ _ ih =>
    cases advances with
    | cons first later =>
      intro outcome mem own
      rcases mem_cons.mp mem with rfl | otherMem
      · cases first with
        | cached => exact .inl rfl
        | refused _ refusal => exact .inr ⟨refusal, rfl⟩
        | quiet => cases own
        | otherStarted _ _ other
        | otherRecorded _ _ other
        | otherCached _ _ other => exact absurd (Option.some.inj own) other
      · cases first with
        | cached | refused | quiet | otherStarted | otherRecorded | otherCached =>
          exact ih later outcome otherMem own

theorem Advances.drop {earlier : List (ClientOutcome π ν)}
    (advances : Advances commandId progress (earlier ++ outcomes)) :
    ∃ reached, Advances commandId reached outcomes := by
  induction earlier generalizing progress with
  | nil => exact ⟨progress, advances⟩
  | cons _ _ ih =>
    cases advances with
    | cons _ later => exact ih later

end

namespace ClientState

variable {state next : ClientState π ν} {action : ClientAction π ν} {outcome : ClientOutcome π ν}

/-! ## What a step changes -/

/-- The future of an `Exec` with the command id. -/
def exec? (state : ClientState π ν) (commandId : String) : Option (ExecFuture π) :=
  state.connection.bind (·.execCommands.find? commandId)

/-- The command whose handler the loop waits for. -/
def awaited? (state : ClientState π ν) : Option (CommandEnvelope π) :=
  state.connection.bind (·.awaited)

/-- The command is refused, or answered with the result that is remembered for it. -/
def Answers (cache : CommandCache ν) (outcome : ClientOutcome π ν) : Prop :=
  (∃ result, outcome = .refused result) ∨
    ∃ result, outcome = .cached result ∧ cache.find? result.commandId = some result

/-- How a step changes the futures, the handler that is waited for and the results. -/
inductive Moves (state next : ClientState π ν) : ClientAction π ν → ClientOutcome π ν → Prop
  | same {action : ClientAction π ν} (execs : next.exec? = state.exec?)
      (awaited : next.awaited? = state.awaited?)
      (cache : next.commandCache = state.commandCache) : Moves state next action .quiet
  | dropped (execs : next.exec? = fun _ => none) (awaited : next.awaited? = none)
      (cache : next.commandCache = state.commandCache) : Moves state next .drop .quiet
  | queued (envelope : CommandEnvelope π) (advertised : List String)
      (isExec : envelope.command.kind = .exec)
      (fresh : state.exec? envelope.commandId = none)
      (execs : next.exec? = update state.exec? envelope.commandId (some ⟨envelope, false⟩))
      (awaited : next.awaited? = state.awaited?)
      (cache : next.commandCache = state.commandCache) :
      Moves state next (.receive envelope advertised) .quiet
  | answered {action : ClientAction π ν} {outcome : ClientOutcome π ν}
      (answers : Answers state.commandCache outcome) (execs : next.exec? = state.exec?)
      (awaited : next.awaited? = state.awaited?)
      (cache : next.commandCache = state.commandCache) : Moves state next action outcome
  | closed {action : ClientAction π ν} {outcome : ClientOutcome π ν}
      (answers : Answers state.commandCache outcome) (future : ExecFuture π)
      (found : state.exec? future.commandId = some future) (waiting : future.started = false)
      (execs : next.exec? = update state.exec? future.commandId none)
      (awaited : next.awaited? = state.awaited?)
      (cache : next.commandCache = state.commandCache) : Moves state next action outcome
  | awaiting (envelope : CommandEnvelope π) (advertised : List String)
      (notExec : envelope.command.kind ≠ .exec) (free : state.awaited? = none)
      (absent : state.commandCache.find? envelope.commandId = none)
      (execs : next.exec? = state.exec?) (awaited : next.awaited? = some envelope)
      (cache : next.commandCache = state.commandCache) :
      Moves state next (.receive envelope advertised) (.started envelope)
  | began {action : ClientAction π ν} (future : ExecFuture π)
      (found : state.exec? future.commandId = some future) (waiting : future.started = false)
      (absent : state.commandCache.find? future.commandId = none)
      (execs : next.exec? = update state.exec? future.commandId (some ⟨future.envelope, true⟩))
      (awaited : next.awaited? = state.awaited?) (free : state.awaited? = none)
      (cache : next.commandCache = state.commandCache) :
      Moves state next action (.started future.envelope)
  | finished {action : ClientAction π ν} (future : ExecFuture π)
      (found : state.exec? future.commandId = some future) (running : future.started = true)
      (result : CommandResult ν) (own : result.commandId = future.commandId) (first : Nat)
      (execs : next.exec? = update state.exec? future.commandId none)
      (awaited : next.awaited? = state.awaited?)
      (cache : next.commandCache = record state.commandCache first result) :
      Moves state next action (.recorded result)
  | finishedAwaited {action : ClientAction π ν} (envelope : CommandEnvelope π)
      (found : state.awaited? = some envelope) (result : CommandResult ν)
      (own : result.commandId = envelope.commandId) (first : Nat)
      (execs : next.exec? = state.exec?) (awaited : next.awaited? = none)
      (cache : next.commandCache = record state.commandCache first result) :
      Moves state next action (.recorded result)

theorem ready?_eq_some_iff {serving : Serving π} :
    state.ready? = some serving ↔ state.connection = some serving ∧ serving.awaited = none := by
  rw [ready?, Option.filter_eq_some_iff, Option.isNone_iff_eq_none]

section
variable {serving : Serving π} (connected : state.connection = some serving)
include connected

theorem exec?_of_connection : state.exec? = serving.execCommands.find? := by
  funext commandId
  rw [exec?, connected, Option.bind_some]

theorem awaited?_of_connection : state.awaited? = serving.awaited := by
  rw [awaited?, connected, Option.bind_some]

theorem exec?_put (future : ExecFuture π) (cache : CommandCache ν) :
    ClientState.exec? ⟨cache, some { serving with
        execCommands := serving.execCommands.put future }⟩ =
      update state.exec? future.commandId (some future) := by
  funext commandId
  rw [exec?, Option.bind_some, find?_put, update_apply, exec?_of_connection connected]

theorem exec?_close (commandId : String) (cache : CommandCache ν) :
    ClientState.exec? ⟨cache, some (serving.close commandId)⟩ =
      update state.exec? commandId none := by
  funext other
  rw [exec?, Option.bind_some, update_apply, exec?_of_connection connected]
  change (serving.execCommands.delete _).find? other = _
  rw [find?_delete]
  cases found : serving.execCommands.find? other with
  | none => simp
  | some =>
    obtain ⟨_, rfl⟩ := find?_eq_some_iff.mp found
    simp [Option.filter]

end

variable {envelope : CommandEnvelope π} {cache : CommandCache ν} {advertised : List String}

theorem execute_eq_cached
    (cached : execute workspaceId advertised cache envelope = .cached result) :
    cache.find? result.commandId = some result := by
  unfold execute at cached
  split at cached
  · cases cached
  split at cached
  · cases cached
  split at cached
  · rename_i found
    cases cached
    rw [(find?_eq_some_iff.mp found).2]
    exact found
  · cases cached

theorem execute_eq_start (start : execute workspaceId advertised cache envelope = .start) :
    cache.find? envelope.commandId = none := by
  unfold execute at start
  split at start
  · cases start
  split at start
  · cases start
  split at start
  · cases start
  · assumption

theorem moves_receive (state : ClientState π ν) (envelope : CommandEnvelope π)
    (advertised : List String) :
    Moves state (state.receive workspaceId envelope advertised).2 (.receive envelope advertised)
      (state.receive workspaceId envelope advertised).1 := by
  unfold receive
  split
  · exact .same rfl rfl rfl
  rename_i serving ready
  obtain ⟨connected, free⟩ := ready?_eq_some_iff.mp ready
  split
  · rename_i isExec
    unfold receiveExec
    split
    · exact .same rfl rfl rfl
    rename_i absent
    split
    · exact .answered (Or.inl ⟨_, rfl⟩) rfl rfl rfl
    refine .queued envelope advertised isExec ?_ (exec?_put connected _ _) ?_ rfl
    · rw [exec?_of_connection connected]
      simpa using absent
    · exact (awaited?_of_connection connected).symm
  · rename_i notExec
    unfold receiveAwaited
    split
    · exact .answered (Or.inl ⟨_, rfl⟩) rfl rfl rfl
    · rename_i result cached
      exact .answered (Or.inr ⟨result, rfl, execute_eq_cached cached⟩) rfl rfl rfl
    · rename_i start
      refine .awaiting envelope advertised notExec ?_ (execute_eq_start start) ?_ rfl rfl
      · rw [awaited?_of_connection connected, free]
      · exact (exec?_of_connection connected).symm

theorem moves_poll (state : ClientState π ν) (commandId : String) (advertised : List String) :
    Moves state (state.poll workspaceId commandId advertised).2 (.poll commandId advertised)
      (state.poll workspaceId commandId advertised).1 := by
  unfold poll
  split
  · exact .same rfl rfl rfl
  rename_i serving ready
  obtain ⟨connected, free⟩ := ready?_eq_some_iff.mp ready
  have same : state.awaited? = serving.awaited := awaited?_of_connection connected
  split
  · exact .same rfl rfl rfl
  rename_i future found
  obtain ⟨there, waiting⟩ := Option.filter_eq_some_iff.mp found
  obtain ⟨_, rfl⟩ := find?_eq_some_iff.mp there
  rw [← exec?_of_connection connected] at there
  rw [Bool.not_eq_true'] at waiting
  split
  · exact .closed (Or.inl ⟨_, rfl⟩) future there waiting (exec?_close connected _ _) same.symm rfl
  · rename_i result cached
    exact .closed (Or.inr ⟨result, rfl, execute_eq_cached cached⟩) future there waiting
      (exec?_close connected _ _) same.symm rfl
  · rename_i start
    exact .began future there waiting (execute_eq_start start)
      (exec?_put connected ⟨future.envelope, true⟩ _) same.symm (same.trans free) rfl

theorem moves_finish (state : ClientState π ν) (commandId : String)
    (ended : Except ProtocolError ν) (first : Nat) :
    Moves state (state.finish commandId ended first).2 (.finish commandId ended first)
      (state.finish commandId ended first).1 := by
  unfold finish
  split
  · exact .same rfl rfl rfl
  rename_i serving ready
  obtain ⟨connected, _⟩ := ready?_eq_some_iff.mp ready
  split
  · exact .same rfl rfl rfl
  rename_i future found
  obtain ⟨there, running⟩ := Option.filter_eq_some_iff.mp found
  obtain ⟨_, rfl⟩ := find?_eq_some_iff.mp there
  rw [← exec?_of_connection connected] at there
  exact .finished future there running _ (ofExcept_commandId _ _) first
    (exec?_close connected _ _) (awaited?_of_connection connected).symm rfl

theorem moves_finishAwaited (state : ClientState π ν) (ended : Except ProtocolError ν)
    (first : Nat) :
    Moves state (state.finishAwaited ended first).2 (.finishAwaited ended first)
      (state.finishAwaited ended first).1 := by
  unfold finishAwaited
  split
  · exact .same rfl rfl rfl
  rename_i serving connected
  split
  · exact .same rfl rfl rfl
  rename_i envelope waits
  refine .finishedAwaited envelope ?_ _ (ofExcept_commandId _ _) first ?_ rfl rfl
  · rw [awaited?_of_connection connected, waits]
  · exact (exec?_of_connection connected).symm

theorem moves_of_step (workspaceId : String) (state : ClientState π ν) (action : ClientAction π ν) :
    Moves state (state.step workspaceId action).2 action (state.step workspaceId action).1 := by
  cases action with
  | connect =>
    change Moves state ⟨_, some _⟩ _ .quiet
    cases connection : state.connection with
    | none | some =>
      apply Moves.same
      · funext commandId
        rw [exec?, exec?, connection]
        rfl
      · rw [awaited?, awaited?, connection]
        rfl
      · rfl
  | receive envelope advertised => exact moves_receive state envelope advertised
  | poll commandId advertised => exact moves_poll state commandId advertised
  | finish commandId ended first => exact moves_finish state commandId ended first
  | finishAwaited ended first => exact moves_finishAwaited state ended first
  | drop => exact .dropped rfl rfl rfl

/-! ## Where a command id stands -/

section
variable {commandId : String} {isExec : Prop}

/-- The handler of the command id runs. -/
def Runs (commandId : String) (state : ClientState π ν) : Prop :=
  (∃ future, state.exec? commandId = some future ∧ future.started = true) ∨
    ∃ envelope, state.awaited? = some envelope ∧ envelope.commandId = commandId

/-- The command id is on futures only, or on handlers that are waited for only. -/
structure Uniform (commandId : String) (isExec : Prop) (state : ClientState π ν) : Prop where
  execs : ∀ future, state.exec? commandId = some future → isExec
  awaited : ∀ envelope, state.awaited? = some envelope → envelope.commandId = commandId → ¬isExec

/-- An action brings the command id on commands of one way only. -/
def Brings (commandId : String) (isExec : Prop) (action : ClientAction π ν) : Prop :=
  ∀ envelope advertised, action = .receive envelope advertised →
    envelope.commandId = commandId → (envelope.command.kind = .exec ↔ isExec)

theorem uniform_initial : Uniform commandId isExec (initial : ClientState π ν) := ⟨nofun, nofun⟩

theorem uniform_of_execs (uniform : Uniform commandId isExec state)
    (execs : ∀ future, next.exec? commandId = some future → ∃ old, state.exec? commandId = some old)
    (awaited : next.awaited? = state.awaited? ∨ next.awaited? = none) :
    Uniform commandId isExec next where
  execs future found := by
    obtain ⟨old, before⟩ := execs future found
    exact uniform.execs old before
  awaited envelope found own := by
    rcases awaited with same | gone
    · exact uniform.awaited envelope (same ▸ found) own
    · cases gone.symm.trans found

theorem Uniform.moves (uniform : Uniform commandId isExec state)
    (brings : Brings commandId isExec action) (moves : Moves state next action outcome) :
    Uniform commandId isExec next := by
  -- A future is there only if one was there before, unless it was just queued.
  have updated : ∀ {other : String} {changed : Option (ExecFuture π)},
      next.exec? = update state.exec? other changed →
      (changed.isSome = true → (state.exec? other).isSome = true) →
      ∀ future, next.exec? commandId = some future → ∃ old, state.exec? commandId = some old := by
    intro other changed execs before future found
    rw [execs, update_apply] at found
    split at found
    · rename_i same
      subst same
      exact Option.isSome_iff_exists.mp (before (by rw [found]; rfl))
    · exact ⟨future, found⟩
  cases moves with
  | same execs awaited
  | answered _ execs awaited =>
    exact uniform_of_execs uniform (fun future found => ⟨future, execs ▸ found⟩) (.inl awaited)
  | dropped execs awaited =>
    refine uniform_of_execs uniform (fun future found => ?_) (.inr awaited)
    rw [execs] at found
    cases found
  | queued envelope advertised exec _ execs awaited =>
    constructor
    · intro future found
      rw [execs, update_apply] at found
      split at found
      · rename_i same
        exact (brings envelope advertised rfl same.symm).mp exec
      · exact uniform.execs future found
    · intro other found own
      exact uniform.awaited other (awaited ▸ found) own
  | closed _ _ _ _ execs awaited
  | finished _ _ _ _ _ _ execs awaited =>
    exact uniform_of_execs uniform (updated execs nofun) (.inl awaited)
  | awaiting envelope advertised notExec _ _ execs awaited =>
    constructor
    · intro future found
      exact uniform.execs future (execs ▸ found)
    · intro other found own isIt
      cases awaited.symm.trans found
      exact notExec ((brings envelope advertised rfl own).mpr isIt)
  | began _ found _ _ execs awaited =>
    refine uniform_of_execs uniform (updated execs fun _ => ?_) (.inl awaited)
    rw [found]
    rfl
  | finishedAwaited _ found _ _ _ execs awaited =>
    exact uniform_of_execs uniform (fun future found => ⟨future, execs ▸ found⟩) (.inr awaited)

/-- Where the command id stands in a state. -/
def At (commandId : String) : Progress ν → ClientState π ν → Prop
  | .idle, state => ¬Runs commandId state ∧ state.commandCache.find? commandId = none
  | .running, state => Runs commandId state ∧ state.commandCache.find? commandId = none
  | .done result, state => ¬Runs commandId state ∧ state.commandCache.find? commandId = some result

theorem At.congr (standing : At commandId progress state)
    (runs : Runs commandId next ↔ Runs commandId state)
    (cache : next.commandCache.find? commandId = state.commandCache.find? commandId) :
    At commandId progress next := by
  cases progress with
  | idle | done => exact ⟨fun runsNext => standing.1 (runs.mp runsNext), cache.trans standing.2⟩
  | running => exact ⟨runs.mpr standing.1, cache.trans standing.2⟩

theorem At.of_runs (standing : At commandId progress state) (runs : Runs commandId state) :
    progress = .running := by
  cases progress with
  | idle | done => exact absurd runs standing.1
  | running => rfl

theorem runs_congr (exec : next.exec? commandId = state.exec? commandId)
    (awaited : next.awaited? = state.awaited?) :
    Runs commandId next ↔ Runs commandId state := by
  rw [Runs, Runs, exec, awaited]

/-- Futures that were not polled do not matter. -/
theorem runs_update {other : String} {changed : Option (ExecFuture π)}
    (execs : next.exec? = update state.exec? other changed)
    (before : ∀ future, state.exec? other = some future → future.started = false)
    (after : ∀ future, changed = some future → future.started = false)
    (awaited : next.awaited? = state.awaited?) :
    Runs commandId next ↔ Runs commandId state := by
  rw [Runs, Runs, execs, awaited]
  grind [update_apply]

theorem record_of_room (room : cache.rows.length < commandCacheLimit) (first : Nat)
    (result : CommandResult ν) : record cache first result = cache.put result := by
  rw [record, if_neg (Nat.not_le.mpr room)]

theorem At.answered (standing : At commandId progress state)
    (answers : Answers state.commandCache outcome) :
    Progresses commandId progress outcome progress := by
  rcases answers with ⟨result, rfl⟩ | ⟨result, rfl, found⟩
  · exact .refused progress result
  by_cases own : result.commandId = commandId
  · rw [own] at found
    cases progress with
    | idle | running => cases standing.2.symm.trans found
    | done =>
      cases standing.2.symm.trans found
      exact .cached result own
  · exact .otherCached progress result own

/-- A handler starts. -/
theorem At.started (standing : At commandId progress state) (own : envelope.commandId = commandId)
    (notRuns : ¬Runs commandId state) (absent : state.commandCache.find? commandId = none)
    (runs : Runs commandId next) (cache : next.commandCache = state.commandCache) :
    ∃ after, Progresses commandId progress (.started envelope) after ∧ At commandId after next := by
  have atRest : progress = .idle := by
    cases progress with
    | idle => rfl
    | running => exact absurd standing.1 notRuns
    | done => cases standing.2.symm.trans absent
  rw [atRest]
  refine ⟨.running, .started envelope own, runs, ?_⟩
  rw [cache]
  exact absent

/-- A handler ends. -/
theorem At.recorded (standing : At commandId progress state) {first : Nat}
    (room : state.commandCache.rows.length < commandCacheLimit)
    (cache : next.commandCache = record state.commandCache first result)
    (own : result.commandId = commandId → Runs commandId state ∧ ¬Runs commandId next)
    (other : result.commandId ≠ commandId → (Runs commandId next ↔ Runs commandId state)) :
    ∃ after, Progresses commandId progress (.recorded result : ClientOutcome π ν) after ∧
      At commandId after next := by
  rw [record_of_room room] at cache
  by_cases same : result.commandId = commandId
  · obtain ⟨runs, ended⟩ := own same
    rw [standing.of_runs runs]
    refine ⟨.done result, .recorded result same, ended, ?_⟩
    rw [cache, find?_put, if_pos same.symm]
  · refine ⟨progress, .otherRecorded progress result same, standing.congr (other same) ?_⟩
    rw [cache, find?_put, if_neg (Ne.symm same)]

/-- A step that drops no handler of the command id and evicts no result moves it along its line. -/
theorem At.moves (uniform : Uniform commandId isExec state)
    (brings : Brings commandId isExec action) (standing : At commandId progress state)
    (kept : action = .drop → ¬Runs commandId state)
    (room : ∀ result, outcome = .recorded result →
      state.commandCache.rows.length < commandCacheLimit)
    (moves : Moves state next action outcome) :
    ∃ after, Progresses commandId progress outcome after ∧ At commandId after next := by
  cases moves with
  | same execs awaited cache =>
    refine ⟨progress, .quiet progress, standing.congr (runs_congr (congrFun execs _) awaited) ?_⟩
    rw [cache]
  | dropped execs awaited cache =>
    have notRuns : ¬Runs commandId next := by
      rintro (⟨future, found, _⟩ | ⟨envelope, found, _⟩)
      · rw [execs] at found
        cases found
      · rw [awaited] at found
        cases found
    refine ⟨progress, .quiet progress, standing.congr (iff_of_false notRuns (kept rfl)) ?_⟩
    rw [cache]
  | queued envelope _ _ fresh execs awaited cache =>
    refine ⟨progress, .quiet progress, standing.congr ?_ (by rw [cache])⟩
    apply runs_update execs _ _ awaited
    · intro future found
      cases fresh.symm.trans found
    · rintro _ ⟨⟩
      rfl
  | answered answers execs awaited cache =>
    refine ⟨progress, standing.answered answers, ?_⟩
    exact standing.congr (runs_congr (congrFun execs _) awaited) (by rw [cache])
  | closed answers future found waiting execs awaited cache =>
    refine ⟨progress, standing.answered answers, standing.congr ?_ (by rw [cache])⟩
    apply runs_update execs _ (fun _ => nofun) awaited
    intro other otherFound
    cases found.symm.trans otherFound
    exact waiting
  | awaiting envelope advertised notExec free absent execs awaited cache =>
    by_cases own : envelope.commandId = commandId
    · apply standing.started own _ (own ▸ absent) (Or.inr ⟨envelope, awaited, own⟩) cache
      rintro (⟨future, found, _⟩ | ⟨other, found, _⟩)
      · exact notExec ((brings envelope advertised rfl own).mpr (uniform.execs future found))
      · cases free.symm.trans found
    · refine ⟨progress, .otherStarted progress envelope own, standing.congr ?_ (by rw [cache])⟩
      rw [Runs, Runs, execs, awaited, free]
      simp [own]
  | began future found waiting absent execs awaited free cache =>
    by_cases own : future.commandId = commandId
    · subst own
      apply standing.started rfl _ absent _ cache
      · rintro (⟨other, otherFound, started⟩ | ⟨other, otherFound, _⟩)
        · cases found.symm.trans otherFound
          rw [waiting] at started
          cases started
        · cases free.symm.trans otherFound
      · refine .inl ⟨⟨future.envelope, true⟩, ?_, rfl⟩
        rw [execs, update_self]
    · refine ⟨progress, .otherStarted progress _ own, standing.congr ?_ (by rw [cache])⟩
      apply runs_congr _ awaited
      rw [execs, update_of_ne (Ne.symm own)]
  | finished future found running result same _ execs awaited cache =>
    apply standing.recorded (room result rfl) cache
    · intro own
      obtain rfl : future.commandId = commandId := same.symm.trans own
      refine ⟨.inl ⟨future, found, running⟩, ?_⟩
      rintro (⟨other, otherFound, _⟩ | ⟨other, otherFound, otherOwn⟩)
      · rw [execs, update_self] at otherFound
        cases otherFound
      · rw [awaited] at otherFound
        exact uniform.awaited other otherFound otherOwn (uniform.execs future found)
    · intro other
      apply runs_congr _ awaited
      rw [same] at other
      rw [execs, update_of_ne (Ne.symm other)]
  | finishedAwaited envelope found result same _ execs awaited cache =>
    apply standing.recorded (room result rfl) cache
    · intro own
      have own : envelope.commandId = commandId := same.symm.trans own
      refine ⟨.inr ⟨envelope, found, own⟩, ?_⟩
      rintro (⟨future, otherFound, _⟩ | ⟨other, otherFound, _⟩)
      · rw [execs] at otherFound
        exact uniform.awaited envelope found own (uniform.execs future otherFound)
      · cases awaited.symm.trans otherFound
    · intro other
      rw [same] at other
      rw [Runs, Runs, execs, awaited, found]
      simp [other]

end

/-! ## Every run -/

/-- How many results a run recorded. -/
def recordedCount (outcomes : List (ClientOutcome π ν)) : Nat :=
  outcomes.countP fun outcome => match outcome with
    | .recorded _ => true
    | _ => false

/-- The connection is not lost while the handler of the command id runs. -/
def KeepsHandler (commandId : String) (state : ClientState π ν) (action : ClientAction π ν) :
    Prop :=
  action = .drop → ¬Runs commandId state

/-- The cache grows by one with a recorded result, and not otherwise. -/
theorem Moves.length_le (moves : Moves state next action outcome) :
    next.commandCache.rows.length ≤ state.commandCache.rows.length + recordedCount [outcome] := by
  cases moves with
  | finished _ _ _ result _ _ _ _ cache
  | finishedAwaited _ _ result _ _ _ _ cache =>
    rw [cache]
    refine (length_put_le _ result).trans (Nat.add_le_add_right ?_ 1)
    split
    · split
      · exact length_filter_le _ _
      · exact le_rfl
    · exact le_rfl
  | same _ _ cache
  | dropped _ _ cache
  | queued _ _ _ _ _ _ cache
  | answered _ _ _ cache
  | closed _ _ _ _ _ _ cache
  | awaiting _ _ _ _ _ _ _ cache
  | began _ _ _ _ _ _ _ cache => exact cache ▸ Nat.le_add_right _ _

theorem recordedCount_cons (outcome : ClientOutcome π ν) (rest : List (ClientOutcome π ν)) :
    recordedCount (outcome :: rest) = recordedCount [outcome] + recordedCount rest := by
  rw [recordedCount, recordedCount, recordedCount, ← countP_append]
  rfl

/-- The outcomes of a run. -/
def outcomes (workspaceId : String) (state : ClientState π ν) (actions : List (ClientAction π ν)) :
    List (ClientOutcome π ν) :=
  (trace (step workspaceId) state actions).map (·.outcome)

theorem advances_of_run {commandId : String} {isExec : Prop}
    {actions : List (ClientAction π ν)} (uniform : Uniform commandId isExec state)
    (standing : At commandId progress state)
    (brings : ∀ action ∈ actions, Brings commandId isExec action)
    (kept : AllSteps (step workspaceId) (KeepsHandler commandId) state actions)
    (few : state.commandCache.rows.length + recordedCount (outcomes workspaceId state actions) ≤
      commandCacheLimit) :
    Advances commandId progress (outcomes workspaceId state actions) := by
  induction actions generalizing state progress with
  | nil => exact .nil progress
  | cons action rest ih =>
    have moves := moves_of_step workspaceId state action
    change state.commandCache.rows.length + recordedCount ((state.step workspaceId action).1 ::
      outcomes workspaceId (state.step workspaceId action).2 rest) ≤ commandCacheLimit at few
    rw [recordedCount_cons] at few
    have grows := moves.length_le
    have here : Brings commandId isExec action := brings action mem_cons_self
    obtain ⟨_, first, reached⟩ := standing.moves uniform here kept.1 (by
      intro result recorded
      have one : recordedCount [(state.step workspaceId action).1] = 1 := by
        rw [recorded]
        rfl
      omega) moves
    refine .cons first (ih (uniform.moves here moves) reached ?_ kept.2 (by omega))
    exact fun other mem => brings other (mem_cons_of_mem action mem)

end ClientState

open ClientState

/-- In every run over any number of connections in which a command id comes with one way of running:
as long as no connection is lost while its handler runs, and not more results are recorded than the
cache holds, the handler is started at most once, and from its result on every answer for the id is
that result, or a refusal that comes before the results are looked at. -/
theorem command_handler_starts_once (workspaceId commandId : String) (isExec : Prop)
    (actions : List (ClientAction π ν))
    (brings : ∀ action ∈ actions, ClientState.Brings commandId isExec action)
    (kept : AllSteps (step workspaceId) (ClientState.KeepsHandler commandId)
      (.initial : ClientState π ν) actions)
    (few : recordedCount
      (outcomes workspaceId (.initial : ClientState π ν) actions) ≤ commandCacheLimit) :
    (outcomes workspaceId (.initial : ClientState π ν) actions).countP (·.starts commandId) ≤ 1 ∧
    ∀ earlier later result, result.commandId = commandId →
      outcomes workspaceId (.initial : ClientState π ν) actions =
        earlier ++ .recorded result :: later →
      ∀ outcome ∈ later, outcome.commandId? = some commandId →
        outcome = .cached result ∨ ∃ refusal, outcome = .refused refusal := by
  have idle : ClientState.At commandId .idle (.initial : ClientState π ν) := by
    refine ⟨?_, rfl⟩
    rintro (⟨_, found, _⟩ | ⟨_, found, _⟩)
    · cases found
    · cases found
  have empty : (initial : ClientState π ν).commandCache.rows.length = 0 := rfl
  have advances := advances_of_run uniform_initial idle brings kept
    (by rw [empty, Nat.zero_add]; exact few)
  refine ⟨advances.starts_once, ?_⟩
  intro earlier later result own split
  rw [split] at advances
  obtain ⟨_, rest⟩ := advances.drop
  cases rest with
  | cons first after =>
    cases first with
    | recorded => exact after.of_done
    | otherRecorded _ _ other => exact absurd own other

namespace ClientState.Sample

def command (commandId : String) (kind : CommandKind) : CommandEnvelope Unit where
  commandId
  workspaceId := "workspace_1"
  command := ⟨kind, ()⟩

abbrev State := ClientState Unit Unit

abbrev Action := ClientAction Unit Unit

def run (actions : List Action) : List (ClientOutcome Unit Unit) :=
  outcomes "workspace_1" .initial actions

/-- An `Exec` is delivered, and its future is polled. -/
def delivered : List Action :=
  [.connect, .receive (command "cmd_1" .exec) [Capability.machineExec],
    .poll "cmd_1" [Capability.machineExec]]

/-- The result of the `Exec`, and a second delivery. -/
def answeredTwice : List Action :=
  delivered ++ [.finish "cmd_1" (.ok ()) 0, .drop] ++ delivered

/-- The connection is lost while the handler runs, and the Proxy sends the command again. -/
def lostConnection : List Action :=
  delivered ++ [.drop] ++ delivered

variable (count : Nat)

/-- The first commands of a Controller, each answered before the next one comes. -/
def fill : List Action :=
  (List.range count).flatMap fun place =>
    [.receive (command (toString place) .stop) [], .finishAwaited (.ok ()) 0]

theorem nodup_results : (((range count).map fun place =>
      (success (toString place) () : CommandResult Unit)).map commandId).Nodup := by
  rw [map_map]
  exact nodup_range.map fun first second same => Text.toString_injective same

/-- All of them are remembered. -/
def filled : State where
  commandCache := ⟨_, nodup_results count⟩
  connection := some .new

theorem find?_filled : (filled count).commandCache.find? (toString count) = none := by
  rw [find?_eq_none_iff]
  intro result mem same
  obtain ⟨_, placeMem, rfl⟩ := mem_map.mp mem
  rw [Text.toString_injective same] at placeMem
  exact not_mem_range_self placeMem

theorem step_receive_filled :
    ((filled count).step "workspace_1" (.receive (command (toString count) .stop) [])).2 =
      { filled count with
        connection := some
          { Serving.new with awaited := some (command (toString count) .stop) } } := by
  have start : execute "workspace_1" [] (filled count).commandCache
      (command (toString count) .stop) = .start := by
    have absent := find?_filled count
    generalize toString count = commandId at absent ⊢
    simp [execute, command, commandPermitted, AgentCommand.requiredCapability,
      CommandKind.requiredCapability, absent]
  change (receiveAwaited "workspace_1" (filled count) .new _ _).2 = _
  rw [receiveAwaited, start]

theorem record_filled {count : Nat} (room : count < commandCacheLimit) :
    record (filled count).commandCache 0 (.success (toString count) ()) =
      (filled (count + 1)).commandCache := by
  rw [record_of_room (by simpa [filled] using room)]
  apply ext
  rw [rows_put_of_fresh (find?_filled count)]
  change _ = (range (count + 1)).map _
  rw [range_succ, map_append]
  rfl

theorem exec_fill {count : Nat} (room : count ≤ commandCacheLimit) :
    exec (step "workspace_1") (filled 0) (fill count) = filled count := by
  induction count with
  | zero => rfl
  | succ count ih =>
    rw [fill, range_succ, flatMap_append, exec_append]
    change exec _ (exec _ _ (fill count)) _ = _
    rw [ih (Nat.le_of_succ_le room), flatMap_singleton, exec, step_receive_filled]
    change (⟨record (filled count).commandCache 0 (.success (toString count) ()),
      some Serving.new⟩ : State) = _
    rw [record_filled room]
    rfl

/-- Two more commands, the first of which is evicted for the second and comes again. -/
def evicting : List Action :=
  [.receive (command "x" .stop) [], .finishAwaited (.ok ()) 0,
    .receive (command "y" .stop) [], .finishAwaited (.ok ()) 255,
    .receive (command "x" .stop) []]

end ClientState.Sample

open ClientState.Sample

/-- A handler dropped with its connection is started again. In a full cache a result just recorded
is evicted for the next one, and its handler is started again. -/
theorem dropped_and_evicted_start_again : (run lostConnection).countP (·.starts "cmd_1") = 2 ∧
    (outcomes "workspace_1"
      (exec (step "workspace_1") .initial (.connect :: fill commandCacheLimit))
      evicting).countP (·.starts "x") = 2 := by
  refine ⟨by decide +kernel, ?_⟩
  have connected : ((initial : ClientState.Sample.State).step "workspace_1"
      .connect).2 = filled 0 := rfl
  rw [exec, connected, exec_fill le_rfl]
  decide +kernel

/-- A command that was answered comes again over the next connection. -/
theorem answered_command_starts_once : (run answeredTwice).countP (·.starts "cmd_1") ≤ 1 := by
  apply (command_handler_starts_once "workspace_1" "cmd_1" True answeredTwice
    ?_ ?_ (by decide +kernel)).1
  · intro action mem envelope advertised received _
    subst received
    simp [answeredTwice, delivered] at mem
    rw [mem.1]
    exact iff_of_true rfl trivial
  · refine ⟨nofun, nofun, nofun, nofun, ?_, nofun, nofun, nofun, trivial⟩
    rintro _ (⟨_, found, _⟩ | ⟨_, found, _⟩)
    · cases found
    · cases found

end Treer.Controller
