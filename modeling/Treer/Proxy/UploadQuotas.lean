import Mathlib.Algebra.Order.Ring.Nat
import Treer.Proxy.UploadLease

/-!
# Quotas of open uploads

`begin` counts the open uploads in a transaction that has the lock of its machine. A step is a
statement of one of any number of such transactions, or the update of a row. What was counted
for a subject or a workspace is old once a begin for another machine has committed.
-/

namespace Treer.Proxy.Quotas

open Foundation List Upload

def uploadsPerUser : Nat := 2

def uploadsPerWorkspace : Nat := 8

def uploadsPerMachine : Nat := 8

def beginsPerMinute : Nat := 10

def machineUploadMaxBytes : Nat := 128 * 1024 * 1024

def declaredBytesPerMachine : Nat := 8 * machineUploadMaxBytes

/-- What a begin asks for. -/
structure BeginParams where
  (uploadId workspaceId serverId directory fileName : String)
  overwrite : Bool
  size : Nat
  (subjectKind subjectId idempotencyKey : String)
  /-- The request was refused otherwise. -/
  fits : size ≤ machineUploadMaxBytes

/-- The row of an upload. -/
structure UploadRow extends BeginParams where
  state : UploadState := .pending
  /-- In microseconds. -/
  createdAt : Int

def UploadRow.isOpen (row : UploadRow) : Bool :=
  [UploadState.pending, .active, .committing].contains row.state

/-- What a begin answers. -/
inductive BeginOutcome where
  | created (row : UploadRow)
  | replayed (row : UploadRow)
  | conflict
  | refused (code : String)

/-- A limit on the open uploads of a scope. -/
structure Quota where
  weight : BeginParams → Nat
  limit : Nat

def Quota.total (quota : Quota) (rows : List UploadRow) : Nat :=
  (rows.map fun row => if row.isOpen then quota.weight row.toBeginParams else 0).sum

def byUser (kind id : String) : Quota :=
  ⟨fun row => if row.subjectKind == kind && row.subjectId == id then 1 else 0, uploadsPerUser⟩

def byWorkspace (workspaceId : String) : Quota :=
  ⟨fun row => if row.workspaceId == workspaceId then 1 else 0, uploadsPerWorkspace⟩

def byMachine (workspaceId serverId : String) : Quota :=
  ⟨fun row => if row.workspaceId == workspaceId && row.serverId == serverId then 1 else 0,
    uploadsPerMachine⟩

def declared (workspaceId serverId : String) : Quota :=
  ⟨fun row => if row.workspaceId == workspaceId && row.serverId == serverId then row.size else 0,
    declaredBytesPerMachine⟩

namespace BeginParams

variable (params : BeginParams) (now : Int) (rows : List UploadRow)

/-- The code if a quota is full. -/
def refused : Option String :=
  let ⟨_, workspace, server, _, _, _, size, kind, id, _, _⟩ := params
  let recent := rows.countP fun row =>
    row.subjectKind == kind && row.subjectId == id && now - 60 * 1000000 < row.createdAt
  if recent ≥ beginsPerMinute then some "machine_upload_rate_limited"
  else if (byUser kind id).total rows ≥ uploadsPerUser ||
      (byWorkspace workspace).total rows ≥ uploadsPerWorkspace ||
      (byMachine workspace server).total rows ≥ uploadsPerMachine ||
      min ((declared workspace server).total rows + size) (2 ^ 63 - 1) >
        declaredBytesPerMachine then some "machine_upload_busy"
  else none

/-- The row under the key of the request. -/
def existing : Option UploadRow :=
  rows.find? fun row => row.subjectKind == params.subjectKind &&
    row.subjectId == params.subjectId && row.workspaceId == params.workspaceId &&
    row.serverId == params.serverId && row.idempotencyKey == params.idempotencyKey

def same (existing : UploadRow) : Bool :=
  existing.directory == params.directory && existing.fileName == params.fileName &&
    existing.overwrite == params.overwrite && existing.size == params.size

end BeginParams

/-- The next statement of a begin. -/
inductive Phase where
  | lock
  | select
  | count
  | insert
  | commit (outcome : BeginOutcome)
  | returned (outcome : Option BeginOutcome)

def Phase.isLock : Phase → Bool
  | .lock => true
  | _ => false

def Phase.holds : Phase → Bool
  | .lock | .returned _ => false
  | _ => true

/-- A begin while it runs. -/
structure Begin where
  params : BeginParams
  now : Int
  phase : Phase := .lock

def Begin.row (begin : Begin) : UploadRow :=
  { begin.params with createdAt := begin.now }

/-- The phase and the rows after the next statement of a begin, which may fail. -/
def Begin.statement (begin : Begin) (rows : List UploadRow) (fails : Bool) :
    Phase × List UploadRow :=
  match begin.phase, fails with
  | .returned outcome, _ => (.returned outcome, rows)
  | _, true => (.returned none, rows)
  | .lock, false => (.select, rows)
  | .select, false => (match begin.params.existing rows with
    | none => .count
    | some row => .commit (if begin.params.same row then .replayed row else .conflict), rows)
  | .count, false => (match begin.params.refused begin.now rows with
    | none => .insert
    | some code => .commit (.refused code), rows)
  | .insert, false => (.commit (.created begin.row), rows)
  -- An inserted row is seen by others after the commit.
  | .commit (.created row), false => (.returned (some (.created row)), rows ++ [begin.row])
  | .commit outcome, false => (.returned (some outcome), rows)

/-- What else is done to a row, where its lease and offset allow it. -/
inductive Update where
  | activate
  | startCommit
  | setCommitted
  | setTerminal (state : UploadState)
  | delete

def Update.apply (row : UploadRow) : Update → Option UploadRow
  | activate => some (if row.state = .pending then { row with state := .active } else row)
  | startCommit => some (if row.state = .active then { row with state := .committing } else row)
  | setCommitted =>
    some (if row.state ∈ [.active, .committing] then { row with state := .committed } else row)
  | setTerminal state => some (if row.isOpen then { row with state } else row)
  | delete => none

inductive Action where
  | begin (params : BeginParams) (now : Int)
  | advance (place : Nat) (fails : Bool)
  | update (uploadId : String) (update : Update)

/-- The rows and the begins. -/
structure State where
  rows : List UploadRow := []
  begins : List Begin := []

variable (hashtext : String → Int)

def BeginParams.key (params : BeginParams) : Int :=
  hashtext ("machine_uploads:" ++ params.workspaceId ++ ":" ++ params.serverId)

/-- One statement of a begin, or a change of a row. -/
def step (state : State) : Action → Unit × State
  | .begin params now => ((), { state with begins := state.begins ++ [{ params, now }] })
  | .advance place fails => ((), match state.begins[place]? with
    | none => state
    | some begin =>
      -- The statement waits for the lock.
      if begin.phase.isLock && !fails && state.begins.any fun other =>
          other.phase.holds && other.params.key hashtext == begin.params.key hashtext then state
      else
        let (phase, rows) := begin.statement state.rows fails
        { rows, begins := state.begins.set place { begin with phase } })
  | .update uploadId update => ((), { state with
      rows := state.rows.filterMap fun row =>
        if row.uploadId == uploadId then update.apply row else some row })

/-- No begin takes its lock while one of its subject or workspace has another. -/
def isSerial (state : State) : Action → Bool
  | .advance place _ => (state.begins[place]?).all fun begin =>
    !begin.phase.isLock || state.begins.all fun other =>
      !other.phase.holds || other.params.key hashtext == begin.params.key hashtext ||
        (other.params.workspaceId != begin.params.workspaceId &&
          (other.params.subjectKind != begin.params.subjectKind ||
            other.params.subjectId != begin.params.subjectId))
  | _ => true

/-! ## One quota -/

/-- The quotas of a subject, a workspace and a machine. -/
def quotas (kind id workspaceId serverId : String) : List Quota :=
  [byUser kind id, byWorkspace workspaceId, byMachine workspaceId serverId,
    declared workspaceId serverId]

variable {kind id workspaceId serverId : String} {quota : Quota}
  (checked : quota ∈ quotas kind id workspaceId serverId) {state : State} {rows : List UploadRow}
include checked in
theorem total_add_le {params : BeginParams} {now : Int}
    (accepted : params.refused now rows = none) (below : quota.total rows ≤ quota.limit) :
    quota.total rows + quota.weight params ≤ quota.limit := by
  simp only [BeginParams.refused] at accepted
  simp [quotas] at checked
  rcases checked with rfl | rfl | rfl | rfl <;>
    simp [byUser, byWorkspace, byMachine, declared, declaredBytesPerMachine,
      machineUploadMaxBytes] at * <;>
    grind

include checked in
/-- A quota counts begins of one workspace or of one subject. -/
theorem common_scope (one other : BeginParams) (counted : quota.weight one ≠ 0)
    (counts : quota.weight other ≠ 0) : other.workspaceId = one.workspaceId ∨
      other.subjectKind = one.subjectKind ∧ other.subjectId = one.subjectId := by
  simp [quotas] at checked
  rcases checked with rfl | rfl | rfl | rfl <;> grind [byUser, byWorkspace, byMachine, declared]

/-- The begin was not refused. -/
def Phase.hasRoom : Phase → Bool
  | .insert | .commit (.created _) => true
  | _ => false

theorem Phase.holds_of_hasRoom {phase : Phase} (hasRoom : phase.hasRoom) : phase.holds := by
  cases phase <;> first | rfl | cases hasRoom

/-- A begin in progress that the quota counts. -/
def Quota.counts (quota : Quota) (begin : Begin) : Bool :=
  begin.phase.holds && quota.weight begin.params != 0

structure Sound (quota : Quota) (state : State) : Prop where
  total : quota.total state.rows ≤ quota.limit
  alone : ∀ {first second : Nat} {one other}, state.begins[first]? = some one →
    state.begins[second]? = some other → quota.counts one → quota.counts other → first = second
  /-- A begin has room for its row, once it has counted. -/
  room : ∀ {place : Nat} {begin}, state.begins[place]? = some begin → begin.phase.hasRoom →
    quota.total state.rows + quota.weight begin.params ≤ quota.limit

theorem total_update_le (rows : List UploadRow) (uploadId : String) (update : Update) :
    quota.total (rows.filterMap fun row =>
      if row.uploadId == uploadId then update.apply row else some row) ≤ quota.total rows := by
  induction rows with
  | nil => exact le_rfl
  | cons row rows ih => cases update <;> grind [Quota.total, Update.apply, UploadRow.isOpen]

variable {hashtext}

/-- The rows stay, or lose what the quota counts. -/
theorem Sound.update (sound : Sound quota state)
    (fewer : quota.total rows ≤ quota.total state.rows) :
    Sound quota { state with rows } where
  total := fewer.trans sound.total
  alone := sound.alone
  room found hasRoom := (Nat.add_le_add_right fewer _).trans (sound.room found hasRoom)

section
variable {place : Nat} {begin : Begin} (sound : Sound quota state)
  (found : state.begins[place]? = some begin)
include sound found

/-- The rows stay while a begin goes on. -/
theorem Sound.phase {phase : Phase}
    (alone : phase.holds → begin.phase.holds ∨ quota.weight begin.params = 0 ∨
      ∀ other ∈ state.begins, quota.counts other = false)
    (room : phase.hasRoom → quota.total state.rows + quota.weight begin.params ≤ quota.limit) :
    Sound quota { state with begins := state.begins.set place { begin with phase } } := by
  have := @sound.alone
  have := @sound.room
  constructor
  · exact sound.total
  · grind [Quota.counts]
  · grind

theorem Sound.commit (hasRoom : begin.phase.hasRoom) {phase : Phase} (ends : phase.holds = false) :
    Sound quota ⟨state.rows ++ [begin.row], state.begins.set place { begin with phase }⟩ := by
  have more : quota.total (state.rows ++ [begin.row]) =
      quota.total state.rows + quota.weight begin.params := by
    simp [Quota.total, Begin.row, UploadRow.isOpen]
  have := @sound.alone
  have := @sound.room
  constructor
  · exact more.trans_le (sound.room found hasRoom)
  · grind [Quota.counts]
  · simp only [more]
    grind [Quota.counts, Phase.holds_of_hasRoom]

end

/-- What the next statement of a begin does. -/
theorem statement_cases (begin : Begin) (rows : List UploadRow) (fails : Bool) :
    let next := begin.statement rows fails
    (next.1.holds → begin.phase.holds ∨ begin.phase.isLock ∧ fails = false) ∧
      (next.1.hasRoom → begin.phase.hasRoom ∨ begin.params.refused begin.now rows = none) ∧
      (next.2 = rows ∨
        next.2 = rows ++ [begin.row] ∧ begin.phase.hasRoom ∧ next.1.holds = false) := by
  unfold Begin.statement
  split <;> simp_all [Phase.holds, Phase.isLock, Phase.hasRoom] <;> grind

/-- The begins that a quota counts have one lock, or the step keeps them apart. -/
theorem sound_step_of (checked : quota ∈ quotas kind id workspaceId serverId) (state : State)
    (action : Action) (sound : Sound quota state)
    (apart : isSerial hashtext state action ∨ ∀ one other : BeginParams, quota.weight one ≠ 0 →
      quota.weight other ≠ 0 → other.key hashtext = one.key hashtext) :
    Sound quota (step hashtext state action).2 := by
  cases action with
  | update uploadId update => exact sound.update (total_update_le ..)
  | begin params now =>
    have := @sound.alone
    have := @sound.room
    constructor
    · exact sound.total
    · grind [step, Quota.counts, Phase.holds]
    · grind [step, Phase.hasRoom]
  | advance place fails =>
    simp only [step]
    split
    · exact sound
    rename_i begin found
    split
    · exact sound
    rename_i free
    obtain ⟨holds, hasRoom, same | ⟨more, room, ends⟩⟩ := statement_cases begin state.rows fails
    · rw [same]
      refine sound.phase found (fun held => (holds held).imp_right ?_) fun room => ?_
      · rintro ⟨waits, rfl⟩
        by_contra! counted
        obtain ⟨counted, other, mem, counts⟩ := counted
        rcases apart with serial | same
        · have common := common_scope checked _ other.params counted
          grind [isSerial, Quota.counts]
        · have := same _ other.params counted
          grind [Quota.counts]
      · exact (hasRoom room).elim (sound.room found) (total_add_le checked · sound.total)
    · rw [more]
      exact sound.commit found room ends

theorem sound_step (checked : quota ∈ quotas kind id workspaceId serverId) (state : State)
    (action : Action) (sound : Sound quota state) (serial : isSerial hashtext state action) :
    Sound quota (step hashtext state action).2 :=
  sound_step_of checked state action sound (.inl serial)

/-- In every run in which no begin takes its lock while one of its subject or workspace has
another, the open uploads are within every quota. -/
theorem open_uploads_are_within_quotas (kind id workspaceId serverId : String)
    (earlier later : List Action)
    (serial : AllSteps (step hashtext) (isSerial hashtext · ·) {} (earlier ++ later)) :
    ∀ quota ∈ quotas kind id workspaceId serverId,
      quota.total (exec (step hashtext) {} earlier).rows ≤ quota.limit := by
  intro quota checked
  have start : Sound quota {} := ⟨Nat.zero_le _, by simp, by simp⟩
  exact (AllSteps.invariant (sound_step checked) start serial).total

/-- One user asks for an upload to a machine. -/
def request (serverId : String) : BeginParams :=
  ⟨serverId, "w", serverId, "", "f", false, 1, "user", "u", "k", by decide⟩

/-- Each of three begins counts before another one commits. -/
theorem begins_of_machines_exceed_quota :
    uploadsPerUser < (byUser "user" "u").total (exec (step fun text => text.length) {}
      (["m", "mm", "mmm"].map (fun server => .begin (request server) 0) ++
        (replicate 5 [0, 1, 2]).flatten.map (.advance · false))).rows := by
  decide

/-- Begins of two users in two workspaces overlap, and one more of the first follows. -/
def overlapping : List Action :=
  .begin (request "m") 0 ::
    .begin { request "mm" with workspaceId := "v", subjectId := "o" } 0 ::
      (replicate 5 [0, 1]).flatten.map (.advance · false) ++
        .begin (request "mmm") 0 :: replicate 5 (.advance 2 false)

theorem begins_apart_are_within_quota :
    let rows := (exec (step fun text => text.length) {} overlapping).rows
    rows.length = 3 ∧ (byUser "user" "u").total rows ≤ uploadsPerUser :=
  ⟨by decide, open_uploads_are_within_quotas "user" "u" "w" "m" overlapping [] (by decide) _
    mem_cons_self⟩

/-- In every run the open uploads of a machine are within its quotas. -/
theorem machine_is_within_quotas (workspaceId serverId : String) (actions : List Action) :
    let rows := (exec (step hashtext) {} actions).rows
    (byMachine workspaceId serverId).total rows ≤ uploadsPerMachine ∧
      (declared workspaceId serverId).total rows ≤ declaredBytesPerMachine := by
  have sound : ∀ quota ∈ [byMachine workspaceId serverId, declared workspaceId serverId],
      Sound quota (exec (step hashtext) {} actions) := by
    intro quota ofMachine
    refine exec_invariant (fun state action sound => ?_) ⟨Nat.zero_le _, by simp, by simp⟩ actions
    have checked : quota ∈ quotas "" "" workspaceId serverId :=
      mem_cons_of_mem _ (mem_cons_of_mem _ ofMachine)
    refine sound_step_of checked state action sound (.inr ?_)
    -- The machine has one lock.
    grind [byMachine, declared, BeginParams.key]
  exact ⟨(sound _ (by simp)).total, (sound _ (by simp)).total⟩

/-- What a row is found by. -/
def BeginParams.slot (params : BeginParams) : List String :=
  [params.subjectKind, params.subjectId, params.workspaceId, params.serverId, params.idempotencyKey]

/-- The begin has found no row. -/
def Phase.isNew : Phase → Bool
  | .count => true
  | phase => phase.hasRoom

theorem Phase.holds_of_isNew {phase : Phase} (isNew : phase.isNew) : phase.holds := by
  cases phase <;> first | rfl | cases isNew

structure Unique (state : State) : Prop where
  rows : state.rows.Pairwise (·.slot ≠ ·.slot)
  alone : ∀ {first second : Nat} {one other}, state.begins[first]? = some one →
    state.begins[second]? = some other → one.phase.holds → other.phase.holds →
      one.params.slot = other.params.slot → first = second
  new : ∀ {place : Nat} {begin}, state.begins[place]? = some begin → begin.phase.isNew →
    ∀ row ∈ state.rows, row.slot ≠ begin.params.slot

theorem isNew_statement (begin : Begin) (rows : List UploadRow) (fails : Bool) :
    (begin.statement rows fails).1.isNew →
      begin.phase.isNew ∨ ∀ row ∈ rows, row.slot ≠ begin.params.slot := by
  unfold Begin.statement
  split <;> simp_all [Phase.isNew, Phase.hasRoom]
  grind [BeginParams.existing, BeginParams.slot]

theorem unique_step (state : State) (action : Action) (unique : Unique state) :
    Unique (step hashtext state action).2 := by
  have := @unique.alone
  have := @unique.new
  cases action with
  | update uploadId update =>
    have slot_eq : ∀ row changed : UploadRow, (if row.uploadId == uploadId then update.apply row
        else some row) = some changed → changed.slot = row.slot := by
      cases update <;> grind [Update.apply, BeginParams.slot]
    refine ⟨unique.rows.filterMap _ ?_, unique.alone, ?_⟩
    · grind
    · grind [step]
  | begin params now =>
    constructor
    · exact unique.rows
    · grind [step, Phase.holds]
    · grind [step, Phase.isNew, Phase.hasRoom]
  | advance place fails =>
    simp only [step]
    split
    · exact unique
    rename_i begin found
    split
    · exact unique
    have new := isNew_statement begin state.rows fails
    obtain ⟨holds, -, same | ⟨more, room, ends⟩⟩ := statement_cases begin state.rows fails
    · rw [same]
      constructor
      · exact unique.rows
      · grind [BeginParams.slot, BeginParams.key]
      · grind
    · rw [more]
      have := unique.rows
      constructor
      · grind [Begin.row, Phase.isNew]
      · grind
      · grind [Begin.row, Phase.holds_of_isNew, Phase.holds_of_hasRoom]

/-- In every run a request has one row at most. -/
theorem request_has_one_row (actions : List Action) :
    (exec (step hashtext) {} actions).rows.Pairwise (·.slot ≠ ·.slot) :=
  (exec_invariant unique_step ⟨.nil, by simp, by simp⟩ actions).rows

end Treer.Proxy.Quotas
