import Treer.PrivateState.Admission

/-!
# The quotas of private state

What is on disk, and what open reservations still allow to be written, stays within the
quotas when no reservation is made while the ledger has lost sight of written bytes: each
directory has at most its counted measurement and what was written under its open
reservations.
-/

namespace Treer.PrivateState

open Foundation Protocol KeyedMap List Shared

/-- The caps are below the number at which sums stop. -/
structure QuotaLimits.Effective (limits : QuotaLimits) : Prop where
  agent : limits.agentBytes < u64Max
  global : limits.globalBytes < u64Max

namespace QuotaLedger

variable (ledger : QuotaLedger)

/-- What the ledger counts of an Agent's directory. -/
def counted (agentId : String) : Nat :=
  counts ledger.limits (ledger.used agentId)

theorem counted_eq (agentId : String) : ledger.counted agentId =
      ((ledger.measured.rows.filter (·.1 == agentId)).map fun entry =>
        counts ledger.limits entry.2).sum := by
  rw [rows_filter_key, counted, used]
  cases ledger.measured.get? agentId with
  | none => simp [counts]
  | some => simp

theorem openBytes_eq (reservations : List Reservation) :
    openBytes reservations = min (reservations.map (·.bytes)).sum u64Max :=
  foldl_saturatingAdd u64Max _ reservations

theorem globalUsed_eq : ledger.globalUsed =
      min (ledger.measured.rows.map fun entry => counts ledger.limits entry.2).sum u64Max :=
  foldl_saturatingAdd u64Max _ ledger.measured.rows

/-- An accepted reservation leaves both quotas intact. -/
theorem fits_of_checkReservation {ledger : QuotaLedger} (effective : ledger.limits.Effective)
    {agentId : String} {bytes freeBytes : Nat}
    (accepted : ledger.checkReservation agentId bytes freeBytes = .ok ()) :
    ledger.counted agentId + ((ledger.openOf agentId).map (·.bytes)).sum + bytes ≤
        ledger.limits.agentBytes ∧
      (ledger.measured.rows.map fun entry => counts ledger.limits entry.2).sum +
        (ledger.reservations.rows.map (·.bytes)).sum + bytes ≤ ledger.limits.globalBytes := by
  have agentCap := effective.agent
  have globalCap := effective.global
  simp only [checkReservation, bind_eq_ok_iff, refuse_eq_ok_iff] at accepted
  obtain ⟨_, _, _, _, _, _, checked⟩ := accepted
  cases known : ledger.used agentId with
  | none =>
    rw [known] at checked
    cases checked
  | some used =>
    simp only [known, bind_eq_ok_iff, refuse_eq_ok_iff, decide_eq_false_iff_not, openBytes_eq,
      globalUsed_eq, satAdd, saturatingAdd] at checked
    have atMost : ledger.counted agentId ≤ used := by
      rw [counted, known]
      exact Nat.min_le_left _ _
    constructor
    · omega
    · omega

end QuotaLedger

namespace Shared

variable {shared next : Shared}

/-- What the holder of a reservation may still write under it. -/
def unwritten (shared : Shared) (reservation : Reservation) : Nat :=
  reservation.bytes - shared.writtenUnder reservation.id

/-- Nobody has written more than was reserved. -/
def Kept (shared : Shared) : Prop :=
  ∀ reservation ∈ shared.ledger.reservations, shared.writtenUnder reservation.id ≤ reservation.bytes

structure WithinQuota (shared : Shared) : Prop where
  global : shared.directories.total +
    (shared.ledger.reservations.rows.map shared.unwritten).sum ≤ shared.ledger.limits.globalBytes
  agent : ∀ agentId, shared.onDisk agentId +
    ((shared.ledger.openOf agentId).map shared.unwritten).sum ≤ shared.ledger.limits.agentBytes

/-- The bytes that were written under open reservations of an Agent. -/
def writtenOpen (shared : Shared) (agentId : String) : Nat :=
  ((shared.ledger.openOf agentId).map fun reservation => shared.writtenUnder reservation.id).sum

/-- The ledger accounts for every byte on disk. -/
def Covered (shared : Shared) : Prop :=
  ∀ entry ∈ shared.directories.rows,
    entry.2 ≤ shared.ledger.counted entry.1 + shared.writtenOpen entry.1
deriving Decidable

theorem sum_written_add_unwritten (kept : shared.Kept) {reservations : List Reservation}
    (inLedger : ∀ reservation ∈ reservations, reservation ∈ shared.ledger.reservations) :
    (reservations.map fun reservation => shared.writtenUnder reservation.id).sum +
      (reservations.map shared.unwritten).sum = (reservations.map (·.bytes)).sum := by
  rw [← sum_map_add]
  congr 1
  refine map_congr_left ?_
  intro reservation mem
  exact Nat.add_sub_cancel' (kept reservation (inLedger reservation mem))

theorem Covered.onDisk_le (covered : shared.Covered) (agentId : String) :
    shared.onDisk agentId ≤ shared.ledger.counted agentId + shared.writtenOpen agentId := by
  rw [onDisk]
  cases found : shared.directories.get? agentId with
  | none => exact Nat.zero_le _
  | some => exact covered _ (get?_eq_some_iff.mp found)

/-- Over all Agents: each measurement and each reservation is counted at most once. -/
theorem Covered.total_le (covered : shared.Covered) : shared.directories.total ≤
      (shared.ledger.measured.rows.map fun entry =>
        QuotaLedger.counts shared.ledger.limits entry.2).sum +
      (shared.ledger.reservations.rows.map fun reservation =>
        shared.writtenUnder reservation.id).sum := by
  have agents := shared.directories.nodup
  calc shared.directories.total
      ≤ (shared.directories.rows.map fun entry =>
          shared.ledger.counted entry.1 + shared.writtenOpen entry.1).sum :=
        sum_le_sum covered
    _ = ((shared.directories.rows.map (·.1)).map shared.ledger.counted).sum +
          ((shared.directories.rows.map (·.1)).map shared.writtenOpen).sum := by
        rw [sum_map_add, map_map, map_map]
        rfl
    _ ≤ _ := by
        refine Nat.add_le_add ?_ (sum_of_keys_le Reservation.agentId _ agents _)
        rw [map_congr_left fun agentId _ => shared.ledger.counted_eq agentId]
        exact sum_of_keys_le Prod.fst _ agents _

/-- The sums that a run of calls keeps. -/
structure Sound (shared : Shared) : Prop where
  effective : shared.ledger.limits.Effective
  kept : shared.Kept
  within : shared.WithinQuota

/-- A call of the ledger that opens no reservation. -/
theorem Sound.of_sublist (sound : shared.Sound)
    (directories : next.directories = shared.directories) (written : next.written = shared.written)
    (limits : next.ledger.limits = shared.ledger.limits)
    (sublist : next.ledger.reservations.rows.Sublist shared.ledger.reservations.rows) :
    next.Sound where
  effective := limits ▸ sound.effective
  kept reservation mem := by
    rw [writtenUnder, written]
    exact sound.kept reservation (sublist.mem mem)
  within := by
    have same : next.unwritten = shared.unwritten := by
      funext reservation
      rw [unwritten, writtenUnder, written]
      rfl
    constructor
    case global =>
      rw [directories, same, limits]
      have fewer := (sublist.map shared.unwritten).sum_le_sum fun _ _ => Nat.zero_le _
      have before := sound.within.global
      omega
    case agent =>
      intro agentId
      rw [onDisk, directories, same, limits]
      have fewer := ((sublist.filter (·.agentId == agentId)).map shared.unwritten).sum_le_sum
        fun _ _ => Nat.zero_le _
      exact le_trans (Nat.add_le_add_left fewer _) (sound.within.agent agentId)

def expire (shared : Shared) (now : Nat) : Shared :=
  { shared with ledger := shared.ledger.expire now }

theorem sound_expire (sound : shared.Sound) (now : Nat) : (shared.expire now).Sound :=
  sound.of_sublist rfl rfl rfl filter_sublist

def withReservation (shared : Shared) (reservation : Reservation) : Shared :=
  { shared with
    ledger := { shared.ledger with reservations := shared.ledger.reservations.put reservation }
    written := shared.written.insert reservation.id 0 }

theorem sum_unwritten_withReservation (shared : Shared) (reservation : Reservation)
    (selected : Reservation → Bool) :
    (((shared.withReservation reservation).ledger.reservations.rows.filter selected).map
        (shared.withReservation reservation).unwritten).sum ≤
      ((shared.ledger.reservations.rows.filter selected).map shared.unwritten).sum +
        if selected reservation then reservation.bytes else 0 := by
  have own : (shared.withReservation reservation).unwritten reservation = reservation.bytes := by
    rw [unwritten, writtenUnder, withReservation, get?_insert, if_pos rfl]
    exact Nat.sub_zero _
  have others : ∀ other ∈ (shared.ledger.reservations.delete (·.id == reservation.id)).rows,
      (shared.withReservation reservation).unwritten other = shared.unwritten other := by
    intro other mem
    have differs := (Table.mem_delete_iff.mp mem).2
    rw [unwritten, writtenUnder, withReservation, get?_insert, if_neg (by simpa using differs)]
    rfl
  have old : (((shared.ledger.reservations.delete (·.id == reservation.id)).rows.filter
      selected).map (shared.withReservation reservation).unwritten).sum ≤
      ((shared.ledger.reservations.rows.filter selected).map shared.unwritten).sum := by
    rw [map_congr_left fun other mem => others other (mem_filter.mp mem).1]
    exact ((filter_sublist.filter selected).map shared.unwritten).sum_le_sum
      fun _ _ => Nat.zero_le _
  change (((((shared.ledger.reservations.delete (·.id == reservation.id)).rows ++
    [reservation]).filter selected).map _)).sum ≤ _
  rw [filter_append, map_append, sum_append]
  refine Nat.add_le_add old ?_
  by_cases chosen : selected reservation <;> simp [chosen, own]

theorem sound_withReservation (sound : shared.Sound) (covered : shared.Covered)
    {reservation : Reservation} {freeBytes : Nat}
    (accepted : shared.ledger.checkReservation reservation.agentId reservation.bytes freeBytes =
      .ok ()) :
    (shared.withReservation reservation).Sound := by
  obtain ⟨_, _⟩ := QuotaLedger.fits_of_checkReservation sound.effective accepted
  have sums := shared.sum_unwritten_withReservation reservation
  constructor
  case effective => exact sound.effective
  case kept =>
    intro other mem
    rw [writtenUnder, withReservation, get?_insert]
    split
    case isTrue => exact Nat.zero_le _
    case isFalse differs =>
      rcases Table.mem_put_iff.mp mem with ⟨old, _⟩ | rfl
      · exact sound.kept other old
      · exact absurd rfl differs
  case within =>
    constructor
    case global =>
      have parts := sum_written_add_unwritten sound.kept fun _ mem => mem
      have total := covered.total_le
      have all := sums fun _ => true
      simp only [filter_true, if_true] at all
      change shared.directories.total + _ ≤ shared.ledger.limits.globalBytes
      omega
    case agent =>
      intro agentId
      have own := sums (·.agentId == agentId)
      have within := sound.within.agent agentId
      change shared.onDisk agentId + _ ≤ shared.ledger.limits.agentBytes
      change (((shared.withReservation reservation).ledger.openOf agentId).map _).sum ≤
        ((shared.ledger.openOf agentId).map shared.unwritten).sum + _ at own
      by_cases same : reservation.agentId = agentId
      · subst same
        have parts := sum_written_add_unwritten sound.kept
          fun _ (mem : _ ∈ shared.ledger.openOf reservation.agentId) => (mem_filter.mp mem).1
        have onDisk := covered.onDisk_le reservation.agentId
        rw [writtenOpen] at onDisk
        rw [if_pos (beq_self_eq_true _)] at own
        omega
      · rw [if_neg (by simpa using same)] at own
        omega

theorem sound_reserve (sound : shared.Sound) {world : World}
    (covered : (shared.expire world.now).Covered) (agentId : String) (bytes freeBytes : Nat) :
    (shared.reserve agentId bytes freeBytes world).2.Sound := by
  have expired := sound_expire sound world.now
  cases checked : (shared.ledger.expire world.now).checkReservation agentId bytes freeBytes with
  | error => simpa only [reserve, QuotaLedger.reserve, checked, expire] using expired
  | ok =>
    let reservation : Reservation :=
      { id := world.newId, agentId, bytes,
        expiresAt := world.now + shared.ledger.limits.reservationTtl }
    have reserved : (shared.reserve agentId bytes freeBytes world).2 =
        (shared.expire world.now).withReservation reservation := by
      simp only [reserve, QuotaLedger.reserve, checked]
      rfl
    rw [reserved]
    exact sound_withReservation expired covered checked

/-! ### Content -/

/-- An accepted write under a reservation. -/
def withContent (shared : Shared) (reservation : Reservation) (bytes : Nat) : Shared :=
  { shared with
    directories := shared.directories.insert reservation.agentId
      (shared.onDisk reservation.agentId + bytes)
    written := shared.written.insert reservation.id (shared.writtenUnder reservation.id + bytes) }

section
variable (shared : Shared) (reservation : Reservation) (bytes : Nat)

theorem writtenUnder_withContent (id : String) :
    (shared.withContent reservation bytes).writtenUnder id =
      if id = reservation.id then shared.writtenUnder reservation.id + bytes
      else shared.writtenUnder id := by
  rw [writtenUnder, withContent, get?_insert]
  split <;> rfl

theorem onDisk_withContent (agentId : String) :
    (shared.withContent reservation bytes).onDisk agentId =
      if agentId = reservation.agentId then shared.onDisk reservation.agentId + bytes
      else shared.onDisk agentId := by
  rw [onDisk, withContent, get?_insert]
  split <;> rfl

theorem total_withContent : (shared.withContent reservation bytes).directories.total =
      shared.directories.total + bytes := by
  have total := shared.directories.total_insert reservation.agentId
    (shared.onDisk reservation.agentId + bytes)
  rw [← onDisk] at total
  change (insert _ _ _).total = _
  omega

theorem unwritten_withContent_of_ne {other : Reservation} (differs : other.id ≠ reservation.id) :
    (shared.withContent reservation bytes).unwritten other = shared.unwritten other := by
  rw [unwritten, writtenUnder_withContent, if_neg differs]
  rfl

end

variable {shared : Shared} {reservation : Reservation} {bytes : Nat}

/-- What goes to the disk is taken from the reservation. -/
theorem sum_unwritten_withContent
    (room : shared.writtenUnder reservation.id + bytes ≤ reservation.bytes)
    {rows : List Reservation} (nodup : (rows.map Reservation.id).Nodup) (mem : reservation ∈ rows) :
    (rows.map (shared.withContent reservation bytes).unwritten).sum + bytes =
      (rows.map shared.unwritten).sum := by
  have sums : (rows.map (shared.withContent reservation bytes).unwritten).sum +
      shared.unwritten reservation = (rows.map shared.unwritten).sum +
        (shared.withContent reservation bytes).unwritten reservation :=
    sum_eq_of_row nodup mem fun other _ differs =>
      shared.unwritten_withContent_of_ne reservation bytes differs
  have own : (shared.withContent reservation bytes).unwritten reservation + bytes =
      shared.unwritten reservation := by
    rw [unwritten, unwritten, writtenUnder_withContent, if_pos rfl]
    omega
  omega

theorem sound_withContent (sound : shared.Sound) (mem : reservation ∈ shared.ledger.reservations)
    (room : shared.writtenUnder reservation.id + bytes ≤ reservation.bytes) :
    (shared.withContent reservation bytes).Sound := by
  constructor
  case effective => exact sound.effective
  case kept =>
    intro other otherMem
    rw [writtenUnder_withContent]
    split
    case isTrue same =>
      cases Table.eq_of_key_eq otherMem mem same
      exact room
    case isFalse => exact sound.kept other otherMem
  case within =>
    constructor
    case global =>
      have before := sound.within.global
      have sums := sum_unwritten_withContent room shared.ledger.reservations.nodup mem
      rw [total_withContent]
      change _ + (shared.ledger.reservations.rows.map _).sum ≤ shared.ledger.limits.globalBytes
      omega
    case agent =>
      intro agentId
      have before := sound.within.agent agentId
      rw [onDisk_withContent]
      change _ + ((shared.ledger.openOf agentId).map _).sum ≤ shared.ledger.limits.agentBytes
      split
      case isTrue same =>
        subst same
        have own : reservation ∈ shared.ledger.openOf reservation.agentId :=
          mem_filter.mpr ⟨mem, beq_self_eq_true _⟩
        have nodup : ((shared.ledger.openOf reservation.agentId).map Reservation.id).Nodup :=
          shared.ledger.reservations.nodup.sublist (filter_sublist.map _)
        have sums := sum_unwritten_withContent room nodup own
        omega
      case isFalse differs =>
        rw [map_congr_left]
        · exact before
        intro other otherMem
        obtain ⟨inLedger, owned⟩ := mem_filter.mp otherMem
        refine shared.unwritten_withContent_of_ne reservation bytes ?_
        intro same
        cases Table.eq_of_key_eq inLedger mem same
        exact differs (beq_iff_eq.mp owned).symm

theorem sound_write (sound : shared.Sound) (agentId id : String)
    (bytes : Nat) : (shared.write agentId id bytes).Sound := by
  unfold write
  split
  case h_1 => exact sound
  case h_2 reservation found =>
    split
    case isTrue fits =>
      obtain ⟨rfl, room⟩ := fits
      obtain ⟨mem, rfl⟩ := Table.find?_eq_some_iff.mp found
      exact sound_withContent sound mem room
    case isFalse => exact sound

theorem sound_remove (sound : shared.Sound) (agentId : String)
    (bytes : Nat) : (shared.remove agentId bytes).Sound := by
  have total := shared.directories.total_insert agentId (shared.onDisk agentId - bytes)
  rw [← onDisk] at total
  constructor
  case effective => exact sound.effective
  case kept => exact sound.kept
  case within =>
    constructor
    case global =>
      have before := sound.within.global
      change (insert _ _ _).total +
        (shared.ledger.reservations.rows.map shared.unwritten).sum ≤
          shared.ledger.limits.globalBytes
      omega
    case agent =>
      intro other
      have before := sound.within.agent other
      change (shared.remove agentId bytes).onDisk other +
        ((shared.ledger.openOf other).map shared.unwritten).sum ≤ shared.ledger.limits.agentBytes
      have less : (shared.remove agentId bytes).onDisk other ≤ shared.onDisk other := by
        rw [onDisk, remove, get?_insert]
        split
        case isTrue same =>
          subst same
          exact Nat.sub_le _ _
        case isFalse => exact le_rfl
      omega

end Shared

theorem QuotaLedger.replaceInventory_limits (ledger : QuotaLedger)
    (measured : List (String × Option Measurement)) :
    (ledger.replaceInventory measured).limits = ledger.limits ∧
      (ledger.replaceInventory measured).reservations = ledger.reservations := by
  have records : ∀ start : QuotaLedger,
      (measured.foldl (fun ledger entry => ledger.record entry.1 entry.2) start).limits =
          start.limits ∧
        (measured.foldl (fun ledger entry => ledger.record entry.1 entry.2) start).reservations =
          start.reservations := by
    induction measured with
    | nil => exact fun _ => ⟨rfl, rfl⟩
    | cons entry rest ih => exact fun start => ih (start.record entry.1 entry.2)
  exact records { ledger with measured := Table.empty }

def Call.reserves {β : Type} : Call β → Bool
  | .reserve _ _ _ => true
  | _ => false

/-- Every call but that of a reservation keeps the sums. -/
theorem sound_machine {β : Type} (instruction : Call β) (world : World) {shared : Shared}
    (sound : shared.Sound)
    (covered : instruction.reserves = true → (shared.expire world.now).Covered) :
    (machine instruction world shared).2.Sound := by
  cases instruction with
  | isPurged | status | inventoryIncomplete | agentIds | measure | freeBytes | usage
  | checkedUsage => exact sound
  | replaceInventory measured =>
    obtain ⟨limits, reservations⟩ := shared.ledger.replaceInventory_limits measured
    refine sound.of_sublist rfl rfl limits ?_
    change (shared.ledger.replaceInventory measured).reservations.rows.Sublist _
    rw [reservations]
  | record => exact sound.of_sublist rfl rfl rfl (Sublist.refl _)
  | reserve agentId bytes freeBytes =>
    exact sound_reserve sound (covered rfl) agentId bytes freeBytes
  | commit =>
    dsimp only [machine, QuotaLedger.commit]
    split
    · exact (sound_expire sound world.now).of_sublist rfl rfl rfl filter_sublist
    · exact sound_expire sound world.now
  | release =>
    dsimp only [machine, QuotaLedger.release]
    split
    · exact (sound_expire sound world.now).of_sublist rfl rfl rfl filter_sublist
    · exact sound_expire sound world.now
  | write agentId id bytes => exact sound_write sound agentId id bytes
  | remove agentId bytes => exact sound_remove sound agentId bytes

/-- The next call of the task is that of a reservation. -/
def reservesNext : Program Call Unit → Bool
  | .call instruction _ => instruction.reserves
  | .done _ => false

namespace Requests

/-- When a reservation is asked for, the ledger accounts for every byte on disk, without the
reservations that have expired. -/
def Accounted (requests : Requests) : Move Request World → Prop
  | .start _ => True
  | .advance place world =>
    (requests.tasks[place]?.any fun task => reservesNext task.rest) = true →
      (requests.shared.expire world.now).Covered

instance (requests : Requests) (move : Move Request World) :
    Decidable (requests.Accounted move) := by
  unfold Accounted
  split <;> infer_instance

theorem sound_step (requests : Requests) (move : Move Request World)
    (sound : requests.shared.Sound) (accounted : requests.Accounted move) :
    (requests.step move).2.shared.Sound := by
  rcases Pool.shared_cases requests move with same | ⟨_, world, _, _, call, _, rfl, task, made⟩
  · exact same ▸ sound
  rw [step, made]
  refine sound_machine call world sound ?_
  intro reserves
  refine accounted ?_
  rw [task]
  exact reserves

/-- In a run in which the ledger accounts for every byte on disk whenever a reservation is asked
for, the bytes on disk and those that open reservations allow stay within the quotas. -/
theorem private_state_stays_within_quota {shared : Shared}
    (effective : shared.ledger.limits.Effective) (kept : shared.Kept)
    (within : shared.WithinQuota) (moves : List (Move Request World))
    (accounted : AllSteps step Accounted (Pool.init shared) moves) :
    ∀ earlier later, moves = earlier ++ later →
      (exec step (Pool.init shared) earlier).shared.WithinQuota := by
  rintro _ _ rfl
  have start : (Pool.init shared : Requests).shared.Sound := ⟨effective, kept, within⟩
  exact (AllSteps.invariant sound_step start accounted).within

end Requests

namespace Sample

/-- Two Agents with empty directories on a small machine. -/
def empty : Shared where
  ledger := QuotaLedger.new
    { agentBytes := 100
      globalBytes := 100
      reservationBytes := 60
      reservationsPerAgent := 3
      reservationTtl := 10
      freeSpaceFloorBytes := 0 }
  directories := insert (insert Table.empty "ag_1" 0) "ag_2" 0
  written := Table.empty

def world (now : Nat) (newId : String) : World where
  now
  newId
  status := .ok .available
  freeBytes := .ok 1000
  lists := true
  reads := true
  entries := 1

/-- A request with all its calls at one time. -/
def whole (place : Nat) (request : Request) (calls now : Nat) (newId : String) :
    List (Move Request World) :=
  .start request :: List.replicate calls (.advance place (world now newId))

/-- The first Agent writes all it has reserved; the second one asks after the time `now`. -/
def writtenThen (now : Nat) : List (Move Request World) :=
  whole 0 (.reserve "ag_1" 60) 7 0 "psr_1" ++ whole 1 (.write "ag_1" "psr_1" 60) 1 1 "" ++
    whole 2 (.reserve "ag_2" 60) 7 now "psr_2"

/-- The first Agent commits before the second one asks for what is left. -/
def committed : List (Move Request World) :=
  whole 0 (.reserve "ag_1" 60) 7 0 "psr_1" ++ whole 1 (.write "ag_1" "psr_1" 60) 1 1 "" ++
    whole 2 (.commit "ag_1" "psr_1") 7 2 "" ++ whole 3 (.reserve "ag_2" 40) 7 20 "psr_2" ++
    whole 4 (.write "ag_2" "psr_2" 30) 1 21 ""

def after (moves : List (Move Request World)) : Shared :=
  (exec Requests.step (Pool.init empty) moves).shared

end Sample

open Sample

/-- The bytes that were written under an expired reservation are in no measurement, so the
second Agent is promised what the first one has used. -/
theorem expiry_forgets_written_bytes : (after (writtenThen 20)).directories.total = 60 ∧
    ((after (writtenThen 20)).ledger.reservations.rows.map
      (after (writtenThen 20)).unwritten).sum = 60 ∧
    ¬ (after (writtenThen 20)).WithinQuota := by
  refine ⟨by decide +kernel, by decide +kernel, ?_⟩
  intro within
  -- The cap is 100 bytes.
  exact absurd within.global (by decide +kernel)

theorem committed_content_stays_within_quota : (after committed).directories.total = 90 ∧
    (after committed).WithinQuota := by
  refine ⟨by decide +kernel, ?_⟩
  have nothingOpen : empty.Kept := fun reservation mem => absurd mem not_mem_nil
  refine Requests.private_state_stays_within_quota ⟨by decide, by decide⟩ nothingOpen
    ⟨by decide, ?_⟩ committed (by decide +kernel) committed []
    (append_nil _).symm
  intro agentId
  have empty : empty.onDisk agentId = 0 := by
    rw [onDisk, empty, get?_insert, get?_insert]
    split_ifs <;> rfl
  rw [empty]
  exact Nat.zero_le 100

end Treer.PrivateState
