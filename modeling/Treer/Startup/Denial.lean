import Treer.Foundation.Run
import Treer.Startup.Store

/-!
# Denials are permanent

The denied ids of the memory are always denied in the file too. A write that fails
after the file was replaced leaves a file with more denials than the memory, never
one with fewer; so the next load has every denial that was acknowledged.
-/

namespace Treer.Startup

open Foundation Table Finset
variable {β : Type} {codec : Codec β}
  {state : StoreState} {disk : Option β} {answer : Except Fault Unit}

/-- No denied agent has an entry. -/
def StoreState.Fenced (state : StoreState) : Prop :=
  ∀ entry ∈ state.entries, entry.spec.agentId ∉ state.deniedAgentIds

def StoreFile.Fenced (file : StoreFile) : Prop :=
  ∀ entry ∈ file.entries, entry.spec.agentId ∉ file.deniedAgentIds

/-- The file is that of the state. -/
def Holds (codec : Codec β) (disk : Option β) (state : StoreState) : Prop :=
  (disk = none ∧ state.deniedAgentIds = ∅) ∨
    ∃ bytes, disk = some bytes ∧ codec.fromSlice bytes = .ok (storeFile state)

/-- The file fences at least the given ids. -/
def Covers (codec : Codec β) (disk : Option β) (denied : Finset String) : Prop :=
  (disk = none ∧ denied = ∅) ∨
    ∃ bytes file, disk = some bytes ∧ codec.fromSlice bytes = .ok file ∧ file.Fenced ∧
      denied ⊆ file.deniedAgentIds

theorem fenced_storeFile (fenced : state.Fenced) : (storeFile state).Fenced := by
  intro entry mem
  exact fenced entry ((List.mem_insertionSort _).mp mem)

variable {denied : Finset String}

theorem Holds.covers (held : Holds codec disk state) (fenced : state.Fenced)
    (fewer : denied ⊆ state.deniedAgentIds) :
    Covers codec disk denied := by
  rcases held with ⟨none, empty⟩ | ⟨bytes, written, reads⟩
  · exact .inl ⟨none, subset_empty.mp (empty ▸ fewer)⟩
  · exact .inr ⟨bytes, storeFile state, written, reads, fenced_storeFile fenced, fewer⟩

/-! ## Reading and writing the file -/

theorem validate_eq_ok {file : StoreFile} (valid : validate file = .ok state) :
    file.Fenced ∧ state.deniedAgentIds = file.deniedAgentIds ∧
      ∀ entry ∈ state.entries, entry ∈ file.entries := by
  simp only [validate, bind_eq_ok_iff, refuse_eq_ok_iff] at valid
  obtain ⟨_, _, _, checked, made⟩ := valid
  cases made
  simp only [Bool.or_eq_false_iff, List.any_eq_false, decide_eq_true_eq] at checked
  refine ⟨checked.2, rfl, ?_⟩
  intro entry mem
  rcases mem_of_mem_foldl_put mem with none | listed
  · exact absurd none (not_mem_empty entry)
  · exact listed

theorem persist_cases (codec : Codec β) (disk : Option β) (answers : DiskAnswers)
    (state : StoreState) :
    (∃ error, (persist codec disk answers state).1 = .error error ∧
      ((persist codec disk answers state).2 = disk ∨
        Holds codec (persist codec disk answers state).2 state)) ∨
    ((persist codec disk answers state).1 = .ok () ∧
      Holds codec (persist codec disk answers state).2 state) := by
  unfold persist
  split
  · rename_i empty
    cases disk with
    | none => exact .inr ⟨rfl, .inl ⟨rfl, empty.2⟩⟩
    | some =>
      cases answers.removeFile with
      | ok => exact .inr ⟨rfl, .inl ⟨rfl, empty.2⟩⟩
      | error fault =>
        left
        simp [removeFile, fault.present]
  · cases written : writeTemporary codec answers (storeFile state) with
    | error error => exact .inl ⟨error, rfl, .inl rfl⟩
    | ok bytes =>
      have held : Holds codec (some bytes) state := by
        simp only [writeTemporary, bind_eq_ok_iff, mapError_eq_ok_iff] at written
        obtain ⟨_, _, _, toVec, _, _, _, _, _, _, same⟩ := written
        cases same
        exact .inr ⟨bytes, rfl, codec.reads _ _ toVec⟩
      cases answers.replaceFile with
      | error error => exact .inl ⟨error, rfl, .inl rfl⟩
      | ok =>
        cases answers.syncParent with
        | error error => exact .inl ⟨error, rfl, .inr held⟩
        | ok => exact .inr ⟨rfl, held⟩

theorem readStore_eq_ok (read : readStore codec disk answer = .ok state) :
    (disk = none ∧ state = .default) ∨
      ∃ bytes file, disk = some bytes ∧ codec.fromSlice bytes = .ok file ∧
        validate file = .ok state := by
  cases disk with
  | none =>
    cases read
    exact .inl ⟨rfl, rfl⟩
  | some bytes =>
    cases answer with
    | error fault => simp [readStore, readFile, Except.mapError, Except.map, fault.present] at read
    | ok =>
      change ((codec.fromSlice bytes).mapError _ >>= validate) = .ok state at read
      rw [bind_eq_ok_iff] at read
      obtain ⟨file, decoded, valid⟩ := read
      exact .inr ⟨bytes, file, rfl, mapError_eq_ok_iff.mp decoded, valid⟩

theorem fenced_of_read (read : readStore codec disk answer = .ok state) :
    state.Fenced ∧ Covers codec disk state.deniedAgentIds := by
  rcases readStore_eq_ok read with ⟨rfl, rfl⟩ | ⟨bytes, file, rfl, decoded, valid⟩
  · exact ⟨nofun, .inl ⟨rfl, rfl⟩⟩
  obtain ⟨fenced, denied, listed⟩ := validate_eq_ok valid
  constructor
  · intro entry mem
    rw [denied]
    exact fenced entry (listed entry mem)
  · exact .inr ⟨bytes, file, rfl, decoded, fenced, denied.subset⟩

/-- A load has the denials that the file covers. -/
theorem Covers.subset_of_read (covers : Covers codec disk denied)
    (read : readStore codec disk answer = .ok state) : denied ⊆ state.deniedAgentIds := by
  rcases covers with ⟨_, rfl⟩ | ⟨_, _, rfl, decoded, _, fewer⟩
  · exact empty_subset _
  rcases readStore_eq_ok read with ⟨none, _⟩ | ⟨_, _, same, otherDecoded, valid⟩
  · cases none
  cases same
  cases decoded.symm.trans otherDecoded
  rw [(validate_eq_ok valid).2.1]
  exact fewer

namespace StartupStore

/-- The memory is fenced, and so is the file. -/
structure Sound (codec : Codec β) (store : StartupStore β) : Prop where
  fenced : store.state.Fenced
  covers : Covers codec store.disk store.state.deniedAgentIds

/-- What a write of a state keeps. -/
structure Keeps (store : StartupStore β) (updated : StoreState) : Prop where
  fenced : updated.Fenced
  denied : store.state.deniedAgentIds ⊆ updated.deniedAgentIds

/-- The ways an operation ends. -/
inductive Moves (codec : Codec β) (store : StartupStore β) :
    Except IoError Reply → StartupStore β → Prop where
  | kept (outcome : Except IoError Reply) : Moves codec store outcome store
  /-- The write failed after the file was replaced. -/
  | replaced (error : IoError) (disk : Option β) (updated : StoreState)
      (keeps : Keeps store updated) (held : Holds codec disk updated) :
      Moves codec store (.error error) { store with disk }
  | written (reply : Reply) (disk : Option β) (updated : StoreState)
      (keeps : Keeps store updated) (held : Holds codec disk updated) :
      Moves codec store (.ok reply) { state := updated, disk }
  | loaded (state : StoreState) (fenced : state.Fenced)
      (covers : Covers codec store.disk state.deniedAgentIds)
      (all : store.state.deniedAgentIds ⊆ state.deniedAgentIds) :
      Moves codec store (.ok .done) { store with state }

/-- A commit changes nothing, replaces the file only, or succeeds. -/
theorem commit_cases (codec : Codec β) (store : StartupStore β) (answers : DiskAnswers)
    (updated : StoreState) : (∃ error, store.commit codec answers updated = (.error error, store)) ∨
    (∃ error disk, store.commit codec answers updated = (.error error, { store with disk }) ∧
      Holds codec disk updated) ∨
    ∃ revision disk, store.commit codec answers updated =
        (.ok (), { state := { updated with revision }, disk }) ∧
      Holds codec disk updated := by
  by_cases room : store.state.revision + 1 < revisionLimit
  · rw [commit, if_pos room]
    have written := persist_cases codec store.disk answers
      { updated with revision := store.state.revision + 1 }
    rcases result : persist codec store.disk answers _ with ⟨_, disk⟩
    rw [result] at written
    simp only [result]
    rcases written with ⟨error, rfl, same | held⟩ | ⟨rfl, held⟩
    · cases same
      exact .inl ⟨error, rfl⟩
    · exact .inr (.inl ⟨error, disk, rfl, held⟩)
    · exact .inr (.inr ⟨_, disk, rfl, held⟩)
  · rw [commit, if_neg room]
    exact .inl ⟨_, rfl⟩

variable {store : StartupStore β} {updated : StoreState}

theorem moves_commit (codec : Codec β)
    (keeps : Keeps store updated) (answers : DiskAnswers) (reply : Unit → Reply) :
    Moves codec store ((store.commit codec answers updated).1.map reply)
      (store.commit codec answers updated).2 := by
  rcases commit_cases codec store answers updated with
    ⟨error, same⟩ | ⟨error, disk, failed, held⟩ | ⟨revision, disk, done, held⟩
  · rw [same]
    exact .kept _
  · rw [failed]
    exact Moves.replaced error disk updated keeps held
  · rw [done]
    exact Moves.written _ disk _ ⟨keeps.fenced, keeps.denied⟩ held

section
variable (fenced : store.state.Fenced)
include fenced

theorem keeps_put {entry : StoredAgentStartup}
    (allowed : entry.spec.agentId ∉ store.state.deniedAgentIds) :
    Keeps store { store.state with entries := store.state.entries.put entry } where
  fenced := by
    intro other mem
    rcases mem_put_iff.mp mem with ⟨old, _⟩ | rfl
    · exact fenced other old
    · exact allowed
  denied := Subset.refl _

theorem keeps_without (agentId : String) :
    Keeps store { store.state with entries := without store.state.entries agentId } where
  fenced := by
    intro other mem
    exact fenced other (mem_delete_iff.mp mem).1
  denied := Subset.refl _

theorem keeps_deny {agentId : String} {entries : Entries}
    (fewer : ∀ entry ∈ entries, entry ∈ store.state.entries ∧ entry.spec.agentId ≠ agentId) :
    Keeps store
      { store.state with
        entries
        deniedAgentIds := insert agentId store.state.deniedAgentIds } where
  fenced := by
    intro other mem
    obtain ⟨old, different⟩ := fewer other mem
    rw [mem_insert]
    rintro (same | denied)
    · exact different same
    · exact fenced other old denied
  denied := subset_insert _ _

end

theorem moves_of_step (sound : Sound codec store) (action : Action) :
    Moves codec store (store.step codec action).1 (store.step codec action).2 := by
  cases action with
  | upsert entry answers =>
    dsimp only [step, upsert]
    split
    · exact .kept _
    · rename_i allowed
      exact moves_commit codec (keeps_put sound.fenced allowed) answers _
  | remove agentId answers =>
    dsimp only [step, remove]
    split
    · exact .kept _
    have moves := moves_commit codec (keeps_without sound.fenced agentId) answers fun _ =>
      .removed true
    generalize store.commit codec answers _ = result at moves ⊢
    obtain ⟨outcome, _⟩ := result
    cases outcome <;> exact moves
  | removeDeleted =>
    dsimp only [step, removeDeleted]
    split
    · exact .kept _
    split
    · exact .kept _
    apply moves_commit
    apply keeps_deny sound.fenced
    intro entry mem
    obtain ⟨old, different⟩ := mem_delete_iff.mp mem
    exact ⟨old, by simpa using different⟩
  | update agentId mutate answers =>
    dsimp only [step, update]
    split
    · exact .kept _
    rename_i entry found
    split
    · exact .kept _
    rename_i same
    obtain ⟨mem, named⟩ := find?_eq_some_iff.mp found
    have allowed : (mutate entry).spec.agentId ∉ store.state.deniedAgentIds := by
      rw [not_not.mp same, ← named]
      exact sound.fenced entry mem
    exact moves_commit codec (keeps_put sound.fenced allowed) answers _
  | denyAbsent =>
    dsimp only [step, denyAbsent]
    split
    · exact .kept _
    rename_i absent
    split
    · exact .kept _
    split
    · exact .kept _
    apply moves_commit
    apply keeps_deny sound.fenced
    intro entry mem
    exact ⟨mem, find?_eq_none_iff.mp (not_not.mp absent) entry mem⟩
  | isDenied => exact .kept _
  | load answer =>
    change Moves codec store ((store.load codec answer).1.map fun _ => .done)
      (store.load codec answer).2
    unfold load
    split
    · rename_i state read
      obtain ⟨fenced, covers⟩ := fenced_of_read read
      exact Moves.loaded state fenced covers (sound.covers.subset_of_read read)
    · exact .kept _

/-! ## Every run -/

section
variable {next : StartupStore β} {outcome : Except IoError Reply}
  (moves : Moves codec store outcome next)
include moves

theorem Moves.sound (sound : Sound codec store) : Sound codec next := by
  cases moves with
  | kept => exact sound
  | replaced error disk updated keeps held =>
    exact ⟨sound.fenced, held.covers keeps.fenced keeps.denied⟩
  | written reply disk updated keeps held =>
    exact ⟨keeps.fenced, held.covers keeps.fenced (Subset.refl _)⟩
  | loaded state fenced covers => exact ⟨fenced, covers⟩

theorem Moves.denied_subset : store.state.deniedAgentIds ⊆ next.state.deniedAgentIds := by
  cases moves with
  | kept | replaced => exact subset_rfl
  | written reply disk updated keeps => exact keeps.denied
  | loaded state _ _ all => exact all

/-- An error leaves the memory as it is. -/
theorem Moves.state_eq {error : IoError} (failed : outcome = .error error) :
    next.state = store.state := by
  cases moves with
  | kept | replaced => rfl
  | written | loaded => cases failed

end

variable {answers : DiskAnswers} {agentId : String}

theorem sound_exec (sound : Sound codec store) (actions : List Action) :
    Sound codec (exec (step codec) store actions) :=
  @exec_invariant _ _ _ (step codec) store (Sound codec)
    (fun _ action sound => (moves_of_step sound action).sound sound) sound actions

theorem denied_exec (sound : Sound codec store) (actions : List Action) :
    store.state.deniedAgentIds ⊆ (exec (step codec) store actions).state.deniedAgentIds := by
  induction actions generalizing store with
  | nil => exact subset_rfl
  | cons action rest ih =>
    have moves := moves_of_step sound action
    exact moves.denied_subset.trans (ih (moves.sound sound))

/-- The operation denies the agent when it succeeds. -/
def Action.denies (agentId : String) : Action → Prop
  | .removeDeleted denied _ => denied = agentId
  | .denyAbsent denied _ => denied = agentId
  | _ => False

theorem mem_denied_of_commit (denied : agentId ∈ updated.deniedAgentIds)
    (succeeded : (store.commit codec answers updated).1 = .ok ()) :
    agentId ∈ (store.commit codec answers updated).2.state.deniedAgentIds := by
  rcases commit_cases codec store answers updated with
    ⟨error, same⟩ | ⟨error, disk, failed, held⟩ | ⟨revision, disk, done, held⟩
  · rw [same] at succeeded
    cases succeeded
  · rw [failed] at succeeded
    cases succeeded
  · rw [done]
    exact denied

theorem mem_denied_of_removeDeleted
    (succeeded : (store.removeDeleted codec agentId answers).1 = .ok ()) :
    agentId ∈ (store.removeDeleted codec agentId answers).2.state.deniedAgentIds := by
  unfold removeDeleted at succeeded ⊢
  split_ifs at succeeded ⊢ with denied
  · exact denied.1
  · exact mem_denied_of_commit (mem_insert_self _ _) succeeded

theorem mem_denied_of_denyAbsent (succeeded : (store.denyAbsent codec agentId answers).1 = .ok ()) :
    agentId ∈ (store.denyAbsent codec agentId answers).2.state.deniedAgentIds := by
  unfold denyAbsent at succeeded ⊢
  split_ifs at succeeded ⊢ with _ denied
  · exact denied
  · exact mem_denied_of_commit (mem_insert_self _ _) succeeded

theorem mem_denied_of_step {action : Action} (denies : action.denies agentId) {reply : Reply}
    (succeeded : (store.step codec action).1 = .ok reply) :
    agentId ∈ (store.step codec action).2.state.deniedAgentIds := by
  cases action with
  | removeDeleted =>
    cases denies
    obtain ⟨_, done, _⟩ := map_eq_ok_iff.mp succeeded
    exact mem_denied_of_removeDeleted done
  | denyAbsent =>
    cases denies
    obtain ⟨_, done, _⟩ := map_eq_ok_iff.mp succeeded
    exact mem_denied_of_denyAbsent done
  | _ => cases denies

/-- The agent has no entry, in the memory or in the file. -/
def Forgets (codec : Codec β) (store : StartupStore β) (agentId : String) : Prop :=
  store.get agentId = none ∧
    ∀ bytes file, store.disk = some bytes → codec.fromSlice bytes = .ok file →
      ∀ entry ∈ file.entries, entry.spec.agentId ≠ agentId

theorem Sound.forgets (sound : Sound codec store)
    (denied : agentId ∈ store.state.deniedAgentIds) : Forgets codec store agentId := by
  constructor
  · apply find?_eq_none_iff.mpr
    rintro entry mem rfl
    exact sound.fenced entry mem denied
  · intro bytes file written decoded entry mem same
    rcases sound.covers with ⟨none, _⟩ | ⟨_, _, found, otherDecoded, fenced, fewer⟩
    · cases none.symm.trans written
    cases found.symm.trans written
    cases otherDecoded.symm.trans decoded
    exact fenced entry mem (same ▸ fewer denied)

/-- The file, if there is one, has no entry of an agent that it denies. -/
def FileFenced (codec : Codec β) (store : StartupStore β) : Prop :=
  ∀ bytes, store.disk = some bytes → ∃ file, codec.fromSlice bytes = .ok file ∧ file.Fenced

theorem Sound.fileFenced (sound : Sound codec store) : FileFenced codec store := by
  intro bytes written
  rcases sound.covers with ⟨none, _⟩ | ⟨_, file, found, decoded, fenced, _⟩
  · cases none.symm.trans written
  · cases found.symm.trans written
    exact ⟨file, decoded, fenced⟩

/-- Once an agent was denied it stays denied, without an entry, whatever operations follow, wherever
their writes fail and however often the store is loaded. -/
theorem denials_are_permanent {disk : Option β} {answer : Except Fault Unit} {state : StoreState}
    (loaded : readStore codec disk answer = .ok state) :
    (∀ actions, (exec (step codec) ⟨state, disk⟩ actions).state.Fenced ∧
      FileFenced codec (exec (step codec) ⟨state, disk⟩ actions)) ∧
    (∀ actions action error,
      ((exec (step codec) ⟨state, disk⟩ actions).step codec action).1 = .error error →
      ((exec (step codec) ⟨state, disk⟩ actions).step codec action).2.state =
        (exec (step codec) ⟨state, disk⟩ actions).state) ∧
    ∀ earlier action later agentId, Action.denies agentId action →
      ((exec (step codec) ⟨state, disk⟩ earlier).step codec action).1 = .ok .done →
      (exec (step codec) ⟨state, disk⟩ (earlier ++ action :: later)).isDenied agentId = true ∧
        Forgets codec (exec (step codec) ⟨state, disk⟩ (earlier ++ action :: later)) agentId := by
  obtain ⟨fenced, covers⟩ := fenced_of_read loaded
  have start : Sound codec ⟨state, disk⟩ := ⟨fenced, covers⟩
  refine ⟨?_, ?_, ?_⟩
  · intro actions
    have sound := sound_exec start actions
    exact ⟨sound.fenced, sound.fileFenced⟩
  · intro actions action error failed
    exact (moves_of_step (sound_exec start actions) action).state_eq failed
  · intro earlier action later agentId denies succeeded
    have before := sound_exec start earlier
    have sound := (moves_of_step before action).sound before
    have denied := denied_exec sound later (mem_denied_of_step denies succeeded)
    rw [exec_append, exec]
    exact ⟨decide_eq_true denied, (sound_exec sound later).forgets denied⟩

namespace Sample

/-- A file that is read as it was written. -/
def plain : Codec StoreFile where
  toVec := .ok
  fromSlice := .ok
  reads := by
    rintro file bytes ⟨⟩
    rfl

/-- Everything is written. -/
def willing : DiskAnswers where
  removeFile := .ok ()
  createDirAll := .ok ()
  openTemporary := .ok ()
  writeAll := .ok ()
  syncTemporary := .ok ()
  replaceFile := .ok ()
  syncParent := .ok ()

/-- The directory cannot be synced. -/
def unsynced : DiskAnswers :=
  { willing with syncParent := .error ⟨.other, "sync failed"⟩ }

def worker (agentId : String) : StoredAgentStartup where
  appRevision := 0
  spec :=
    { agentId
      serverId := "server_1"
      kind := "command"
      name := "worker"
      cwd := "."
      command := "sh"
      args := []
      publishPorts := []
      enabled := true
      generation := 1 }
  workspaceId := "workspace_1"
  workloadCredential := "credential"
  lastHostEpoch := "host_1"
  initialWrites := []
  cols := 120
  rows := 36

/-- An agent is declared, and the removal of the declaration is not acknowledged. -/
def earlier : List Action :=
  [.upsert (worker "ag_1") willing, .removeDeleted "ag_1" unsynced]

/-- A late declaration, and a new Controller. -/
def later : List Action :=
  [.upsert (worker "ag_1") willing, .load (.ok ()), .remove "ag_1" willing]

end Sample

open Sample

/-- A removal that failed after the file was replaced is repeated. -/
theorem denials_are_permanent_repeated :
    ((exec (step plain) ⟨.default, none⟩ earlier).step plain
      (.removeDeleted "ag_1" willing)).1 = .ok .done ∧
    (exec (step plain) ⟨.default, none⟩
      (earlier ++ .removeDeleted "ag_1" willing :: later)).isDenied "ag_1" = true := by
  have loaded : readStore plain none (.ok ()) = .ok .default := rfl
  obtain ⟨_, _, permanent⟩ := denials_are_permanent loaded
  have denied := permanent earlier (.removeDeleted "ag_1" willing) later "ag_1" rfl
  refine ⟨?succeeded, (denied ?succeeded).1⟩
  decide

end StartupStore
end Treer.Startup
