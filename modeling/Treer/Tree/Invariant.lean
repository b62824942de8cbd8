import Treer.Foundation.Run
import Treer.Tree.Names

/-!
# The representation invariant of the Workload Tree

Folders form a forest, siblings have different names, and so have the live
workloads of one folder. The forest and the names of workloads survive every
mutation. The names of folders survive all but one: `remove_workload_folder`
moves the child folders of the removed folder without a look at the names in
their new place.
-/

namespace Treer.Tree

open Foundation TreeDb Protocol
variable {db after before : TreeDb} {workspace : String}

/-- The part of the invariant every mutation keeps. -/
structure Sound (db : TreeDb) : Prop where
  forest : ∀ workspace, Forest (db.parent workspace)
  names : NamesUnique db
  noApps : db.apps.rows = []

/-- The representation invariant of the Tree. -/
structure WellFormed (db : TreeDb) : Prop where
  acyclic : ∀ workspace, Acyclic (ParentEdge (db.parent workspace))
  parents : ∀ workspace child id, ParentEdge (db.parent workspace) child id →
    ∃ place, db.parent workspace id = some place
  siblings : SiblingsUnique db
  names : NamesUnique db

theorem Sound.wellFormed (sound : Sound db) (siblings : SiblingsUnique db) : WellFormed db :=
  ⟨fun workspace => (sound.forest workspace).acyclic,
    fun workspace _ _ edge => (sound.forest workspace).parent_exists edge, siblings, sound.names⟩

theorem sound_empty (workspaces : List String) : Sound (empty workspaces) := by
  refine ⟨?_, ?_, rfl⟩
  · intro workspace id place found
    cases found
  · rintro _ _ _ _ _ ⟨⟨_, rowMem, -⟩, -, -⟩ -
    cases rowMem

theorem siblingsUnique_empty (workspaces : List String) : SiblingsUnique (empty workspaces) := by
  intro first firstMem
  cases firstMem

/-! ## The system -/

inductive Call where
  | createWorkloadFolder (environment : Environment) (workspace : String)
      (request : CreateWorkloadFolderRequest)
  | updateWorkloadFolder (environment : Environment) (workspace id : String)
      (request : UpdateWorkloadFolderRequest)
  | removeWorkloadFolder (environment : Environment) (workspace id : String) (requireEmpty : Bool)
  | setWorkloadPlacement (environment : Environment) (workspace agent : String)
      (request : SetWorkloadPlacementRequest)
  | reserveNamedAgent (environment : Environment) (workspace : String) (call : ReserveCall)
  | setAgentName (environment : Environment) (workspace agent name : String)

inductive Reply where
  | folder (folder : WorkloadFolder)
  | placement (placement : WorkloadPlacement)
  | credential (credential : String)
  | done

/-- One mutation; the workspace lock makes mutations run one after another. -/
def step (db : TreeDb) : Call → Except AuthFailure Reply × TreeDb
  | .createWorkloadFolder environment workspace request =>
    answer Reply.folder ((createWorkloadFolderTx environment workspace request).run db)
  | .updateWorkloadFolder environment workspace id request =>
    answer Reply.folder ((updateWorkloadFolderTx environment workspace id request).run db)
  | .removeWorkloadFolder environment workspace id requireEmpty =>
    answer (fun _ => Reply.done)
      ((removeWorkloadFolderTx environment workspace id requireEmpty).run db)
  | .setWorkloadPlacement environment workspace agent request =>
    answer Reply.placement ((setWorkloadPlacementTx environment workspace agent request).run db)
  | .reserveNamedAgent environment workspace call =>
    answer Reply.credential ((reserveNamedAgentTx environment workspace call).run db)
  | .setAgentName environment workspace agent name =>
    answer (fun _ => Reply.done) ((setAgentNameTx environment workspace agent name).run db)

/-- A mutation that returns an error changes nothing. -/
theorem eq_of_step_error {call : Call} {error : AuthFailure}
    (failed : step db call = (.error error, after)) : after = db := by
  cases call
  all_goals refine Tx.RollsBack.run_eq_error ?_ (answer_eq_error failed)
  case createWorkloadFolder => exact rollsBack_createWorkloadFolderTx
  case updateWorkloadFolder => exact rollsBack_updateWorkloadFolderTx
  case removeWorkloadFolder => exact rollsBack_removeWorkloadFolderTx
  case setWorkloadPlacement => exact rollsBack_setWorkloadPlacementTx
  case reserveNamedAgent => exact rollsBack_reserveNamedAgentTx
  case setAgentName => exact rollsBack_setAgentNameTx

/-- What a mutation did to the tables. -/
inductive Change (before : TreeDb) : TreeDb → Prop where
  | created {after : TreeDb} (workspace : String) (row : FolderRow)
      (change : Created workspace row before after) : Change before after
  | updated {after : TreeDb} (workspace id name : String) (parent : Option String)
      (original : FolderRow) (change : Updated workspace id name parent original before after) :
      Change before after
  | removed {after : TreeDb} (workspace id : String) (folder : FolderRow)
      (reparented moved deleted : TreeDb)
      (change : Removed workspace id folder before reparented moved deleted after) :
      Change before after
  | placed {after : TreeDb} (workspace agent : String) (folder : Option String) (position : Nat)
      (change : Placed workspace agent folder position before after) : Change before after
  | reserved {after : TreeDb} (workspace : String) (call : ReserveCall) (folder : Option String)
      (credentialed named : TreeDb)
      (change : Reserved workspace call folder before credentialed named after) :
      Change before after
  | renamed {after : TreeDb} (workspace agent name : String) (named : TreeDb)
      (change : Renamed workspace agent name before named after) : Change before after

theorem change_of_step_ok {call : Call} {reply : Reply}
    (done : step db call = (.ok reply, after)) : Change db after := by
  cases call with
  | createWorkloadFolder _ workspace =>
    rcases answer_eq_ok done with ⟨_, -, ran⟩
    rcases created_of_ok ran with ⟨row, created⟩
    exact .created workspace row created
  | updateWorkloadFolder _ workspace id =>
    rcases answer_eq_ok done with ⟨_, -, ran⟩
    rcases updated_of_ok ran with ⟨name, parent, original, updated⟩
    exact .updated workspace id name parent original updated
  | removeWorkloadFolder _ workspace id =>
    rcases answer_eq_ok done with ⟨_, -, ran⟩
    rcases removed_of_ok ran with ⟨folder, reparented, moved, deleted, removed⟩
    exact .removed workspace id folder reparented moved deleted removed
  | setWorkloadPlacement _ workspace agent request =>
    rcases answer_eq_ok done with ⟨_, -, ran⟩
    exact .placed workspace agent request.folderId _ (placed_of_ok ran).1
  | reserveNamedAgent _ workspace call =>
    rcases answer_eq_ok done with ⟨_, -, ran⟩
    rcases reserved_of_ok ran with ⟨folder, credentialed, named, reserved⟩
    exact .reserved workspace call folder credentialed named reserved
  | setAgentName _ workspace agent name =>
    rcases answer_eq_ok done with ⟨_, -, ran⟩
    rcases renamed_of_ok ran with ⟨named, renamed⟩
    exact .renamed workspace agent name named renamed

variable {folder : Option String}

/-- Mutations of workloads leave the folders alone. -/
theorem Placed.folders_eq {agent : String} {position : Nat}
    (placed : Placed workspace agent folder position before after) :
    after.folders = before.folders ∧ after.apps = before.apps := by
  rcases insertPlacement_eq_some placed.written with ⟨_, -, rfl⟩
  exact ⟨rfl, rfl⟩

theorem Reserved.folders_eq {call : ReserveCall} {credentialed named : TreeDb}
    (reserved : Reserved workspace call folder before credentialed named after) :
    after.folders = before.folders ∧ after.apps = before.apps := by
  rcases reserved with ⟨-, credential, name, placement⟩
  rcases Option.map_eq_some_iff.mp credential with ⟨_, -, rfl⟩
  rcases Option.map_eq_some_iff.mp name with ⟨_, -, rfl⟩
  rcases insertPlacement_eq_some placement with ⟨_, -, rfl⟩
  exact ⟨rfl, rfl⟩

theorem Renamed.folders_eq {agent name : String} {named : TreeDb}
    (renamed : Renamed workspace agent name before named after) :
    after.folders = before.folders ∧ (before.apps.rows = [] → after.apps.rows = []) := by
  rcases renamed with ⟨-, upserted, rfl⟩
  rcases upsertName_eq_some upserted with ⟨_, rfl, -⟩
  exact ⟨rfl, fun noApps => by simp [renameApps, Table.update, noApps]⟩

theorem parent_congr (foldersEq : after.folders = before.folders)
    (workspace : String) : after.parent workspace = before.parent workspace := by
  funext id
  rw [parent, foldersEq, parent]

theorem siblingsUnique_congr (foldersEq : after.folders = before.folders) :
    SiblingsUnique after ↔ SiblingsUnique before := by
  rw [SiblingsUnique, foldersEq, SiblingsUnique]

/-- Every mutation keeps the forest and the names of workloads. -/
theorem Sound.of_change (sound : Sound before) (change : Change before after) : Sound after := by
  cases change with
  | created _ _ created =>
    have forest := created.forest sound.forest
    rcases insertFolder_eq_some created.written with ⟨folders, -, rfl⟩
    exact ⟨forest, sound.names.of_folders folders, sound.noApps⟩
  | updated _ _ _ _ _ updated =>
    have forest := updated.forest sound.forest
    rcases updated.written with rfl | written
    · exact sound
    · cases setParent_eq_some written
      exact ⟨forest, sound.names.of_folders _, sound.noApps⟩
  | removed _ _ _ _ _ _ removed =>
    refine ⟨removed.forest sound.forest, removed.names sound.names, ?_⟩
    rw [removed.written.1.2.2.1]
    exact sound.noApps
  | placed _ _ _ _ placed =>
    refine ⟨fun other => ?_, placed.names sound.names, ?_⟩
    · rw [parent_congr placed.folders_eq.1]
      exact sound.forest other
    · rw [placed.folders_eq.2]
      exact sound.noApps
  | reserved _ _ _ _ _ reserved =>
    refine ⟨fun other => ?_, reserved.names sound.names, ?_⟩
    · rw [parent_congr reserved.folders_eq.1]
      exact sound.forest other
    · rw [reserved.folders_eq.2]
      exact sound.noApps
  | renamed _ _ _ _ renamed =>
    refine ⟨fun other => ?_, renamed.names sound.noApps sound.names, ?_⟩
    · rw [parent_congr renamed.folders_eq.1]
      exact sound.forest other
    · exact renamed.folders_eq.2 sound.noApps

theorem sound_step (db : TreeDb) (call : Call) (sound : Sound db) : Sound (step db call).2 := by
  rcases outcome : step db call with ⟨_ | _, _⟩
  · rw [eq_of_step_error outcome]
    exact sound
  · exact sound.of_change (change_of_step_ok outcome)

/-- The call keeps the names of folders apart: a removal that succeeds promotes no folder to a name
that is taken. -/
def KeepsFolderNames (db : TreeDb) : Call → Prop
  | .removeWorkloadFolder environment workspace id requireEmpty =>
    ((removeWorkloadFolderTx environment workspace id requireEmpty).run db).1 = .ok () →
      PromotesDistinctNames db workspace id
  | _ => True

/-- The calls that keep the names of folders apart are exactly those that meet
the condition. -/
theorem siblings_step_iff (db : TreeDb) (call : Call) (sound : Sound db)
    (unique : SiblingsUnique db) :
    SiblingsUnique (step db call).2 ↔ KeepsFolderNames db call := by
  rcases outcome : step db call with ⟨_ | _, _⟩
  · rw [eq_of_step_error outcome]
    refine iff_of_true unique ?_
    cases call with
    | removeWorkloadFolder =>
      intro succeeded
      rw [answer_eq_error outcome] at succeeded
      cases succeeded
    | _ => trivial
  · cases call with
    | createWorkloadFolder =>
      rcases answer_eq_ok outcome with ⟨_, -, ran⟩
      rcases created_of_ok ran with ⟨_, created⟩
      exact iff_of_true (created.siblings unique) trivial
    | updateWorkloadFolder =>
      rcases answer_eq_ok outcome with ⟨_, -, ran⟩
      rcases updated_of_ok ran with ⟨_, _, _, updated⟩
      exact iff_of_true (updated.siblings unique) trivial
    | removeWorkloadFolder _ workspace =>
      rcases answer_eq_ok outcome with ⟨_, -, ran⟩
      rcases removed_of_ok ran with ⟨folder, _, _, _, removed⟩
      rw [removed.siblings_iff (sound.forest workspace) unique, KeepsFolderNames, ran]
      simp
    | setWorkloadPlacement =>
      rcases answer_eq_ok outcome with ⟨_, -, ran⟩
      have placed := (placed_of_ok ran).1
      exact iff_of_true ((siblingsUnique_congr placed.folders_eq.1).mpr unique) trivial
    | reserveNamedAgent =>
      rcases answer_eq_ok outcome with ⟨_, -, ran⟩
      rcases reserved_of_ok ran with ⟨_, _, named, reserved⟩
      exact iff_of_true ((siblingsUnique_congr reserved.folders_eq.1).mpr unique) trivial
    | setAgentName =>
      rcases answer_eq_ok outcome with ⟨_, -, ran⟩
      rcases renamed_of_ok ran with ⟨_, renamed⟩
      exact iff_of_true ((siblingsUnique_congr renamed.folders_eq.1).mpr unique) trivial

/-- In a run from empty workspaces every state is well formed exactly when every removal that
succeeds promotes no folder to a taken name. The rest of the invariant holds in every run, and a
call that returns an error changes nothing. -/
theorem tree_wellFormed_iff (workspaces : List String) (calls : List Call) :
    ((∀ earlier later, calls = earlier ++ later →
        WellFormed (exec step (empty workspaces) earlier)) ↔
      AllSteps step KeepsFolderNames (empty workspaces) calls) ∧
    (∀ earlier later, calls = earlier ++ later →
      let db := exec step (empty workspaces) earlier
      (∀ workspace, Acyclic (ParentEdge (db.parent workspace))) ∧
      (∀ workspace child id, ParentEdge (db.parent workspace) child id →
        ∃ place, db.parent workspace id = some place) ∧
      NamesUnique db) ∧
    ∀ entry ∈ trace step (empty workspaces) calls, ∀ error,
      entry.outcome = .error error → entry.after = entry.before := by
  have reached : ∀ earlier, Sound (exec step (empty workspaces) earlier) := fun earlier =>
    exec_invariant sound_step (sound_empty workspaces) earlier
  refine ⟨?_, ?_, ?_⟩
  · rw [← allSteps_iff sound_step siblings_step_iff (sound_empty workspaces)
      (siblingsUnique_empty workspaces)]
    constructor
    · intro always earlier later split
      exact (always earlier later split).siblings
    · intro always earlier later split
      exact (reached earlier).wellFormed (always earlier later split)
  · intro earlier later _ db
    have sound := reached earlier
    exact ⟨fun workspace => (sound.forest workspace).acyclic,
      fun workspace _ _ edge => (sound.forest workspace).parent_exists edge, sound.names⟩
  · intro entry entryMem error failed
    rcases of_mem_trace entryMem with ⟨_, _, _, _, stepped⟩
    rw [failed] at stepped
    exact eq_of_step_error stepped

namespace Sample

def environment (uuid : String) : Environment where
  uuid := fun _ => uuid
  down := fun _ => false

def create (uuid name : String) (parent : Option String) : Call :=
  .createWorkloadFolder (environment uuid) "workspace" ⟨name, parent⟩

/-- `/docs` and `/team/docs` exist when `/team` is removed. -/
def removeTeam : List Call :=
  [create "team" "team" none, create "top" "docs" none,
    create "inner" "docs" (some "folder_team"),
    .removeWorkloadFolder (environment "remove") "workspace" "folder_team" false]

end Sample

/-- Every call succeeds, and two folders at the root have one name afterwards. -/
theorem removal_duplicates_sibling_name : (trace step (empty ["workspace"]) Sample.removeTeam).all
        (fun entry => entry.outcome.isOk) = true ∧
      ¬ WellFormed (exec step (empty ["workspace"]) Sample.removeTeam) := by
  refine ⟨by decide, fun wellFormed => ?_⟩
  have first : (⟨"workspace", "folder_top", "docs", none⟩ : FolderRow) ∈
      (exec step (empty ["workspace"]) Sample.removeTeam).folders.rows := by decide
  have second : (⟨"workspace", "folder_inner", "docs", none⟩ : FolderRow) ∈
      (exec step (empty ["workspace"]) Sample.removeTeam).folders.rows := by decide
  have same := wellFormed.siblings _ first _ second rfl rfl rfl
  exact absurd same (by decide)

end Treer.Tree
