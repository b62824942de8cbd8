import Treer.Tree.Store

/-!
# What the mutations of the Tree do

For every mutation: what the checks of a successful call established and which
statements it ran, and that a failed call publishes nothing.
-/

namespace Treer.Tree

open Foundation Option
open Tx (succeeds_bind succeeds_pure succeeds_lift noCommit_pure run_eq_ok)
open Protocol Environment

variable {name : String} {environment : Environment}

section
variable {workspace : String} {before after : Session TreeDb} {result : Unit} {site index : Nat}
variable {parent excluding folder requested caller : Option String}

@[simp]
theorem succeeds_loadFolder {id : String} {row : FolderRow} :
    Tx.Succeeds (loadFolder environment workspace site id) before row after ↔
      environment.down (.loadFolder site 0) = false ∧
        before.working.folders.find? (workspace, id) = some row ∧ before = after := by
  cases found : before.working.folders.find? (workspace, id) <;> simp [loadFolder, found]

variable {moving : Option String}

/-- A place `validate_parent` accepts has an ancestry without the folder that is moved. -/
theorem ancestry_of_validateParent
    (succeeds : Tx.Succeeds (validateParent environment workspace site parent moving)
      before result after) :
    (∃ chain, Ancestry (before.working.parent workspace) parent chain ∧
      ∀ id, moving = some id → id ∉ chain) ∧ before = after := by
  simp [validateParent] at succeeds
  rcases succeeds with ⟨rfl, _, done⟩
  refine ⟨?_, rfl⟩
  set db := before.working
  -- The loop refuses the moving folder, so it walks a map without it.
  let visible : ParentMap String := fun id =>
    if moving = some id then none else db.parent workspace id
  have sound : ∀ seen id place,
      validateParentVisit environment workspace site moving db seen id = .ok place →
        visible id = some place ∧ id ∉ seen := by
    intro seen id place visited
    unfold validateParentVisit at visited
    split at visited
    · cases visited
    rename_i unseen
    simp only [Bool.or_eq_true, beq_iff_eq, List.contains_iff_mem, not_or] at unseen
    split at visited
    · cases visited
    split at visited
    · cases visited
    rename_i row found
    cases visited
    exact ⟨by simp [visible, unseen.1, TreeDb.parent, found], unseen.2⟩
  have finite : ∀ id place, visible id = some place → id ∈ db.folders.rows.map (·.folderId) := by
    intro id place found
    by_cases same : moving = some id
    · simp [visible, same] at found
    simp only [visible, if_neg same, TreeDb.parent, map_eq_some_iff] at found
    rcases found with ⟨row, rowFound, _⟩
    rcases Table.find?_eq_some_iff.mp rowFound with ⟨rowMem, keyEq⟩
    exact List.mem_map.mpr ⟨row, rowMem, congrArg Prod.snd keyEq⟩
  rcases ancestry_of_climb sound finite (by simp) List.nodup_nil (by simp) done with
    ⟨above, walk, -⟩
  have unmoved : ∀ id ∈ above, moving ≠ some id := by
    intro id mem same
    rcases walk.exists_parent mem with ⟨_, found⟩
    simp [visible, same] at found
  refine ⟨above, walk.congr fun id mem => ?_, fun id same mem => unmoved id mem same⟩
  simp [visible, unmoved id mem]

variable {promoted : List (String × String)}

/-- The loop over the promoted workloads has checked each of them. -/
theorem free_of_validatePromoted
    (succeeds : Tx.Succeeds (validatePromoted environment workspace parent index promoted)
      before result after) :
    (∀ agent name, (agent, name) ∈ promoted →
      before.working.workloadNameTaken workspace parent name (some agent) = false) ∧
      before = after := by
  induction promoted generalizing index with
  | nil =>
    simp [validatePromoted] at succeeds
    exact ⟨nofun, succeeds⟩
  | cons first rest ih =>
    simp [validatePromoted] at succeeds
    rcases succeeds with ⟨⟨_, free⟩, others⟩
    rcases ih others with ⟨restFree, afterEq⟩
    refine ⟨?_, afterEq⟩
    rintro agent name (_ | ⟨_, mem⟩)
    · exact free
    · exact restFree agent name mem

theorem eq_of_requestedFolder
    (succeeds : Tx.Succeeds (requestedFolder environment workspace requested caller)
      before folder after) : before = after := by
  cases requested with
  | some => exact (succeeds_pure.mp succeeds).2
  | none =>
    cases caller with
    | none => exact (succeeds_pure.mp succeeds).2
    | some =>
      simp only [requestedFolder, succeeds_bind, query, Tx.succeeds_ask] at succeeds
      rcases succeeds with ⟨found, _, ⟨_, _, rfl⟩, branch⟩
      cases found with
      | none => exact absurd branch Tx.not_succeeds_fail
      | some => exact (succeeds_pure.mp branch).2

theorem eq_of_creationFolder
    (succeeds : Tx.Succeeds (creationFolder environment workspace requested caller)
      before folder after) : before = after := by
  simp only [creationFolder, succeeds_bind, succeeds_pure] at succeeds
  rcases succeeds with ⟨_, _, chosen, _, _, checked, rfl, rfl⟩
  cases eq_of_requestedFolder chosen
  exact (ancestry_of_validateParent checked).2

@[simp]
theorem noCommit_loadFolder {id : String} :
    Tx.NoCommit (loadFolder environment workspace site id) := by
  refine Tx.noCommit_ask.bind fun found => ?_
  cases found with
  | none => exact Tx.noCommit_fail
  | some => exact noCommit_pure

@[simp]
theorem noCommit_validatePromoted :
    Tx.NoCommit (validatePromoted environment workspace parent index promoted) := by
  induction promoted generalizing index with
  | nil => simp [validatePromoted]
  | cons first rest ih => simp [validatePromoted, ih]

@[simp]
theorem noCommit_validateParent :
    Tx.NoCommit (validateParent environment workspace site parent moving) := by
  simp [validateParent]

theorem noCommit_requestedFolder :
    Tx.NoCommit (requestedFolder environment workspace requested caller) := by
  rcases requested with _ | _
  · rcases caller with _ | _
    · exact noCommit_pure
    · refine Tx.noCommit_ask.bind fun found => ?_
      cases found <;> simp
  · exact noCommit_pure

end

/-! ## Successful calls -/

variable {workspace : String}
  {id agent : String} {requireEmpty : Bool} {result : Unit} {call : ReserveCall}
variable {error : AuthFailure}

/-- A folder was created below an existing place. -/
structure Created (workspace : String) (row : FolderRow) (before after : TreeDb) : Prop where
  workspaceEq : row.workspaceId = workspace
  place : ∃ chain, Ancestry (before.parent workspace) row.parentId chain
  alone : before.siblingExists workspace row.parentId row.name none = false
  written : before.insertFolder row = some after

theorem created_of_ok {request : CreateWorkloadFolderRequest} {before after : TreeDb}
    {folder : WorkloadFolder}
    (done : (createWorkloadFolderTx environment workspace request).run before =
      (.ok folder, after)) :
    ∃ row, Created workspace row before after := by
  rcases run_eq_ok done with ⟨_, succeeds, rfl⟩
  simp [createWorkloadFolderTx, commit] at succeeds
  rcases succeeds with ⟨_, _, _, _, _, parentChecked, ⟨_, alone⟩, _, ⟨_, writtenEq⟩, _, ⟨_, rfl⟩, _⟩
  rcases ancestry_of_validateParent parentChecked with ⟨⟨chain, walk, -⟩, rfl⟩
  exact ⟨_, rfl, ⟨chain, walk⟩, alone, writtenEq⟩

/-- A folder was renamed or moved to a place that is not below it, or nothing
had to change. -/
structure Updated (workspace id name : String) (parent : Option String) (original : FolderRow)
    (before after : TreeDb) : Prop where
  found : before.folders.find? (workspace, id) = some original
  place : original.parentId = parent ∨
    ∃ chain, Ancestry (before.parent workspace) parent chain ∧ id ∉ chain
  alone : before.siblingExists workspace parent name (some id) = false
  written : after = before ∨ before.updateFolder workspace id name parent = some after

theorem place_of_updatedParent {original : FolderRow}
    {requested : Option (Option String)} {parent : Option String} {before after : Session TreeDb}
    (succeeds : Tx.Succeeds (updatedParent environment workspace id original requested)
      before parent after) :
    (original.parentId = parent ∨
      ∃ chain, Ancestry (before.working.parent workspace) parent chain ∧ id ∉ chain) ∧
      before = after := by
  cases requested with
  | none =>
    rcases succeeds_pure.mp succeeds with ⟨parentEq, sessionEq⟩
    exact ⟨.inl parentEq, sessionEq⟩
  | some =>
    simp only [updatedParent, succeeds_bind, succeeds_pure] at succeeds
    rcases succeeds with ⟨_, _, checked, rfl, rfl⟩
    rcases ancestry_of_validateParent checked with ⟨⟨chain, walk, avoids⟩, sessionEq⟩
    exact ⟨.inr ⟨chain, walk, avoids id rfl⟩, sessionEq⟩

theorem updated_of_ok {request : UpdateWorkloadFolderRequest}
    {before after : TreeDb} {folder : WorkloadFolder}
    (done : (updateWorkloadFolderTx environment workspace id request).run before =
      (.ok folder, after)) :
    ∃ name parent original, Updated workspace id name parent original before after := by
  rcases run_eq_ok done with ⟨_, succeeds, rfl⟩
  simp [updateWorkloadFolderTx, commit] at succeeds
  rcases succeeds with ⟨_, original, ⟨_, found⟩, name, _, parent, _, chosen, ⟨_, alone⟩, branch⟩
  rcases place_of_updatedParent chosen with ⟨place, rfl⟩
  refine ⟨name, parent, original, found, place, alone, ?_⟩
  split at branch
  · rcases succeeds_pure.mp branch with ⟨_, rfl⟩
    exact .inl rfl
  · simp at branch
    rcases branch with ⟨_, ⟨_, writtenEq⟩, _, ⟨_, rfl⟩, _⟩
    exact .inr writtenEq

/-- A folder was removed: its folders and workloads went to its own place. -/
structure Removed (workspace id : String) (folder : FolderRow)
    (before reparented moved deleted after : TreeDb) : Prop where
  found : before.folders.find? (workspace, id) = some folder
  reparent : before.reparentFolders workspace id folder.parentId = some reparented
  free : ∀ agent name, (agent, name) ∈ reparented.promoted workspace id →
    reparented.workloadNameTaken workspace folder.parentId name (some agent) = false
  promote : reparented.promotePlacements workspace id folder.parentId = some moved
  delete : moved.deleteFolder workspace id = some deleted
  normalize : deleted.normalize workspace = after

theorem eq_of_refuseOccupied {before after : Session TreeDb}
    (succeeds : Tx.Succeeds (refuseOccupied environment workspace id requireEmpty)
      before result after) : before = after := by
  cases requireEmpty with
  | false => exact (succeeds_pure.mp succeeds).2
  | true =>
    simp [refuseOccupied] at succeeds
    exact succeeds.2.2

theorem removed_of_dissolveFolder {folder : FolderRow} {before after : Session TreeDb}
    (found : before.working.folders.find? (workspace, id) = some folder)
    (succeeds : Tx.Succeeds (dissolveFolder environment workspace id folder.parentId)
      before result after) :
    ∃ reparented moved deleted,
      Removed workspace id folder before.working reparented moved deleted after.working := by
  simp [dissolveFolder] at succeeds
  rcases succeeds with ⟨reparented, ⟨_, reparent⟩, _, _, _, checked, moved, ⟨_, promote⟩, deleted,
    ⟨_, delete⟩, _, rfl⟩
  rcases free_of_validatePromoted checked with ⟨free, rfl⟩
  exact ⟨reparented, moved, deleted, found, reparent, free, promote, delete, rfl⟩

theorem removed_of_ok {before after : TreeDb}
    (done : (removeWorkloadFolderTx environment workspace id requireEmpty).run before =
      (.ok result, after)) :
    ∃ folder reparented moved deleted,
      Removed workspace id folder before reparented moved deleted after := by
  rcases run_eq_ok done with ⟨_, succeeds, rfl⟩
  simp [removeWorkloadFolderTx, commit] at succeeds
  rcases succeeds with ⟨_, folder, ⟨_, found⟩, _, _, unoccupied, _, _, dissolved, _, _, rfl⟩
  cases eq_of_refuseOccupied unoccupied
  rcases removed_of_dissolveFolder found dissolved with ⟨reparented, moved, deleted, removed⟩
  exact ⟨folder, reparented, moved, deleted, removed⟩

/-- A workload was put into a folder in which its name is free. -/
structure Placed (workspace agent : String) (folder : Option String) (position : Nat)
    (before after : TreeDb) : Prop where
  free : ∀ name, before.workloadName workspace agent = some (some name) →
    before.workloadNameTaken workspace folder name (some agent) = false
  named : before.workloadName workspace agent ≠ none
  written : (((before.deletePlacement workspace agent).normalize workspace).shiftPlacements
    workspace folder position).insertPlacement ⟨workspace, agent, folder, position⟩ = some after

theorem free_of_validateCurrentName {folder : Option String} {before after : Session TreeDb}
    (succeeds : Tx.Succeeds (validateCurrentName environment workspace agent folder)
      before result after) :
    (∀ name, before.working.workloadName workspace agent = some (some name) →
      before.working.workloadNameTaken workspace folder name (some agent) = false) ∧
      before.working.workloadName workspace agent ≠ none ∧ before = after := by
  simp [validateCurrentName] at succeeds
  rcases succeeds with ⟨_, branch⟩
  rcases nameEq : before.working.workloadName workspace agent with _ | _ | name
  · simp [nameEq] at branch
  · simp [nameEq] at branch
    exact ⟨by simp, by simp, branch⟩
  simp [nameEq] at branch
  rcases branch with ⟨_, free, sessionEq⟩
  refine ⟨?_, by simp, sessionEq⟩
  intro other otherEq
  cases otherEq
  exact free

variable {request : SetWorkloadPlacementRequest}

theorem placed_of_ok {before after : TreeDb} {placement : WorkloadPlacement}
    (done : (setWorkloadPlacementTx environment workspace agent request).run before =
      (.ok placement, after)) :
    Placed workspace agent request.folderId placement.position before after ∧
      placement.position = min request.position.toNat
        (((before.deletePlacement workspace agent).normalize workspace).placements.rows.filter
          (TreeDb.inFolder workspace request.folderId)).length := by
  rcases run_eq_ok done with ⟨_, succeeds, rfl⟩
  simp [setWorkloadPlacementTx, commit] at succeeds
  rcases succeeds with ⟨_, _, _, _, _, parentChecked, _, _, nameChecked, _, _, _, replaced, _,
    ⟨_, rfl⟩, rfl⟩
  cases (ancestry_of_validateParent parentChecked).2
  rcases free_of_validateCurrentName nameChecked with ⟨free, named, rfl⟩
  simp [replacePlacement] at replaced
  rcases replaced with ⟨_, _, _, _, ⟨_, _, written, rfl⟩, rfl⟩
  exact ⟨⟨free, named, written⟩, rfl⟩

/-- An Agent was reserved under a name that is free in its folder. -/
structure Reserved (workspace : String) (call : ReserveCall) (folder : Option String)
    (before credentialed named after : TreeDb) : Prop where
  free : before.workloadNameTaken workspace folder call.name (some call.agent) = false
  credential : before.insertCredential ⟨call.agent, workspace, call.server, false⟩ =
    some credentialed
  name : credentialed.insertName ⟨call.agent, workspace, call.name⟩ = some named
  placement : named.insertPlacement
    ⟨workspace, call.agent, folder, named.nextPosition workspace folder⟩ = some after

theorem reserved_of_ok {before after : TreeDb} {credential : String}
    (done : (reserveNamedAgentTx environment workspace call).run before = (.ok credential, after)) :
    ∃ folder credentialed named,
      Reserved workspace call folder before credentialed named after := by
  rcases run_eq_ok done with ⟨_, succeeds, rfl⟩
  simp [reserveNamedAgentTx, commit] at succeeds
  rcases succeeds with ⟨_, _, folder, _, created, _, _, parentChecked, ⟨_, free⟩, _, _, inserted,
    _, _, ⟨_, rfl⟩, _⟩
  cases eq_of_creationFolder created
  cases (ancestry_of_validateParent parentChecked).2
  simp [insertAgent] at inserted
  rcases inserted with ⟨credentialed, ⟨_, credentialEq⟩, named, ⟨_, nameEq⟩, _, _, placement, rfl⟩
  exact ⟨folder, credentialed, named, free, credentialEq, nameEq, placement⟩

/-- A workload was renamed to a name that is free in its folder. -/
structure Renamed (workspace agent name : String) (before named after : TreeDb) : Prop where
  free : before.workloadNameTaken workspace (before.placedFolder workspace agent) name
    (some agent) = false
  upserted : before.upsertName ⟨agent, workspace, name⟩ = some named
  apps : named.renameApps workspace agent name = after

theorem renamed_of_ok {before after : TreeDb}
    (done : (setAgentNameTx environment workspace agent name).run before = (.ok result, after)) :
    ∃ named, Renamed workspace agent name before named after := by
  rcases run_eq_ok done with ⟨_, succeeds, rfl⟩
  simp [setAgentNameTx, commit] at succeeds
  rcases succeeds with ⟨_, _, _, _, ⟨_, free⟩, named, ⟨_, nameEq⟩, _, _, _, rfl⟩
  exact ⟨named, free, nameEq, rfl⟩

theorem rollsBack_createWorkloadFolderTx {request : CreateWorkloadFolderRequest} :
    Tx.RollsBack (createWorkloadFolderTx environment workspace request) := by
  repeat
    refine .bind (by simp) fun _ => ?_
  exact Tx.rollsBack_publish_pure

theorem rollsBack_updateWorkloadFolderTx {request : UpdateWorkloadFolderRequest} :
    Tx.RollsBack (updateWorkloadFolderTx environment workspace id request) := by
  have quiet : ∀ original,
      Tx.NoCommit (updatedParent environment workspace id original request.parentId) := by
    cases request.parentId <;> simp [updatedParent]
  repeat
    refine .bind (by simp [quiet]) fun _ => ?_
  split
  · exact noCommit_pure.rollsBack
  · simp [commit]

theorem rollsBack_removeWorkloadFolderTx :
    Tx.RollsBack (removeWorkloadFolderTx environment workspace id requireEmpty) := by
  have refuses : Tx.NoCommit (refuseOccupied environment workspace id requireEmpty) := by
    cases requireEmpty <;> simp [refuseOccupied]
  have dissolves : ∀ parent, Tx.NoCommit (dissolveFolder environment workspace id parent) := by
    intro parent
    repeat refine Tx.NoCommit.bind (by simp) fun _ => ?_
    simp
  repeat
    refine .bind (by simp [refuses, dissolves]) fun _ => ?_
  exact Tx.rollsBack_publish_pure

theorem rollsBack_setWorkloadPlacementTx :
    Tx.RollsBack (setWorkloadPlacementTx environment workspace agent request) := by
  have named : Tx.NoCommit (validateCurrentName environment workspace agent request.folderId) := by
    refine Tx.noCommit_ask.bind fun name => ?_
    rcases name with _ | _ | _ <;> simp
  have replaces : Tx.NoCommit (replacePlacement environment workspace agent request) := by
    repeat refine Tx.NoCommit.bind (by simp) fun _ => ?_
    exact noCommit_pure
  repeat
    refine .bind (by simp [named, replaces]) fun _ => ?_
  exact Tx.rollsBack_publish_pure

theorem rollsBack_reserveNamedAgentTx :
    Tx.RollsBack (reserveNamedAgentTx environment workspace call) := by
  have created : ∀ requested caller,
      Tx.NoCommit (creationFolder environment workspace requested caller) :=
    fun _ _ => noCommit_requestedFolder.bind fun _ => by simp
  repeat
    refine .bind (by simp [created, insertAgent]) fun _ => ?_
  exact Tx.rollsBack_publish_pure

theorem rollsBack_setAgentNameTx :
    Tx.RollsBack (setAgentNameTx environment workspace agent name) := by
  repeat
    refine .bind (by simp) fun _ => ?_
  exact Tx.rollsBack_publish_pure

end Treer.Tree
