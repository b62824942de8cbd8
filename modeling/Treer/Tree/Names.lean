import Treer.Tree.Folders

/-!
# Names of workloads under mutation

Live workloads of one folder have different names after every mutation. Each
mutation lets at most new workloads arrive at a place, and asks
`validate_workload_name` about each of them first.
-/

namespace Treer.Tree

open Foundation Table List Bool
open TreeDb (activeCredential canonicalName agentName placedFolder runtimeId renameApps)
open Protocol

/-- A live workload is placed in a folder under a name. -/
structure Occupies (db : TreeDb) (workspace : String) (folder : Option String)
    (name agent : String) : Prop where
  placed : ∃ row ∈ db.placements, row.key = (workspace, agent) ∧ row.folderId = folder
  live : db.live workspace agent = true
  named : db.canonicalName workspace agent = some name

/-- Live workloads of one folder have different names. -/
def NamesUnique (db : TreeDb) : Prop :=
  ∀ workspace folder name first second, Occupies db workspace folder name first →
    Occupies db workspace folder name second → first = second

section
variable {before after : TreeDb} {workspace agent name : String} {folder : Option String}
  {reparented moved deleted named : TreeDb}

theorem live_congr (credentialsEq : after.credentials = before.credentials)
    (deletedEq : after.deletedAgents = before.deletedAgents) (workspace agent : String) :
    after.live workspace agent = before.live workspace agent := by
  simp only [TreeDb.live, activeCredential, TreeDb.isDeleted, credentialsEq, deletedEq]

theorem canonicalName_congr (namesEq : after.names = before.names)
    (appsEq : after.apps = before.apps) (workspace agent : String) :
    after.canonicalName workspace agent = before.canonicalName workspace agent := by
  simp only [canonicalName, agentName, namesEq, appsEq]

/-- The query of `validate_workload_name` sees every live workload of the
folder. -/
theorem Occupies.eq_of_free {other : String}
    (occupies : Occupies before workspace folder name other)
    (free : before.workloadNameTaken workspace folder name (some agent) = false) :
    other = agent := by
  rcases occupies.placed with ⟨_, rowMem, keyEq, placedEq⟩
  have folderEq : before.placedFolder workspace other = folder := by
    rw [placedFolder, find?_eq_some_iff.mpr ⟨rowMem, keyEq⟩]
    exact placedEq
  have live := occupies.live
  by_contra different
  rw [TreeDb.workloadNameTaken, or_eq_false_iff, any_eq_false, any_eq_false] at free
  rw [TreeDb.live, and_eq_true] at live
  have notRevoked : before.notRevoked workspace other = true := by
    rw [activeCredential, Option.any_eq_true] at live
    rcases live.1 with ⟨_, found, active⟩
    rw [and_eq_true] at active
    simp [TreeDb.notRevoked, found, active.2]
  have named := occupies.named
  rw [canonicalName, Option.or_eq_some_iff] at named
  rcases named with ownName | ⟨-, appName⟩
  · rw [agentName, Option.map_eq_some_iff] at ownName
    rcases ownName with ⟨row, found, nameEq⟩
    rcases Option.filter_eq_some_iff.mp found with ⟨rowFound, here⟩
    rcases find?_eq_some_iff.mp rowFound with ⟨rowMem, rowAgent⟩
    apply free.1 row rowMem
    rw [rowAgent]
    simp [beq_iff_eq.mp here, nameEq, folderEq, different, notRevoked, live.2]
  · rcases Option.map_eq_some_iff.mp appName with ⟨row, found, nameEq⟩
    have selected := find?_some found
    rw [and_eq_true, beq_iff_eq, beq_iff_eq] at selected
    apply free.2 row (mem_of_find?_eq_some found)
    simp [selected.1, selected.2, nameEq, folderEq, different]

/-- Names stay apart when every workload that newly comes to a place finds its
name free there. -/
theorem NamesUnique.of_arrivals (unique : NamesUnique before)
    (arrives : String → Option String → String → String → Prop)
    (covered : ∀ workspace folder name agent, Occupies after workspace folder name agent →
      Occupies before workspace folder name agent ∨ arrives workspace folder name agent)
    (alone : ∀ workspace folder name first second, arrives workspace folder name first →
      arrives workspace folder name second → first = second)
    (free : ∀ workspace folder name agent other, arrives workspace folder name agent →
      Occupies before workspace folder name other → other = agent) : NamesUnique after := by
  intro workspace folder name first second firstOccupies secondOccupies
  rcases covered _ _ _ _ firstOccupies with firstOld | firstNew
  · rcases covered _ _ _ _ secondOccupies with secondOld | secondNew
    · exact unique _ _ _ _ _ firstOld secondOld
    · exact free _ _ _ _ _ secondNew firstOld
  · rcases covered _ _ _ _ secondOccupies with secondOld | secondNew
    · exact (free _ _ _ _ _ firstNew secondOld).symm
    · exact alone _ _ _ _ _ firstNew secondNew

/-- The place and name of a workload do not depend on the folders. -/
theorem Occupies.of_folders {folders : Table FolderRow FolderRow.key} :
    Occupies { before with folders } workspace folder name agent ↔
      Occupies before workspace folder name agent :=
  ⟨fun occupies => { occupies with }, fun occupies => { occupies with }⟩

/-- Changing folders alone leaves the names of workloads. -/
theorem NamesUnique.of_folders (unique : NamesUnique before)
    (folders : Table FolderRow FolderRow.key) : NamesUnique { before with folders } := by
  intro workspace folder name first second firstOccupies secondOccupies
  exact unique _ _ _ _ _ (Occupies.of_folders.mp firstOccupies)
    (Occupies.of_folders.mp secondOccupies)

/-- An App that gives a workload its name is joined to it. -/
theorem mem_appsOf {row : AppRow} (found : (before.apps.rows.find? fun row =>
      row.workspaceId == workspace && runtimeId row == agent) = some row) :
    row ∈ before.appsOf workspace agent := by
  have selected := find?_some found
  rw [and_eq_true, beq_iff_eq, beq_iff_eq] at selected
  rw [TreeDb.appsOf, mem_filter]
  refine ⟨mem_of_find?_eq_some found, ?_⟩
  rcases selected with ⟨here, runtime⟩
  unfold runtimeId at runtime
  cases runtimeEq : row.runtimeAgentId with
  | none =>
    rw [runtimeEq] at runtime
    simp [here, show row.appId = agent from runtime]
  | some other =>
    rw [runtimeEq] at runtime
    simp [here, show other = agent from runtime]

/-- The name query of `set_workload_placement` finds the name of a workload. -/
theorem workloadName_of_canonicalName (named : before.canonicalName workspace agent = some name)
    (answered : before.workloadName workspace agent ≠ none) :
    before.workloadName workspace agent = some (some name) := by
  unfold TreeDb.workloadName at answered ⊢
  unfold canonicalName at named
  cases own : before.agentName workspace agent with
  | some =>
    rw [own] at named
    cases named
    rfl
  | none =>
    rw [own, Option.none_or] at named
    rcases Option.map_eq_some_iff.mp named with ⟨_, found, nameEq⟩
    have joined := mem_appsOf found
    rw [own] at answered
    match apps : before.appsOf workspace agent with
    | [] =>
      rw [apps] at joined
      cases joined
    | [other] =>
      rw [apps, mem_singleton] at joined
      rw [← joined]
      exact congrArg (fun found => some (some found)) nameEq
    | _ :: _ :: _ =>
      rw [apps] at answered
      exact absurd rfl answered

variable {id : String}

/-- The `promoted` query finds every named workload of the folder. -/
theorem Occupies.mem_promoted (occupies : Occupies before workspace (some id) name agent) :
    (agent, name) ∈ before.promoted workspace id := by
  rcases occupies with ⟨⟨row, rowMem, keyEq, folderEq⟩, -, named⟩
  have here : row.workspaceId = workspace := congrArg Prod.fst keyEq
  have agentEq : row.agentId = agent := congrArg Prod.snd keyEq
  rw [TreeDb.promoted, mem_flatMap]
  refine ⟨row, mem_filter.mpr ⟨rowMem, by simp [here, folderEq]⟩, ?_⟩
  rw [agentEq, mem_filterMap]
  unfold canonicalName at named
  cases own : before.agentName workspace agent with
  | some =>
    rw [own] at named
    cases named
    cases before.appsOf workspace agent with
    | nil => exact ⟨none, mem_singleton.mpr rfl, rfl⟩
    | cons app => exact ⟨some app.name, mem_cons_self, rfl⟩
  | none =>
    rw [own, Option.none_or] at named
    rcases Option.map_eq_some_iff.mp named with ⟨app, found, nameEq⟩
    have joined := mem_appsOf found
    refine ⟨some name, ?_, rfl⟩
    cases apps : before.appsOf workspace agent with
    | nil =>
      rw [apps] at joined
      cases joined
    | cons =>
      rw [apps] at joined
      exact mem_map.mpr ⟨app, joined, congrArg some nameEq⟩

variable {row : PlacementRow}

/-- An update that changes positions only. -/
theorem placed_of_update {placements : Table PlacementRow PlacementRow.key}
    {selected : PlacementRow → Bool} {position : PlacementRow → Nat}
    (rowMem : row ∈ placements.update selected
      (fun row => { row with position := position row }) fun _ => rfl) :
    ∃ old ∈ placements, old.key = row.key ∧ old.folderId = row.folderId := by
  rcases mem_update_iff.mp rowMem with ⟨old, oldMem, rowEq⟩
  refine ⟨old, oldMem, ?_⟩
  rw [← rowEq]
  split <;> exact ⟨rfl, rfl⟩

variable {removedFolder : FolderRow}

section
variable (removed : Removed workspace id removedFolder before reparented moved deleted after)
include removed

/-- Every workload of the removed folder is in the place of the folder now. -/
theorem Removed.placed (rowMem : row ∈ after.placements) :
    ∃ old ∈ before.placements, old.key = row.key ∧
      (old.workspaceId = workspace ∧ old.folderId = some id ∧
        row.folderId = removedFolder.parentId ∨ old.folderId = row.folderId) := by
  have normalized : after.placements = (deleted.normalize workspace).placements := by
    rw [← removed.normalize]
  rw [normalized] at rowMem
  rcases placed_of_update rowMem with ⟨_, middleMem, keyEq, folderEq⟩
  rw [removed.written.2.2, mem_update_iff] at middleMem
  rcases middleMem with ⟨old, oldMem, middleEq⟩
  refine ⟨old, oldMem, ?_⟩
  rw [← keyEq, ← folderEq, ← middleEq]
  split
  · rename_i selected
    rw [TreeDb.inFolder, and_eq_true, beq_iff_eq, beq_iff_eq] at selected
    exact ⟨rfl, .inl ⟨selected.1, selected.2, rfl⟩⟩
  · exact ⟨rfl, .inr rfl⟩

theorem Removed.names (unique : NamesUnique before) : NamesUnique after := by
  rcases removed.written.1 with ⟨credentialsEq, namesEq, appsEq, deletedEq⟩
  have reparentedEq := setParent_eq_some removed.reparent
  apply unique.of_arrivals fun other folder name agent =>
    other = workspace ∧ folder = removedFolder.parentId ∧
      Occupies before workspace (some id) name agent
  · rintro other folder name agent ⟨⟨_, rowMem, keyEq, folderEq⟩, live, named⟩
    rw [live_congr credentialsEq deletedEq] at live
    rw [canonicalName_congr namesEq appsEq] at named
    rcases removed.placed rowMem with ⟨old, oldMem, oldKey, moved | stayed⟩
    · rcases moved with ⟨here, below, place⟩
      have otherEq : workspace = other := here.symm.trans (congrArg Prod.fst (oldKey.trans keyEq))
      subst otherEq
      exact .inr ⟨rfl, folderEq.symm.trans place,
        ⟨old, oldMem, oldKey.trans keyEq, below⟩, live, named⟩
    · exact .inl ⟨⟨old, oldMem, oldKey.trans keyEq, stayed.trans folderEq⟩, live, named⟩
  · rintro other folder name _ _ ⟨-, -, firstInside⟩ ⟨-, -, secondInside⟩
    exact unique _ _ _ _ _ firstInside secondInside
  · rintro _ _ name agent _ ⟨rfl, rfl, inside⟩ occupies
    have free := removed.free agent name
    rw [reparentedEq] at free
    exact (Occupies.of_folders.mpr occupies).eq_of_free
      (free (Occupies.of_folders.mpr inside).mem_promoted)

end

theorem insertPlacement_eq_some (written : before.insertPlacement row = some after) :
    ∃ placements, before.placements.insert? row = some placements ∧
      after = { before with placements } := by
  rcases Option.map_eq_some_iff.mp (Option.ite_none_right_eq_some.mp written).2 with
    ⟨placements, inserted, rfl⟩
  exact ⟨placements, inserted, rfl⟩

theorem Placed.names {position : Nat} (placed : Placed workspace agent folder position before after)
    (unique : NamesUnique before) : NamesUnique after := by
  rcases placed with ⟨free, answered, written⟩
  rcases insertPlacement_eq_some written with ⟨_, inserted, rfl⟩
  have rowsEq := (insert?_eq_some inserted).2
  apply unique.of_arrivals fun other place name arriving =>
    other = workspace ∧ place = folder ∧ arriving = agent ∧
      before.canonicalName workspace agent = some name
  · rintro _ _ name _ ⟨⟨_, rowMem, keyEq, folderEq⟩, live, named⟩
    rcases (mem_of_rows_append rowsEq).mp rowMem with old | new
    · rcases placed_of_update old with ⟨_, shiftedMem, shiftedKey, shiftedFolder⟩
      rcases placed_of_update shiftedMem with ⟨closed, closedMem, closedKey, closedFolder⟩
      rcases mem_delete_iff.mp closedMem with ⟨oldMem, -⟩
      exact .inl ⟨⟨closed, oldMem, (closedKey.trans shiftedKey).trans keyEq,
        (closedFolder.trans shiftedFolder).trans folderEq⟩, live, named⟩
    · rw [mem_singleton.mp new] at keyEq folderEq
      cases keyEq
      exact .inr ⟨rfl, folderEq.symm, rfl, named⟩
  · rintro _ _ _ _ _ ⟨-, -, rfl, -⟩ ⟨-, -, rfl, -⟩
    rfl
  · rintro _ _ name _ _ ⟨rfl, rfl, rfl, named⟩ occupies
    exact occupies.eq_of_free (free name (workloadName_of_canonicalName named answered))

theorem Reserved.names {call : ReserveCall} {credentialed : TreeDb}
    (reserved : Reserved workspace call folder before credentialed named after)
    (unique : NamesUnique before) : NamesUnique after := by
  rcases reserved with ⟨free, credential, nameWritten, placement⟩
  rcases Option.map_eq_some_iff.mp credential with ⟨_, credentialInserted, rfl⟩
  rcases Option.map_eq_some_iff.mp nameWritten with ⟨_, nameInserted, rfl⟩
  rcases insertPlacement_eq_some placement with ⟨_, placementInserted, rfl⟩
  have rowsEq := (insert?_eq_some placementInserted).2
  apply unique.of_arrivals fun other place name arriving =>
    other = workspace ∧ place = folder ∧ name = call.name ∧ arriving = call.agent
  · rintro other _ name arriving ⟨⟨row, rowMem, keyEq, folderEq⟩, live, named⟩
    by_cases same : arriving = call.agent
    · -- The new credential and name belong to the workspace of the call.
      subst same
      have here : workspace = other := by
        rw [TreeDb.live, activeCredential, and_eq_true] at live
        rw [find?_of_insert? credentialInserted, if_pos rfl] at live
        simpa using live.1
      subst here
      have nameEq : call.name = name := by
        rw [canonicalName, agentName] at named
        rw [find?_of_insert? nameInserted, if_pos rfl] at named
        simpa using named
      have newRow := eq_of_key_eq rowMem
        ((mem_of_rows_append rowsEq).mpr (Or.inr (mem_singleton.mpr rfl))) keyEq
      rw [newRow] at folderEq
      exact .inr ⟨rfl, folderEq.symm, nameEq.symm, rfl⟩
    · left
      refine ⟨?_, ?_, ?_⟩
      · rcases (mem_of_rows_append rowsEq).mp rowMem with old | new
        · exact ⟨row, old, keyEq, folderEq⟩
        · rw [mem_singleton.mp new] at keyEq
          exact absurd (congrArg Prod.snd keyEq).symm same
      · rw [TreeDb.live, activeCredential] at live ⊢
        rw [find?_of_insert? credentialInserted, if_neg same] at live
        exact live
      · rw [canonicalName, agentName] at named ⊢
        rw [find?_of_insert? nameInserted, if_neg same] at named
        exact named
  · rintro _ _ _ _ _ ⟨-, -, -, rfl⟩ ⟨-, -, -, rfl⟩
    rfl
  · rintro _ _ _ _ _ ⟨rfl, rfl, rfl, rfl⟩ occupies
    exact occupies.eq_of_free free

/-- After an upsert the name of the Agent is the new one and belongs to the
workspace of the call; every other name stays. -/
theorem upsertName_eq_some (written : before.upsertName ⟨agent, workspace, name⟩ = some after) :
    ∃ names, after = { before with names } ∧ ∀ other, names.find? other =
      if other = agent then some ⟨agent, workspace, name⟩ else before.names.find? other := by
  unfold TreeDb.upsertName at written
  split at written
  · rename_i known
    rcases Option.isSome_iff_exists.mp known with ⟨_, oldFound⟩
    cases Option.some.inj written
    refine ⟨_, rfl, fun other => ?_⟩
    refine (congrFun (find?_update_key before.names agent _ _) other).trans ?_
    rw [Function.update_apply, oldFound]
    obtain ⟨-, rfl⟩ := find?_eq_some_iff.mp oldFound
    rfl
  · rcases Option.map_eq_some_iff.mp written with ⟨names, inserted, rfl⟩
    exact ⟨names, rfl, find?_of_insert? inserted⟩

theorem Renamed.names (renamed : Renamed workspace agent name before named after)
    (noApps : before.apps.rows = []) (unique : NamesUnique before) : NamesUnique after := by
  rcases renamed with ⟨free, upserted, rfl⟩
  rcases upsertName_eq_some upserted with ⟨names, rfl, nameFound⟩
  have appNames : (renameApps workspace agent name { before with names }).apps.rows = [] := by
    simp [renameApps, update, noApps]
  have ownNames : ∀ other workload,
      (renameApps workspace agent name { before with names }).canonicalName other workload =
        agentName { before with names } other workload := by
    intro other workload
    rw [canonicalName, appNames]
    simp [renameApps, agentName]
  apply unique.of_arrivals fun other place newName arriving =>
    other = workspace ∧ place = before.placedFolder workspace agent ∧ newName = name ∧
      arriving = agent
  · rintro other place newName arriving ⟨⟨row, rowMem, keyEq, folderEq⟩, live, canonical⟩
    change row ∈ before.placements at rowMem
    rw [ownNames, agentName, nameFound] at canonical
    by_cases same : arriving = agent
    · subst same
      by_cases here : workspace = other
      · subst here
        have nameEq : name = newName := by simpa using canonical
        have placed : before.placedFolder workspace arriving = place := by
          rw [placedFolder, find?_eq_some_iff.mpr ⟨rowMem, keyEq⟩]
          exact folderEq
        exact .inr ⟨rfl, placed.symm, nameEq.symm, rfl⟩
      · simp [Option.filter, here] at canonical
    · rw [if_neg same] at canonical
      refine .inl ⟨⟨row, rowMem, keyEq, folderEq⟩, live, ?_⟩
      rw [canonicalName, agentName, canonical]
      rfl
  · rintro _ _ _ _ _ ⟨-, -, -, rfl⟩ ⟨-, -, -, rfl⟩
    rfl
  · rintro _ _ _ _ _ ⟨rfl, rfl, rfl, rfl⟩ occupies
    exact occupies.eq_of_free free

end
end Treer.Tree
