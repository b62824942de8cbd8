import Treer.Tree.Change

/-!
# Folders under mutation

Every mutation keeps the folders of a workspace a forest. Creating and
updating a folder also keeps the names of siblings apart; removing one does so
exactly when the folders it promotes bring no name that is taken.
-/

namespace Treer.Tree

open Foundation Table Option Protocol

/-- Folders of one parent have different names. -/
def SiblingsUnique (db : TreeDb) : Prop :=
  ∀ first ∈ db.folders, ∀ second ∈ db.folders, first.workspaceId = second.workspaceId →
    first.parentId = second.parentId → first.name = second.name → first = second

section
variable {before after : TreeDb} {workspace id name : String} {parent : Option String}
  {row : FolderRow}

theorem insertFolder_eq_some (written : before.insertFolder row = some after) :
    ∃ folders, before.folders.insert? row = some folders ∧ after = { before with folders } := by
  rcases map_eq_some_iff.mp (ite_none_right_eq_some.mp written).2 with ⟨folders, inserted, rfl⟩
  exact ⟨folders, inserted, rfl⟩

theorem parent_of_insertFolder (written : before.insertFolder row = some after)
    (other id : String) :
    after.parent other id =
      if (other, id) = row.key then some row.parentId else before.parent other id := by
  rcases insertFolder_eq_some written with ⟨_, inserted, rfl⟩
  simp only [TreeDb.parent, find?_of_insert? inserted]
  split <;> rfl

theorem setParent_eq_some {selected : FolderRow → Bool} {rename : String → String}
    (written : before.setParent workspace selected parent rename = some after) :
    after = { before with
      folders := before.folders.update selected
        (fun row => { row with name := rename row.name, parentId := parent }) fun _ => rfl } :=
  (some.inj (ite_none_left_eq_some.mp written).2).symm

/-- A parent map of a workspace is changed at one folder at most. -/
theorem forest_of_assign (forests : ∀ other, Forest (before.parent other))
    (assigned : ∀ other otherId, after.parent other otherId =
      if (other, otherId) = (workspace, id) then some parent else before.parent other otherId)
    {chain : List String} (up : Ancestry (before.parent workspace) parent chain)
    (avoids : id ∉ chain) (other : String) : Forest (after.parent other) := by
  by_cases same : other = workspace
  · subst other
    apply (forests workspace).assign ?_ ?_ up avoids
    · intro otherId different
      rw [assigned, if_neg]
      intro keyEq
      exact different (congrArg Prod.snd keyEq)
    · rw [assigned]
      exact if_pos rfl
  · have unchanged : after.parent other = before.parent other := by
      funext id
      rw [assigned, if_neg]
      intro keyEq
      exact same (congrArg Prod.fst keyEq)
    rw [unchanged]
    exact forests other

theorem Created.forest (created : Created workspace row before after)
    (forests : ∀ other, Forest (before.parent other)) (other : String) :
    Forest (after.parent other) := by
  rcases created with ⟨rfl, ⟨_, walk⟩, -, written⟩
  apply forest_of_assign forests (parent_of_insertFolder written) walk
  -- The folders of an ancestry exist, and the new one did not.
  intro mem
  rcases walk.exists_parent mem with ⟨_, found⟩
  rcases insertFolder_eq_some written with ⟨_, inserted, -⟩
  rcases map_eq_some_iff.mp found with ⟨old, oldFound, -⟩
  rcases find?_eq_some_iff.mp oldFound with ⟨oldMem, keyEq⟩
  exact (insert?_eq_some inserted).1 old oldMem keyEq

theorem Updated.forest {original : FolderRow}
    (updated : Updated workspace id name parent original before after)
    (forests : ∀ other, Forest (before.parent other)) (other : String) :
    Forest (after.parent other) := by
  rcases updated with ⟨found, place, -, rfl | written⟩
  · exact forests other
  have assigned : ∀ other otherId, after.parent other otherId =
      if (other, otherId) = (workspace, id) then some parent
      else before.parent other otherId := by
    intro other otherId
    rw [setParent_eq_some written, TreeDb.parent]
    rw [find?_update, TreeDb.parent]
    by_cases same : (other, otherId) = (workspace, id)
    · cases same
      have keyEq := (find?_eq_some_iff.mp found).2
      rw [found, map_some, if_pos (beq_iff_eq.mpr keyEq), if_pos rfl, map_some]
    · rw [if_neg same]
      cases otherFound : before.folders.find? (other, otherId) with
      | none => rfl
      | some =>
        have keyEq := (find?_eq_some_iff.mp otherFound).2
        rw [map_some, if_neg fun selected => same (keyEq.symm.trans (beq_iff_eq.mp selected))]
  rcases place with unmoved | ⟨_, walk, avoids⟩
  · -- A renamed folder keeps its place.
    have unchanged : after.parent other = before.parent other := by
      funext otherId
      rw [assigned]
      split
      · rename_i same
        cases same
        simp [TreeDb.parent, found, unmoved]
      · rfl
    rw [unchanged]
    exact forests other
  · exact forest_of_assign forests assigned walk avoids other

/-! ### Removing a folder -/

/-- The place of a folder or a workload after a folder was removed. -/
def promotedPlace (id : String) (folder : FolderRow) (place : Option String) : Option String :=
  if place = some id then folder.parentId else place

namespace Removed

variable {folder : FolderRow} {reparented moved deleted : TreeDb}

section
variable (removed : Removed workspace id folder before reparented moved deleted after)
include removed

theorem written :
    (after.credentials = before.credentials ∧ after.names = before.names ∧
      after.apps = before.apps ∧ after.deletedAgents = before.deletedAgents) ∧
    after.folders =
      (before.folders.update (fun row => row.workspaceId == workspace && row.parentId == some id)
        (fun row => { row with parentId := folder.parentId }) fun _ => rfl).delete
          (fun row => row.key == (workspace, id)) ∧
    deleted.placements = before.placements.update (TreeDb.inFolder workspace (some id))
      (fun row => { row with
        folderId := folder.parentId
        position := row.position + before.nextPosition workspace folder.parentId })
      fun _ => rfl := by
  rcases removed with ⟨-, reparent, -, promote, delete, rfl⟩
  cases (ite_none_left_eq_some.mp reparent).2
  cases (ite_none_left_eq_some.mp promote).2
  cases (ite_none_left_eq_some.mp delete).2
  exact ⟨⟨rfl, rfl, rfl, rfl⟩, rfl, rfl⟩

theorem find_after (other otherId : String) : after.folders.find? (other, otherId) =
      if (other, otherId) = (workspace, id) then none
      else (before.folders.find? (other, otherId)).map fun row =>
        if other = workspace then { row with parentId := promotedPlace id folder row.parentId }
        else row := by
  rw [removed.written.2.1, find?_delete, find?_update]
  cases found : before.folders.find? (other, otherId) with
  | none => simp
  | some row =>
    rcases find?_eq_some_iff.mp found with ⟨-, keyEq⟩
    have otherEq : row.workspaceId = other := congrArg Prod.fst keyEq
    have idEq : row.folderId = otherId := congrArg Prod.snd keyEq
    subst otherEq idEq
    by_cases same : (row.workspaceId, row.folderId) = (workspace, id)
    · cases same
      by_cases child : row.parentId = some row.folderId <;> simp [child]
    by_cases here : row.workspaceId = workspace
    · subst here
      have different : row.folderId ≠ id := fun idEq => same (by rw [idEq])
      by_cases child : row.parentId = some id <;> simp [child, different, promotedPlace]
    · simp [here]

theorem parent_after (other otherId : String) : after.parent other otherId =
      if (other, otherId) = (workspace, id) then none
      else (before.parent other otherId).map fun place =>
        if other = workspace then promotedPlace id folder place else place := by
  rw [TreeDb.parent, removed.find_after]
  split
  · rfl
  rw [TreeDb.parent, map_map, map_map]
  congr 1
  funext row
  split <;> rfl

theorem parent_before : before.parent workspace id = some folder.parentId := by
  rw [TreeDb.parent, removed.found]
  rfl

theorem forest (forests : ∀ other, Forest (before.parent other)) (other : String) :
    Forest (after.parent other) := by
  by_cases here : other = workspace
  · subst other
    apply (forests workspace).splice removed.parent_before
    · rw [removed.parent_after, if_pos rfl]
    intro otherId different
    rw [removed.parent_after, if_neg fun same => different (congrArg Prod.snd same)]
    simp [promotedPlace]
  · have unchanged : after.parent other = before.parent other := by
      funext otherId
      rw [removed.parent_after, if_neg fun same => here (congrArg Prod.fst same)]
      simp [here]
    rw [unchanged]
    exact forests other

theorem mem_folders_iff : row ∈ after.folders ↔
      ∃ old ∈ before.folders, old.key ≠ (workspace, id) ∧
        row = if old.workspaceId = workspace then
          { old with parentId := promotedPlace id folder old.parentId } else old := by
  have rowFound : row ∈ after.folders ↔
      after.folders.find? (row.workspaceId, row.folderId) = some row := by
    rw [find?_eq_some_iff]
    simp
  rw [rowFound, removed.find_after]
  constructor
  · intro found
    split at found
    · cases found
    rename_i different
    rcases map_eq_some_iff.mp found with ⟨old, oldFound, rowEq⟩
    rcases find?_eq_some_iff.mp oldFound with ⟨oldMem, keyEq⟩
    refine ⟨old, oldMem, fun same => different (keyEq.symm.trans same), ?_⟩
    rw [← rowEq, show old.workspaceId = row.workspaceId from congrArg Prod.fst keyEq]
  · rintro ⟨old, oldMem, different, rowEq⟩
    have keyEq : row.key = old.key := by
      rw [rowEq]
      split <;> rfl
    rw [if_neg fun same => different (keyEq.symm.trans same), map_eq_some_iff]
    refine ⟨old, find?_eq_some_iff.mpr ⟨oldMem, keyEq.symm⟩, ?_⟩
    rw [show row.workspaceId = old.workspaceId from congrArg Prod.fst keyEq]
    exact rowEq.symm

end
end Removed

/-- No child folder of a folder has the name of another folder in its place. -/
def PromotesDistinctNames (db : TreeDb) (workspace id : String) : Prop :=
  ∀ folder, db.folders.find? (workspace, id) = some folder →
    ∀ child ∈ db.folders, child.workspaceId = workspace → child.parentId = some id →
      ∀ sibling ∈ db.folders, sibling.workspaceId = workspace →
        sibling.parentId = folder.parentId → sibling.folderId ≠ id → child.name ≠ sibling.name

theorem Created.siblings (created : Created workspace row before after)
    (unique : SiblingsUnique before) : SiblingsUnique after := by
  rcases created with ⟨rfl, -, alone, written⟩
  rcases insertFolder_eq_some written with ⟨folders, inserted, rfl⟩
  have rowsEq := (insert?_eq_some inserted).2
  have free : ∀ other ∈ before.folders, other.workspaceId = row.workspaceId →
      other.parentId = row.parentId → other.name ≠ row.name := by
    intro other otherMem sameWorkspace sameParent sameName
    rw [TreeDb.siblingExists, List.any_eq_false] at alone
    exact alone other otherMem (by simp [sameWorkspace, sameParent, sameName])
  intro first firstMem second secondMem sameWorkspace sameParent sameName
  rw [mem_of_rows_append rowsEq, List.mem_singleton] at firstMem secondMem
  rcases firstMem with firstOld | rfl
  · rcases secondMem with secondOld | rfl
    · exact unique first firstOld second secondOld sameWorkspace sameParent sameName
    · exact absurd sameName (free first firstOld sameWorkspace sameParent)
  · rcases secondMem with secondOld | rfl
    · exact absurd sameName.symm (free second secondOld sameWorkspace.symm sameParent.symm)
    · rfl

theorem Updated.siblings {original : FolderRow}
    (updated : Updated workspace id name parent original before after)
    (unique : SiblingsUnique before) : SiblingsUnique after := by
  rcases updated with ⟨_, -, alone, rfl | written⟩
  · exact unique
  have foldersEq := congrArg TreeDb.folders (setParent_eq_some written)
  have free : ∀ other ∈ before.folders, other.key ≠ (workspace, id) →
      other.workspaceId = workspace → other.parentId = parent → other.name ≠ name := by
    intro other otherMem different sameWorkspace sameParent sameName
    rw [TreeDb.siblingExists, List.any_eq_false] at alone
    apply alone other otherMem
    have differentId : other.folderId ≠ id := fun idEq =>
      different (by rw [FolderRow.key, sameWorkspace, idEq])
    simp [sameWorkspace, sameParent, sameName, differentId]
  intro first firstMem second secondMem sameWorkspace sameParent sameName
  rw [foldersEq, mem_update_iff] at firstMem secondMem
  rcases firstMem with ⟨firstOld, firstOldMem, firstEq⟩
  rcases secondMem with ⟨secondOld, secondOldMem, secondEq⟩
  by_cases firstHere : firstOld.key = (workspace, id)
  · rw [if_pos (beq_iff_eq.mpr firstHere)] at firstEq
    by_cases secondHere : secondOld.key = (workspace, id)
    · rw [if_pos (beq_iff_eq.mpr secondHere)] at secondEq
      rw [← firstEq, ← secondEq,
        eq_of_key_eq firstOldMem secondOldMem (firstHere.trans secondHere.symm)]
    · rw [if_neg (by simpa using secondHere)] at secondEq
      subst firstEq secondEq
      exact absurd sameName.symm (free secondOld secondOldMem secondHere
        (sameWorkspace.symm.trans (congrArg Prod.fst firstHere)) sameParent.symm)
  · rw [if_neg (by simpa using firstHere)] at firstEq
    by_cases secondHere : secondOld.key = (workspace, id)
    · rw [if_pos (beq_iff_eq.mpr secondHere)] at secondEq
      subst firstEq secondEq
      exact absurd sameName (free firstOld firstOldMem firstHere
        (sameWorkspace.trans (congrArg Prod.fst secondHere)) sameParent)
    · rw [if_neg (by simpa using secondHere)] at secondEq
      subst firstEq secondEq
      exact unique firstOld firstOldMem secondOld secondOldMem sameWorkspace sameParent sameName

/-- Removing a folder keeps the names of siblings apart exactly when the
promoted folders bring no name that is taken. -/
theorem Removed.siblings_iff {folder : FolderRow} {reparented moved deleted : TreeDb}
    (removed : Removed workspace id folder before reparented moved deleted after)
    (forest : Forest (before.parent workspace)) (unique : SiblingsUnique before) :
    SiblingsUnique after ↔ PromotesDistinctNames before workspace id := by
  rcases find?_eq_some_iff.mp removed.found with ⟨folderMem, folderKey⟩
  have notOwnParent : folder.parentId ≠ some id := by
    intro loop
    apply forest.acyclic id
    exact Relation.TransGen.single (removed.parent_before.trans (congrArg some loop))
  constructor
  · intro afterUnique other found child childMem childHere childBelow sibling siblingMem
      siblingHere siblingBeside different sameName
    rw [removed.found] at found
    cases found
    have childKept : child.key ≠ (workspace, id) := by
      intro childKey
      have same := eq_of_key_eq childMem folderMem (childKey.trans folderKey.symm)
      exact notOwnParent (same ▸ childBelow)
    have siblingKept : sibling.key ≠ (workspace, id) := fun siblingKey =>
      different (congrArg Prod.snd siblingKey)
    -- Both rows are in the new place under one name.
    have same := afterUnique { child with parentId := folder.parentId }
      (removed.mem_folders_iff.mpr ⟨child, childMem, childKept, by
        simp [childHere, promotedPlace, childBelow]⟩)
      sibling
      (removed.mem_folders_iff.mpr ⟨sibling, siblingMem, siblingKept, by
        rw [if_pos siblingHere, promotedPlace,
          if_neg fun loop => notOwnParent (siblingBeside.symm.trans loop)]⟩)
      (childHere.trans siblingHere.symm) siblingBeside.symm sameName
    have sameKey : child.key = sibling.key := by rw [← same]
    have sameRow := eq_of_key_eq childMem siblingMem sameKey
    rw [← sameRow, childBelow] at siblingBeside
    exact notOwnParent siblingBeside.symm
  · intro distinct first firstMem second secondMem sameWorkspace sameParent sameName
    rcases removed.mem_folders_iff.mp firstMem with ⟨firstOld, firstOldMem, firstKept, rfl⟩
    rcases removed.mem_folders_iff.mp secondMem with ⟨secondOld, secondOldMem, secondKept, rfl⟩
    have workspaces : firstOld.workspaceId = secondOld.workspaceId := by
      split at sameWorkspace <;> split at sameWorkspace <;> exact sameWorkspace
    have names : firstOld.name = secondOld.name := by
      split at sameName <;> split at sameName <;> exact sameName
    by_cases here : firstOld.workspaceId = workspace
    · have secondHere := workspaces.symm.trans here
      rw [if_pos here, if_pos secondHere] at sameParent
      have differs : ∀ {row other : FolderRow}, row ∈ before.folders → other ∈ before.folders →
          row.workspaceId = workspace → other.workspaceId = workspace →
          other.key ≠ (workspace, id) → row.parentId = some id →
          other.parentId = folder.parentId → row.name ≠ other.name := by
        intro row other rowMem otherMem rowHere otherHere otherKept rowBelow otherBeside
        refine distinct folder removed.found row rowMem rowHere rowBelow other otherMem otherHere
          otherBeside fun idEq => otherKept ?_
        rw [FolderRow.key, otherHere, idEq]
      have sameOld : firstOld = secondOld := by
        by_cases firstBelow : firstOld.parentId = some id
        · by_cases secondBelow : secondOld.parentId = some id
          · exact unique firstOld firstOldMem secondOld secondOldMem workspaces
              (firstBelow.trans secondBelow.symm) names
          · simp only [promotedPlace, firstBelow, secondBelow, if_true, if_false] at sameParent
            exact absurd names (differs firstOldMem secondOldMem here secondHere secondKept
              firstBelow sameParent.symm)
        · by_cases secondBelow : secondOld.parentId = some id
          · simp only [promotedPlace, firstBelow, secondBelow, if_true, if_false] at sameParent
            exact absurd names.symm (differs secondOldMem firstOldMem secondHere here firstKept
              secondBelow sameParent)
          · simp only [promotedPlace, firstBelow, secondBelow, if_false] at sameParent
            exact unique firstOld firstOldMem secondOld secondOldMem workspaces sameParent names
      rw [sameOld]
    · have secondElsewhere : secondOld.workspaceId ≠ workspace := workspaces ▸ here
      rw [if_neg here, if_neg secondElsewhere] at sameParent ⊢
      exact unique firstOld firstOldMem secondOld secondOldMem workspaces sameParent names

end
end Treer.Tree
