import Treer.Foundation.FirstMatch
import Treer.Protocol.Targets
import Treer.Tree.Store

/-!
# Tree paths and target resolution

`folder_path` and `workload_path` write the names from the root down;
`resolve_folder_path` and `resolve_target` read them. The two validators keep
names readable: a valid name is one visible component that is neither `.` nor
`..`. On trees whose names are valid and unique, resolution is the inverse of
writing the path, and every relative path means what its components mean from
the root.

Stable IDs are tried before paths. A text that is the ID of a folder or of a
workload is therefore never read as a path.
-/

namespace Treer.Tree

open Foundation Protocol List Option Text Path
open WorkloadTree (pushComponent pathComponents folderName visitFolder parent folderPath noFolderAt
  resolveFolderPath startComponents destination workloadIn)

/-- A name that stands for itself in a path. -/
structure Component (name : String) : Prop where
  plain : Path.Plain name
  notDot : name ≠ "."
  notDotDot : name ≠ ".."
  trimmed : Text.trim name = name
  printable : Text.hasControl name = false

variable {name : String}

theorem component_of_validateFolderName
    (valid : validateFolderName name = .ok name) : Component name := by
  rcases bind_eq_ok_iff.mp valid with ⟨checked, resource, rest⟩
  have trimmed : trim name = checked ∧ checked ≠ "" ∧ hasControl checked = false := by
    simp only [validateResourceName] at resource
    split at resource
    · cases resource
    rename_i accepted
    cases resource
    simp only [Bool.or_eq_true, not_or, beq_iff_eq, Bool.not_eq_true] at accepted
    exact ⟨rfl, accepted.1.1, accepted.2⟩
  split at rest
  · cases rest
  rename_i accepted
  cases rest
  simp only [Bool.or_eq_true, not_or, containsChar] at accepted
  exact {
    plain := ⟨trimmed.2.1, by simpa using accepted.1⟩
    notDot := fun same => accepted.2 (by simp [same])
    notDotDot := fun same => accepted.2 (by simp [same])
    trimmed := trimmed.1
    printable := trimmed.2.2 }

theorem component_of_validateWorkloadLabel
    (valid : validateWorkloadLabel name = .ok ()) : Component name := by
  simp only [validateWorkloadLabel] at valid
  split at valid
  · cases valid
  rename_i accepted
  simp only [Bool.or_eq_true, not_or, bne_iff_ne, ne_eq, not_not, beq_iff_eq,
    Bool.not_eq_true, containsChar] at accepted
  rcases accepted with ⟨⟨⟨⟨⟨⟨visible, trimmed⟩, reserved⟩, slash⟩, printable⟩, _⟩, _⟩
  exact {
    plain := ⟨visible, by simpa using slash⟩
    notDot := by
      rintro rfl
      simp at reserved
    notDotDot := by
      rintro rfl
      simp at reserved
    trimmed := trimmed
    printable := printable }

variable {tree : WorkloadTree} {path : String}

section
variable {parts names : List String} {cwd : Option String}

theorem pushComponent_of_component (component : Component name) :
    pushComponent parts name = .ok (parts ++ [name]) := by
  simp [pushComponent, component.plain.1, component.notDot, component.notDotDot,
    component.trimmed, component.printable]

/-- What a round of the loop adds is a component. -/
theorem component_of_pushComponent {after : List String} (slashFree : '/' ∉ name.toList)
    (pushed : pushComponent parts name = .ok after)
    (before : ∀ part ∈ parts, Component part) : ∀ part ∈ after, Component part := by
  simp only [pushComponent] at pushed
  split at pushed
  · cases pushed
    exact before
  rename_i notDot
  split at pushed
  · cases pushed
    intro part mem
    exact before part (mem_of_mem_dropLast mem)
  · rename_i notDotDot
    split at pushed
    · cases pushed
    rename_i visible
    cases pushed
    simp only [Bool.or_eq_true, not_or, beq_iff_eq, bne_iff_ne, ne_eq, not_not,
      Bool.not_eq_true] at notDot notDotDot visible
    intro part mem
    rcases mem_append.mp mem with earlier | last
    · exact before part earlier
    · cases mem_singleton.mp last
      exact ⟨⟨notDot.1, slashFree⟩, notDot.2, notDotDot, visible.1, visible.2⟩

theorem foldlM_pushComponent (components : ∀ name ∈ names, Component name) :
    names.foldlM pushComponent parts = .ok (parts ++ names) := by
  induction names generalizing parts with
  | nil => simp [pure, Except.pure]
  | cons name rest ih =>
    rw [forall_mem_cons] at components
    rw [foldlM_cons, pushComponent_of_component components.1, ok_bind, ih components.2]
    simp

theorem trim_render_ne_empty : trim (render parts) ≠ "" := trim_ne_empty toList_render (by decide)

theorem startsWith_render : startsWith (render parts) "/" = true := by
  simp [startsWith]

/-- The components of an absolute path are those it was written from. -/
theorem pathComponents_render (components : ∀ part ∈ parts, Component part) :
    tree.pathComponents (render parts) cwd = .ok parts := by
  have start : tree.startComponents (render parts) cwd = .ok [] := if_pos startsWith_render
  rw [pathComponents, if_neg (by simpa using trim_render_ne_empty), start, ok_bind]
  by_cases empty : parts = []
  · subst empty
    decide
  · rw [split_render empty fun part mem => (components part mem).plain, foldlM_cons]
    have skipped : pushComponent [] "" = .ok [] := rfl
    rw [skipped, ok_bind, foldlM_pushComponent components, nil_append]

end

variable {place : Option String} {chain : List String} {id : String}

section
theorem mem_of_parent (found : tree.parent id = some place) :
    ∃ folder ∈ tree.folders, tree.findFolder id = some folder ∧ folder.folderId = id ∧
      folder.parentId = place ∧ folder.name = tree.folderName id := by
  rcases map_eq_some_iff.mp found with ⟨folder, lookup, parentEq⟩
  have matched := find?_some lookup
  have named : folder.name = tree.folderName id := by
    rw [folderName, lookup]
    rfl
  exact ⟨folder, mem_of_find?_eq_some lookup, lookup, by simpa using matched, parentEq, named⟩

theorem mem_ids_of_parent (found : tree.parent id = some place) :
    id ∈ tree.folders.map WorkloadFolder.folderId := by
  rcases mem_of_parent found with ⟨_, mem, _, rfl, _⟩
  exact mem_map_of_mem mem

theorem visitFolder_eq_ok_iff {seen : List String} :
    tree.visitFolder seen id = .ok place ↔ tree.parent id = some place ∧ id ∉ seen := by
  rw [visitFolder, parent]
  by_cases repeated : id ∈ seen
  · simp [repeated]
  · cases tree.findFolder id <;> simp [repeated]

theorem length_le_of_ancestry (walk : Ancestry tree.parent place chain) :
    chain.length ≤ tree.folders.length := by
  have sub : ∀ id ∈ chain, id ∈ tree.folders.map WorkloadFolder.folderId := by
    intro id mem
    rcases walk.exists_parent mem with ⟨_, found⟩
    exact mem_ids_of_parent found
  simpa using (subperm_of_subset walk.nodup sub).length_le

/-- The path of a place holds the names of its ancestry. -/
theorem folderPath_of_ancestry (walk : Ancestry tree.parent place chain) :
    tree.folderPath place = .ok (render (chain.map tree.folderName)) := by
  have climbed : climb tree.visitFolder (tree.folders.length + 1) [] place = .ok (chain ++ []) := by
    apply climb_of_ancestry walk
    · intro seen id _ fresh place found
      exact visitFolder_eq_ok_iff.mpr ⟨found, fresh⟩
    · exact Nat.le_succ_of_le (length_le_of_ancestry walk)
    · simp
  rw [folderPath, climbed, ok_bind, append_nil]

theorem ancestry_of_folderPath (written : tree.folderPath place = .ok path) :
    ∃ chain, Ancestry tree.parent place chain ∧ path = render (chain.map tree.folderName) := by
  rcases bind_eq_ok_iff.mp written with ⟨ids, climbed, rendered⟩
  cases rendered
  have walked : ∃ above, Ancestry tree.parent place above ∧ ids = above ++ [] := by
    apply ancestry_of_climb _ _ _ nodup_nil _ climbed
    · exact tree.folders.map WorkloadFolder.folderId
    · intro seen id above visited
      exact visitFolder_eq_ok_iff.mp visited
    · intro id above found
      exact mem_ids_of_parent found
    · simp
    · simp
  rcases walked with ⟨chain, walk, idsEq⟩
  rw [append_nil] at idsEq
  exact ⟨chain, walk, by rw [idsEq]⟩

end

/-- The place is the root or a folder of the tree. -/
def IsPlace (tree : WorkloadTree) (place : Option String) : Prop :=
  ∀ id ∈ place, (tree.parent id).isSome = true
deriving Decidable

/-- What holds of all folder names holds of those above a place. -/
theorem forall_names_of_walk {holds : String → Prop}
    (folders : ∀ folder ∈ tree.folders, holds folder.name)
    (walk : Ancestry tree.parent place chain) :
    ∀ name ∈ chain.map tree.folderName, holds name := by
  intro name mem
  rcases mem_map.mp mem with ⟨_, idMem, rfl⟩
  rcases walk.exists_parent idMem with ⟨_, found⟩
  rcases mem_of_parent found with ⟨folder, folderMem, _, _, _, nameEq⟩
  rw [← nameEq]
  exact folders folder folderMem

/-- An acyclic tree of folders with valid names, unique among siblings. -/
structure NamedTree (tree : WorkloadTree) : Prop where
  acyclic : Acyclic (ParentEdge tree.parent)
  parents : ∀ folder ∈ tree.folders, IsPlace tree folder.parentId
  folderNames : ∀ folder ∈ tree.folders, validateFolderName folder.name = .ok folder.name
  siblings : (tree.folders.map fun folder => (folder.parentId, folder.name)).Nodup

/-- The workloads in a named tree have valid names, unique in each folder. -/
structure Addressable (tree : WorkloadTree) (rows : List WorkloadTarget) : Prop extends
    NamedTree tree where
  workloadNames : ∀ row ∈ rows, validateWorkloadLabel row.name = .ok ()
  workloads : (rows.map fun row => (tree.containingFolder row.id, row.name)).Nodup

/-- No stable ID is an absolute path. -/
structure StableIds (tree : WorkloadTree) (rows : List WorkloadTarget) : Prop where
  folders : ∀ folder ∈ tree.folders, Text.startsWith folder.folderId "/" = false
  workloads : ∀ row ∈ rows, Text.startsWith row.id "/" = false

variable {rows : List WorkloadTarget}

section
variable {cwd : Option String} {parts : List String}

namespace NamedTree

section
variable (named : NamedTree tree)
include named

theorem forest : Forest tree.parent := by
  apply Forest.of_acyclic (fun _ _ found => mem_ids_of_parent found) _ named.acyclic
  intro child id edge
  rcases mem_of_parent edge with ⟨folder, mem, _, _, parentEq, _⟩
  exact isSome_iff_exists.mp (named.parents folder mem id parentEq)

theorem ancestry (isPlace : IsPlace tree place) : ∃ chain, Ancestry tree.parent place chain := by
  cases place with
  | none => exact ⟨[], .top⟩
  | some id =>
    rcases isSome_iff_exists.mp (isPlace id rfl) with ⟨_, found⟩
    exact named.forest.ancestry found

theorem components (walk : Ancestry tree.parent place chain) :
    ∀ name ∈ chain.map tree.folderName, Component name :=
  forall_names_of_walk
    (fun folder mem => component_of_validateFolderName (named.folderNames folder mem)) walk

/-- A folder is the only one of its name below its parent. -/
theorem only_child {folder : WorkloadFolder} (mem : folder ∈ tree.folders) :
    (tree.folders.filter fun other =>
      other.parentId == folder.parentId && other.name == folder.name) = [folder] := by
  apply filter_eq_singleton_of_nodup_map named.siblings mem
  simp

theorem childFolder (found : tree.parent id = some place) :
    tree.childFolder path place (tree.folderName id) = .ok id := by
  rcases mem_of_parent found with ⟨_, mem, _, rfl, rfl, nameEq⟩
  rw [WorkloadTree.childFolder, ← nameEq, named.only_child mem]

/-- The names of an ancestry lead back to its end. -/
theorem descend_names (walk : Ancestry tree.parent place chain) :
    descend (tree.childFolder path) none (chain.map tree.folderName) = .ok place := by
  apply descend_of_ancestry walk
  intro id _ above found
  exact named.childFolder found

/-- The names of the folders from the root down determine the place. -/
theorem place_unique {other : Option String} {otherChain : List String}
    (walk : Ancestry tree.parent place chain) (otherWalk : Ancestry tree.parent other otherChain)
    (same : render (chain.map tree.folderName) =
      render (otherChain.map tree.folderName)) : place = other := by
  have names : chain.map tree.folderName = otherChain.map tree.folderName :=
    render_injective (fun part mem => (named.components walk part mem).plain)
      (fun part mem => (named.components otherWalk part mem).plain) same
  have reached : descend (tree.childFolder "") none (chain.map tree.folderName) = .ok place :=
    named.descend_names walk
  rw [names, named.descend_names otherWalk] at reached
  cases reached
  rfl

/-- Every walk down ends at the same place whatever path it is reported for, or at a missing folder.
-/
theorem descend_cases (place : Option String) (parts : List String) :
    (∃ reached, ∀ path, descend (tree.childFolder path) place parts = .ok reached) ∨
      ∀ path, descend (tree.childFolder path) place parts = .error (noFolderAt path) := by
  induction parts generalizing place with
  | nil => exact .inl ⟨place, fun _ => rfl⟩
  | cons name rest ih =>
    simp only [descend, WorkloadTree.childFolder]
    cases children : tree.folders.filter fun folder =>
        folder.parentId == place && folder.name == name with
    | nil => exact .inr fun _ => rfl
    | cons folder others =>
      have mem : folder ∈ folder :: others := mem_cons_self
      rw [← children, mem_filter, Bool.and_eq_true, beq_iff_eq, beq_iff_eq] at mem
      rcases mem with ⟨folderMem, rfl, rfl⟩
      rw [named.only_child folderMem] at children
      cases children
      exact ih (some folder.folderId)

end
end NamedTree

theorem StableIds.findFolder_render (stable : StableIds tree rows) :
    tree.findFolder (render parts) = none := by
  apply find?_eq_none.mpr
  intro folder mem same
  have notPath := stable.folders folder mem
  rw [beq_iff_eq.mp same, startsWith_render] at notPath
  cases notPath

/-- Resolving an absolute path walks down from the root. -/
theorem resolveFolderPath_render (stable : StableIds tree rows)
    (components : ∀ part ∈ parts, Component part) :
    tree.resolveFolderPath (render parts) cwd =
      descend (tree.childFolder (render parts)) none parts := by
  rw [resolveFolderPath, stable.findFolder_render]
  rw [pathComponents_render components, ok_bind]

theorem resolveFolderPath_of_ancestry (addressable : Addressable tree rows)
    (stable : StableIds tree rows) (walk : Ancestry tree.parent place chain) :
    tree.resolveFolderPath (render (chain.map tree.folderName)) cwd = .ok place := by
  rw [resolveFolderPath_render stable (addressable.components walk)]
  exact addressable.descend_names walk

/-- A relative path starts with the names above the folder of the caller. -/
theorem NamedTree.components_of_startComponents (named : NamedTree tree)
    (started : tree.startComponents path cwd = .ok parts) : ∀ part ∈ parts, Component part := by
  rw [startComponents] at started
  split at started
  · cases started
    simp
  rcases bind_eq_ok_iff.mp started with ⟨_, written, rest⟩
  cases rest
  rcases ancestry_of_folderPath written with ⟨_, walk, rfl⟩
  have components := named.components walk
  rw [filter_split_render fun part mem => (components part mem).plain]
  exact components

/-- The components of a path are readable names. -/
theorem NamedTree.components_of_pathComponents (named : NamedTree tree)
    (read : tree.pathComponents path cwd = .ok parts) : ∀ part ∈ parts, Component part := by
  rw [pathComponents] at read
  split at read
  · cases read
  rcases bind_eq_ok_iff.mp read with ⟨_, started, folded⟩
  apply foldlM_invariant _ folded (named.components_of_startComponents started)
  intro before name after mem pushed components
  exact component_of_pushComponent (not_mem_of_mem_split mem) pushed components

end

/-- A text that `resolve_target` reads as the path or the name of a workload. -/
structure IsTargetPath (rows : List WorkloadTarget) (target : String) : Prop where
  notSelf : target ≠ "self"
  notAgentId : Text.startsWith target "ag_" = false
  notAppId : Text.startsWith target "app_" = false
  notRowId : ∀ row ∈ rows, row.id ≠ target
  namesWorkload : ∀ last, (Text.split target '/').getLast? = some last →
    last ≠ "" ∧ last ≠ "." ∧ last ≠ ".."

section
variable {caller cwd folder : Option String} {parts above : List String} {target last : String}

theorem isTargetPath_render (stable : StableIds tree rows)
    (components : ∀ part ∈ above ++ [last], Component part) :
    IsTargetPath rows (render (above ++ [last])) where
  notSelf same := by
    have start := congrArg String.toList same
    simp at start
  notAgentId := by
    rw [startsWith, toList_render]
    rfl
  notAppId := by
    rw [startsWith, toList_render]
    rfl
  notRowId row mem same := by
    have notPath := stable.workloads row mem
    rw [same, startsWith_render] at notPath
    cases notPath
  namesWorkload other lastEq := by
    rw [split_render (by simp) fun part mem => (components part mem).plain,
      ← cons_append, getLast?_concat, some.injEq] at lastEq
    subst lastEq
    have component := components last (by simp)
    exact ⟨component.plain.1, component.notDot, component.notDotDot⟩

/-- The last component of a target is what stands after its last slash. -/
theorem IsTargetPath.pathComponents_eq (isTarget : IsTargetPath rows target)
    (read : tree.pathComponents target cwd = .ok parts) :
    ∃ start init last, tree.startComponents target cwd = .ok start ∧
      split target '/' = init ++ [last] ∧
      ∃ above, init.foldlM pushComponent start = .ok above ∧ parts = above ++ [last] := by
  rw [pathComponents] at read
  split at read
  · cases read
  rcases bind_eq_ok_iff.mp read with ⟨start, started, folded⟩
  rcases eq_nil_or_concat' (split target '/') with empty | ⟨init, last, pieces⟩
  · exact absurd empty split_ne_nil
  rw [pieces, foldlM_append] at folded
  rcases bind_eq_ok_iff.mp folded with ⟨above, earlier, pushed⟩
  rcases bind_eq_ok_iff.mp pushed with ⟨_, lastPushed, rest⟩
  cases rest
  rcases isTarget.namesWorkload last (by rw [pieces, getLast?_concat]) with
    ⟨visible, notDot, notDotDot⟩
  rw [pushComponent, if_neg (by simp [visible, notDot]),
    if_neg (by simpa using notDotDot)] at lastPushed
  split at lastPushed
  · cases lastPushed
  · cases lastPushed
    exact ⟨start, init, last, started, pieces, above, earlier, rfl⟩

/-- A bare name is looked up in the folder of the caller, a path below the folder
that its other components lead to. -/
theorem destination_eq_ok_iff (addressable : Addressable tree rows) (stable : StableIds tree rows)
    (isTarget : IsTargetPath rows target)
    (read : tree.pathComponents target cwd = .ok (above ++ [last])) :
    tree.destination cwd target = .ok (folder, name) ↔
      tree.resolveFolderPath (render above) none = .ok folder ∧ name = last := by
  rcases isTarget.pathComponents_eq read with
    ⟨start, init, final, started, pieces, upper, earlier, partsEq⟩
  rcases append_inj' partsEq rfl with ⟨rfl, lastEq⟩
  cases lastEq
  cases slash : containsChar target '/' with
  | false =>
    -- The only piece is the target itself, and the walk starts at the caller's folder.
    rw [split_of_not_containsChar slash] at pieces
    rcases append_eq_singleton_iff.mp pieces.symm with ⟨rfl, single⟩ | ⟨_, none⟩
    · cases single
      cases earlier
      have relative : startsWith target "/" = false := by
        rw [Bool.eq_false_iff]
        intro absolute
        rcases isPrefixOf_iff_prefix.mp absolute with ⟨_, text⟩
        have mem : containsChar target '/' = true := by simp [containsChar, ← text]
        rw [slash] at mem
        cases mem
      rw [startComponents, if_neg (by simp [relative])] at started
      rcases bind_eq_ok_iff.mp started with ⟨_, written, filtered⟩
      cases filtered
      rcases ancestry_of_folderPath written with ⟨_, walk, rfl⟩
      have components := addressable.components walk
      rw [filter_split_render fun part mem => (components part mem).plain,
        resolveFolderPath_of_ancestry addressable stable walk, destination,
        if_pos (by simp [slash])]
      simp [eq_comm]
    · cases none
  | true =>
    have lastPiece : (split target '/').getLast? = some last := by rw [pieces, getLast?_concat]
    rcases isTarget.namesWorkload last lastPiece with ⟨visible, notDot, notDotDot⟩
    have notFolder : endsWithChar target '/' = false := by
      rw [Bool.eq_false_iff]
      intro ends
      rw [getLast?_split_of_endsWithChar ends, some.injEq] at lastPiece
      exact visible lastPiece.symm
    rw [destination, if_neg (by simp [slash]),
      if_neg (by simp [notFolder, lastPiece, notDot, notDotDot]), read, ok_bind]
    simp only [getLast?_concat, dropLast_concat, bind_eq_ok_iff]
    constructor
    · rintro ⟨_, resolved, pair⟩
      cases pair
      exact ⟨resolved, rfl⟩
    · rintro ⟨resolved, rfl⟩
      exact ⟨folder, resolved, rfl⟩

theorem workloadIn_eq_ok_iff : tree.workloadIn rows cwd target folder name = .ok id ↔
      ∃ row, (rows.filter fun row =>
        row.name == name && tree.containingFolder row.id == folder) = [row] ∧ row.id = id := by
  rw [workloadIn]
  split
  · rename_i row only
    simp [only]
  · rename_i none
    rw [none]
    split
    · simp [WorkloadTree.agentNotInFolder, bind_eq_ok_iff]
    · simp
  · rename_i many notSingle _
    constructor
    · intro failed
      cases failed
    · rintro ⟨row, only, _⟩
      exact absurd only (notSingle row)

/-- What a target path resolves to depends on its components only. -/
theorem resolveTarget_eq_ok_iff (addressable : Addressable tree rows)
    (stable : StableIds tree rows) (isTarget : IsTargetPath rows target)
    (read : tree.pathComponents target (caller.bind tree.containingFolder) =
      .ok (above ++ [last])) :
    tree.resolveTarget rows caller target = .ok id ↔
      ∃ folder row, tree.resolveFolderPath (render above) none = .ok folder ∧
        (rows.filter fun row =>
          row.name == last && tree.containingFolder row.id == folder) = [row] ∧ row.id = id := by
  have notDot : target ≠ "." := by
    rintro rfl
    exact (isTarget.namesWorkload "." (by decide)).2.1 rfl
  have notRow : rows.any (·.id == target) = false := by
    apply any_eq_false.mpr
    intro row mem same
    exact isTarget.notRowId row mem (beq_iff_eq.mp same)
  unfold WorkloadTree.resolveTarget
  rw [if_neg (by simp [isTarget.notSelf, notDot]),
    if_neg (by simp [isTarget.notAgentId, isTarget.notAppId, notRow]), bind_eq_ok_iff]
  constructor
  · rintro ⟨⟨folder, _⟩, found, resolved⟩
    rcases (destination_eq_ok_iff addressable stable isTarget read).mp found with
      ⟨reached, rfl⟩
    rcases workloadIn_eq_ok_iff.mp resolved with ⟨row, only, idEq⟩
    exact ⟨folder, row, reached, only, idEq⟩
  · rintro ⟨folder, row, reached, only, idEq⟩
    refine ⟨(folder, last), ?_, workloadIn_eq_ok_iff.mpr ⟨row, only, idEq⟩⟩
    exact (destination_eq_ok_iff addressable stable isTarget read).mpr ⟨reached, rfl⟩

end

section
/-- The written path of a workload resolves to it from everywhere. -/
theorem resolveTarget_workloadPath (addressable : Addressable tree rows)
    (stable : StableIds tree rows) {row : WorkloadTarget} (mem : row ∈ rows)
    (placed : IsPlace tree (tree.containingFolder row.id)) :
    ∃ path, tree.workloadPath row.id row.name = .ok path ∧
      ∀ caller, tree.resolveTarget rows caller path = .ok row.id := by
  rcases addressable.ancestry placed with ⟨chain, walk⟩
  have folders := addressable.components walk
  have components : ∀ part ∈ chain.map tree.folderName ++ [row.name], Component part := by
    intro part partMem
    rcases mem_append.mp partMem with folder | last
    · exact folders part folder
    · cases mem_singleton.mp last
      exact component_of_validateWorkloadLabel (addressable.workloadNames row mem)
  refine ⟨render (chain.map tree.folderName ++ [row.name]), ?_, ?_⟩
  · rw [WorkloadTree.workloadPath, folderPath_of_ancestry walk, ok_bind,
      trimEndMatches_render fun part partMem => (folders part partMem).plain]
  intro caller
  have isTarget := isTargetPath_render stable components
  apply (resolveTarget_eq_ok_iff addressable stable isTarget (pathComponents_render components)).mpr
  refine ⟨_, row, resolveFolderPath_of_ancestry addressable stable walk, ?_, rfl⟩
  apply filter_eq_singleton_of_nodup_map addressable.workloads mem
  simp [and_comm]

/-- On addressable trees whose stable IDs are not absolute paths, resolving is the inverse of
writing a path, and a text that is no ID is resolved by its components alone. -/
theorem resolution_inverts_paths (addressable : Addressable tree rows)
    (stable : StableIds tree rows) :
    (∀ row ∈ rows, IsPlace tree (tree.containingFolder row.id) →
      ∃ path, tree.workloadPath row.id row.name = .ok path ∧
        ∀ caller, tree.resolveTarget rows caller path = .ok row.id) ∧
    (∀ place, IsPlace tree place →
      ∃ path, tree.folderPath place = .ok path ∧
        ∀ cwd, tree.resolveFolderPath path cwd = .ok place) ∧
    (∀ path cwd parts, tree.pathComponents path cwd = .ok parts →
      (∀ folder ∈ tree.folders, folder.folderId ≠ path) → ∀ other,
        (∃ place, tree.resolveFolderPath path cwd = .ok place ∧
            tree.resolveFolderPath (render parts) other = .ok place) ∨
          (tree.resolveFolderPath path cwd = .error (noFolderAt path) ∧
            tree.resolveFolderPath (render parts) other = .error (noFolderAt (render parts)))) ∧
    (∀ target caller parts,
      tree.pathComponents target (caller.bind tree.containingFolder) = .ok parts →
      IsTargetPath rows target → ∀ other id,
        tree.resolveTarget rows caller target = .ok id ↔
          tree.resolveTarget rows other (render parts) = .ok id) := by
  refine ⟨?_, ?_, ?_, ?_⟩
  · intro row mem placed
    exact resolveTarget_workloadPath addressable stable mem placed
  · intro place isPlace
    rcases addressable.ancestry isPlace with ⟨_, walk⟩
    refine ⟨_, folderPath_of_ancestry walk, ?_⟩
    intro cwd
    exact resolveFolderPath_of_ancestry addressable stable walk
  · -- A path walks down its components from the root, whatever it is reported for.
    intro path cwd parts read notId other
    have absent : tree.findFolder path = none := by
      apply find?_eq_none.mpr
      intro folder mem same
      exact notId folder mem (beq_iff_eq.mp same)
    have own : tree.resolveFolderPath path cwd = descend (tree.childFolder path) none parts := by
      rw [resolveFolderPath, absent]
      rw [read, ok_bind]
    rw [own, resolveFolderPath_render stable (addressable.components_of_pathComponents read)]
    rcases addressable.descend_cases none parts with ⟨reached, arrives⟩ | missing
    · exact .inl ⟨reached, arrives _, arrives _⟩
    · exact .inr ⟨missing _, missing _⟩
  · intro target caller parts read isTarget other id
    have components := addressable.components_of_pathComponents read
    rcases isTarget.pathComponents_eq read with ⟨_, _, _, _, _, _, _, rfl⟩
    rw [resolveTarget_eq_ok_iff addressable stable isTarget read,
      resolveTarget_eq_ok_iff addressable stable (isTargetPath_render stable components)
        (pathComponents_render components)]

end

namespace Sample

/-- A tree whose inner folder is named like the ID of the outer one. -/
def nested : WorkloadTree where
  folders := [⟨"folder_1", "team", none⟩, ⟨"folder_2", "folder_1", some "folder_1"⟩]
  placements := [⟨"ag_1", some "folder_2", 0⟩, ⟨"ag_2", none, 0⟩]

def workers : List WorkloadTarget :=
  [⟨"ag_1", "worker"⟩, ⟨"ag_2", "worker"⟩]

/-- A tree in which an ID is the path of another folder. -/
def slashed : WorkloadTree where
  folders := [⟨"folder_1", "team", none⟩, ⟨"/team", "other", none⟩]
  placements := []

theorem acyclic_of_folder_rank (rank : String → Nat)
    (falls : ∀ folder ∈ tree.folders, ∀ above ∈ folder.parentId,
      rank above < rank folder.folderId) : Acyclic (ParentEdge tree.parent) := by
  apply acyclic_of_rank rank
  intro child above edge
  rcases mem_of_parent edge with ⟨folder, mem, _, rfl, parentEq, _⟩
  exact falls folder mem above parentEq

theorem nested_addressable : Addressable nested workers where
  acyclic := acyclic_of_folder_rank (fun id => if id = "folder_2" then 1 else 0) (by decide)
  parents := by decide
  folderNames := by decide
  siblings := by decide
  workloadNames := by decide
  workloads := by decide

theorem slashed_addressable : Addressable slashed [] where
  acyclic := acyclic_of_folder_rank (fun _ => 0) (by decide)
  parents := by decide
  folderNames := by decide
  siblings := by decide
  workloadNames := by decide
  workloads := by decide

theorem nested_stableIds : StableIds nested workers where
  folders := by decide
  workloads := by decide

end Sample

open Sample

/-- The nested tree meets the conditions: the path of its inner workload resolves
to it from the folder of the other one. -/
theorem resolution_inverts_paths_nested :
    nested.workloadPath "ag_1" "worker" = .ok "/team/folder_1/worker" ∧
      nested.resolveTarget workers (some "ag_2") "/team/folder_1/worker" = .ok "ag_1" := by
  have inverse := resolution_inverts_paths nested_addressable nested_stableIds
  rcases inverse.1 ⟨"ag_1", "worker"⟩ (by decide) (by decide) with ⟨_, written, resolves⟩
  have text : nested.workloadPath "ag_1" "worker" = .ok "/team/folder_1/worker" := by decide
  cases text.symm.trans written
  exact ⟨text, resolves (some "ag_2")⟩

/-- A text is tried as an ID first: `folder_1` read from `/team` is that folder and not the one at
`/team/folder_1`. An ID with a slash hides a path. Errors cite the text given. -/
theorem ids_shadow_paths :
    (Addressable nested workers ∧
      nested.pathComponents "folder_1" (some "folder_1") = .ok ["team", "folder_1"] ∧
      nested.resolveFolderPath "folder_1" (some "folder_1") = .ok (some "folder_1") ∧
      nested.resolveFolderPath (render ["team", "folder_1"]) none = .ok (some "folder_2")) ∧
    (Addressable slashed [] ∧ slashed.folderPath (some "folder_1") = .ok "/team" ∧
      slashed.resolveFolderPath "/team" none = .ok (some "/team")) ∧
    (nested.pathComponents "x" none = .ok ["x"] ∧
      nested.resolveFolderPath "x" none = .error (noFolderAt "x") ∧
      nested.resolveFolderPath (render ["x"]) none = .error (noFolderAt "/x") ∧
      noFolderAt "x" ≠ noFolderAt "/x") := by
  refine ⟨⟨nested_addressable, by decide⟩, ⟨slashed_addressable, by decide⟩, ?_⟩
  decide

end Treer.Tree
