import Treer.Policy.PathMatch
import Treer.Policy.Snapshot
import Treer.Tree.Resolution

/-!
# What it means to lie below a folder

A rule can name a folder by its ID, by its path, through a variable bound to
either, or as the folder of the subject. On contexts of one Tree all of them
say the same: the target is the folder or lies below it, and under `strict` it
is neither the folder nor placed directly in it.

Matching compares IDs with the IDs above the target and paths with the paths
above it. That the two agree rests on paths that determine their folder, and
so on folder names without slashes.
-/

namespace Treer.Policy

open Foundation Protocol Treer.Tree WorkloadFolder Tree.Sample List Option Bool

/-- The nodes that `load` describes: folders, and Agents and Apps with their placement. -/
inductive TreeNode where
  | folder (folder : WorkloadFolder)
  | workload (id name : String) (isApp : Bool) (placement : Option WorkloadPlacement)

namespace TreeNode

/-- Where the node is placed. -/
def place : TreeNode → Option String
  | .folder row => row.parentId
  | .workload _ _ _ placement => placement.bind WorkloadPlacement.folderId

/-- The node is the folder at a place. -/
def IsAt (node : TreeNode) (place : Option String) : Prop :=
  ∃ row, node = .folder row ∧ some row.folderId = place

@[simp]
theorem isAt_folder {row : WorkloadFolder} {place : Option String} :
    (TreeNode.folder row).IsAt place ↔ some row.folderId = place := by
  constructor
  · rintro ⟨_, same, placeEq⟩
    cases same
    exact placeEq
  · intro placeEq
    exact ⟨row, rfl, placeEq⟩

@[simp]
theorem not_isAt_workload {id name : String} {isApp : Bool}
    {placement : Option WorkloadPlacement} {place : Option String} :
    ¬ (TreeNode.workload id name isApp placement).IsAt place := by
  rintro ⟨_, same, _⟩
  cases same

/-- A folder node is one of the folders of the tree. -/
def In (tree : WorkloadTree) : TreeNode → Prop
  | .folder row => row ∈ tree.folders
  | .workload .. => True

/-- The context that `load` makes for the node. -/
def context (tree : WorkloadTree) (revision : Nat) :
    TreeNode → Except ProtocolError PolicyTreeContext
  | .folder row => Policy.context tree revision row.folderId "folder" row.name row.parentId true
  | .workload id name isApp placement =>
    Policy.context tree revision id (if isApp then "app" else "agent") name
      (placement.bind WorkloadPlacement.folderId) placement.isSome

end TreeNode

/-- What the fields of a context say about the place of its node. -/
structure ContextAt (tree : WorkloadTree) (place : Option String) (chain : List String)
    (context : PolicyTreeContext) : Prop where
  walk : Ancestry tree.parent place chain
  folderId : context.folderId = place
  folderPath : context.folderPath = Path.render (chain.map tree.folderName)
  ancestorIds : context.ancestorIds = chain
  ancestorPaths : ∀ path, path ∈ context.ancestorPaths ↔
    path = "/" ∨ ∃ id ∈ chain, tree.folderPath (some id) = .ok path
  path : context.path = Text.trimEndMatches context.folderPath '/' ++ "/" ++ context.name

section
variable {tree : WorkloadTree} {revision : Nat} {id kind name : String} {place : Option String}
  {placed : Bool} {target : PolicyTreeContext} {chain : List String} {node : TreeNode}
  {upper : Option String} {path : String}

theorem contextAt_of_ok (built : context tree revision id kind name place placed = .ok target) :
    ∃ chain, ContextAt tree place chain target ∧ target.nodeId = id ∧ target.kind = kind ∧
      target.name = name := by
  rcases bind_eq_ok_iff.mp built with ⟨_, written, rest⟩
  rcases bind_eq_ok_iff.mp rest with ⟨_, climbed, rest⟩
  rcases bind_eq_ok_iff.mp rest with ⟨_, collected, rest⟩
  cases rest
  rcases ancestry_of_folderPath written with ⟨chain, walk, rfl⟩
  have visited : climb (visitAncestor tree) (tree.folders.length + 1) [] place =
      .ok (chain ++ []) := by
    apply climb_of_ancestry walk
    · intro seen id _ fresh above found
      rw [visitAncestor, if_neg (by simpa using fresh)]
      rcases map_eq_some_iff.mp found with ⟨_, lookup, rfl⟩
      rw [lookup]
      rfl
    · exact Nat.le_succ_of_le (length_le_of_ancestry walk)
    · simp
  rw [climbed, append_nil] at visited
  cases visited
  refine ⟨_, ⟨walk, rfl, rfl, rfl, ?_, rfl⟩, rfl, rfl, rfl⟩
  intro path
  rw [mem_cons, mem_of_mapM_eq_ok collected]

theorem contextAt_of_node (built : node.context tree revision = .ok target) :
    ∃ chain, ContextAt tree node.place chain target := by
  cases node with
  | folder | workload =>
    rcases contextAt_of_ok built with ⟨chain, at_, _⟩
    exact ⟨chain, at_⟩

section
variable (named : NamedTree tree) (fields : ContextAt tree place chain target)
  (written : tree.folderPath upper = .ok path)
include named fields written

/-- The paths above a target are those of the places it lies within. -/
theorem ContextAt.mem_ancestorPaths :
    path ∈ target.ancestorPaths ↔ Within tree.parent place upper := by
  rcases ancestry_of_folderPath written with ⟨_, upperWalk, rfl⟩
  rw [fields.ancestorPaths, fields.walk.within_iff]
  constructor
  · rintro (isRoot | ⟨id, mem, same⟩)
    · cases named.place_unique upperWalk .top isRoot
      simp
    · rcases ancestry_of_folderPath same with ⟨_, walk, otherEq⟩
      cases named.place_unique upperWalk walk otherEq
      simpa using mem
  · intro members
    cases upper with
    | none =>
      cases upperWalk
      exact .inl rfl
    | some id => exact .inr ⟨id, members id rfl, written⟩

theorem ContextAt.folderPath_eq_iff : target.folderPath = path ↔ place = upper := by
  rcases ancestry_of_folderPath written with ⟨_, upperWalk, rfl⟩
  rw [fields.folderPath]
  constructor
  · intro same
    exact named.place_unique fields.walk upperWalk same
  · rintro rfl
    rw [fields.walk.unique upperWalk]

end

/-- Only the context of a folder says that it is one, and it has the ID of the
folder. -/
theorem isFolder_id_iff (built : node.context tree revision = .ok target) :
    (target.kind == "folder" && target.nodeId == id) = true ↔ node.IsAt (some id) := by
  cases node with
  | folder =>
    rcases contextAt_of_ok built with ⟨_, _, idEq, kindEq, _⟩
    simp [idEq, kindEq]
  | workload _ name isApp =>
    rcases contextAt_of_ok built with ⟨_, _, _, kindEq, _⟩
    cases isApp <;> simp [kindEq]

theorem parent_of_mem (ids : (tree.folders.map folderId).Nodup)
    {row : WorkloadFolder} (mem : row ∈ tree.folders) :
    tree.parent row.folderId = some row.parentId ∧ tree.folderName row.folderId = row.name := by
  have found : tree.findFolder row.folderId = some row := by
    have only : (tree.folders.filter fun other => other.folderId == row.folderId) = [row] := by
      apply filter_eq_singleton_of_nodup_map ids mem
      simp
    rw [WorkloadTree.findFolder, ← head?_filter, only]
    rfl
  rw [WorkloadTree.parent, WorkloadTree.folderName, found]
  exact ⟨rfl, rfl⟩

/-- The context of a folder has the path of the folder. -/
theorem isFolder_path_iff (named : NamedTree tree)
    (ids : (tree.folders.map folderId).Nodup) (inTree : node.In tree)
    (built : node.context tree revision = .ok target) (written : tree.folderPath upper = .ok path) :
    (target.kind == "folder" && target.path == path) = true ↔ node.IsAt upper := by
  cases node with
  | folder row =>
    rcases contextAt_of_ok built with ⟨chain, fields, _, kindEq, nameEq⟩
    rcases parent_of_mem ids inTree with ⟨found, rowName⟩
    have walk : Ancestry tree.parent (some row.folderId) (chain ++ [row.folderId]) :=
      .node found fields.walk
    have components := named.components fields.walk
    have own : target.path = Path.render ((chain ++ [row.folderId]).map tree.folderName) := by
      rw [fields.path, fields.folderPath,
        Path.trimEndMatches_render fun part mem => (components part mem).plain, nameEq,
        map_append, map_singleton, rowName]
    rcases ancestry_of_folderPath written with ⟨above, upperWalk, rfl⟩
    have same : target.path = Path.render (above.map tree.folderName) ↔
        some row.folderId = upper := by
      rw [own]
      constructor
      · intro pathEq
        exact named.place_unique walk upperWalk pathEq
      · rintro rfl
        rw [walk.unique upperWalk]
    rw [TreeNode.isAt_folder, kindEq, ← same]
    simp
  | workload _ name isApp =>
    rcases contextAt_of_ok built with ⟨_, _, _, kindEq, _⟩
    cases isApp <;> simp [kindEq]

end

/-! ## The forms of a condition -/

/-- What a condition below a place is meant to say. -/
def LiesBelow (tree : WorkloadTree) (node : TreeNode) (place : Option String) (strict : Bool) :
    Prop :=
  (node.IsAt place ∨ Within tree.parent node.place place) ∧
    (strict = true → ¬ node.IsAt place ∧ node.place ≠ place)

/-- The subject of a request is placed directly at a place. -/
def SubjectAt (tree : WorkloadTree) (revision : Nat) (request : PolicyRequest)
    (place : Option String) : Prop :=
  ∃ (node : TreeNode) (subject : PolicyTreeContext), node.context tree revision = .ok subject ∧
    subject.placed = true ∧ node.place = place ∧ request.subjectTree = some subject

/-- The references to the folder at a place; the root has no ID. -/
inductive RefersTo (tree : WorkloadTree) (revision : Nat) (request : PolicyRequest)
    (place : Option String) : PolicyFolderRef → Prop where
  | id {id} (same : place = some id) : RefersTo tree revision request place (.id id)
  | path {path} (written : tree.folderPath place = .ok path) :
      RefersTo tree revision request place (.path path)
  | subject (placed : SubjectAt tree revision request place) :
      RefersTo tree revision request place (.field .subject)

/-- The conditions that say that the resource lies below a place. -/
inductive SaysBelow (tree : WorkloadTree) (revision : Nat) (bindings : BTreeMap PolicyFolderRef)
    (request : PolicyRequest) (place : Option String) (strict : Bool) :
    PolicyTreeCondition → Prop where
  | folder {reference} (refers : RefersTo tree revision request place reference) :
      SaysBelow tree revision bindings request place strict (.resourceBelowFolder reference strict)
  | bound {name reference} (binding : bindings.get? name = some reference)
      (refers : RefersTo tree revision request place reference) :
      SaysBelow tree revision bindings request place strict
        (.resourceBelowFolder (.variable name) strict)
  | subjectFolder (placed : SubjectAt tree revision request place) :
      SaysBelow tree revision bindings request place strict (.resourceBelowSubjectFolder strict)

section
variable {tree : WorkloadTree} {revision : Nat} {node : TreeNode} {target : PolicyTreeContext}
  {place : Option String} {request : PolicyRequest} {strict : Bool} {rule : WorkspacePolicyRule}

/-- The folder of a context is compared by ID, the root by its path. -/
theorem belowContext_iff (named : NamedTree tree)
    (built : node.context tree revision = .ok target) {path : String}
    (rootPath : place = none → path = "/") :
    belowContext target place path strict = true ↔ LiesBelow tree node place strict := by
  rcases contextAt_of_node built with ⟨_, fields⟩
  cases place with
  | some id =>
    have self : (target.kind == "folder" && target.nodeId == id) = true ↔ node.IsAt (some id) :=
      isFolder_id_iff built
    have above : target.ancestorIds.contains id = true ↔
        Within tree.parent node.place (some id) := by
      rw [contains_iff_mem, fields.ancestorIds, fields.walk.within_iff]
      simp
    have directly : target.folderId = node.place := fields.folderId
    cases strict <;>
      simp only [belowContext, LiesBelow, and_eq_true, or_eq_true, above, directly,
        bne_iff_ne, ne_eq, not_eq_true', ← not_eq_true] <;>
      grind
  | none =>
    have always : Within tree.parent node.place none := fields.walk.within_iff.mpr (by simp)
    have notFolder : ¬ node.IsAt none := by
      rintro ⟨_, _, none⟩
      cases none
    have root : tree.folderPath none = .ok "/" := folderPath_of_ancestry .top
    have directly := fields.folderPath_eq_iff named root
    cases strict <;> simp [belowContext, LiesBelow, rootPath rfl, always, notFolder, directly]

theorem folderMatchesDirect_iff (named : NamedTree tree)
    (ids : (tree.folders.map folderId).Nodup) (inTree : node.In tree)
    (built : node.context tree revision = .ok target) {reference : PolicyFolderRef}
    (refers : RefersTo tree revision request place reference) :
    folderMatchesDirect reference request target strict = true ↔
      LiesBelow tree node place strict := by
  cases refers with
  | @id id same =>
    subst same
    have notRoot : some id = none → "" = "/" := nofun
    exact belowContext_iff named built notRoot
  | path written =>
    rcases contextAt_of_node built with ⟨chain, fields⟩
    have self := isFolder_path_iff named ids inTree built written
    have above := fields.mem_ancestorPaths named written
    have directly := fields.folderPath_eq_iff named written
    cases strict <;>
      simp only [folderMatchesDirect, LiesBelow, and_eq_true, or_eq_true, self] <;>
      grind
  | subject placed =>
    rcases placed with ⟨subjectNode, subject, subjectBuilt, subjectPlaced, rfl, atSubject⟩
    rcases contextAt_of_node subjectBuilt with ⟨_, fields⟩
    have rootPath : subjectNode.place = none → subject.folderPath = "/" :=
      (fields.folderPath_eq_iff named (folderPath_of_ancestry .top)).mpr
    rw [← belowContext_iff named built rootPath]
    simp [folderMatchesDirect, atSubject, subjectPlaced, fields.folderId]

variable {condition : PolicyTreeCondition}

section
variable (named : NamedTree tree) (ids : (tree.folders.map folderId).Nodup)
  (inTree : node.In tree) (built : node.context tree revision = .ok target)
include named ids inTree built

theorem conditionMatches_iff
    (form : SaysBelow tree revision rule.bindings request place strict condition) :
    conditionMatches rule request target condition = true ↔ LiesBelow tree node place strict := by
  cases form with
  | folder refers =>
    rw [← folderMatchesDirect_iff named ids inTree built refers]
    cases refers <;> rfl
  | bound binding refers =>
    rw [← folderMatchesDirect_iff named ids inTree built refers]
    simp [conditionMatches, folderMatches, binding]
  | subjectFolder placed =>
    -- The condition reads the subject as the reference to its field does.
    rw [← folderMatchesDirect_iff named ids inTree built (.subject placed)]
    rfl

/-- A rule with such a condition alone matches the placed targets that lie below
the folder. -/
theorem conditionsMatch_iff (placed : target.placed = true)
    (resource : request.resourceTree = some target)
    (form : SaysBelow tree revision rule.bindings request place strict condition) :
    conditionsMatch { rule with conditions := [condition] } request = true ↔
      LiesBelow tree node place strict := by
  let single : WorkspacePolicyRule := { rule with conditions := [condition] }
  have atTarget : placedContext request.resourceTree = some target := by
    simp [placedContext, resource, placed]
  have alone : conditionsMatch single request =
      conditionMatches single request target condition := by
    simp [conditionsMatch, single, atTarget]
  rw [alone]
  exact conditionMatches_iff named ids inTree built form

end

/-- All ways to say that a resource lies below a folder match the same placed targets: the folder
and what lies below it, and under `strict` what lies deeper than directly in it. -/
theorem below_forms_agree (named : NamedTree tree)
    (ids : (tree.folders.map folderId).Nodup) (inTree : node.In tree)
    (built : node.context tree revision = .ok target) (placed : target.placed = true)
    (resource : request.resourceTree = some target) :
    (∀ condition, SaysBelow tree revision rule.bindings request place strict condition →
      (conditionsMatch { rule with conditions := [condition] } request = true ↔
        LiesBelow tree node place strict)) ∧
    ∀ first second, SaysBelow tree revision rule.bindings request place strict first →
      SaysBelow tree revision rule.bindings request place strict second →
      conditionsMatch { rule with conditions := [first] } request =
        conditionsMatch { rule with conditions := [second] } request := by
  constructor
  · intro condition form
    exact conditionsMatch_iff named ids inTree built placed resource form
  · intro first second firstForm secondForm
    rw [Bool.eq_iff_iff, conditionsMatch_iff named ids inTree built placed resource firstForm,
      conditionsMatch_iff named ids inTree built placed resource secondForm]

end

namespace Sample

def worker : TreeNode :=
  .workload "ag_1" "worker" false (some ⟨"ag_1", some "folder_2", 0⟩)

def leader : TreeNode :=
  .workload "ag_2" "leader" false (some ⟨"ag_2", some "folder_1", 0⟩)

def workerContext : PolicyTreeContext where
  nodeId := "ag_1"
  kind := "agent"
  name := "worker"
  path := "/team/folder_1/worker"
  folderId := some "folder_2"
  folderPath := "/team/folder_1"
  ancestorIds := ["folder_1", "folder_2"]
  ancestorPaths := ["/", "/team", "/team/folder_1"]
  placed := true
  treeRevision := 1

def leaderContext : PolicyTreeContext where
  nodeId := "ag_2"
  kind := "agent"
  name := "leader"
  path := "/team/leader"
  folderId := some "folder_1"
  folderPath := "/team"
  ancestorIds := ["folder_1"]
  ancestorPaths := ["/", "/team"]
  placed := true
  treeRevision := 1

/-- The leader asks for something of the worker in the nested tree. -/
def request : PolicyRequest where
  workspaceId := "workspace"
  subject := .agent "server" "ag_2"
  action := "agent.prompt"
  resource := { kind := "agent", id := "ag_1" }
  subjectTree := some leaderContext
  resourceTree := some workerContext
  treeRevision := some 1

def rule : WorkspacePolicyRule where
  id := "rule"
  priority := 0
  effect := .allow
  subjects := []
  actions := []
  resources := []

/-- One folder has a slash in its name, so that its path is that of another. -/
def ambiguous : WorkloadTree where
  folders := [⟨"folder_1", "a", none⟩, ⟨"folder_2", "b", some "folder_1"⟩,
    ⟨"folder_3", "a/b", none⟩]
  placements := [⟨"ag_1", some "folder_3", 0⟩]

def ambiguousContext : PolicyTreeContext where
  nodeId := "ag_1"
  kind := "agent"
  name := "worker"
  path := "/a/b/worker"
  folderId := some "folder_3"
  folderPath := "/a/b"
  ancestorIds := ["folder_3"]
  ancestorPaths := ["/", "/a/b"]
  placed := true
  treeRevision := 1

end Sample

open Sample

/-- The worker lies below the folder of the leader, deeper than directly in it. -/
theorem below_forms_agree_nested :
    conditionsMatch { rule with conditions := [.resourceBelowSubjectFolder true] }
        request =
      conditionsMatch { rule with
        conditions := [.resourceBelowFolder (.path "/team") true] } request ∧
    (conditionsMatch { rule with
        conditions := [.resourceBelowFolder (.id "folder_1") true] } request = true ↔
      LiesBelow nested worker (some "folder_1") true) := by
  have built : worker.context nested 1 = .ok workerContext := by decide
  have subject : SubjectAt nested 1 request (some "folder_1") :=
    ⟨leader, leaderContext, by decide, rfl, rfl, rfl⟩
  have agree := @below_forms_agree nested 1 worker workerContext
    (some "folder_1") request true rule nested_addressable.toNamedTree
    (by decide) trivial built rfl rfl
  exact ⟨agree.2 _ _ (.subjectFolder subject) (.folder (.path (by decide))),
    agree.1 _ (.folder (.id rfl))⟩

/-- A folder named with a slash shares its path with another, and the path then matches what the ID
does not. -/
theorem slash_in_name_separates_forms : Acyclic (ParentEdge ambiguous.parent) ∧
    (∀ folder ∈ ambiguous.folders, IsPlace ambiguous folder.parentId) ∧
    (ambiguous.folders.map fun folder => (folder.parentId, folder.name)).Nodup ∧
    (ambiguous.folders.map folderId).Nodup ∧
    context ambiguous 1 "ag_1" "agent" "worker" (some "folder_3") true = .ok ambiguousContext ∧
    ambiguous.folderPath (some "folder_2") = .ok "/a/b" ∧
    conditionsMatch { rule with
        conditions := [.resourceBelowFolder (.path "/a/b") false] }
      { request with resourceTree := some ambiguousContext } = true ∧
    conditionsMatch { rule with
        conditions := [.resourceBelowFolder (.id "folder_2") false] }
      { request with resourceTree := some ambiguousContext } = false := by
  refine ⟨?_, by decide, by decide, by decide, by decide, by decide, by decide, by decide⟩
  apply acyclic_of_folder_rank fun id => if id = "folder_2" then 1 else 0
  decide

end Treer.Policy
