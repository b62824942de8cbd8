import Treer.Tree.Folders

/-!
# The order in a folder

The placements of a folder are ordered by their positions. Every change numbers them again
from 0, in the same order.
-/

namespace Treer.Tree

open Foundation Protocol TreeDb Table

/-- The placements of a folder, by position. -/
def TreeDb.inOrder (db : TreeDb) (workspace : String) (folder : Option String) :
    List PlacementRow :=
  (db.placements.rows.filter (inFolder workspace folder)).insertionSort
    (Order.Preimage PlacementRow.position (· ≤ ·))

/-- The positions of the placements in each folder are distinct. -/
def Distinct (db : TreeDb) (workspace : String) : Prop :=
  ∀ folder, ((db.placements.rows.filter (inFolder workspace folder)).map (·.position)).Nodup

/-- The folder has exactly the given Agents, at positions from 0. -/
def Numbered (db : TreeDb) (workspace : String) (folder : Option String) (agents : List String) :
    Prop :=
  ∀ agent position, ⟨workspace, agent, folder, position⟩ ∈ db.placements ↔
    agents[position]? = some agent

/-- The rows are the placements of a folder, by position. -/
structure Ordered (db : TreeDb) (workspace : String) (folder : Option String)
    (rows : List PlacementRow) : Prop where
  mem : ∀ row, row ∈ rows ↔ row ∈ db.placements ∧ inFolder workspace folder row = true
  increasing : rows.Pairwise fun first second => first.position < second.position

variable {db before after : TreeDb} {workspace agent id : String} {folder : Option String}
  {rows : List PlacementRow}

theorem ordered_inOrder (distinct : Distinct db workspace) (folder : Option String) :
    Ordered db workspace folder (db.inOrder workspace folder) where
  mem row := by rw [inOrder, List.mem_insertionSort, List.mem_filter, mem_rows]
  increasing := by
    have apart : ((db.inOrder workspace folder).map (·.position)).Nodup :=
      ((List.perm_insertionSort _ _).map _).nodup_iff.mpr (distinct folder)
    rw [List.Nodup, List.pairwise_map] at apart
    exact ((List.pairwise_insertionSort _ _).and apart).imp fun both => both.1.lt_of_ne both.2

namespace Ordered

section
variable (ordered : Ordered db workspace folder rows)
include ordered

theorem perm : rows.Perm (db.placements.rows.filter (inFolder workspace folder)) := by
  have distinct : rows.Nodup := ordered.increasing.imp fun less same => by
    subst same
    omega
  rw [List.perm_ext_iff_of_nodup distinct ((db.placements.nodup.of_map _).filter _)]
  intro row
  rw [ordered.mem, List.mem_filter, mem_rows]

/-- The rank of a placement is its index. -/
theorem rank_eq {row : PlacementRow} {index : Nat} (found : rows[index]? = some row) :
    db.rank row = index := by
  have own := (ordered.mem row).mp (List.mem_of_getElem? found)
  simp only [inFolder, Bool.and_eq_true, beq_iff_eq] at own
  have count : db.rank row = rows.countP fun other => other.position < row.position ||
      (other.position == row.position && other.agentId < row.agentId) := by
    rw [rank, own.2.1, own.2.2, ordered.perm.countP_eq, List.countP_filter,
      ← List.countP_eq_length_filter]
    simp only [Bool.and_comm]
  rw [count]
  clear count own
  have increasing := ordered.increasing
  clear ordered
  induction rows generalizing index with
  | nil => cases found
  | cons first rest ih =>
    rw [List.pairwise_cons] at increasing
    cases index with
    | zero =>
      cases found
      rw [List.countP_eq_zero]
      intro other mem
      rcases List.mem_cons.mp mem with rfl | later
      · simp
      have := increasing.1 other later
      simp
      omega
    | succ index =>
      have before := increasing.1 row (List.mem_of_getElem? found)
      rw [List.countP_cons_of_pos (by simp [before]), ih found increasing.2]

theorem numbered : Numbered (db.normalize workspace) workspace folder (rows.map (·.agentId)) := by
  intro agent position
  rw [TreeDb.normalize, mem_update_iff, List.getElem?_map, Option.map_eq_some_iff]
  constructor
  · rintro ⟨old, oldMem, same⟩
    split at same
    · cases same
      obtain ⟨index, found⟩ := List.mem_iff_getElem?.mp
        ((ordered.mem old).mpr ⟨oldMem, by simp_all [inFolder]⟩)
      exact ⟨old, ordered.rank_eq found ▸ found, rfl⟩
    · rename_i others
      simp [same] at others
  · rintro ⟨old, found, rfl⟩
    have own := (ordered.mem old).mp (List.mem_of_getElem? found)
    simp only [inFolder, Bool.and_eq_true, beq_iff_eq] at own
    refine ⟨old, own.1, ?_⟩
    simp [ordered.rank_eq found, own.2]

theorem delete : Ordered (db.deletePlacement workspace agent) workspace folder
    (rows.filter (·.agentId ≠ agent)) where
  mem row := by
    rw [List.mem_filter, ordered.mem, deletePlacement, mem_delete_iff]
    simp only [inFolder, PlacementRow.key, Bool.and_eq_true, beq_iff_eq, beq_eq_false_iff_ne,
      decide_eq_true_eq, ne_eq, Prod.mk.injEq]
    tauto
  increasing := ordered.increasing.filter _

end
end Ordered

/-- A placement is put between those before its position and those from there on. -/
theorem Numbered.insert {agents : List String} {target : Option String} {position : Nat}
    (numbered : Numbered db workspace folder agents)
    (inside : folder = target → position ≤ agents.length)
    (written : (db.shiftPlacements workspace target position).insertPlacement
      ⟨workspace, agent, target, position⟩ = some after) :
    Numbered after workspace folder
      (if folder = target then agents.insertIdx position agent else agents) := by
  have mem : ∀ row, row ∈ after.placements ↔ (∃ old ∈ db.placements,
      (if inFolder workspace target old && decide (position ≤ old.position) then
        { old with position := old.position + 1 } else old) = row) ∨
      row = ⟨workspace, agent, target, position⟩ := by
    unfold insertPlacement at written
    split at written
    · obtain ⟨placements, rowsEq, rfl⟩ := of_map_insert? written
      intro row
      rw [mem_of_rows_append rowsEq, shiftPlacements, mem_update_iff, List.mem_singleton]
    · cases written
  intro other index
  have here := numbered other index
  have below := numbered other (index - 1)
  rw [mem]
  constructor
  · rintro (⟨⟨_, _, _, _⟩, oldMem, same⟩ | same)
    · grind [inFolder]
    · grind
  · intro found
    by_cases new : folder = target ∧ index = position
    · right
      grind
    -- The row was one position earlier if it was shifted.
    refine .inl ⟨⟨workspace, other, folder,
      if folder = target ∧ position < index then index - 1 else index⟩, ?_, ?_⟩
    · grind
    · grind [inFolder]

theorem position_lt_nextPosition {row : PlacementRow} (mem : row ∈ db.placements)
    (own : inFolder workspace folder row = true) :
    row.position < db.nextPosition workspace folder := by
  have le : ∀ (values : List Nat) (start : Nat), start ≤ values.foldl max start ∧
      ∀ value ∈ values, value ≤ values.foldl max start := by
    intro values
    induction values with
    | nil => simp
    | cons value rest ih =>
      intro start
      have := ih (max start value)
      simp
      grind
  exact (le _ 0).2 _ (List.mem_map_of_mem (List.mem_filter.mpr ⟨mem, own⟩))

/-- The placements of a removed folder stand behind those of its parent. -/
theorem Removed.ordered {row : FolderRow} {reparented moved deleted : TreeDb}
    (removed : Removed workspace id row before reparented moved deleted after)
    (ordered : ∀ place, Ordered before workspace place (before.inOrder workspace place))
    (place : Option String) :
    Ordered deleted workspace place
      (if place = some id then [] else if place = row.parentId then
        before.inOrder workspace place ++ (before.inOrder workspace (some id)).map fun old =>
          { old with
            folderId := place
            position := old.position + before.nextPosition workspace place }
      else before.inOrder workspace place) := by
  have left : ∀ old ∈ deleted.placements, inFolder workspace (some id) old = false := by
    have delete := removed.delete
    unfold deleteFolder at delete
    dsimp only at delete
    split at delete
    · cases delete
    rename_i free
    cases delete
    simp only [Bool.or_eq_true, List.any_eq_true, not_or, not_exists, not_and,
      Bool.not_eq_true] at free
    exact free.2
  have mem : ∀ other, other ∈ deleted.placements ↔ _ :=
    fun other => removed.written.2.2 ▸ mem_update_iff
  split
  · subst place
    exact ⟨fun other => by simpa using left other, .nil⟩
  rename_i others
  have same := (ordered place).mem
  have promoted := (ordered (some id)).mem
  split
  · rename_i isParent
    subst isParent
    constructor
    · intro other
      rw [mem, List.mem_append, same, List.mem_map]
      simp only [promoted]
      grind [inFolder]
    · rw [List.pairwise_append]
      refine ⟨(ordered _).increasing, ?_, ?_⟩
      · rw [List.pairwise_map]
        exact (ordered _).increasing.imp fun less => Nat.add_lt_add_right less _
      · intro old oldMem new newMem
        obtain ⟨_, _, rfl⟩ := List.mem_map.mp newMem
        have kept := (same old).mp oldMem
        exact Nat.lt_add_left _ (position_lt_nextPosition kept.1 kept.2)
  · refine ⟨fun other => ?_, (ordered place).increasing⟩
    rw [mem, same]
    grind [inFolder]

/-- A placement goes to the position asked for, or to the end. Those of a removed folder go behind
those of its parent. All others keep their order, and positions count up from 0. -/
theorem placements_keep_their_order {environment : Environment}
    (distinct : Distinct before workspace) :
    (∀ agent request placement after,
      (setWorkloadPlacementTx environment workspace agent request).run before =
        (.ok placement, after) →
      let others folder :=
        ((before.inOrder workspace folder).filter (·.agentId ≠ agent)).map (·.agentId)
      placement.position = min request.position.toNat (others request.folderId).length ∧
        ∀ folder, Numbered after workspace folder
          (if folder = request.folderId then (others folder).insertIdx placement.position agent
          else others folder)) ∧
    ∀ id requireEmpty after,
      (removeWorkloadFolderTx environment workspace id requireEmpty).run before = (.ok (), after) →
      ∃ row, before.folders.find? (workspace, id) = some row ∧ ∀ folder,
        Numbered after workspace folder
          ((if folder = some id then [] else if folder = row.parentId then
            before.inOrder workspace folder ++ before.inOrder workspace (some id)
          else before.inOrder workspace folder).map (·.agentId)) := by
  have ordered := ordered_inOrder distinct
  constructor
  · intro agent request placement after done others
    obtain ⟨placed, positionEq⟩ := placed_of_ok done
    have kept : ∀ folder, Ordered (before.deletePlacement workspace agent) workspace folder _ :=
      fun folder => (ordered folder).delete
    have count : (others request.folderId).length =
        (((before.deletePlacement workspace agent).normalize workspace).placements.rows.filter
          (inFolder workspace request.folderId)).length := by
      rw [List.length_map, (kept request.folderId).perm.length_eq, TreeDb.normalize, Table.update,
        List.filter_map, List.length_map]
      congr 2
      funext row
      simp only [Function.comp_apply, inFolder]
      split <;> rfl
    rw [← count] at positionEq
    refine ⟨positionEq, fun folder => (kept folder).numbered.insert ?_ placed.written⟩
    rintro rfl
    exact positionEq ▸ Nat.min_le_right _ _
  · intro id requireEmpty after done
    obtain ⟨row, _, _, _, removed⟩ := removed_of_ok done
    refine ⟨row, removed.found, fun folder => ?_⟩
    have numbered := (removed.ordered ordered folder).numbered
    rw [removed.normalize] at numbered
    split_ifs at numbered ⊢
    · exact numbered
    · simpa [Function.comp_def] using numbered
    · exact numbered

namespace Sample

/-- Two Agents at the root, and one in a folder. -/
def crowded : TreeDb :=
  { TreeDb.empty ["alpha"] with
    folders := ⟨[⟨"alpha", "team", "team", none⟩], by decide⟩
    placements := ⟨[⟨"alpha", "ag_1", none, 7⟩, ⟨"alpha", "ag_2", some "team", 1⟩,
      ⟨"alpha", "ag_3", none, 3⟩], by decide⟩
    credentials := ⟨[⟨"ag_1", "alpha", "srv_1", false⟩], by decide⟩ }

def calm : Environment where
  uuid _ := ""
  down _ := false

end Sample

open Sample

/-- An Agent is put first, and a folder with one is removed. -/
theorem placements_keep_their_order_at_root :
    Numbered ((setWorkloadPlacementTx calm "alpha" "ag_1" ⟨none, 0⟩).run crowded).2 "alpha" none
      ["ag_1", "ag_3"] ∧
    Numbered ((removeWorkloadFolderTx calm "alpha" "team" false).run crowded).2 "alpha" none
      ["ag_3", "ag_1", "ag_2"] := by
  have distinct : Distinct crowded "alpha" := fun folder =>
    (List.filter_sublist.map _).nodup (by decide)
  obtain ⟨sets, removes⟩ := @placements_keep_their_order _ _ calm distinct
  constructor
  · exact (sets "ag_1" ⟨none, 0⟩ _ _ rfl).2 none
  obtain ⟨row, found, numbered⟩ := removes "team" false _ rfl
  cases found
  exact numbered none

end Treer.Tree
