import Mathlib.Data.Set.Finite.Basic
import Treer.Foundation.Acyclic

/-!
# Forests given by parent pointers

A forest is a map from nodes to parents in which every walk upwards ends at the
top. `Ancestry` records such a walk. A forest stays one when a node is hung
below a place whose ancestry does not contain it, and when a node is removed
and its children take its place.

`climb` is the loop programs write for the walk: it visits one node after the
other and remembers those it has seen.
-/

namespace Treer.Foundation

open Relation List

universe u v

/-- The parent of a node: `none` for an absent node, `some none` for one at the
top. -/
abbrev ParentMap (ν : Type u) := ν → Option (Option ν)

variable {ν : Type u} {parent next : ParentMap ν}

/-- The nodes from the top down to a place; the place `none` is the top. -/
inductive Ancestry (parent : ParentMap ν) : Option ν → List ν → Prop where
  | top : Ancestry parent none []
  | node {id place above} (found : parent id = some place)
      (up : Ancestry parent place above) : Ancestry parent (some id) (above ++ [id])

/-- Every node has an ancestry. -/
def Forest (parent : ParentMap ν) : Prop :=
  ∀ id place, parent id = some place → ∃ above, Ancestry parent place above

/-- The second node is the parent of the first. -/
def ParentEdge (parent : ParentMap ν) (child above : ν) : Prop :=
  parent child = some (some above)

/-- One step up from a place. -/
def StepUp (parent : ParentMap ν) (lower upper : Option ν) : Prop :=
  ∃ id, lower = some id ∧ parent id = some upper

/-- The first place is the second one or lies below it. -/
def Within (parent : ParentMap ν) : Option ν → Option ν → Prop :=
  ReflTransGen (StepUp parent)

variable {place : Option ν}

namespace Ancestry

variable {chain other : List ν} {id : ν}

theorem unique (first : Ancestry parent place chain) (second : Ancestry parent place other) :
    chain = other := by
  induction first generalizing other with
  | top =>
    cases second
    rfl
  | node found _ ih =>
    cases second with
    | node otherFound otherUp =>
      rw [found] at otherFound
      cases otherFound
      rw [ih otherUp]

section
variable (walk : Ancestry parent place chain)
include walk

/-- The nodes of an ancestry exist. -/
theorem exists_parent (mem : id ∈ chain) : ∃ above, parent id = some above := by
  induction walk with
  | top => cases mem
  | node found _ ih =>
    rcases mem_append.mp mem with earlier | last
    · exact ih earlier
    · rw [mem_singleton.mp last]
      exact ⟨_, found⟩

/-- The ancestry of a node of an ancestry is the part above it. -/
theorem of_mem (mem : id ∈ chain) :
    ∃ above below, chain = above ++ [id] ++ below ∧ Ancestry parent (some id) (above ++ [id]) := by
  induction walk with
  | top => cases mem
  | @node last _ up found walk ih =>
    rcases mem_append.mp mem with earlier | isLast
    · rcases ih earlier with ⟨above, below, rfl, own⟩
      exact ⟨above, below ++ [last], by simp, own⟩
    · cases mem_singleton.mp isLast
      exact ⟨up, [], by simp, .node found walk⟩

/-- A walk to the top meets no node twice. -/
theorem nodup : chain.Nodup := by
  induction walk with
  | top => exact nodup_nil
  | node found walk ih =>
    rw [nodup_append]
    refine ⟨ih, nodup_singleton _, ?_⟩
    rintro earlier earlierMem _ (_ | ⟨_, none⟩) rfl
    · -- A second visit would make the walk shorter than itself.
      rcases walk.of_mem earlierMem with ⟨above, below, split, own⟩
      have same := own.unique (.node found walk)
      have lengths := congrArg length same
      rw [split] at lengths
      simp only [length_append, length_singleton] at lengths
      omega
    · cases none

/-- A map that agrees on an ancestry has it too. -/
theorem congr (agree : ∀ id ∈ chain, next id = parent id) : Ancestry next place chain := by
  induction walk with
  | top => exact .top
  | node found _ ih =>
    refine .node ((agree _ (by simp)).trans found) (ih ?_)
    intro id mem
    exact agree id (by simp [mem])

end

/-- The parent of a node ends the walk above it. -/
theorem parent_eq (walk : Ancestry parent (some id) chain) :
    ∃ above, parent id = some above ∧ ∃ up, Ancestry parent above up ∧ chain = up ++ [id] := by
  cases walk with
  | node found up => exact ⟨_, found, _, up, rfl⟩

/-- A place lies within the top and the nodes of its ancestry. -/
theorem within_iff (walk : Ancestry parent place chain) {upper : Option ν} :
    Within parent place upper ↔ ∀ id ∈ upper, id ∈ chain := by
  induction walk with
  | top =>
    constructor
    · intro within
      rcases ReflTransGen.cases_head within with rfl | ⟨_, ⟨_, none, _⟩, _⟩
      · simp
      · cases none
    · intro members
      cases upper with
      | none => exact .refl
      | some id => exact absurd (members id rfl) not_mem_nil
  | @node last above up found _ ih =>
    constructor
    · intro within
      rcases ReflTransGen.cases_head within with rfl | ⟨_, ⟨_, same, step⟩, rest⟩
      · simp
      cases same
      cases found.symm.trans step
      intro id mem
      exact mem_append_left _ (ih.mp rest id mem)
    · intro members
      by_cases self : upper = some last
      · subst self
        exact .refl
      refine ReflTransGen.head ⟨last, rfl, found⟩ (ih.mpr ?_)
      intro id mem
      rcases mem_append.mp (members id mem) with earlier | isLast
      · exact earlier
      · cases mem_singleton.mp isLast
        exact absurd mem self

end Ancestry

namespace Forest

variable {id : ν} {above : List ν}

theorem ancestry (forest : Forest parent) (found : parent id = some place) :
    ∃ chain, Ancestry parent (some id) chain := by
  rcases forest id place found with ⟨above, up⟩
  exact ⟨above ++ [id], .node found up⟩

/-- Every parent exists. -/
theorem parent_exists (forest : Forest parent) {child : ν} (edge : ParentEdge parent child id) :
    ∃ place, parent id = some place := by
  rcases forest child (some id) edge with ⟨_, up⟩
  rcases up.parent_eq with ⟨place, found, _⟩
  exact ⟨place, found⟩

/-- The parent edges of a forest are acyclic. -/
theorem acyclic (forest : Forest parent) : Acyclic (ParentEdge parent) := by
  classical
  -- The length of the ancestry falls along every edge.
  let rank : ν → Nat := fun id =>
    if walk : ∃ chain, Ancestry parent (some id) chain then walk.choose.length else 0
  have rankEq : ∀ {id chain}, Ancestry parent (some id) chain → rank id = chain.length := by
    intro id chain walk
    have exists_ : ∃ chain, Ancestry parent (some id) chain := ⟨chain, walk⟩
    simp only [rank, dif_pos exists_]
    rw [exists_.choose_spec.unique walk]
  apply acyclic_of_rank rank
  intro child node edge
  rcases forest child (some node) edge with ⟨chain, up⟩
  rw [rankEq up, rankEq (.node edge up)]
  simp

/-- Hanging a node below a place whose ancestry avoids it keeps a forest. -/
theorem assign (forest : Forest parent) (agree : ∀ other, other ≠ id → next other = parent other)
    (assigned : next id = some place) (up : Ancestry parent place above)
    (avoids : id ∉ above) : Forest next := by
  have kept : Ancestry next place above :=
    up.congr fun other mem => agree other fun same => avoids (same ▸ mem)
  have carried : ∀ {start chain}, Ancestry parent start chain → ∃ new, Ancestry next start new := by
    intro start chain walk
    induction walk with
    | top => exact ⟨[], .top⟩
    | @node current _ _ found _ ih =>
      by_cases same : current = id
      · subst current
        exact ⟨above ++ [id], .node assigned kept⟩
      · rcases ih with ⟨new, rest⟩
        exact ⟨new ++ [current], .node ((agree current same).trans found) rest⟩
  intro other otherPlace found
  by_cases same : other = id
  · subst other
    rw [assigned] at found
    cases found
    exact ⟨above, kept⟩
  · rw [agree other same] at found
    rcases forest other otherPlace found with ⟨chain, walk⟩
    exact carried walk

/-- Removing a node whose children move to its own place keeps a forest. -/
theorem splice [DecidableEq ν] (forest : Forest parent) (found : parent id = some place)
    (absent : next id = none)
    (moved : ∀ other, other ≠ id →
      next other = (parent other).map fun old => if old = some id then place else old) :
    Forest next := by
  have carried : ∀ {start chain}, Ancestry parent start chain →
      ∃ new, Ancestry next (if start = some id then place else start) new := by
    intro start chain walk
    induction walk with
    | top => exact ⟨[], by simpa using Ancestry.top⟩
    | @node current old _ currentFound _ ih =>
      rcases ih with ⟨new, rest⟩
      by_cases same : current = id
      · subst current
        rw [found] at currentFound
        cases currentFound
        rw [if_pos rfl]
        by_cases loop : place = some id
        · rw [if_pos loop] at rest
          exact ⟨new, rest⟩
        · rw [if_neg loop] at rest
          exact ⟨new, rest⟩
      · rw [if_neg (by simpa using same)]
        refine ⟨new ++ [current], .node ?_ rest⟩
        rw [moved current same, currentFound]
        rfl
  intro other otherPlace otherFound
  by_cases same : other = id
  · subst other
    rw [absent] at otherFound
    cases otherFound
  · rw [moved other same] at otherFound
    rcases Option.map_eq_some_iff.mp otherFound with ⟨old, oldFound, rfl⟩
    rcases forest other old oldFound with ⟨chain, walk⟩
    exact carried walk

/-- Finitely many nodes whose parents exist and whose parent edges are acyclic
form a forest. -/
theorem of_acyclic {nodes : List ν} (finite : ∀ id place, parent id = some place → id ∈ nodes)
    (closed : ∀ child id, ParentEdge parent child id → ∃ place, parent id = some place)
    (acyclic : Acyclic (ParentEdge parent)) : Forest parent := by
  let Node := { id // id ∈ nodes }
  have : Finite Node := (finite_toSet nodes).to_subtype
  let lower : Node → Node → Prop := fun first second =>
    TransGen (ParentEdge parent) second.1 first.1
  have : Std.Irrefl lower := ⟨fun node => acyclic node.1⟩
  have wellFounded : WellFounded lower := Finite.wellFounded_of_trans_of_irrefl lower
  have walks : ∀ node : Node, ∀ place, parent node.1 = some place →
      ∃ above, Ancestry parent place above := by
    intro node
    induction node using wellFounded.induction with
    | _ node ih =>
      intro place found
      cases place with
      | none => exact ⟨[], .top⟩
      | some above =>
        rcases closed node.1 above found with ⟨higher, aboveFound⟩
        have below : lower ⟨above, finite above higher aboveFound⟩ node := .single found
        rcases ih _ below higher aboveFound with ⟨chain, up⟩
        exact ⟨chain ++ [above], .node aboveFound up⟩
  intro id place found
  exact walks ⟨id, finite id place found⟩ place found

end Forest

section
variable {ε : Type v}

/-- The loop `while let Some(id) = next { next = visit(id)? }`; it returns the nodes it has visited
from the top down. -/
def climb (visit : List ν → ν → Except ε (Option ν)) : Nat → List ν → Option ν → Except ε (List ν)
  | _, seen, none => .ok seen
  | 0, seen, some _ => .ok seen
  | fuel + 1, seen, some id =>
    match visit seen id with
    | .error error => .error error
    | .ok place => climb visit fuel (id :: seen) place

variable {visit : List ν → ν → Except ε (Option ν)} {fuel : Nat} {seen chain nodes : List ν}

/-- A loop that visits no node twice and has fuel for all of them returns the ancestry of its start.
-/
theorem ancestry_of_climb
    (sound : ∀ seen id place, visit seen id = .ok place → parent id = some place ∧ id ∉ seen)
    (finite : ∀ id place, parent id = some place → id ∈ nodes)
    (enough : nodes.length < fuel + seen.length) (seenNodup : seen.Nodup)
    (seenMem : ∀ id ∈ seen, id ∈ nodes) (done : climb visit fuel seen place = .ok chain) :
    ∃ above, Ancestry parent place above ∧ chain = above ++ seen := by
  induction fuel generalizing seen place with
  | zero =>
    have bounded := (subperm_of_subset seenNodup seenMem).length_le
    omega
  | succ fuel ih =>
    cases place with
    | none =>
      cases done
      exact ⟨[], .top, rfl⟩
    | some id =>
      rw [climb] at done
      cases visited : visit seen id with
      | error error =>
        rw [visited] at done
        cases done
      | ok above =>
        rw [visited] at done
        rcases sound seen id above visited with ⟨found, fresh⟩
        have members : ∀ other ∈ id :: seen, other ∈ nodes := by
          intro other otherMem
          rcases mem_cons.mp otherMem with rfl | earlier
          · exact finite other above found
          · exact seenMem other earlier
        rcases ih (by simpa [Nat.add_assoc, Nat.add_comm 1] using enough)
          (nodup_cons.mpr ⟨fresh, seenNodup⟩) members done with ⟨up, walk, rfl⟩
        exact ⟨up ++ [id], .node found walk, by simp⟩

/-- Where an ancestry exists and its nodes can be visited the loop returns it. -/
theorem climb_of_ancestry (walk : Ancestry parent place chain)
    (visits : ∀ seen, ∀ id ∈ chain, id ∉ seen → ∀ place, parent id = some place →
      visit seen id = .ok place)
    (enough : chain.length ≤ fuel) (disjoint : ∀ id ∈ chain, id ∉ seen) :
    climb visit fuel seen place = .ok (chain ++ seen) := by
  induction walk generalizing fuel seen with
  | top => cases fuel <;> rfl
  | @node id above up found walk ih =>
    have nodup := (Ancestry.node found walk).nodup
    cases fuel with
    | zero => simp at enough
    | succ fuel =>
      rw [climb, visits seen id (by simp) (disjoint id (by simp)) above found]
      dsimp only
      rw [ih (fun seen other mem => visits seen other (by simp [mem])) (by simpa using enough) ?_]
      · simp
      intro other mem repeated
      rcases mem_cons.mp repeated with rfl | earlier
      · exact (nodup_append.mp nodup).2.2 other mem other (by simp) rfl
      · exact disjoint other (by simp [mem]) earlier

end
end Treer.Foundation
