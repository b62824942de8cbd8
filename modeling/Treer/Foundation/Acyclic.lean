import Mathlib.Logic.Relation
import Mathlib.Tactic.Common

/-!
# Acyclic relations

A relation is acyclic when no walk of at least one edge comes back to its
start. A rank that falls along every edge is the usual reason.
-/

namespace Treer.Foundation

open Relation

universe u

variable {α : Type u} {edge : α → α → Prop}

/-- No walk along the edges returns to its start. -/
def Acyclic (edge : α → α → Prop) : Prop :=
  ∀ node, ¬ TransGen edge node node

/-- A rank that falls along every edge falls along every walk. -/
theorem rank_lt_of_transGen {rank : α → Nat}
    (falls : ∀ source target, edge source target → rank target < rank source)
    {source target : α} (walk : TransGen edge source target) : rank target < rank source := by
  induction walk with
  | single last => exact falls _ _ last
  | tail _ last ih => exact Nat.lt_trans (falls _ _ last) ih

theorem acyclic_of_rank (rank : α → Nat)
    (falls : ∀ source target, edge source target → rank target < rank source) :
    Acyclic edge := by
  intro node cycle
  exact Nat.lt_irrefl _ (rank_lt_of_transGen falls cycle)

end Treer.Foundation
