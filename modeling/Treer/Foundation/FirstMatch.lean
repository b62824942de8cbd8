import Mathlib.Data.List.Sort

/-!
# The first match of a sorted list

Searching a sorted list for its first element with a property finds a best
element: one that comes before every other element with the property. What
the search finds therefore does not depend on the order the list had before it
was sorted, up to elements that come before each other.

Where the elements have unique keys, a search by key has one match.
-/

namespace Treer.Foundation

open List

universe u

variable {α : Type u} {before : α → α → Prop} [DecidableRel before] {matching : α → Bool}
  {items : List α}

/-- No element has the property when the search finds none. -/
theorem find?_insertionSort_eq_none_iff : (items.insertionSort before).find? matching = none ↔
      ∀ item ∈ items, matching item = false := by
  simp [mem_insertionSort]

/-- The first match of a sorted list comes before every other match. -/
theorem best_of_find?_insertionSort [Std.Total before] [IsTrans α before] {best : α}
    (found : (items.insertionSort before).find? matching = some best) :
    best ∈ items ∧ matching best = true ∧
      ∀ other ∈ items, matching other = true → before best other := by
  have bestMem := (mem_insertionSort before).mp (mem_of_find?_eq_some found)
  refine ⟨bestMem, find?_some found, ?_⟩
  intro other otherMem otherMatches
  rcases find?_eq_some_iff_append.mp found with ⟨_, earlier, later, split, unmatched⟩
  have sorted := pairwise_insertionSort before items
  rw [← mem_insertionSort before, split, mem_append, mem_cons] at otherMem
  rw [split, pairwise_append, pairwise_cons] at sorted
  rcases otherMem with skipped | rfl | behind
  · have rejected := unmatched other skipped
    simp [otherMatches] at rejected
  · exact (Std.Total.total other other).elim id id
  · exact sorted.2.1.1 other behind

/-- Where keys are unique, selecting by the key of an item finds only the item. -/
theorem filter_eq_singleton_of_nodup_map {α κ : Type*} {key : α → κ} {items : List α} {item : α}
    {selected : α → Bool} (nodup : (items.map key).Nodup) (mem : item ∈ items)
    (byKey : ∀ other, selected other = true ↔ key other = key item) :
    items.filter selected = [item] := by
  induction items with
  | nil => cases mem
  | cons head rest ih =>
    rw [map_cons, nodup_cons] at nodup
    rcases mem_cons.mp mem with rfl | later
    · rw [filter_cons_of_pos ((byKey _).mpr rfl), filter_eq_nil_iff.mpr]
      intro other otherMem same
      apply nodup.1
      rw [← (byKey other).mp same]
      exact mem_map_of_mem otherMem
    · rw [filter_cons_of_neg, ih nodup.2 later]
      intro same
      apply nodup.1
      rw [(byKey head).mp same]
      exact mem_map_of_mem later

end Treer.Foundation
