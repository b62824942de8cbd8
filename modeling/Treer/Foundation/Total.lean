import Mathlib.Algebra.Order.BigOperators.Group.List
import Mathlib.Algebra.Order.Ring.Nat
import Treer.Foundation.Table

/-!
# Totals over tables

Sums of a quantity over the rows of a table, what the operations of a table do to them, and
sums that stop at a largest number.
-/

namespace Treer.Foundation

open List

universe u v

/-- Addition that stops at `top`. -/
def saturatingAdd (top first second : Nat) : Nat :=
  min (first + second) top

theorem foldl_saturatingAdd {ρ : Type u} (top : Nat) (amount : ρ → Nat) (rows : List ρ) :
    rows.foldl (fun sum row => saturatingAdd top sum (amount row)) 0 =
      min (rows.map amount).sum top := by
  have general : ∀ start ≤ top,
      rows.foldl (fun sum row => saturatingAdd top sum (amount row)) start =
        min (start + (rows.map amount).sum) top := by
    induction rows with
    | nil =>
      intro start bounded
      simpa using bounded
    | cons row rest ih =>
      intro start bounded
      have stays : saturatingAdd top start (amount row) ≤ top := Nat.min_le_right _ _
      rw [foldl_cons, ih _ stays, map_cons, sum_cons, saturatingAdd]
      omega
  rw [general 0 (Nat.zero_le top), Nat.zero_add]

section
variable {ρ : Type u} {κ : Type v}

theorem sum_filter_add (amount : ρ → Nat) (selected : ρ → Bool) (rows : List ρ) :
    ((rows.filter selected).map amount).sum +
      ((rows.filter fun row => !selected row).map amount).sum = (rows.map amount).sum := by
  rw [← sum_append, ← map_append]
  exact ((filter_append_perm selected rows).map amount).sum_eq

/-- The rows of some keys have at most the total of all rows. -/
theorem sum_of_keys_le [DecidableEq κ] (key : ρ → κ) (amount : ρ → Nat) {keys : List κ}
    (nodup : keys.Nodup) (rows : List ρ) :
    (keys.map fun wanted => ((rows.filter (key · == wanted)).map amount).sum).sum ≤
      (rows.map amount).sum := by
  induction keys generalizing rows with
  | nil => exact Nat.zero_le _
  | cons first rest ih =>
    rw [nodup_cons] at nodup
    rw [map_cons, sum_cons, ← sum_filter_add amount (key · == first) rows]
    refine Nat.add_le_add_left ?_ _
    -- The rows of the other keys are among those that are left.
    refine le_trans (le_of_eq ?_) (ih nodup.2 (rows.filter fun row => !(key row == first)))
    congr 1
    refine map_congr_left ?_
    intro wanted mem
    rw [filter_filter]
    congr 2
    refine filter_congr ?_
    intro row _
    by_cases same : key row = wanted
    · have other : key row ≠ first := fun equal => nodup.1 (equal ▸ same ▸ mem)
      simp [same, same ▸ other]
    · simp [same]

/-- Two quantities that differ in one row. -/
theorem sum_eq_of_row {key : ρ → κ} {rows : List ρ} (nodup : (rows.map key).Nodup) {row : ρ}
    (mem : row ∈ rows) {before after : ρ → Nat}
    (others : ∀ other ∈ rows, key other ≠ key row → after other = before other) :
    (rows.map after).sum + before row = (rows.map before).sum + after row := by
  obtain ⟨first, last, rfl⟩ := append_of_mem mem
  rw [map_append, map_cons, nodup_middle, nodup_cons, ← map_append] at nodup
  have same : (first ++ last).map after = (first ++ last).map before := by
    refine map_congr_left ?_
    intro other otherMem
    refine others other ?_ fun equal => nodup.1 (equal ▸ mem_map_of_mem otherMem)
    rcases mem_append.mp otherMem with inFirst | inLast
    · exact mem_append_left _ inFirst
    · exact mem_append_right _ (mem_cons_of_mem _ inLast)
  have total : ∀ amount : ρ → Nat, ((first ++ row :: last).map amount).sum =
      amount row + ((first ++ last).map amount).sum := by
    intro amount
    simp only [map_append, map_cons, sum_append, sum_cons]
    omega
  rw [total, total, same]
  omega

end

/-- The sum of the values under the keys of a map. -/
def KeyedMap.total {κ : Type u} (map : KeyedMap κ Nat) : Nat :=
  (map.rows.map (·.2)).sum

theorem KeyedMap.total_insert {κ : Type u} [DecidableEq κ] (map : KeyedMap κ Nat) (added : κ)
    (value : Nat) :
    (map.insert added value).total + (map.get? added).getD 0 = map.total + value := by
  have parts := sum_filter_add (fun entry : κ × Nat => entry.2) (·.1 == added) map.rows
  rw [KeyedMap.rows_filter_key] at parts
  have inserted : (map.insert added value).total =
      ((map.rows.filter fun entry => !(entry.1 == added)).map (·.2)).sum + value := by
    change ((map.rows.filter (fun entry => !(entry.1 == added)) ++
      [(added, value)]).map (·.2)).sum = _
    simp
  rw [inserted, total, ← parts]
  cases map.get? added with
  | none => simp
  | some old =>
    simp
    omega

end Treer.Foundation
