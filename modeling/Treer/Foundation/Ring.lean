import Mathlib.Algebra.Order.Ring.Nat

/-!
# Rings of bounded size

A queue of items with a size each. A new item is put at the back, and items are
dropped from the front until their sizes add up to no more than a limit.
-/

namespace Treer.Foundation

open List

universe u

/-- Items in order, whose sizes add up to at most `limit`. -/
structure Ring (α : Type u) (size : α → Nat) (limit : Nat) where
  items : List α
  total : Nat
  total_eq : total = (items.map size).sum
  bounded : total ≤ limit

namespace Ring

variable {α : Type u} {size : α → Nat} {limit : Nat}

/-- Drop items from the front while the total is over the limit. -/
def trim (size : α → Nat) (limit : Nat) : List α → Nat → List α × Nat
  | [], total => ([], total)
  | oldest :: rest, total =>
    if limit < total then trim size limit rest (total - size oldest)
    else (oldest :: rest, total)

theorem trim_suffix (items : List α) (total : Nat) : (trim size limit items total).1 <:+ items := by
  induction items generalizing total with
  | nil => exact suffix_rfl
  | cons oldest rest ih =>
    rw [trim]
    split
    · exact (ih _).trans (suffix_cons _ _)
    · exact suffix_rfl

variable {items : List α} {total : Nat}

theorem trim_total (totalEq : total = (items.map size).sum) :
    (trim size limit items total).2 = ((trim size limit items total).1.map size).sum := by
  induction items generalizing total with
  | nil => exact totalEq
  | cons oldest rest ih =>
    rw [trim]
    split
    · apply ih
      rw [totalEq, map_cons, sum_cons, Nat.add_sub_cancel_left]
    · exact totalEq

theorem trim_bounded (totalEq : total = (items.map size).sum) :
    (trim size limit items total).2 ≤ limit := by
  induction items generalizing total with
  | nil => simp [trim, totalEq]
  | cons oldest rest ih =>
    rw [trim]
    split
    · apply ih
      rw [totalEq, map_cons, sum_cons, Nat.add_sub_cancel_left]
    · rename_i within
      exact Nat.le_of_not_lt within

/-- Nothing is dropped while there is room. -/
theorem trim_of_le (room : total ≤ limit) : trim size limit items total = (items, total) := by
  cases items with
  | nil => rfl
  | cons oldest rest => rw [trim, if_neg (Nat.not_lt.mpr room)]

/-- The ring without items. -/
def empty : Ring α size limit where
  items := []
  total := 0
  total_eq := rfl
  bounded := Nat.zero_le _

/-- Put an item at the back and make room for it. -/
def push (ring : Ring α size limit) (item : α) : Ring α size limit :=
  let kept := trim size limit (ring.items ++ [item]) (ring.total + size item)
  have totalEq : ring.total + size item = ((ring.items ++ [item]).map size).sum := by
    simp [ring.total_eq]
  { items := kept.1
    total := kept.2
    total_eq := trim_total totalEq
    bounded := trim_bounded totalEq }

theorem push_suffix (ring : Ring α size limit) (item : α) :
    (ring.push item).items <:+ ring.items ++ [item] :=
  trim_suffix _ _

theorem items_push_of_le {ring : Ring α size limit} {item : α}
    (room : ring.total + size item ≤ limit) : (ring.push item).items = ring.items ++ [item] :=
  congrArg Prod.fst (trim_of_le room)

/-- An item that fits alone is not dropped. -/
theorem push_ne_nil (ring : Ring α size limit) {item : α} (fits : size item ≤ limit) :
    (ring.push item).items ≠ [] := by
  have kept : ∀ (items : List α) (total : Nat), total = ((items ++ [item]).map size).sum →
      (trim size limit (items ++ [item]) total).1 ≠ [] := by
    intro items
    induction items with
    | nil =>
      intro total totalEq
      have room : total ≤ limit := by simpa [totalEq] using fits
      simp [trim_of_le room]
    | cons oldest rest ih =>
      intro total totalEq
      rw [cons_append, trim]
      split
      · apply ih
        rw [totalEq, cons_append, map_cons, sum_cons, Nat.add_sub_cancel_left]
      · exact cons_ne_nil _ _
  apply kept
  simp [ring.total_eq]

end Ring
end Treer.Foundation
