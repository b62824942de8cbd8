import Mathlib.Algebra.Order.Ring.Nat
import Mathlib.Data.Finset.Card
import Treer.Foundation.Table

/-!
# Caches that forget their oldest keys

A cache with a queue of its keys, oldest first. A key that is already there is
left alone; a new one first drops keys from the front of the queue until there
is room. The queue and the map hold the same keys, each once and no more than
the limit: this is part of the type.

A key stays as long as fewer other keys than the limit have come after it.
-/

namespace Treer.Foundation

open List KeyedMap

universe u v

/-- At most `limit` keys with their values, in the order they came. -/
structure Fifo (κ : Type u) (ν : Type v) [DecidableEq κ] (limit : Nat) where
  order : List κ
  values : KeyedMap κ ν
  mem_order_iff : ∀ key, key ∈ order ↔ (values.get? key).isSome
  nodup : order.Nodup
  bounded : order.length ≤ limit

namespace Fifo

variable {κ : Type u} {ν : Type v} [DecidableEq κ] {limit : Nat}

/-- Drop keys from the front until there is room for one more. -/
def evict (limit : Nat) : List κ → KeyedMap κ ν → List κ × KeyedMap κ ν
  | [], values => ([], values)
  | oldest :: rest, values =>
    if limit ≤ (oldest :: rest).length then evict limit rest (values.erase oldest)
    else (oldest :: rest, values)

theorem evict_order (limit : Nat) (order : List κ) (values : KeyedMap κ ν) :
    (evict limit order values).1 = order.drop (order.length + 1 - limit) := by
  induction order generalizing values with
  | nil => rw [evict, drop_nil]
  | cons oldest rest ih =>
    rw [evict]
    split
    · rw [ih, length_cons] at *
      have more : rest.length + 1 + 1 - limit = (rest.length + 1 - limit) + 1 := by omega
      rw [more, drop_succ_cons]
    · rw [show (oldest :: rest).length + 1 - limit = 0 by omega, drop_zero]

theorem evict_suffix (limit : Nat) (order : List κ) (values : KeyedMap κ ν) :
    (evict limit order values).1 <:+ order := by
  rw [evict_order]
  exact drop_suffix _ _

/-- What is left in the map is what is left in the queue. -/
theorem get?_evict {order : List κ} (values : KeyedMap κ ν) (nodup : order.Nodup)
    (known : ∀ key, (values.get? key).isSome → key ∈ order) (key : κ) :
    (evict limit order values).2.get? key =
      if key ∈ (evict limit order values).1 then values.get? key else none := by
  induction order generalizing values with
  | nil =>
    have absent : values.get? key = none := by
      by_contra present
      cases known key (Option.isSome_iff_ne_none.mpr present)
    simp [evict, absent]
  | cons oldest rest ih =>
    rw [evict]
    split
    · have knownRest : ∀ key, ((values.erase oldest).get? key).isSome → key ∈ rest := by
        intro other present
        rw [get?_erase] at present
        split at present
        · cases present
        · rename_i different
          exact (mem_cons.mp (known other present)).resolve_left different
      rw [ih (values.erase oldest) nodup.of_cons knownRest, get?_erase]
      split
      · rename_i kept
        have inRest := (evict_suffix limit rest (values.erase oldest)).mem kept
        rw [if_neg]
        rintro rfl
        exact (nodup_cons.mp nodup).1 inRest
      · rfl
    · by_cases mem : key ∈ oldest :: rest
      · rw [if_pos mem]
      rw [if_neg mem]
      by_contra present
      exact mem (known key (Option.isSome_iff_ne_none.mpr present))

/-- The cache without keys. -/
def empty : Fifo κ ν limit where
  order := []
  values := Table.empty
  mem_order_iff _ := by simp [KeyedMap.get?, Table.find?_empty]
  nodup := List.nodup_nil
  bounded := Nat.zero_le _

/-- The value under a key. -/
def get? (cache : Fifo κ ν limit) (key : κ) : Option ν :=
  cache.values.get? key

section
variable [NeZero limit] {cache : Fifo κ ν limit} {key : κ}

theorem length_evict_lt (order : List κ) (values : KeyedMap κ ν) :
    (evict limit order values).1.length < limit := by
  have positive : 0 < limit := Nat.pos_of_ne_zero (NeZero.ne limit)
  rw [evict_order, length_drop]
  omega

/-- Remember a new key; a key that is there already keeps its value. -/
def insert (cache : Fifo κ ν limit) (key : κ) (value : ν) : Fifo κ ν limit :=
  if present : (cache.values.get? key).isSome then cache
  else
    let kept := evict limit cache.order cache.values
    { order := kept.1 ++ [key]
      values := kept.2.insert key value
      mem_order_iff := by
        intro other
        rw [KeyedMap.get?_insert, List.mem_append, List.mem_singleton]
        by_cases same : other = key
        · simp [same]
        rw [if_neg same, get?_evict cache.values cache.nodup
          (fun key => (cache.mem_order_iff key).mpr)]
        by_cases mem : other ∈ kept.1
        · have inOrder := (evict_suffix limit cache.order cache.values).mem mem
          simp [kept, mem, (cache.mem_order_iff other).mp inOrder]
        · simp [kept, mem, same]
      nodup := by
        have suffix := evict_suffix limit cache.order cache.values
        rw [List.nodup_append]
        refine ⟨suffix.sublist.nodup cache.nodup, List.nodup_singleton _, ?_⟩
        intro old oldMem new newMem
        cases List.mem_singleton.mp newMem
        rintro rfl
        exact present ((cache.mem_order_iff _).mp (suffix.mem oldMem))
      bounded := by
        rw [List.length_append, List.length_singleton]
        exact length_evict_lt cache.order cache.values }

theorem insert_of_present
    (present : (cache.get? key).isSome) (value : ν) : cache.insert key value = cache := by
  exact dif_pos present

theorem order_insert_of_absent (absent : cache.get? key = none) (value : ν) :
    (cache.insert key value).order =
      cache.order.drop (cache.order.length + 1 - limit) ++ [key] := by
  have notPresent : ¬ (cache.values.get? key).isSome := by
    rw [show cache.values.get? key = none from absent]
    simp
  rw [insert, dif_neg notPresent]
  exact congrArg (· ++ [key]) (evict_order limit cache.order cache.values)

/-- A new key is found; an old one keeps its value or is forgotten. -/
theorem get?_insert_of_absent (absent : cache.get? key = none) (value : ν) (other : κ) :
    (cache.insert key value).get? other =
      if other = key then some value
      else if other ∈ (cache.insert key value).order then cache.get? other else none := by
  have order := order_insert_of_absent absent value
  have notPresent : ¬ (cache.values.get? key).isSome := by
    rw [show cache.values.get? key = none from absent]
    simp
  by_cases same : other = key
  · rw [if_pos same, get?, insert, dif_neg notPresent]
    rw [get?_insert, if_pos same]
  · rw [if_neg same, order, get?, insert, dif_neg notPresent]
    rw [get?_insert, if_neg same, get?_evict cache.values cache.nodup
      (fun key => (cache.mem_order_iff key).mpr), evict_order]
    simp [same, get?]

/-- A key that is not there does not come with another one. -/
theorem get?_insert_eq_none {other : κ}
    (absent : cache.get? key = none) (different : key ≠ other) (value : ν) :
    (cache.insert other value).get? key = none := by
  cases present : cache.get? other with
  | some _ => rw [insert_of_present (by rw [present]; rfl), absent]
  | none => rw [get?_insert_of_absent present, if_neg different, absent, ite_self]

/-- The key has its value, and every key behind it in the queue is one of
`since`. -/
structure Keeps (cache : Fifo κ ν limit) (key : κ) (value : ν) (since : Finset κ) : Prop where
  found : cache.get? key = some value
  recent : ∃ front behind, cache.order = front ++ key :: behind ∧ ∀ other ∈ behind, other ∈ since

/-- A key that was just remembered has nothing behind it. -/
theorem keeps_insert_self (absent : cache.get? key = none) (value : ν) (since : Finset κ) :
    (cache.insert key value).Keeps key value since := by
  constructor
  · rw [get?_insert_of_absent absent, if_pos rfl]
  · rw [order_insert_of_absent absent]
    exact ⟨_, [], rfl, by simp⟩

/-- A key survives another one as long as those that came since are fewer than the
limit. -/
theorem Keeps.insert {other : κ} {value : ν} {since : Finset κ}
    (keeps : cache.Keeps key value since) (different : other ≠ key) (added : ν)
    (few : (Insert.insert other since).card < limit) :
    (cache.insert other added).Keeps key value (Insert.insert other since) := by
  rcases keeps.recent with ⟨front, behind, order, recent⟩
  cases present : cache.get? other with
  | some _ =>
    rw [insert_of_present (by rw [present]; rfl)]
    refine ⟨keeps.found, front, behind, order, ?_⟩
    intro later mem
    exact Finset.mem_insert_of_mem (recent later mem)
  | none =>
    -- The keys behind this one and the new one are distinct and all in `since`.
    have distinct : (other :: behind).Nodup := by
      have nodup := cache.nodup
      rw [order, nodup_append, nodup_cons] at nodup
      refine nodup_cons.mpr ⟨?_, nodup.2.1.2⟩
      intro mem
      have inOrder : other ∈ cache.order := by simp [order, mem]
      rw [cache.mem_order_iff, ← get?, present] at inOrder
      cases inOrder
    have fits : (other :: behind).length < limit := by
      calc
        (other :: behind).length = (other :: behind).toFinset.card :=
          (toFinset_card_of_nodup distinct).symm
        _ ≤ (Insert.insert other since).card := by
          apply Finset.card_le_card
          intro later mem
          rcases mem_cons.mp (mem_toFinset.mp mem) with rfl | mem
          · exact Finset.mem_insert_self _ _
          · exact Finset.mem_insert_of_mem (recent later mem)
        _ < limit := few
    have dropped : cache.order.length + 1 - limit ≤ front.length := by
      rw [length_cons] at fits
      rw [order, length_append, length_cons]
      omega
    have kept : (cache.insert other added).order =
        front.drop (cache.order.length + 1 - limit) ++ key :: (behind ++ [other]) := by
      rw [order_insert_of_absent present]
      conv_lhs => rw [order]
      rw [drop_append_of_le_length (by rw [order] at dropped; exact dropped)]
      simp [order]
    constructor
    · rw [get?_insert_of_absent present, if_neg (Ne.symm different), if_pos]
      · exact keeps.found
      · rw [kept]
        simp
    · refine ⟨_, _, kept, ?_⟩
      intro later mem
      rcases mem_append.mp mem with mem | mem
      · exact Finset.mem_insert_of_mem (recent later mem)
      · cases mem_singleton.mp mem
        exact Finset.mem_insert_self _ _

end
end Fifo
end Treer.Foundation
