import Mathlib.Tactic.Common

/-!
# A key of a versioned store

The store numbers its writes. A key has its last entry, with the number of the write that
made it; a deletion leaves an entry without a value. A write can be made conditional on the
number of the last entry.

Numbers are never used again, so an entry that is seen twice with one number is one entry.
-/

namespace Treer.Foundation

open Option

universe u

structure Stored (ν : Type u) where
  revision : Nat
  /-- A deletion has no value. -/
  value : Option ν

structure Versioned (ν : Type u) where
  entry : Option (Stored ν)
  /-- The last number that the store has given. -/
  last : Nat
  bounded : ∀ current ∈ entry, current.revision ≤ last

namespace Versioned

variable {ν : Type u} {before after : Versioned ν}

def empty : Versioned ν where
  entry := none
  last := 0
  bounded := nofun

variable (store : Versioned ν)

def value? : Option ν :=
  store.entry.bind (·.value)

/-- The next entry, after `others` writes to other keys. -/
def write (value : Option ν) (others : Nat) : Versioned ν where
  entry := some ⟨store.last + others + 1, value⟩
  last := store.last + others + 1
  bounded := by
    rintro _ ⟨⟩
    exact Nat.le_refl _

/-- A write that is made only if the last entry has the revision. -/
def writeAt (revision : Nat) (value : Option ν) (others : Nat) : Option (Versioned ν) :=
  if store.entry.any (·.revision == revision) then some (store.write value others) else none

/-- A write that is made only if there is no value. -/
def create (value : ν) (others : Nat) : Option (Versioned ν) :=
  if store.value?.isNone then some (store.write (some value) others) else none

/-- The entry is too old. -/
def expire : Versioned ν where
  entry := none
  last := store.last
  bounded := nofun

theorem writeAt_eq_some_iff {store next : Versioned ν} {revision : Nat} {value : Option ν}
    {others : Nat} :
    store.writeAt revision value others = some next ↔
      (∃ current ∈ store.entry, current.revision = revision) ∧ store.write value others = next := by
  unfold writeAt
  rw [ite_none_right_eq_some, some.injEq, any_eq_true]
  simp only [beq_iff_eq, mem_def]

theorem create_eq_some_iff {store next : Versioned ν} {value : ν} {others : Nat} :
    store.create value others = some next ↔
      store.value? = none ∧ store.write (some value) others = next := by
  unfold create
  rw [ite_none_right_eq_some, some.injEq, isNone_iff_eq_none]

/-- Later in time: an old entry is still the same. -/
structure Follows (before after : Versioned ν) : Prop where
  last : before.last ≤ after.last
  old : ∀ current ∈ after.entry, current.revision ≤ before.last → current ∈ before.entry

theorem Follows.refl : store.Follows store := ⟨Nat.le_refl _, fun _ mem _ => mem⟩

theorem Follows.trans {between : Versioned ν} (first : before.Follows between)
    (second : between.Follows after) : before.Follows after where
  last := Nat.le_trans first.last second.last
  old current mem bound :=
    first.old current (second.old current mem (Nat.le_trans bound first.last)) bound

theorem follows_write (value : Option ν) (others : Nat) :
    store.Follows (store.write value others) where
  last := by
    change store.last ≤ store.last + others + 1
    omega
  old := by
    rintro _ ⟨⟩ bound
    simp only at bound
    omega

theorem follows_expire : store.Follows store.expire := ⟨Nat.le_refl _, nofun⟩

/-- An entry with the number of an earlier one is that entry. -/
theorem Follows.eq_of_revision (follows : before.Follows after) {seen current : Stored ν}
    (seenThen : seen ∈ before.entry) (now : current ∈ after.entry)
    (same : current.revision = seen.revision) : current = seen := by
  have old := follows.old current now (same ▸ before.bounded seen seenThen)
  exact mem_unique old seenThen

end Versioned
end Treer.Foundation
