import Mathlib.Data.List.Basic

/-!
# Values collected under keys

A multimap keeps a list of values for each key, in the order in which they were
pushed. Grouping a list of items by the keys they carry puts each item once
into the list of each of its keys, so the list of a key is a filter of the
items.
-/

namespace Treer.Foundation

universe u v

/-- `HashMap<κ, Vec<α>>`, one entry for each key. -/
abbrev Multimap (κ : Type u) (α : Type v) := List (κ × List α)

namespace Multimap

variable {κ : Type u} {α : Type v} [DecidableEq κ]

/-- The values under a key; an absent key has none. -/
def get : Multimap κ α → κ → List α
  | [], _ => []
  | (key, values) :: rest, wanted => if key = wanted then values else get rest wanted

/-- `map.entry(key).or_default().push(value)`. -/
def push : Multimap κ α → κ → α → Multimap κ α
  | [], wanted, value => [(wanted, [value])]
  | (key, values) :: rest, wanted, value =>
    if key = wanted then (key, values ++ [value]) :: rest
    else (key, values) :: push rest wanted value

/-- Push a value under every key of a list, once for repeated keys. -/
def pushAll (value : α) : List κ → Multimap κ α → List κ → Multimap κ α
  | _, map, [] => map
  | seen, map, key :: rest =>
    if key ∈ seen then pushAll value seen map rest
    else pushAll value (key :: seen) (push map key value) rest

/-- Push every item under every key it carries. -/
def groupBy (keys : α → List κ) (items : List α) : Multimap κ α :=
  items.foldl (fun map item => pushAll item [] map (keys item)) []

omit [DecidableEq κ] in
/-- Replace the list of values of every key. -/
def mapValues (map : Multimap κ α) (assign : List α → List α) : Multimap κ α :=
  map.map fun entry => (entry.1, assign entry.2)

theorem get_push (map : Multimap κ α) (key wanted : κ) (value : α) :
    get (push map key value) wanted =
      if key = wanted then get map wanted ++ [value] else get map wanted := by
  induction map with
  | nil => by_cases same : key = wanted <;> simp [push, get, same]
  | cons entry rest ih =>
    rcases entry with ⟨first, values⟩
    rw [push]
    by_cases pushed : first = key
    · subst first
      by_cases same : key = wanted <;> simp [get, same]
    rw [if_neg pushed, get, get, ih]
    by_cases found : first = wanted
    · have other : key ≠ wanted := fun same => pushed (found.trans same.symm)
      rw [if_pos found, if_neg other]
      simp [found]
    · simp [found]

theorem get_pushAll (value : α) (seen : List κ) (map : Multimap κ α) (keys : List κ) (wanted : κ) :
    get (pushAll value seen map keys) wanted =
      get map wanted ++ if wanted ∈ keys ∧ wanted ∉ seen then [value] else [] := by
  induction keys generalizing seen map with
  | nil => simp [pushAll]
  | cons key rest ih =>
    rw [pushAll]
    by_cases repeated : key ∈ seen
    · rw [if_pos repeated, ih]
      by_cases same : wanted = key
      · subst same
        simp [repeated]
      · simp [same]
    · rw [if_neg repeated, ih, get_push]
      by_cases same : wanted = key
      · subst same
        simp [repeated]
      · simp [same, Ne.symm same]

theorem get_foldl_pushAll (keys : α → List κ) (items : List α) (map : Multimap κ α) (wanted : κ) :
    get (items.foldl (fun map item => pushAll item [] map (keys item)) map) wanted =
      get map wanted ++ items.filter fun item => wanted ∈ keys item := by
  induction items generalizing map with
  | nil => simp
  | cons item rest ih =>
    rw [List.foldl_cons, ih, get_pushAll]
    by_cases carried : wanted ∈ keys item <;> simp [carried]

/-- The values under a key are the items that carry it, in their order. -/
theorem get_groupBy (keys : α → List κ) (items : List α) (wanted : κ) :
    get (groupBy keys items) wanted = items.filter fun item => wanted ∈ keys item := by
  rw [groupBy, get_foldl_pushAll]
  rfl

theorem get_mapValues (map : Multimap κ α) {assign : List α → List α}
    (keepsNil : assign [] = []) (wanted : κ) :
    get (mapValues map assign) wanted = assign (get map wanted) := by
  induction map with
  | nil => exact keepsNil.symm
  | cons entry rest ih =>
    rcases entry with ⟨key, values⟩
    change (if key = wanted then assign values else get (mapValues rest assign) wanted) = _
    rw [ih, get]
    by_cases found : key = wanted <;> simp [found]

end Multimap
end Treer.Foundation
