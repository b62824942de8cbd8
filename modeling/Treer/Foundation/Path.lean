import Treer.Foundation.Forest
import Treer.Foundation.Text

/-!
# Absolute paths

An absolute path is written as its components, each after a slash. Components
that are not empty and hold no slash can be read back, so that the text
determines them.

The second part walks down a forest along the labels of its nodes. Where a
label picks at most one child, the labels of an ancestry lead back to its end.
-/

namespace Treer.Foundation.Path

open List Text

/-- The absolute path with the given components. -/
def render (parts : List String) : String :=
  "/" ++ Text.join parts '/'

/-- A text that can stand between two slashes. -/
def Plain (part : String) : Prop :=
  part ≠ "" ∧ '/' ∉ part.toList

variable {parts other : List String} {part name : String}

@[simp]
theorem toList_render :
    (render parts).toList = '/' :: ['/'].intercalate (parts.map String.toList) := by
  simp [render, join]

/-- The path with at least one component, component by component. -/
theorem toList_render_of_ne_nil (nonempty : parts ≠ []) :
    (render parts).toList = parts.flatMap fun part => '/' :: part.toList := by
  rw [toList_render]
  induction parts with
  | nil => exact absurd rfl nonempty
  | cons head rest ih =>
    cases rest with
    | nil => simp
    | cons next rest =>
      rw [map_cons, map_cons, intercalate_cons_cons, flatMap_cons, ← ih (by simp)]
      simp

theorem split_render (nonempty : parts ≠ []) (plain : ∀ part ∈ parts, Plain part) :
    split (render parts) '/' = "" :: parts := by
  have joined : render parts = join ("" :: parts) '/' := by
    apply String.toList_injective
    cases parts with
    | nil => exact absurd rfl nonempty
    | cons head rest => simp [join, intercalate_cons_cons]
  rw [joined, split_join (by simp)]
  simpa using fun part mem => (plain part mem).2

section
variable (plain : ∀ part ∈ parts, Plain part)
include plain

/-- The components are what stands between the slashes. -/
theorem filter_split_render : (split (render parts) '/').filter (· != "") = parts := by
  by_cases empty : parts = []
  · subst empty
    decide
  · rw [split_render empty plain, filter_cons_of_neg (by simp)]
    apply filter_eq_self.mpr
    intro part mem
    exact bne_iff_ne.mpr (plain part mem).1

theorem render_injective
    (otherPlain : ∀ part ∈ other, Plain part) (same : render parts = render other) :
    parts = other := by
  rw [← filter_split_render plain, same, filter_split_render otherPlain]

/-- Appending a component; the slash of the root is not doubled. -/
theorem trimEndMatches_render :
    trimEndMatches (render parts) '/' ++ "/" ++ name = render (parts ++ [name]) := by
  apply String.toList_injective
  rw [toList_render_of_ne_nil (by simp)]
  have trimmed : (trimEndMatches (render parts) '/').toList =
      parts.flatMap fun part => '/' :: part.toList := by
    rw [trimEndMatches, String.toList_ofList]
    rcases eq_nil_or_concat' parts with rfl | ⟨above, last, rfl⟩
    · decide
    -- The last component ends in a character that is not a slash.
    rcases plain last (by simp) with ⟨visible, noSlash⟩
    rcases eq_nil_or_concat' last.toList with empty | ⟨init, final, ending⟩
    · exact absurd (String.toList_eq_nil_iff.mp empty) visible
    have finalNe : ¬(final == '/') = true := by
      intro isSlash
      apply noSlash
      rw [ending, ← beq_iff_eq.mp isSlash]
      simp
    rw [toList_render_of_ne_nil (by simp), flatMap_append, flatMap_singleton, ending,
      ← cons_append, ← append_assoc, rdropWhile_concat_neg (· == '/') _ final finalNe]
  simp [trimmed]

end

section

universe u v w

variable {ν : Type u} {κ : Type v} {ε : Type w} {child : Option ν → κ → Except ε ν}
  {parent : ParentMap ν} {place : Option ν} {chain : List ν} {labels : List κ}

/-- Goes down from a place along labels. -/
def descend (child : Option ν → κ → Except ε ν) : Option ν → List κ → Except ε (Option ν)
  | place, [] => .ok place
  | place, label :: rest =>
    match child place label with
    | .error error => .error error
    | .ok id => descend child (some id) rest

theorem descend_append {lower : List κ} : descend child place (labels ++ lower) =
      (descend child place labels).bind fun reached => descend child reached lower := by
  induction labels generalizing place with
  | nil => rfl
  | cons label rest ih =>
    rw [cons_append, descend, descend]
    cases child place label with
    | error error => rfl
    | ok id => exact ih

/-- Where every node is found below its parent by its label, the labels of an ancestry lead to its
end. -/
theorem descend_of_ancestry {label : ν → κ} (walk : Ancestry parent place chain)
    (finds : ∀ id ∈ chain, ∀ above, parent id = some above → child above (label id) = .ok id) :
    descend child none (chain.map label) = .ok place := by
  induction walk with
  | top => rfl
  | @node id above up found _ ih =>
    have reached : descend child none (up.map label) = .ok above := by
      apply ih
      intro other mem
      exact finds other (by simp [mem])
    have last : child above (label id) = .ok id := finds id (by simp) above found
    rw [map_append, descend_append, reached]
    simp [Except.bind, descend, last]

end
end Treer.Foundation.Path
