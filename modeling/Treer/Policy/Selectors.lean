import Treer.Policy.Below
import Treer.Policy.Validation

/-!
# What the path selectors select

A selector compares a path with the path of a node, as texts or component by component.
On the paths of a tree both compare the components, where the names hold no slash.
-/

namespace Treer.Policy

open Foundation Protocol Treer.Tree Path List Text
variable {parts start pattern : List String} {path : String} {isGlob : Bool}

/-- An accepted path is the text of its components; in a pattern `**` is the last of them. -/
theorem render_of_validatePolicyPath (accepted : validatePolicyPath path isGlob = .ok ()) :
    ∃ parts, path = render parts ∧ (∀ part ∈ parts, Plain part) ∧
      (isGlob = true → "**" ∉ parts.dropLast) := by
  have valid := refuse_eq_ok_iff.mp accepted
  simp only [Bool.not_eq_false', Bool.and_eq_true, Bool.or_eq_true, beq_iff_eq] at valid
  obtain ⟨⟨⟨⟨absolute, _⟩, _⟩, _⟩, root | all⟩ := valid
  · exact ⟨[], root, by simp, by simp⟩
  obtain ⟨rest, chars⟩ := isPrefixOf_iff_prefix.mp absolute
  have body : (stripPrefix path "/").getD path = String.ofList rest := by
    rw [stripPrefix, if_pos absolute, ← chars]
    rfl
  rw [body] at all
  have validPart : ∀ index part, (split (String.ofList rest) '/')[index]? = some part →
      validPathPart isGlob (index == (split (String.ofList rest) '/').length - 1) part =
        true := fun index part found =>
    all_eq_true.mp all (part, index) (mem_zipIdx_iff_getElem?.mpr found)
  refine ⟨split (String.ofList rest) '/', ?_, ?_, ?_⟩
  · apply String.toList_injective
    rw [← chars, toList_render, split, map_map, String.toList_ofList]
    simp [Function.comp_def, intercalate_splitOn]
  · intro part mem
    obtain ⟨index, found⟩ := mem_iff_getElem?.mp mem
    have visible := validPart index part found
    simp only [validPathPart, Bool.and_eq_true, bne_iff_ne] at visible
    exact ⟨visible.1.1.1.1, not_mem_of_mem_split mem⟩
  · rintro rfl mem
    obtain ⟨index, found⟩ := mem_iff_getElem?.mp mem
    rw [getElem?_dropLast] at found
    split at found
    · rename_i early
      have last := validPart index "**" found
      rw [beq_eq_false_iff_ne.mpr (by omega)] at last
      revert last
      decide
    · cases found

theorem pathParts_append (first second : String) :
    pathParts (first ++ "/" ++ second) = pathParts first ++ pathParts second := by
  simp [pathParts, split, splitOn_append_cons_self]

/-- One path extends another by whole components exactly if it has more of them. -/
theorem below_render_iff (startPlain : ∀ part ∈ start, Plain part)
    (plain : ∀ part ∈ parts, Plain part) :
    below (render start) (render parts) = true ↔ start <+: parts ∧ start ≠ parts := by
  have differ : (render parts != render start) = true ↔ start ≠ parts := by
    rw [bne_iff_ne, not_iff_not]
    exact ⟨fun same => (render_injective plain startPlain same).symm, fun same => same ▸ rfl⟩
  rw [below, Bool.and_eq_true, differ, and_comm, and_congr_left_iff]
  intro others
  by_cases root : start = []
  · subst root
    exact iff_of_true rfl nil_prefix
  have notRoot : (render start == "/") = false :=
    beq_eq_false_iff_ne.mpr fun same => root (render_injective startPlain nofun same)
  rw [notRoot, Bool.false_or, stripPrefix]
  constructor
  · intro extended
    split at extended
    · rename_i begins
      obtain ⟨rest, chars⟩ := isPrefixOf_iff_prefix.mp begins
      simp only [Option.any_some, ← chars, drop_left, startsWith, String.toList_ofList] at extended
      obtain ⟨more, slash⟩ := isPrefixOf_iff_prefix.mp extended
      have whole : render parts = render start ++ "/" ++ String.ofList more := by
        apply String.toList_injective
        rw [← chars, ← slash]
        simp
      have components := pathParts_append (render start) (String.ofList more)
      rw [← whole, pathParts, filter_split_render plain, pathParts,
        filter_split_render startPlain] at components
      exact ⟨_, components.symm⟩
    · cases extended
  · rintro ⟨more, rfl⟩
    cases more with
    | nil => simp at others
    | cons next more =>
      have chars : (render (start ++ next :: more)).toList =
          (render start).toList ++
            '/' :: (next.toList ++ more.flatMap fun part => '/' :: part.toList) := by
        rw [toList_render_of_ne_nil (by simp), toList_render_of_ne_nil root]
        simp
      have begins : startsWith (render (start ++ next :: more)) (render start) = true :=
        isPrefixOf_iff_prefix.mpr ⟨_, chars.symm⟩
      rw [if_pos begins, chars, drop_left]
      simp [startsWith]

/-- The components of a pattern match those of a path one by one; `*` matches any one, and `**`
at the end any that are left. -/
inductive Matches : List String → List String → Prop
  | nil : Matches [] []
  | rest (parts : List String) : Matches ["**"] parts
  | any {pattern parts : List String} (value : String) (matched : Matches pattern parts) :
    Matches ("*" :: pattern) (value :: parts)
  | same {pattern parts : List String} (part : String) (matched : Matches pattern parts) :
    Matches (part :: pattern) (part :: parts)

theorem globParts_iff (final : "**" ∉ pattern.dropLast) :
    globParts pattern parts = true ↔ Matches pattern parts := by
  induction pattern generalizing parts with
  | nil =>
    cases parts with
    | nil => exact iff_of_true rfl .nil
    | cons => exact iff_of_false nofun nofun
  | cons part rest ih =>
    by_cases all : part = "**"
    · subst all
      cases rest with
      | nil => exact iff_of_true rfl (.rest parts)
      | cons => exact absurd mem_cons_self final
    · have later : "**" ∉ rest.dropLast := fun mem => final (by
        cases rest with
        | nil => cases mem
        | cons => exact mem_cons_of_mem _ mem)
      cases parts with
      | nil =>
        refine iff_of_false (by simp [globParts, all]) fun matched => ?_
        cases matched
        exact all rfl
      | cons value values =>
        simp only [globParts, beq_eq_false_iff_ne.mpr all, Bool.false_eq_true, if_false,
          Bool.and_eq_true, bne_iff_ne]
        constructor
        · intro matched
          split at matched
          · cases matched
          rename_i agrees
          have := (ih later).mp matched
          by_cases any : part = "*"
          · subst any
            exact .any value this
          have same : value = part := by
            by_contra other
            exact agrees ⟨any, other⟩
          subst same
          exact .same value this
        · intro matched
          cases matched with
          | rest => exact absurd rfl all
          | any _ matched => simpa using (ih later).mpr matched
          | same _ matched => simpa using (ih later).mpr matched

/-- Without `*` only the `**` at the end stands for more than itself. -/
theorem globParts_concat_iff (literal : ∀ part ∈ start, '*' ∉ part.toList) :
    globParts (start ++ ["**"]) parts = true ↔ start <+: parts := by
  induction start generalizing parts with
  | nil => exact iff_of_true rfl nil_prefix
  | cons part rest ih =>
    have plain := literal part mem_cons_self
    have notAll : part ≠ "**" := by rintro rfl; simp at plain
    have notAny : part ≠ "*" := by rintro rfl; simp at plain
    cases parts with
    | nil => simp [globParts, notAll]
    | cons value values =>
      by_cases same : value = part
      · subst same
        simpa [globParts, notAll] using ih fun part mem => literal part (mem_cons_of_mem _ mem)
      · simp [globParts, notAll, notAny, same, Ne.symm same]

variable {tree : WorkloadTree} {revision : Nat} {node : TreeNode} {target : PolicyTreeContext}

section
variable (placed : target.placed = true)
include placed

theorem selectorMatches_start (start : PolicyPathPrefix) :
    selectorMatches (some { pathPrefix := some start }) (some target) =
      ((start.includeSelf && start.path == target.path) || below start.path target.path) := by
  simp [selectorMatches, placedContext, Option.filter, placed]

theorem selectorMatches_glob (pattern : String) :
    selectorMatches (some { pathGlob := some pattern }) (some target) =
      glob pattern target.path := by
  simp [selectorMatches, placedContext, Option.filter, placed]

end

/-- A path selector compares the components of its path with the names above the node and its
own. -/
theorem path_selectors_compare_components
    (folders : ∀ folder ∈ tree.folders, Plain folder.name) (own : Plain target.name)
    (built : node.context tree revision = .ok target) (placed : target.placed = true) :
    ∃ chain, Ancestry tree.parent node.place chain ∧
      let parts := chain.map tree.folderName ++ [target.name]
      (∀ start, validatePolicyPath start.path false = .ok () →
        (selectorMatches (some { pathPrefix := some start }) (some target) = true ↔
          pathParts start.path <+: parts ∧
            (start.includeSelf = false → pathParts start.path ≠ parts))) ∧
      (∀ pattern, validatePolicyPath pattern true = .ok () →
        (selectorMatches (some { pathGlob := some pattern }) (some target) = true ↔
          Matches (pathParts pattern) parts)) ∧
      ∀ path, validatePolicyPath path false = .ok () → '*' ∉ path.toList →
        selectorMatches (some { pathPrefix := some ⟨path, true⟩ }) (some target) =
          selectorMatches (some { pathGlob := some (path ++ "/**") }) (some target) := by
  obtain ⟨chain, fields⟩ := contextAt_of_node built
  refine ⟨chain, fields.walk, ?_⟩
  intro parts
  have above := forall_names_of_walk folders fields.walk
  have plain : ∀ part ∈ parts, Plain part := by
    intro part mem
    rcases mem_append.mp mem with upper | last
    · exact above part upper
    · rw [mem_singleton.mp last]
      exact own
  have written : target.path = render parts := by
    rw [fields.path, fields.folderPath, trimEndMatches_render above]
  have byPrefix : ∀ start, validatePolicyPath start.path false = .ok () →
      (selectorMatches (some { pathPrefix := some start }) (some target) = true ↔
        pathParts start.path <+: parts ∧
          (start.includeSelf = false → pathParts start.path ≠ parts)) := by
    intro start accepted
    obtain ⟨upper, same, upperPlain, _⟩ := render_of_validatePolicyPath accepted
    have equal : render upper = render parts ↔ upper = parts :=
      ⟨render_injective upperPlain plain, congrArg render⟩
    rw [selectorMatches_start placed, Bool.or_eq_true, Bool.and_eq_true, beq_iff_eq, same,
      written, equal, below_render_iff upperPlain plain, pathParts, filter_split_render upperPlain]
    constructor
    · rintro (⟨included, rfl⟩ | ⟨lies, others⟩)
      · exact ⟨prefix_rfl, by simp [included]⟩
      · exact ⟨lies, fun _ => others⟩
    · rintro ⟨lies, proper⟩
      by_cases whole : upper = parts
      · exact .inl ⟨by simpa using mt proper (not_not.mpr whole), whole⟩
      · exact .inr ⟨lies, whole⟩
  refine ⟨byPrefix, ?_, ?_⟩
  · intro pattern accepted
    obtain ⟨own, rfl, ownPlain, final⟩ := render_of_validatePolicyPath accepted
    rw [selectorMatches_glob placed, glob, written, pathParts, pathParts,
      filter_split_render plain, filter_split_render ownPlain, globParts_iff (final rfl)]
  · intro path accepted literal
    have parsed : pathParts (path ++ "/**") = pathParts path ++ ["**"] := by
      rw [show "/**" = "/" ++ "**" by decide, ← String.append_assoc, pathParts_append]
      congr 1
    have star : ∀ part ∈ pathParts path, '*' ∉ part.toList := by
      intro part mem charMem
      exact literal (mem_of_mem_split (mem_filter.mp mem).1 charMem).1
    rw [Bool.eq_iff_iff, byPrefix ⟨path, true⟩ accepted, selectorMatches_glob placed, glob, parsed,
      written, pathParts.eq_1 (render parts), filter_split_render plain, globParts_concat_iff star]
    simp

open Sample Tree.Sample in
/-- Both selectors of the top folder select an Agent two folders below. -/
theorem path_selectors_compare_components_worker :
    selectorMatches (some { pathPrefix := some ⟨"/team", true⟩ }) (some workerContext) =
      selectorMatches (some { pathGlob := some ("/team" ++ "/**") }) (some workerContext) := by
  have folders : ∀ folder ∈ nested.folders, Plain folder.name := by simp [nested, Plain]
  have own : Plain workerContext.name := by simp [workerContext, Plain]
  have built : worker.context nested 1 = .ok workerContext := by decide
  obtain ⟨_, _, _, _, agree⟩ := path_selectors_compare_components folders own built rfl
  exact agree "/team" (by decide) (by decide)

end Treer.Policy
