import Treer.Policy.Compiled
import Treer.Policy.Validation

/-!
# What a policy document means

The meaning of a document is stated without order, lists per action or a
search: among the rules that apply to a request those of the highest priority
decide, and one denial among them is enough. A compiled policy computes this
meaning, so neither the order of the rules nor a repeated action can change a
decision.
-/

namespace Treer.Policy

open Foundation CompiledWorkspacePolicy List
open CompiledWorkspacePolicy (compile)

section
variable (document : WorkspacePolicyDocument) (request : PolicyRequest)

/-- A principal is listed in a group of the document. -/
def InGroup (group : String) (kind : PolicyPrincipalKind) (id : String) : Prop :=
  ∃ members, document.groups.get? group = some members ∧ ⟨kind, id⟩ ∈ members.principals

/-- Everything a subject selector states is true of the request's subject. -/
@[mk_iff]
structure SelectsSubject (selector : PolicySubjectSelector) : Prop where
  kind : ∀ kind ∈ selector.kind, kind = (subjectParts request.subject).1
  tree : selectorMatches selector.tree request.subjectTree = true
  id : ∀ id ∈ selector.id, id = (subjectParts request.subject).2.1
  machine : ∀ machine ∈ selector.machineId, machine = (subjectParts request.subject).2.2
  group : ∀ group ∈ selector.group,
    InGroup document group (subjectParts request.subject).1 (subjectParts request.subject).2.1
  self : selector.isSelf = true → request.resource.id = (subjectParts request.subject).2.1

/-- Everything a resource selector states is true of the request's resource. -/
@[mk_iff]
structure SelectsResource (selector : PolicyResourceSelector) : Prop where
  tree : selectorMatches selector.tree request.resourceTree = true
  kind : ∀ kind ∈ selector.kind, kind = request.resource.kind
  id : ∀ id ∈ selector.id, id = request.resource.id
  group : ∀ group ∈ selector.principalGroup,
    ∃ kind id, resourcePrincipal request.resource = some (kind, id) ∧ InGroup document group kind id

/-- A rule lists the action and matches subject, resource and conditions. -/
@[mk_iff]
structure Applies (rule : WorkspacePolicyRule) : Prop where
  action : request.action ∈ rule.actions
  subject : ∃ selector ∈ rule.subjects, SelectsSubject document request selector
  resource : ∃ selector ∈ rule.resources, SelectsResource document request selector
  conditions : conditionsMatch rule request = true

/-- A rule that applies with the highest priority of those that apply. -/
structure Decisive (rule : WorkspacePolicyRule) : Prop where
  mem : rule ∈ document.rules
  applies : Applies document request rule
  highest : ∀ other ∈ document.rules, Applies document request other →
    other.priority ≤ rule.priority

/-- The effect a document has on a request. -/
inductive Meaning : PolicyEffect → Prop where
  | denied (rule : WorkspacePolicyRule) (decisive : Decisive document request rule)
      (denies : rule.effect = .deny) : Meaning .deny
  | allowed (rule : WorkspacePolicyRule) (decisive : Decisive document request rule)
      (allows : ∀ other, Decisive document request other → other.effect = .allow) :
      Meaning .allow
  | default (unmatched : ∀ rule ∈ document.rules, ¬ Applies document request rule) :
      Meaning ((document.defaults.get? request.action).getD .allow)

end

variable {document : WorkspacePolicyDocument} {request : PolicyRequest}

/-- A document has one effect on a request. -/
theorem Meaning.unique {first second : PolicyEffect} (firstMeaning : Meaning document request first)
    (secondMeaning : Meaning document request second) : first = second := by
  cases firstMeaning with
  | denied rule decisive denies =>
    cases secondMeaning with
    | denied => rfl
    | allowed _ _ allows =>
      rw [allows rule decisive] at denies
      cases denies
    | default unmatched => exact absurd decisive.applies (unmatched rule decisive.mem)
  | allowed rule decisive allows =>
    cases secondMeaning with
    | denied other otherDecisive denies =>
      rw [allows other otherDecisive] at denies
      cases denies
    | allowed => rfl
    | default unmatched => exact absurd decisive.applies (unmatched rule decisive.mem)
  | default unmatched =>
    cases secondMeaning with
    | denied rule decisive
    | allowed rule decisive => exact absurd decisive.applies (unmatched rule decisive.mem)
    | default => rfl

variable {best rule : WorkspacePolicyRule} {policy : WorkspacePolicy}

section
theorem groupContains_compile_iff {group : String} {kind : PolicyPrincipalKind} {id : String} :
    (compile policy).groupContains group kind id = true ↔
      InGroup policy.document group kind id := by
  have groupsEq : (compile policy).groups = policy.document.groups.mapValues (·.principals) := rfl
  rw [groupContains, groupsEq, KeyedMap.get?_mapValues, InGroup]
  cases policy.document.groups.get? group with
  | none => simp
  | some =>
    simp only [Option.map_some, Option.any_some, any_eq_true, Bool.and_eq_true, beq_iff_eq,
      Option.some.injEq, exists_eq_left']
    constructor
    · rintro ⟨⟨_, _⟩, member, rfl, rfl⟩
      exact member
    · intro member
      exact ⟨_, member, rfl, rfl⟩

theorem subjectMatches_compile_iff {selector : PolicySubjectSelector} :
    (compile policy).subjectMatches selector request = true ↔
      SelectsSubject policy.document request selector := by
  simp only [subjectMatches, selectsSubject_iff, Bool.and_eq_true, Option.all_eq_true,
    beq_iff_eq, groupContains_compile_iff, Bool.or_eq_true, Bool.not_eq_true', and_assoc]
  cases selector.isSelf <;> simp

theorem resourceMatches_compile_iff {selector : PolicyResourceSelector} :
    (compile policy).resourceMatches selector request = true ↔
      SelectsResource policy.document request selector := by
  simp only [resourceMatches, selectsResource_iff, Bool.and_eq_true, Option.all_eq_true,
    beq_iff_eq, Option.any_eq_true, groupContains_compile_iff, Prod.exists, and_assoc,
    Option.mem_def]

/-- A rule in the list of the action passes the search condition exactly when
it applies. -/
theorem applies_iff_ruleMatches : Applies policy.document request rule ↔
      request.action ∈ rule.actions ∧ (compile policy).ruleMatches request rule = true := by
  simp only [ruleMatches, applies_iff, Bool.and_eq_true, any_eq_true,
    subjectMatches_compile_iff, resourceMatches_compile_iff, and_assoc]

/-- The search finds nothing exactly when no rule applies. -/
theorem matched_eq_none_iff : (compile policy).matched request = none ↔
      ∀ rule ∈ policy.document.rules, ¬ Applies policy.document request rule := by
  rw [matched, get_rulesByAction_compile, find?_insertionSort_eq_none_iff]
  simp only [mem_filter, decide_eq_true_eq, applies_iff_ruleMatches, not_and,
    Bool.not_eq_true, and_imp]

section
variable (found : (compile policy).matched request = some best)
include found

/-- The rule the search finds applies and comes before every other rule that
applies. -/
theorem best_of_matched : best ∈ policy.document.rules ∧ Applies policy.document request best ∧
      ∀ other ∈ policy.document.rules, Applies policy.document request other →
        RuleBefore (policy.document.schemaVersion == 2) best other := by
  rw [matched, get_rulesByAction_compile] at found
  rcases best_of_find?_insertionSort found with ⟨bestMem, bestMatches, first⟩
  rw [mem_filter, decide_eq_true_eq] at bestMem
  refine ⟨bestMem.1, applies_iff_ruleMatches.mpr ⟨bestMem.2, bestMatches⟩, ?_⟩
  intro other otherMem otherApplies
  rw [applies_iff_ruleMatches] at otherApplies
  exact first other (mem_filter.mpr ⟨otherMem, by simpa using otherApplies.1⟩) otherApplies.2

theorem decisive_of_matched : Decisive policy.document request best := by
  rcases best_of_matched found with ⟨bestMem, bestApplies, first⟩
  exact ⟨bestMem, bestApplies, fun other otherMem otherApplies =>
    (first other otherMem otherApplies).outranks.1⟩

theorem computedEffect_of_matched :
    ((compile policy).explain request).computedEffect = best.effect := by
  simp [explain, found]

end

theorem computedEffect_of_unmatched (unmatched : (compile policy).matched request = none) :
    ((compile policy).explain request).computedEffect =
      (policy.document.defaults.get? request.action).getD .allow := by
  simp only [explain, unmatched, Option.map_none, Option.none_or]
  rfl

/-- The effect a compiled policy computes is the meaning of its document. -/
theorem meaning_computedEffect (policy : WorkspacePolicy) (request : PolicyRequest) :
    Meaning policy.document request ((compile policy).explain request).computedEffect := by
  cases found : (compile policy).matched request with
  | none =>
    rw [computedEffect_of_unmatched found]
    exact .default (matched_eq_none_iff.mp found)
  | some best =>
    have decisive := decisive_of_matched found
    rw [computedEffect_of_matched found]
    cases effectEq : best.effect with
    | deny => exact .denied best decisive effectEq
    | allow =>
      refine .allowed best decisive fun other otherDecisive => ?_
      -- A decisive denial would come before the allowing rule that was found.
      have outranked := ((best_of_matched found).2.2 other otherDecisive.mem
        otherDecisive.applies).outranks
      have samePriority := le_antisymm outranked.1
        (otherDecisive.highest best decisive.mem decisive.applies)
      cases otherEffect : other.effect with
      | allow => rfl
      | deny =>
        rw [outranked.2 samePriority otherEffect] at effectEq
        cases effectEq

end

/-! ## Rearranged documents -/

/-- Two rules that differ at most in how they list the same actions. -/
structure SameRule (first second : WorkspacePolicyRule) : Prop where
  fields : second = { first with actions := second.actions }
  actions : ∀ action, action ∈ first.actions ↔ action ∈ second.actions

/-- The rules were permuted, and actions repeated or reordered inside rules. -/
def Rearranged (rules others : List WorkspacePolicyRule) : Prop :=
  ∃ permuted, rules.Perm permuted ∧ List.Forall₂ SameRule permuted others

theorem SameRule.symm {first second : WorkspacePolicyRule} (same : SameRule first second) :
    SameRule second first := by
  rcases same with ⟨fields, actions⟩
  refine ⟨?_, fun action => (actions action).symm⟩
  rw [fields]

theorem exists_sameRule {rules others : List WorkspacePolicyRule}
    (related : Forall₂ SameRule rules others) :
    (∀ rule ∈ rules, ∃ other ∈ others, SameRule rule other) ∧
      ∀ other ∈ others, ∃ rule ∈ rules, SameRule rule other := by
  induction related with
  | nil => simp
  | cons same _ ih =>
    constructor
    · rintro rule (_ | ⟨_, ruleMem⟩)
      · exact ⟨_, mem_cons_self, same⟩
      · rcases ih.1 rule ruleMem with ⟨other, otherMem, sameOther⟩
        exact ⟨other, mem_cons_of_mem _ otherMem, sameOther⟩
    · rintro other (_ | ⟨_, otherMem⟩)
      · exact ⟨_, mem_cons_self, same⟩
      · rcases ih.2 other otherMem with ⟨rule, ruleMem, sameRule⟩
        exact ⟨rule, mem_cons_of_mem _ ruleMem, sameRule⟩

section
variable {rules others : List WorkspacePolicyRule}

theorem Rearranged.exists_left (rearranged : Rearranged rules others)
    {other : WorkspacePolicyRule} (otherMem : other ∈ others) :
    ∃ rule ∈ rules, SameRule rule other := by
  rcases rearranged with ⟨_, perm, related⟩
  rcases (exists_sameRule related).2 other otherMem with ⟨rule, ruleMem, same⟩
  exact ⟨rule, perm.mem_iff.mpr ruleMem, same⟩

/-- Whether a rule applies depends on the document's groups and on the set of its actions. -/
theorem Applies.of_sameRule {first second : WorkspacePolicyRule}
    (applies : Applies document request first) (same : SameRule first second)
    (others : List WorkspacePolicyRule) :
    Applies { document with rules := others } request second := by
  rcases applies with ⟨action, ⟨subject, subjectMem, selected⟩, ⟨resource, resourceMem, chosen⟩,
    conditions⟩
  rcases selected with ⟨kind, tree, id, machine, group, self⟩
  rcases chosen with ⟨resourceTree, resourceKind, resourceId, resourceGroup⟩
  refine ⟨(same.actions _).mp action, ⟨subject, ?_, kind, tree, id, machine, group, self⟩,
    ⟨resource, ?_, resourceTree, resourceKind, resourceId, resourceGroup⟩, ?_⟩
  · rw [same.fields]
    exact subjectMem
  · rw [same.fields]
    exact resourceMem
  · rw [same.fields]
    exact conditions

/-- A policy with other rules. -/
def withRules (policy : WorkspacePolicy) (others : List WorkspacePolicyRule) : WorkspacePolicy :=
  { policy with document := { policy.document with rules := others } }

/-- Rearranging the rules changes neither whether one is found nor what the order reads of it. -/
theorem matched_rearranged (rearranged : Rearranged policy.document.rules others)
    (found : (compile policy).matched request = some best) :
    ∃ other, (compile (withRules policy others)).matched request = some other ∧
      other.effect = best.effect ∧
      (policy.document.schemaVersion = 2 → other.id = best.id) := by
  rcases best_of_matched found with ⟨bestMem, bestApplies, bestFirst⟩
  have ⟨_, perm, related⟩ := rearranged
  rcases (exists_sameRule related).1 best (perm.mem_iff.mp bestMem) with
    ⟨bestCopy, copyMem, bestSame⟩
  have copyApplies := bestApplies.of_sameRule bestSame others
  cases otherFound : (compile (withRules policy others)).matched request with
  | none => exact absurd copyApplies (matched_eq_none_iff.mp otherFound bestCopy copyMem)
  | some other =>
    rcases best_of_matched otherFound with ⟨otherMem, otherApplies, otherFirst⟩
    rcases rearranged.exists_left otherMem with ⟨source, sourceMem, sourceSame⟩
    have sourceApplies := otherApplies.of_sameRule sourceSame.symm policy.document.rules
    -- Each of the two found rules comes before the copy of the other.
    have forward := otherFirst bestCopy copyMem copyApplies
    have backward := bestFirst source sourceMem sourceApplies
    rw [bestSame.symm.fields, sourceSame.symm.fields] at backward
    rcases forward.agree backward with ⟨_, effectEq, idEq⟩
    refine ⟨other, rfl, ?_, fun schemaEq => ?_⟩
    · rw [effectEq, bestSame.fields]
    · rw [idEq (beq_iff_eq.mpr schemaEq), bestSame.fields]

theorem matched_rearranged_eq_none (rearranged : Rearranged policy.document.rules others)
    (unmatched : (compile policy).matched request = none) :
    (compile (withRules policy others)).matched request = none := by
  rw [matched_eq_none_iff] at unmatched ⊢
  intro other otherMem otherApplies
  rcases rearranged.exists_left otherMem with ⟨source, sourceMem, sourceSame⟩
  exact unmatched source sourceMem (otherApplies.of_sameRule sourceSame.symm policy.document.rules)

end

theorem effectiveDecision_eq (policy : CompiledWorkspacePolicy) (request : PolicyRequest) :
    (policy.explain request).effectiveDecision =
      if policy.mode = .monitor then .allow else (policy.explain request).computedEffect := by
  simp only [explain, beq_iff_eq]

/-- Evaluating a compiled policy is evaluating the meaning of its document: the effect is the
meaning, monitoring allows, and rearranging the rules changes no decision and, with schema 2, no
matched rule. -/
theorem explain_eq_meaning (policy : WorkspacePolicy) (request : PolicyRequest) :
    (∀ effect, ((compile policy).explain request).computedEffect = effect ↔
      Meaning policy.document request effect) ∧
    ((compile policy).explain request).effectiveDecision =
      (if policy.mode = .monitor then .allow
        else ((compile policy).explain request).computedEffect) ∧
    ∀ others, Rearranged policy.document.rules others →
      let explanation := (compile (withRules policy others)).explain request
      explanation.computedEffect = ((compile policy).explain request).computedEffect ∧
      explanation.effectiveDecision = ((compile policy).explain request).effectiveDecision ∧
      (policy.document.schemaVersion = 2 →
        explanation.matchedRuleId = ((compile policy).explain request).matchedRuleId) := by
  refine ⟨?_, effectiveDecision_eq (compile policy) request, ?_⟩
  · intro effect
    constructor
    · rintro rfl
      exact meaning_computedEffect policy request
    · intro meaning
      exact (meaning_computedEffect policy request).unique meaning
  · intro others rearranged explanation
    have effectEq : explanation.computedEffect =
        ((compile policy).explain request).computedEffect := by
      cases found : (compile policy).matched request with
      | none =>
        rw [computedEffect_of_unmatched found,
          computedEffect_of_unmatched (matched_rearranged_eq_none rearranged found)]
        rfl
      | some =>
        rcases matched_rearranged rearranged found with ⟨other, otherFound, sameEffect, _⟩
        rw [computedEffect_of_matched found, computedEffect_of_matched otherFound, sameEffect]
    refine ⟨effectEq, ?_, fun schemaEq => ?_⟩
    · rw [effectiveDecision_eq, effectiveDecision_eq, effectEq]
      rfl
    cases found : (compile policy).matched request with
    | none =>
      simp [explanation, explain, found, matched_rearranged_eq_none rearranged found]
    | some =>
      rcases matched_rearranged rearranged found with ⟨_, otherFound, _, sameId⟩
      simp [explanation, explain, found, otherFound, sameId schemaEq]

end Treer.Policy
