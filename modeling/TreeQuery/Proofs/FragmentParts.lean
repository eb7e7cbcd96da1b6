import TreeQuery.Proofs.FilterRuns

/-!
# Properties of all joins and conditions of a fragment

What is true of every join and condition in a fragment, at any depth, is true of
those that it is lowered to, if the connectives and the lookup of keys keep it.
-/

namespace TreeQuery

def Branch.Each (join : Sql.Join → Prop) (condition : Sql.Condition → Prop)
    (branch : Branch) : Prop :=
  (∀ tested ∈ branch.joins, join tested) ∧ ∀ tested ∈ branch.conditions, condition tested

namespace Fragment

variable {join : Sql.Join → Prop} {condition : Sql.Condition → Prop}

mutual

def Each (join : Sql.Join → Prop) (condition : Sql.Condition → Prop) : Fragment → Prop
  | ⟨_, _, _, filterJoins, _, conditions, _, _, _, _, allOf, anyOf, noneOf⟩ =>
      (∀ tested ∈ filterJoins, join tested) ∧ (∀ tested ∈ conditions, condition tested) ∧
        EachAll join condition allOf ∧ EachAll join condition anyOf ∧
        EachAll join condition noneOf

def EachAll (join : Sql.Join → Prop) (condition : Sql.Condition → Prop) :
    List Fragment → Prop
  | [] => True
  | fragment :: rest => Each join condition fragment ∧ EachAll join condition rest

end

theorem eachAll_iff {fragments : List Fragment} :
    EachAll join condition fragments ↔ ∀ fragment ∈ fragments, fragment.Each join condition := by
  induction fragments with
  | nil => simp [EachAll]
  | cons fragment rest ih => simp [EachAll, ih]

theorem each_iff {fragment : Fragment} :
    fragment.Each join condition ↔
      (∀ tested ∈ fragment.filterJoins, join tested) ∧
      (∀ tested ∈ fragment.conditions, condition tested) ∧
      (∀ child ∈ fragment.allOf, child.Each join condition) ∧
      (∀ child ∈ fragment.anyOf, child.Each join condition) ∧
      ∀ child ∈ fragment.noneOf, child.Each join condition := by
  cases fragment
  simp only [Each, eachAll_iff]

@[simp] theorem each_emptied {fragment : Fragment} :
    fragment.emptied.Each join condition ↔ fragment.Each join condition := by
  rw [each_iff, each_iff]
  rfl

theorem each_empty : Each join condition {} := by
  rw [each_iff]
  simp

/-! ## Merging -/

theorem Each.addGroup {fragment : Fragment} {group : List Fragment}
    (own : fragment.Each join condition)
    (children : ∀ child ∈ group, child.Each join condition) :
    (fragment.addGroup group).Each join condition := by
  obtain ⟨joins, conditions, allOf, anyOf, noneOf⟩ := each_iff.mp own
  have alone : Each join condition { anyOf := group } := by
    rw [each_iff]
    simpa using children
  unfold Fragment.addGroup
  split
  · exact own
  · split
    · exact each_iff.mpr ⟨joins, conditions, allOf, children, noneOf⟩
    · refine each_iff.mpr ⟨joins, conditions, ?_, anyOf, noneOf⟩
      intro child member
      rcases List.mem_append.mp member with before | last
      · exact allOf child before
      · rw [List.mem_singleton.mp last]
        exact alone

theorem Each.merge {fragment other result : Fragment} (first : fragment.Each join condition)
    (second : other.Each join condition) (merged : fragment.merge other = .ok result) :
    result.Each join condition := by
  obtain ⟨values, -, rfl⟩ := merge_ok.mp merged
  obtain ⟨joins, conditions, allOf, anyOf, noneOf⟩ := each_iff.mp first
  obtain ⟨otherJoins, otherConditions, otherAllOf, otherAnyOf, otherNoneOf⟩ := each_iff.mp second
  refine Each.addGroup (each_iff.mpr ⟨?_, ?_, ?_, anyOf, ?_⟩) otherAnyOf
  · exact List.forall_mem_append.mpr ⟨joins, otherJoins⟩
  · exact List.forall_mem_append.mpr ⟨conditions, otherConditions⟩
  · exact List.forall_mem_append.mpr ⟨allOf, otherAllOf⟩
  · exact List.forall_mem_append.mpr ⟨noneOf, otherNoneOf⟩

end Fragment

theorem Filter.Combined.each {join : Sql.Join → Prop} {condition : Sql.Condition → Prop}
    {combinator : Combinator} {siblings : List Fragment} {fragment : Fragment}
    (each : ∀ sibling ∈ siblings, sibling.Each join condition)
    (combined : Combined combinator siblings fragment) : fragment.Each join condition := by
  have emptied : ∀ sibling ∈ siblings.map Fragment.emptied, sibling.Each join condition := by
    intro sibling member
    obtain ⟨original, listed, rfl⟩ := List.mem_map.mp member
    exact Fragment.each_emptied.mpr (each original listed)
  cases combined with
  | none => exact Fragment.each_empty
  | some nonempty perm distinct =>
      cases combinator with
      | or =>
          refine Fragment.each_iff.mpr ?_
          simpa [Filter.combined] using emptied
      | and =>
          refine Fragment.each_iff.mpr ?_
          simpa [Filter.combined] using emptied
      | not =>
          have group : Fragment.Each join condition
              { anyOf := siblings.map Fragment.emptied } := by
            refine Fragment.each_iff.mpr ?_
            simpa using emptied
          refine Fragment.each_iff.mpr ?_
          simpa [Filter.combined] using group

/-! ## Lowering -/

/-- The properties pass from the parts of a condition on the scope's rows to the whole. -/
structure Scope.Passes (scope : Scope) (join : Sql.Join → Prop)
    (condition : Sql.Condition → Prop) : Prop where
  not : ∀ {operand}, condition operand → condition (.not operand)
  all : ∀ {operands}, (∀ operand ∈ operands, condition operand) → condition (.all operands)
  any : ∀ {operands}, (∀ operand ∈ operands, condition operand) → condition (.any operands)
  keyIn : ∀ {branches : List Branch}, (∀ branch ∈ branches, branch.Each join condition) →
    condition (.keyIn scope.keyColumns (branches.map scope.keyQuery))

namespace Scope

variable {scope : Scope} {join : Sql.Join → Prop} {condition : Sql.Condition → Prop}

theorem Passes.predicate (passes : scope.Passes join condition) {branches : List Branch}
    (each : ∀ branch ∈ branches, branch.Each join condition) :
    condition (scope.predicate branches) := by
  unfold Scope.predicate
  split
  · exact passes.all (by simp)
  · split
    · refine passes.any fun operand member => ?_
      obtain ⟨branch, listed, rfl⟩ := List.mem_map.mp member
      exact passes.all (each branch listed).2
    · exact passes.keyIn each

theorem Passes.group (passes : scope.Passes join condition) {alternatives : List Branch}
    (each : ∀ branch ∈ alternatives, branch.Each join condition) :
    ∀ branch ∈ scope.group alternatives, branch.Each join condition := by
  unfold Scope.group
  split
  · simp [Branch.Each]
  · split
    · simp only [List.mem_singleton, forall_eq]
      refine ⟨by simp, ?_⟩
      simpa using passes.predicate each
    · exact each

theorem each_product {left right : List Branch}
    (first : ∀ branch ∈ left, branch.Each join condition)
    (second : ∀ branch ∈ right, branch.Each join condition) :
    ∀ branch ∈ Branch.product left right, branch.Each join condition := by
  intro branch member
  simp only [Branch.product, List.mem_flatMap, List.mem_map] at member
  obtain ⟨one, oneListed, other, otherListed, rfl⟩ := member
  exact ⟨List.forall_mem_append.mpr ⟨(first one oneListed).1, (second other otherListed).1⟩,
    List.forall_mem_append.mpr ⟨(first one oneListed).2, (second other otherListed).2⟩⟩

mutual

theorem Passes.branches (passes : scope.Passes join condition) : ∀ fragment : Fragment,
    fragment.Each join condition →
    ∀ branch ∈ fragment.branches scope, branch.Each join condition
  | ⟨_, _, _, filterJoins, _, conditions, _, _, _, _, allOf, anyOf, noneOf⟩, each => by
      simp only [Fragment.Each] at each
      obtain ⟨joins, own, all, any, none⟩ := each
      have base : ∀ branch ∈
          [Branch.mk filterJoins (conditions ++ Fragment.negations scope noneOf)],
          branch.Each join condition := by
        simp only [List.mem_singleton, forall_eq]
        exact ⟨joins, List.forall_mem_append.mpr ⟨own, passes.negations noneOf none⟩⟩
      have conjoined := passes.conjoin allOf all base
      simp only [Fragment.branches]
      split
      · exact conjoined
      · exact each_product conjoined (passes.group (passes.alternatives anyOf any))

theorem Passes.negations (passes : scope.Passes join condition) :
    ∀ fragments : List Fragment, Fragment.EachAll join condition fragments →
      ∀ negation ∈ Fragment.negations scope fragments, condition negation
  | [], _ => by simp [Fragment.negations]
  | fragment :: rest, each => by
      simp only [Fragment.EachAll] at each
      have first := passes.predicate (passes.branches fragment each.1)
      simpa [Fragment.negations] using ⟨passes.not first, passes.negations rest each.2⟩

theorem Passes.conjoin (passes : scope.Passes join condition) :
    ∀ (fragments : List Fragment), Fragment.EachAll join condition fragments →
      ∀ {given : List Branch}, (∀ branch ∈ given, branch.Each join condition) →
        ∀ branch ∈ Fragment.conjoin scope given fragments, branch.Each join condition
  | [], _, _, given => by simpa [Fragment.conjoin] using given
  | fragment :: rest, each, _, given => by
      simp only [Fragment.EachAll] at each
      rw [Fragment.conjoin]
      exact passes.conjoin rest each.2 (each_product given (passes.branches fragment each.1))

theorem Passes.alternatives (passes : scope.Passes join condition) :
    ∀ fragments : List Fragment, Fragment.EachAll join condition fragments →
      ∀ branch ∈ Fragment.alternatives scope fragments, branch.Each join condition
  | [], _ => by simp [Fragment.alternatives]
  | fragment :: rest, each => by
      simp only [Fragment.EachAll] at each
      rw [Fragment.alternatives]
      exact List.forall_mem_append.mpr
        ⟨passes.branches fragment each.1, passes.alternatives rest each.2⟩

end

theorem Passes.lower (passes : scope.Passes join condition) {fragment : Fragment}
    (each : fragment.Each join condition) : (fragment.lower scope).Each join condition := by
  have branches := passes.branches fragment each
  unfold Fragment.lower
  split
  · rename_i branch single
    exact branches branch (by simp [single])
  · refine ⟨by simp, ?_⟩
    simpa using passes.predicate branches

end Scope

end TreeQuery
