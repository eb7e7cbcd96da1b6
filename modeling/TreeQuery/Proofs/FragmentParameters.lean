import TreeQuery.Proofs.Lowering
import TreeQuery.Proofs.StatementParameters

/-!
# Which parameters survive lowering

A group of alternatives with one that demands nothing is dropped as a whole, and
with it the parameters of the other alternatives.  Nothing else is lost: the joins
and conditions that a fragment is lowered to hold the parameters of all its other
parts.
-/

namespace TreeQuery

open Sql (Parameter)

namespace Fragment

/-! ## Fragments that demand nothing -/

mutual

def isVacuous : Fragment → Bool
  | ⟨_, _, _, filterJoins, _, conditions, _, _, _, _, allOf, anyOf, noneOf⟩ =>
      filterJoins.isEmpty && conditions.isEmpty && noneOf.isEmpty && areVacuous allOf &&
        (anyOf.isEmpty || someVacuous anyOf)

def areVacuous : List Fragment → Bool
  | [] => true
  | fragment :: rest => isVacuous fragment && areVacuous rest

def someVacuous : List Fragment → Bool
  | [] => false
  | fragment :: rest => isVacuous fragment || someVacuous rest

end

theorem areVacuous_eq (fragments : List Fragment) :
    areVacuous fragments = fragments.all isVacuous := by
  induction fragments with
  | nil => rfl
  | cons fragment rest ih => simp [areVacuous, ih]

theorem someVacuous_eq (fragments : List Fragment) :
    someVacuous fragments = fragments.any isVacuous := by
  induction fragments with
  | nil => rfl
  | cons fragment rest ih => simp [someVacuous, ih]

theorem isVacuous_eq (fragment : Fragment) :
    fragment.isVacuous =
      (fragment.filterJoins.isEmpty && fragment.conditions.isEmpty &&
        fragment.noneOf.isEmpty && fragment.allOf.all isVacuous &&
        (fragment.anyOf.isEmpty || fragment.anyOf.any isVacuous)) := by
  cases fragment
  simp only [isVacuous, areVacuous_eq, someVacuous_eq]

mutual

/--
The parameters of the filter part, without those of a group in which an
alternative demands nothing.
-/
def filterParameters : Fragment → List Parameter
  | ⟨_, _, _, filterJoins, _, conditions, _, _, _, _, allOf, anyOf, noneOf⟩ =>
      filterJoins.flatMap Sql.Join.parameters ++ conditions.flatMap Sql.Condition.parameters ++
        filterParametersAll noneOf ++ filterParametersAll allOf ++
        (if someVacuous anyOf then [] else filterParametersAll anyOf)

def filterParametersAll : List Fragment → List Parameter
  | [] => []
  | fragment :: rest => filterParameters fragment ++ filterParametersAll rest

end

theorem filterParametersAll_eq (fragments : List Fragment) :
    filterParametersAll fragments = fragments.flatMap filterParameters := by
  induction fragments with
  | nil => rfl
  | cons fragment rest ih => simp [filterParametersAll, ih]

theorem filterParameters_eq (fragment : Fragment) :
    fragment.filterParameters =
      fragment.filterJoins.flatMap Sql.Join.parameters ++
        fragment.conditions.flatMap Sql.Condition.parameters ++
        fragment.noneOf.flatMap filterParameters ++ fragment.allOf.flatMap filterParameters ++
        (if fragment.anyOf.any isVacuous then [] else fragment.anyOf.flatMap filterParameters) := by
  cases fragment
  simp only [filterParameters, filterParametersAll_eq, someVacuous_eq]

theorem mem_filterParameters {fragment : Fragment} {parameter : Parameter} :
    parameter ∈ fragment.filterParameters ↔
      parameter ∈ fragment.filterJoins.flatMap Sql.Join.parameters ∨
      parameter ∈ fragment.conditions.flatMap Sql.Condition.parameters ∨
      parameter ∈ fragment.noneOf.flatMap filterParameters ∨
      parameter ∈ fragment.allOf.flatMap filterParameters ∨
      fragment.anyOf.any isVacuous = false ∧
        parameter ∈ fragment.anyOf.flatMap filterParameters := by
  rw [filterParameters_eq]
  cases fragment.anyOf.any isVacuous <;>
    simp only [List.mem_append, if_true, if_false, Bool.false_eq_true, List.not_mem_nil,
      Bool.true_eq_false, false_and, true_and, or_assoc]

@[simp] theorem isVacuous_emptied (fragment : Fragment) :
    fragment.emptied.isVacuous = fragment.isVacuous := by
  rw [isVacuous_eq, isVacuous_eq]
  rfl

@[simp] theorem filterParameters_emptied (fragment : Fragment) :
    fragment.emptied.filterParameters = fragment.filterParameters := by
  rw [filterParameters_eq, filterParameters_eq]
  rfl

/-! ## Merging -/

private theorem isEmpty_append {α : Type} (left right : List α) :
    (left ++ right).isEmpty = (left.isEmpty && right.isEmpty) := by
  cases left <;> rfl

theorem isVacuous_addGroup (fragment : Fragment) (group : List Fragment) :
    (fragment.addGroup group).isVacuous =
      (fragment.isVacuous && (group.isEmpty || group.any isVacuous)) := by
  unfold addGroup
  cases none : group.isEmpty with
  | true => simp
  | false =>
      cases free : fragment.anyOf.isEmpty with
      | true =>
          rw [isVacuous_eq, isVacuous_eq fragment]
          simp [free, none]
      | false =>
          have alone : isVacuous { anyOf := group } = group.any isVacuous := by
            rw [isVacuous_eq]
            simp [none]
          rw [isVacuous_eq, isVacuous_eq fragment]
          simp [free, alone, List.all_append]
          ac_rfl

theorem isVacuous_merge {fragment other result : Fragment}
    (merged : fragment.merge other = .ok result) :
    result.isVacuous = (fragment.isVacuous && other.isVacuous) := by
  obtain ⟨values, -, rfl⟩ := merge_ok.mp merged
  rw [addRest, isVacuous_addGroup, isVacuous_eq, isVacuous_eq fragment, isVacuous_eq other]
  simp [addOwn, List.all_append, isEmpty_append]
  ac_rfl

theorem isVacuous_reduce {fragments : List Fragment} {result : Fragment}
    (reduced : reduce fragments = .ok result) :
    result.isVacuous = fragments.all isVacuous := by
  refine reduce_induction (motive := fun fragments result =>
    result.isVacuous = fragments.all isVacuous) ?_ ?_ reduced
  · rw [isVacuous_eq]
    rfl
  · intro fragments fragment other result before merged
    rw [isVacuous_merge merged, before, List.all_append]
    simp

theorem mem_filterParameters_addGroup {fragment : Fragment} {group : List Fragment}
    {parameter : Parameter} :
    parameter ∈ (fragment.addGroup group).filterParameters ↔
      parameter ∈ fragment.filterParameters ∨
        group.any isVacuous = false ∧ parameter ∈ group.flatMap filterParameters := by
  unfold addGroup
  cases none : group.isEmpty with
  | true => simp [List.isEmpty_iff.mp none]
  | false =>
      cases free : fragment.anyOf.isEmpty with
      | true =>
          rw [mem_filterParameters, @mem_filterParameters fragment]
          simp [List.isEmpty_iff.mp free, or_assoc]
      | false =>
          have alone : parameter ∈ filterParameters { anyOf := group } ↔
              group.any isVacuous = false ∧ parameter ∈ group.flatMap filterParameters := by
            rw [mem_filterParameters]
            simp
          rw [mem_filterParameters, @mem_filterParameters fragment]
          simp only [Bool.false_eq_true, if_false, List.flatMap_append, List.flatMap_singleton,
            List.mem_append, alone]
          simp only [or_assoc, or_comm]

theorem mem_filterParameters_merge {fragment other result : Fragment}
    (merged : fragment.merge other = .ok result) {parameter : Parameter} :
    parameter ∈ result.filterParameters ↔
      parameter ∈ fragment.filterParameters ∨ parameter ∈ other.filterParameters := by
  obtain ⟨values, -, rfl⟩ := merge_ok.mp merged
  rw [addRest, mem_filterParameters_addGroup, mem_filterParameters,
    @mem_filterParameters fragment, @mem_filterParameters other]
  simp only [addOwn, List.flatMap_append, List.mem_append]
  simp only [or_assoc, or_comm, or_left_comm]

theorem mem_filterParameters_reduce {fragments : List Fragment} {result : Fragment}
    (reduced : reduce fragments = .ok result) {parameter : Parameter} :
    parameter ∈ result.filterParameters ↔ parameter ∈ fragments.flatMap filterParameters := by
  refine reduce_induction (motive := fun fragments result =>
    parameter ∈ result.filterParameters ↔ parameter ∈ fragments.flatMap filterParameters)
    ?_ ?_ reduced
  · rw [filterParameters_eq]
    simp
  · intro fragments fragment other result before merged
    rw [mem_filterParameters_merge merged, before, List.flatMap_append]
    simp

end Fragment

/-! ## Branches -/

namespace Branch

def parameters (branch : Branch) : List Parameter :=
  branch.joins.flatMap Sql.Join.parameters ++ branch.conditions.flatMap Sql.Condition.parameters

/-- There is a branch, and one that demands nothing stands alone. -/
def Separate (branches : List Branch) : Prop :=
  branches ≠ [] ∧ ∀ branch ∈ branches, branch.isTrivial = true → branches = [branch]

structure Represents (branches : List Branch) (vacuous : Bool) (parameters : List Parameter) :
    Prop where
  separate : Separate branches
  trivial : branches.any isTrivial = vacuous
  mem_iff : ∀ parameter,
    parameter ∈ branches.flatMap Branch.parameters ↔ parameter ∈ parameters

theorem parameters_of_isTrivial {branch : Branch} (trivial : branch.isTrivial = true) :
    branch.parameters = [] := by
  simp only [isTrivial, Bool.and_eq_true, List.isEmpty_iff] at trivial
  simp [parameters, trivial]

theorem isTrivial_combine (left right : Branch) :
    (left.combine right).isTrivial = (left.isTrivial && right.isTrivial) := by
  cases left with
  | mk leftJoins leftConditions =>
      cases leftJoins <;> cases leftConditions <;> simp [combine, isTrivial]

theorem mem_parameters_combine {left right : Branch} {parameter : Parameter} :
    parameter ∈ (left.combine right).parameters ↔
      parameter ∈ left.parameters ∨ parameter ∈ right.parameters := by
  simp only [combine, parameters, List.flatMap_append, List.mem_append]
  simp only [or_assoc, or_comm, or_left_comm]

theorem mem_product {left right : List Branch} {branch : Branch} :
    branch ∈ product left right ↔
      ∃ first ∈ left, ∃ second ∈ right, first.combine second = branch := by
  simp [product]

theorem any_isTrivial_product (left right : List Branch) :
    (product left right).any isTrivial = (left.any isTrivial && right.any isTrivial) := by
  rw [Bool.eq_iff_iff, Bool.and_eq_true, List.any_eq_true, List.any_eq_true, List.any_eq_true]
  constructor
  · rintro ⟨branch, member, trivial⟩
    obtain ⟨one, oneListed, other, otherListed, rfl⟩ := mem_product.mp member
    obtain ⟨oneTrivial, otherTrivial⟩ := (Bool.and_eq_true _ _).mp
      (isTrivial_combine one other ▸ trivial)
    exact ⟨⟨one, oneListed, oneTrivial⟩, ⟨other, otherListed, otherTrivial⟩⟩
  · rintro ⟨⟨one, oneListed, oneTrivial⟩, ⟨other, otherListed, otherTrivial⟩⟩
    exact ⟨one.combine other, mem_product.mpr ⟨one, oneListed, other, otherListed, rfl⟩,
      by simp [isTrivial_combine, oneTrivial, otherTrivial]⟩

theorem mem_parameters_product {left right : List Branch} (someLeft : left ≠ [])
    (someRight : right ≠ []) {parameter : Parameter} :
    parameter ∈ (product left right).flatMap parameters ↔
      parameter ∈ left.flatMap parameters ∨ parameter ∈ right.flatMap parameters := by
  rw [List.mem_flatMap, List.mem_flatMap, List.mem_flatMap]
  constructor
  · rintro ⟨branch, member, held⟩
    obtain ⟨one, oneListed, other, otherListed, rfl⟩ := mem_product.mp member
    rcases mem_parameters_combine.mp held with held | held
    · exact .inl ⟨one, oneListed, held⟩
    · exact .inr ⟨other, otherListed, held⟩
  · -- a side without branches would swallow the parameters of the other
    obtain ⟨first, firstListed⟩ := List.exists_mem_of_ne_nil left someLeft
    obtain ⟨second, secondListed⟩ := List.exists_mem_of_ne_nil right someRight
    rintro (⟨one, oneListed, held⟩ | ⟨other, otherListed, held⟩)
    · exact ⟨one.combine second, mem_product.mpr ⟨one, oneListed, _, secondListed, rfl⟩,
        mem_parameters_combine.mpr (.inl held)⟩
    · exact ⟨first.combine other, mem_product.mpr ⟨_, firstListed, other, otherListed, rfl⟩,
        mem_parameters_combine.mpr (.inr held)⟩

theorem Separate.product {left right : List Branch} (first : Separate left)
    (second : Separate right) : Separate (Branch.product left right) := by
  refine ⟨?_, fun branch member trivial => ?_⟩
  · obtain ⟨one, oneListed⟩ := List.exists_mem_of_ne_nil left first.1
    obtain ⟨other, otherListed⟩ := List.exists_mem_of_ne_nil right second.1
    exact List.ne_nil_of_mem (mem_product.mpr ⟨one, oneListed, other, otherListed, rfl⟩)
  · obtain ⟨one, oneListed, other, otherListed, rfl⟩ := mem_product.mp member
    obtain ⟨oneTrivial, otherTrivial⟩ := (Bool.and_eq_true _ _).mp
      (isTrivial_combine one other ▸ trivial)
    rw [first.2 one oneListed oneTrivial, second.2 other otherListed otherTrivial]
    rfl

theorem Represents.single (branch : Branch) :
    Represents [branch] branch.isTrivial branch.parameters where
  separate := ⟨by simp, fun other member _ => by rw [List.mem_singleton.mp member]⟩
  trivial := by simp
  mem_iff := by simp

theorem Represents.congr {branches : List Branch} {vacuous other : Bool}
    {parameters others : List Parameter} (given : Represents branches vacuous parameters)
    (same : vacuous = other)
    (mem_iff : ∀ parameter, parameter ∈ parameters ↔ parameter ∈ others) :
    Represents branches other others where
  separate := given.separate
  trivial := given.trivial.trans same
  mem_iff := fun parameter => (given.mem_iff parameter).trans (mem_iff parameter)

theorem Represents.product {left right : List Branch} {leftVacuous rightVacuous : Bool}
    {leftParameters rightParameters : List Parameter}
    (first : Represents left leftVacuous leftParameters)
    (second : Represents right rightVacuous rightParameters) :
    Represents (Branch.product left right) (leftVacuous && rightVacuous)
      (leftParameters ++ rightParameters) where
  separate := first.separate.product second.separate
  trivial := by rw [any_isTrivial_product, first.trivial, second.trivial]
  mem_iff := fun parameter => by
    rw [mem_parameters_product first.separate.1 second.separate.1, List.mem_append,
      first.mem_iff, second.mem_iff]

end Branch

namespace Scope

open Branch (Separate Represents)

variable (scope : Scope)

theorem keyQuery_parameters (branch : Branch) :
    (scope.keyQuery branch).parameters = branch.parameters := by
  simp [keyQuery, Scope.source, Sql.Select.parameters, Sql.Source.parameters,
    Sql.Join.parametersAll_eq, Sql.Condition.parametersAll_eq, Branch.parameters]

theorem mem_predicate_parameters {branches : List Branch}
    (demanding : branches.any Branch.isTrivial = false) {parameter : Parameter} :
    parameter ∈ (scope.predicate branches).parameters ↔
      parameter ∈ branches.flatMap Branch.parameters := by
  unfold predicate
  rw [demanding]
  cases joinFree : branches.all Branch.isJoinFree with
  | true =>
      have noJoins : ∀ branch ∈ branches, branch.joins = [] := fun branch member => by
        simpa [Branch.isJoinFree] using List.all_eq_true.mp joinFree branch member
      simp only [Bool.false_eq_true, if_false, if_true, Sql.Condition.parameters,
        Sql.Condition.parametersAll_eq, List.flatMap_map, List.mem_flatMap]
      refine exists_congr fun branch => and_congr_right fun member => ?_
      simp [Branch.parameters, noJoins branch member]
  | false =>
      simp [Sql.Condition.parameters, Sql.Select.parametersAll_eq, List.flatMap_map,
        keyQuery_parameters]

end Scope

namespace Branch

theorem Represents.predicate {branches : List Branch} {vacuous : Bool}
    {parameters : List Parameter} (given : Represents branches vacuous parameters)
    (scope : Scope) {parameter : Parameter} :
    parameter ∈ (scope.predicate branches).parameters ↔ parameter ∈ parameters := by
  rw [← given.mem_iff]
  cases trivial : branches.any isTrivial with
  | false => exact scope.mem_predicate_parameters trivial
  | true =>
      obtain ⟨branch, member, demandsNothing⟩ := List.any_eq_true.mp trivial
      have alone := given.separate.2 branch member demandsNothing
      simp [Scope.predicate, alone, demandsNothing, parameters_of_isTrivial demandsNothing,
        Sql.Condition.parameters, Sql.Condition.parametersAll]

theorem Represents.group (scope : Scope) {alternatives : List Branch}
    (nonempty : alternatives ≠ []) :
    Represents (scope.group alternatives) (alternatives.any isTrivial)
      (if alternatives.any isTrivial then [] else alternatives.flatMap Branch.parameters) := by
  unfold Scope.group
  cases trivial : alternatives.any isTrivial with
  | true => exact Represents.single {}
  | false =>
      have demanding : ∀ branch ∈ alternatives, branch.isTrivial = false := by
        simpa using trivial
      cases joinFree : alternatives.all isJoinFree with
      | true =>
          refine ⟨(Represents.single _).separate, by simp [isTrivial], fun parameter => ?_⟩
          simpa [Branch.parameters] using scope.mem_predicate_parameters trivial
      | false =>
          refine ⟨⟨nonempty, fun branch member holds => ?_⟩, trivial, fun parameter => Iff.rfl⟩
          rw [demanding branch member] at holds
          cases holds

end Branch

namespace Fragment

open Branch (Represents)

variable (scope : Scope)

mutual

/-- The branches of a fragment hold the parameters that are not dropped with a group. -/
theorem branches_represents : ∀ fragment : Fragment,
    Represents (fragment.branches scope) fragment.isVacuous fragment.filterParameters
  | ⟨_, _, _, filterJoins, _, conditions, _, _, _, _, allOf, anyOf, noneOf⟩ => by
      obtain ⟨negated, negatedMem⟩ := negations_parameters noneOf
      have conjoined := conjoin_represents allOf
        (Represents.single ⟨filterJoins, conditions ++ negations scope noneOf⟩)
      have own : Branch.isTrivial ⟨filterJoins, conditions ++ negations scope noneOf⟩ =
          (filterJoins.isEmpty && conditions.isEmpty && noneOf.isEmpty) := by
        simp only [Branch.isTrivial, isEmpty_append, negated, Bool.and_assoc]
      cases none : anyOf.isEmpty with
      | true =>
          simp only [branches, none, if_true]
          refine conjoined.congr (by simp [isVacuous, own, none]) fun parameter => ?_
          simp only [filterParameters, List.isEmpty_iff.mp none, someVacuous, filterParametersAll,
            Branch.parameters, List.flatMap_append, List.mem_append, negatedMem, if_false,
            Bool.false_eq_true, List.not_mem_nil]
          simp only [false_or, or_assoc, or_comm, or_left_comm]
      | false =>
          obtain ⟨trivial, nonempty, held⟩ := alternatives_represents anyOf
          have grouped := Represents.group scope (nonempty (by simpa using none))
          simp only [branches, none, Bool.false_eq_true, if_false]
          refine (conjoined.product grouped).congr ?_ fun parameter => ?_
          · simp only [isVacuous, own, none, trivial, Bool.false_or]
          · rw [trivial]
            cases vacuous : someVacuous anyOf <;>
              simp only [filterParameters, vacuous, Branch.parameters, List.flatMap_append,
                List.mem_append, negatedMem, held, if_true, if_false, Bool.false_eq_true,
                List.not_mem_nil] <;>
              simp only [false_or, or_assoc, or_comm, or_left_comm]

theorem negations_parameters : ∀ fragments : List Fragment,
    (negations scope fragments).isEmpty = fragments.isEmpty ∧
      ∀ parameter, parameter ∈ (negations scope fragments).flatMap Sql.Condition.parameters ↔
        parameter ∈ filterParametersAll fragments
  | [] => by simp [negations, filterParametersAll]
  | fragment :: rest => by
      refine ⟨rfl, fun parameter => ?_⟩
      rw [negations, List.flatMap_cons, List.mem_append, (negations_parameters rest).2,
        Sql.Condition.parameters, (branches_represents fragment).predicate, filterParametersAll,
        List.mem_append]

theorem conjoin_represents : ∀ (fragments : List Fragment) {given : List Branch}
    {vacuous : Bool} {parameters : List Parameter}, Represents given vacuous parameters →
    Represents (conjoin scope given fragments) (vacuous && areVacuous fragments)
      (parameters ++ filterParametersAll fragments)
  | [], given, vacuous, parameters, represents => by
      simpa [conjoin, areVacuous, filterParametersAll] using represents
  | fragment :: rest, given, vacuous, parameters, represents => by
      have first := represents.product (branches_represents fragment)
      simpa [conjoin, areVacuous, filterParametersAll, Bool.and_assoc] using
        conjoin_represents rest first

theorem alternatives_represents : ∀ fragments : List Fragment,
    (alternatives scope fragments).any Branch.isTrivial = someVacuous fragments ∧
      (fragments ≠ [] → alternatives scope fragments ≠ []) ∧
      ∀ parameter, parameter ∈ (alternatives scope fragments).flatMap Branch.parameters ↔
        parameter ∈ filterParametersAll fragments
  | [] => by simp [alternatives, someVacuous, filterParametersAll]
  | fragment :: rest => by
      have first := branches_represents fragment
      obtain ⟨trivial, -, held⟩ := alternatives_represents rest
      refine ⟨?_, fun _ => ?_, fun parameter => ?_⟩
      · rw [alternatives, List.any_append, first.trivial, trivial, someVacuous]
      · rw [alternatives]
        exact List.append_ne_nil_of_left_ne_nil first.separate.1 _
      · rw [alternatives, List.flatMap_append, List.mem_append, first.mem_iff, held,
          filterParametersAll, List.mem_append]

end

variable {scope}

theorem mem_lower_parameters {fragment : Fragment} {parameter : Parameter} :
    parameter ∈ (fragment.lower scope).parameters ↔ parameter ∈ fragment.filterParameters := by
  have represents := branches_represents scope fragment
  unfold lower
  split
  · rename_i branch single
    simpa [single] using represents.mem_iff parameter
  · simpa [Branch.parameters] using represents.predicate scope

theorem lower_isTrivial (fragment : Fragment) :
    (fragment.lower scope).isTrivial = fragment.isVacuous := by
  have represents := branches_represents scope fragment
  rw [← represents.trivial]
  unfold lower
  split
  · rename_i branch single
    simp [single]
  · rename_i several
    -- a branch that demands nothing stands alone, so among several there is none
    cases trivial : (fragment.branches scope).any Branch.isTrivial with
    | false => simp [Branch.isTrivial]
    | true =>
        obtain ⟨branch, member, demandsNothing⟩ := List.any_eq_true.mp trivial
        exact (several branch (represents.separate.2 branch member demandsNothing)).elim

theorem filterParameters_of_isVacuous {fragment : Fragment} (vacuous : fragment.isVacuous = true) :
    fragment.filterParameters = [] := by
  -- any scope will do, since what is lost in lowering does not depend on it
  let scope : Scope := ⟨"", ⟨.entity, "", 0⟩, []⟩
  have trivial : (fragment.lower scope).isTrivial = true := lower_isTrivial fragment ▸ vacuous
  refine List.eq_nil_iff_forall_not_mem.mpr fun parameter held => ?_
  have lowered : parameter ∈ (fragment.lower scope).parameters :=
    mem_lower_parameters.mpr held
  rw [Branch.parameters_of_isTrivial trivial] at lowered
  simp at lowered

end Fragment

end TreeQuery
