import TreeQuery.Proofs.FragmentMeaning

/-!
# Lowering keeps the meaning of a fragment

A fragment is lowered to branches, of which one has to hold.  Under a valuation that
treats the connectives and the key lookup as their names say, one of the branches holds
exactly when the fragment does.
-/

namespace TreeQuery

namespace Valuation

variable (valuation : Valuation)

/-! ## Branches -/

/--
The valuation follows the connectives, and takes the lookup of a row's key among
the keys of some branches for the disjunction of the branches.
-/
structure Regular (scope : Scope) : Prop where
  not : ∀ operand, valuation.condition (.not operand) = !valuation.condition operand
  all : ∀ operands,
    valuation.condition (.all operands) = operands.all valuation.condition
  any : ∀ operands,
    valuation.condition (.any operands) = operands.any valuation.condition
  keyIn : ∀ branches : List Branch,
    valuation.condition (.keyIn scope.keyColumns (branches.map scope.keyQuery)) =
      branches.any valuation.keeps

variable {valuation} {scope : Scope}

theorem Regular.predicate (regular : valuation.Regular scope) (branches : List Branch) :
    valuation.condition (scope.predicate branches) = branches.any valuation.keeps := by
  unfold Scope.predicate
  split
  · rename_i trivial
    rw [regular.all, valuation.any_keeps_of_isTrivial trivial]
    rfl
  · split
    · rename_i joinFree
      rw [regular.any, List.any_map, Bool.eq_iff_iff, List.any_eq_true, List.any_eq_true]
      refine exists_congr fun branch => and_congr_right fun member => ?_
      have noJoins : branch.joins = [] := by
        simpa [Branch.isJoinFree] using List.all_eq_true.mp joinFree branch member
      simp [regular.all, keeps, noJoins]
    · exact regular.keyIn branches

theorem Regular.group (regular : valuation.Regular scope) (alternatives : List Branch) :
    (scope.group alternatives).any valuation.keeps = alternatives.any valuation.keeps := by
  unfold Scope.group
  split
  · rename_i trivial
    rw [valuation.any_keeps_of_isTrivial trivial]
    rfl
  · split
    · simp [keeps, regular.predicate]
    · rfl

mutual

theorem Regular.branches (regular : valuation.Regular scope) :
    ∀ fragment : Fragment,
      (fragment.branches scope).any valuation.keeps = valuation.holds fragment
  | ⟨_, _, _, filterJoins, _, conditions, _, _, _, _, allOf, anyOf, noneOf⟩ => by
      -- the branch that `conjoin` starts from holds the fragment's own tests
      have base : valuation.keeps
          ⟨filterJoins, conditions ++ Fragment.negations scope noneOf⟩ =
          (filterJoins.all valuation.join && conditions.all valuation.condition &&
            !noneOf.any valuation.holds) := by
        simp only [keeps, List.all_append, regular.negations noneOf, Bool.and_assoc]
      rw [holds_eq]
      simp only [Fragment.branches]
      cases none : anyOf.isEmpty with
      | true =>
          simp only [if_true, Bool.true_or, Bool.and_true, regular.conjoin _ allOf,
            List.any_cons, List.any_nil, Bool.or_false, base]
          ac_rfl
      | false =>
          simp only [Bool.false_eq_true, if_false, any_keeps_product, regular.conjoin _ allOf,
            regular.group, regular.alternatives anyOf, List.any_cons, List.any_nil,
            Bool.or_false, Bool.false_or, base]
          ac_rfl

theorem Regular.negations (regular : valuation.Regular scope) :
    ∀ fragments : List Fragment,
      (Fragment.negations scope fragments).all valuation.condition =
        !fragments.any valuation.holds
  | [] => rfl
  | fragment :: rest => by
      simp only [Fragment.negations, List.all_cons, regular.not, regular.predicate,
        regular.branches fragment, regular.negations rest, List.any_cons, Bool.not_or]

theorem Regular.conjoin (regular : valuation.Regular scope) (given : List Branch) :
    ∀ fragments : List Fragment,
      (Fragment.conjoin scope given fragments).any valuation.keeps =
        (given.any valuation.keeps && fragments.all valuation.holds)
  | [] => by simp [Fragment.conjoin]
  | fragment :: rest => by
      simp only [Fragment.conjoin, regular.conjoin _ rest, any_keeps_product,
        regular.branches fragment, List.all_cons, Bool.and_assoc]

theorem Regular.alternatives (regular : valuation.Regular scope) :
    ∀ fragments : List Fragment,
      (Fragment.alternatives scope fragments).any valuation.keeps =
        fragments.any valuation.holds
  | [] => rfl
  | fragment :: rest => by
      simp only [Fragment.alternatives, List.any_append, regular.branches fragment,
        regular.alternatives rest, List.any_cons]

end

/-- The joins and conditions that a fragment is lowered to hold when the fragment holds. -/
theorem Regular.lower (regular : valuation.Regular scope) (fragment : Fragment) :
    valuation.keeps (fragment.lower scope) = valuation.holds fragment := by
  rw [← regular.branches fragment]
  unfold Fragment.lower
  split
  · rename_i branch single
    simp [single]
  · simp [keeps, regular.predicate]

end Valuation

end TreeQuery
