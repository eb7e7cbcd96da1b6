import TreeQuery.Fragment.Lowering
import TreeQuery.Proofs.Fragments

/-!
# The meaning of a fragment

A fragment is read as a tree of conjunctions, disjunctions and negations over its
joins and conditions, and a branch as a conjunction.  A judgement gives a truth value
to every join and every condition, and thereby to every fragment.  A valuation is the
judgement of one row, which no displayed value can drop.  Verdicts on texts and rows
with unknown conditions are read as valuations too, so that all of them share one
meaning.
-/

namespace TreeQuery

/-! ## Judgements -/

structure Judgement where
  /-- For joins that bring in displayed values. -/
  shown : Sql.Join → Bool
  /-- For joins that test the existence of related rows. -/
  found : Sql.Join → Bool
  condition : Sql.Condition → Bool

namespace Judgement

variable (judgement : Judgement)

mutual

/-- All joins, conditions and `allOf` are true, one of `anyOf` if there are any, and none of
`noneOf`. -/
def accepts : Fragment → Bool
  | ⟨_, _, _, filterJoins, joins, conditions, _, _, _, _, allOf, anyOf, noneOf⟩ =>
      joins.all judgement.shown && filterJoins.all judgement.found &&
        conditions.all judgement.condition && acceptsAll allOf &&
        (anyOf.isEmpty || acceptsAny anyOf) && !acceptsAny noneOf

def acceptsAll : List Fragment → Bool
  | [] => true
  | fragment :: rest => accepts fragment && acceptsAll rest

def acceptsAny : List Fragment → Bool
  | [] => false
  | fragment :: rest => accepts fragment || acceptsAny rest

end

theorem acceptsAll_eq (fragments : List Fragment) :
    judgement.acceptsAll fragments = fragments.all judgement.accepts := by
  induction fragments with
  | nil => rfl
  | cons fragment rest ih => simp [acceptsAll, ih]

theorem acceptsAny_eq (fragments : List Fragment) :
    judgement.acceptsAny fragments = fragments.any judgement.accepts := by
  induction fragments with
  | nil => rfl
  | cons fragment rest ih => simp [acceptsAny, ih]

theorem accepts_eq (fragment : Fragment) :
    judgement.accepts fragment =
      (fragment.joins.all judgement.shown && fragment.filterJoins.all judgement.found &&
        fragment.conditions.all judgement.condition &&
        fragment.allOf.all judgement.accepts &&
        (fragment.anyOf.isEmpty || fragment.anyOf.any judgement.accepts) &&
        !fragment.noneOf.any judgement.accepts) := by
  cases fragment
  simp only [accepts, acceptsAll_eq, acceptsAny_eq]

theorem accepts_addGroup (fragment : Fragment) (group : List Fragment) :
    judgement.accepts (fragment.addGroup group) =
      (judgement.accepts fragment && (group.isEmpty || group.any judgement.accepts)) := by
  unfold Fragment.addGroup
  cases none : group.isEmpty with
  | true => simp
  | false =>
      cases free : fragment.anyOf.isEmpty with
      | true =>
          rw [accepts_eq, accepts_eq judgement fragment]
          simp [free, none]
          ac_rfl
      | false =>
          -- the second group is demanded as a fragment of its own
          have alone : judgement.accepts { anyOf := group } = group.any judgement.accepts := by
            rw [accepts_eq]
            simp [none]
          rw [accepts_eq, accepts_eq judgement fragment]
          simp [free, alone, List.all_append]
          ac_rfl

theorem accepts_merge {fragment other result : Fragment}
    (merged : fragment.merge other = .ok result) :
    judgement.accepts result = (judgement.accepts fragment && judgement.accepts other) := by
  obtain ⟨values, -, rfl⟩ := Fragment.merge_ok.mp merged
  rw [Fragment.addRest, accepts_addGroup, accepts_eq, accepts_eq judgement fragment,
    accepts_eq judgement other]
  simp [Fragment.addOwn, List.all_append, List.any_append, Bool.not_or]
  ac_rfl

theorem accepts_reduce {fragments : List Fragment} {result : Fragment}
    (reduced : Fragment.reduce fragments = .ok result) :
    judgement.accepts result = fragments.all judgement.accepts := by
  refine Fragment.reduce_induction (motive := fun fragments result =>
    judgement.accepts result = fragments.all judgement.accepts) ?_ ?_ reduced
  · rw [accepts_eq]
    rfl
  · intro fragments fragment other result before merged
    rw [judgement.accepts_merge merged, before, List.all_append]
    simp

end Judgement

/-! ## Combinations -/

theorem any_combinations {α : Type} {combine : α → α → α} {passes : α → Bool}
    (both : ∀ left right, passes (combine left right) = (passes left && passes right))
    (left right : List α) :
    (left.flatMap fun first => right.map (combine first)).any passes =
      (left.any passes && right.any passes) := by
  induction left with
  | nil => rfl
  | cons first rest ih =>
      have row : (right.map (combine first)).any passes =
          (passes first && right.any passes) := by
        simp only [List.any_map, Function.comp_def, both]
        cases passes first <;> simp
      simp only [List.flatMap_cons, List.any_append, row, ih, List.any_cons,
        Bool.and_or_distrib_right]

/-! ## Valuations -/

structure Valuation where
  join : Sql.Join → Bool
  condition : Sql.Condition → Bool

namespace Valuation

variable (valuation : Valuation)

/-- Displayed values come in by outer joins, which keep every row. -/
def judgement : Judgement := ⟨fun _ => true, valuation.join, valuation.condition⟩

def holds (fragment : Fragment) : Bool := valuation.judgement.accepts fragment

theorem holds_eq (fragment : Fragment) :
    valuation.holds fragment =
      (fragment.filterJoins.all valuation.join &&
        fragment.conditions.all valuation.condition &&
        fragment.allOf.all valuation.holds &&
        (fragment.anyOf.isEmpty || fragment.anyOf.any valuation.holds) &&
        !fragment.noneOf.any valuation.holds) := by
  have displayed : fragment.joins.all valuation.judgement.shown = true :=
    List.all_eq_true.mpr fun _ _ => rfl
  rw [holds, Judgement.accepts_eq, displayed, Bool.true_and]
  rfl

@[simp] theorem holds_emptied (fragment : Fragment) :
    valuation.holds fragment.emptied = valuation.holds fragment := by
  rw [holds_eq, holds_eq]
  rfl

@[simp] theorem holds_comp_emptied :
    valuation.holds ∘ Fragment.emptied = valuation.holds :=
  funext valuation.holds_emptied

def keeps (branch : Branch) : Bool :=
  branch.joins.all valuation.join && branch.conditions.all valuation.condition

theorem keeps_of_isTrivial {branch : Branch} (trivial : branch.isTrivial = true) :
    valuation.keeps branch = true := by
  simp only [Branch.isTrivial, Bool.and_eq_true, List.isEmpty_iff] at trivial
  simp [keeps, trivial]

theorem any_keeps_of_isTrivial {branches : List Branch}
    (trivial : branches.any Branch.isTrivial = true) :
    branches.any valuation.keeps = true := by
  obtain ⟨branch, member, demandsNothing⟩ := List.any_eq_true.mp trivial
  exact List.any_eq_true.mpr ⟨branch, member, valuation.keeps_of_isTrivial demandsNothing⟩

theorem keeps_combine (left right : Branch) :
    valuation.keeps (left.combine right) =
      (valuation.keeps left && valuation.keeps right) := by
  simp only [keeps, Branch.combine, List.all_append]
  ac_rfl

theorem any_keeps_product (left right : List Branch) :
    (Branch.product left right).any valuation.keeps =
      (left.any valuation.keeps && right.any valuation.keeps) :=
  any_combinations valuation.keeps_combine left right

end Valuation

end TreeQuery
