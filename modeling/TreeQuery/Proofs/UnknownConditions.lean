import TreeQuery.Proofs.FilterRuns
import TreeQuery.Proofs.FragmentMeaning
import TreeQuery.Proofs.Sample

/-!
# Conditions that may be unknown

A condition on a column that is null is neither true nor false of a row.  Connectives
follow Kleene's tables, a select returns the rows whose conditions are all true, and the
membership of a key is never unknown.  A negation is lowered to the negation of a
disjunction if no sibling needs a join, and to the negation of a membership otherwise.
The former drops a row for which the siblings are unknown, the latter keeps it.
-/

namespace TreeQuery

/-! ## Truth values -/

inductive Truth where
  | yes
  | no
  | unknown
  deriving DecidableEq, Repr

namespace Truth

def not : Truth → Truth
  | .yes => .no
  | .no => .yes
  | .unknown => .unknown

def and : Truth → Truth → Truth
  | .no, _ => .no
  | _, .no => .no
  | .yes, .yes => .yes
  | _, _ => .unknown

def or : Truth → Truth → Truth
  | .yes, _ => .yes
  | _, .yes => .yes
  | .no, .no => .no
  | _, _ => .unknown

def all (truths : List Truth) : Truth := truths.foldr Truth.and .yes

def any (truths : List Truth) : Truth := truths.foldr Truth.or .no

def ofBool (value : Bool) : Truth := if value then .yes else .no

def isYes : Truth → Bool
  | .yes => true
  | _ => false

theorem isYes_iff {truth : Truth} : truth.isYes = true ↔ truth = .yes := by
  cases truth <;> simp [isYes]

theorem not_eq_yes {truth : Truth} : truth.not = .yes ↔ truth = .no := by
  cases truth <;> simp [not]

theorem all_eq_yes {truths : List Truth} : all truths = .yes ↔ ∀ truth ∈ truths, truth = .yes := by
  induction truths with
  | nil => simp [all]
  | cons first rest ih =>
      have step : all (first :: rest) = .yes ↔ first = .yes ∧ all rest = .yes := by
        change first.and (all rest) = .yes ↔ _
        cases first <;> cases all rest <;> simp [and]
      simp [step, ih]

theorem any_eq_yes {truths : List Truth} : any truths = .yes ↔ .yes ∈ truths := by
  induction truths with
  | nil => simp [any]
  | cons first rest ih =>
      have step : any (first :: rest) = .yes ↔ first = .yes ∨ any rest = .yes := by
        change first.or (any rest) = .yes ↔ _
        cases first <;> cases any rest <;> simp [or]
      rw [step, ih, List.mem_cons, eq_comm]

theorem all_ne_unknown {truths : List Truth} (definite : .unknown ∉ truths) :
    all truths ≠ .unknown := by
  have step : ∀ {left right : Truth}, left ≠ .unknown → right ≠ .unknown →
      left.and right ≠ .unknown := by
    intro left right
    cases left <;> cases right <;> simp [and]
  induction truths with
  | nil => nofun
  | cons first rest ih =>
      rw [List.mem_cons, not_or] at definite
      exact step (Ne.symm definite.1) (ih definite.2)

theorem any_ne_unknown {truths : List Truth} (definite : .unknown ∉ truths) :
    any truths ≠ .unknown := by
  have step : ∀ {left right : Truth}, left ≠ .unknown → right ≠ .unknown →
      left.or right ≠ .unknown := by
    intro left right
    cases left <;> cases right <;> simp [or]
  induction truths with
  | nil => nofun
  | cons first rest ih =>
      rw [List.mem_cons, not_or] at definite
      exact step (Ne.symm definite.1) (ih definite.2)

end Truth

/-! ## The branches of a negation -/

namespace Fragment

variable {scope : Scope}

theorem alternatives_emptied (fragments : List Fragment) :
    alternatives scope (fragments.map emptied) =
      alternatives scope fragments := by
  induction fragments with
  | nil => rfl
  | cons fragment rest ih =>
      cases fragment
      simp [alternatives, branches, emptied, ih]

theorem alternatives_append (fragments others : List Fragment) :
    alternatives scope (fragments ++ others) =
      alternatives scope fragments ++ alternatives scope others := by
  induction fragments with
  | nil => rfl
  | cons fragment rest ih => simp [alternatives, ih]

theorem branches_anyOf {siblings : List Fragment} (nonempty : siblings ≠ []) :
    ({ anyOf := siblings } : Fragment).branches scope =
      scope.group (alternatives scope siblings) := by
  have neutral : ({} : Branch).combine = id := rfl
  simp [branches, negations, conjoin, nonempty, Branch.product, neutral]

theorem branches_noneOf (values : Bindings) (negated : Fragment) :
    ({ values, noneOf := [negated] } : Fragment).branches scope =
      [{ conditions := [.not (scope.predicate (negated.branches scope))] }] := by
  simp [branches, negations, conjoin]

theorem all_isJoinFree_alternatives {fragments : List Fragment}
    (joinFree : ∀ fragment ∈ fragments, (fragment.branches scope).all Branch.isJoinFree = true) :
    (alternatives scope fragments).all Branch.isJoinFree = true := by
  induction fragments with
  | nil => rfl
  | cons fragment rest ih =>
      rw [alternatives, List.all_append, joinFree fragment List.mem_cons_self,
        ih fun other member => joinFree other (List.mem_cons_of_mem _ member)]
      rfl

end Fragment

/-! ## Rows -/

/-- What is known of one row: the joins that keep it and the truth of the tests on it. -/
structure Row where
  join : Sql.Join → Bool
  test : Sql.Condition → Truth

namespace Row

variable (row : Row)

mutual

def truth : Sql.Condition → Truth
  | .not operand => (truth operand).not
  | .all operands => Truth.all (truths operands)
  | .any operands => Truth.any (truths operands)
  | .keyIn _ queries => .ofBool (isFoundByAny queries)
  | .text sql => row.test (.text sql)
  | .test subject test => row.test (.test subject test)
  | .equal left right => row.test (.equal left right)
  | .linked subject hop => row.test (.linked subject hop)

def truths : List Sql.Condition → List Truth
  | [] => []
  | condition :: rest => truth condition :: truths rest

/-- A query over the row's own table returns the row. -/
def isFoundBy : Sql.Select → Bool
  | ⟨_, _, joins, conditions, _, _, _⟩ =>
      joins.all row.join && (Truth.all (truths conditions)).isYes

def isFoundByAny : List Sql.Select → Bool
  | [] => false
  | query :: rest => isFoundBy query || isFoundByAny rest

end

theorem truths_eq (conditions : List Sql.Condition) :
    row.truths conditions = conditions.map row.truth := by
  induction conditions with
  | nil => rfl
  | cons condition rest ih => simp [truths, ih]

theorem isFoundByAny_eq (queries : List Sql.Select) :
    row.isFoundByAny queries = queries.any row.isFoundBy := by
  induction queries with
  | nil => rfl
  | cons query rest ih => simp [isFoundByAny, ih]

def Definite : Prop := ∀ condition, row.test condition ≠ .unknown

mutual

theorem truth_ne_unknown (definite : row.Definite) :
    ∀ condition, row.truth condition ≠ .unknown
  | .not operand => by
      have known := truth_ne_unknown definite operand
      rw [truth]
      cases found : row.truth operand with
      | yes | no => nofun
      | unknown => exact absurd found known
  | .all operands => by
      rw [truth]
      exact Truth.all_ne_unknown (unknown_notin_truths definite operands)
  | .any operands => by
      rw [truth]
      exact Truth.any_ne_unknown (unknown_notin_truths definite operands)
  | .keyIn _ queries => by
      rw [truth]
      cases row.isFoundByAny queries <;> nofun
  | .text _ | .test _ _ | .equal _ _ | .linked _ _ => by
      rw [truth]
      exact definite _

theorem unknown_notin_truths (definite : row.Definite) :
    ∀ conditions, .unknown ∉ row.truths conditions
  | [] => nofun
  | condition :: rest => by
      rw [truths, List.mem_cons, not_or]
      exact ⟨(truth_ne_unknown definite condition).symm, unknown_notin_truths definite rest⟩

end

def demands (branch : Branch) : Truth := row.truth (.all branch.conditions)

/-- A select keeps a row only if its conditions are true: unknown does not count. -/
def valuation : Valuation := ⟨row.join, fun condition => (row.truth condition).isYes⟩

def keeps (branch : Branch) : Bool := row.valuation.keeps branch

/-- One of the fragments holds, as a disjunction of their branches without the joins. -/
def disjunction (scope : Scope) (fragments : List Fragment) : Truth :=
  Truth.any ((Fragment.alternatives scope fragments).map row.demands)

variable {row} {scope : Scope}

theorem isYes_all_truths (conditions : List Sql.Condition) :
    (Truth.all (row.truths conditions)).isYes = conditions.all row.valuation.condition := by
  rw [Bool.eq_iff_iff, Truth.isYes_iff, Truth.all_eq_yes, truths_eq]
  simp [valuation, Truth.isYes_iff]

theorem keeps_eq_true {branch : Branch} :
    row.keeps branch = true ↔ branch.joins.all row.join = true ∧ row.demands branch = .yes := by
  rw [keeps, Valuation.keeps, ← isYes_all_truths, Bool.and_eq_true, Truth.isYes_iff, demands, truth]
  rfl

theorem keeps_of_isJoinFree {branch : Branch} (joinFree : branch.isJoinFree = true) :
    row.keeps branch = true ↔ row.demands branch = .yes := by
  have noJoins : branch.joins = [] := by simpa [Branch.isJoinFree] using joinFree
  simp [keeps_eq_true, noJoins]

theorem isFoundBy_keyQuery (branch : Branch) :
    row.isFoundBy (scope.keyQuery branch) = row.keeps branch := by
  rw [Scope.keyQuery, isFoundBy, isYes_all_truths]
  rfl

/-! ## Predicates -/

/-- Branches without joins are a disjunction, which may be unknown. -/
theorem truth_predicate_of_joinFree {branches : List Branch}
    (joinFree : branches.all Branch.isJoinFree = true) :
    row.truth (scope.predicate branches) = Truth.any (branches.map row.demands) := by
  by_cases trivial : branches.any Branch.isTrivial = true
  · obtain ⟨branch, member, demandsNothing⟩ := List.any_eq_true.mp trivial
    have found : row.demands branch = .yes :=
      (keeps_eq_true.mp (row.valuation.keeps_of_isTrivial demandsNothing)).2
    have held : Truth.any (branches.map row.demands) = .yes :=
      Truth.any_eq_yes.mpr (List.mem_map.mpr ⟨branch, member, found⟩)
    rw [Scope.predicate, if_pos trivial, held]
    rfl
  · rw [Scope.predicate, if_neg trivial, if_pos joinFree, truth, truths_eq, List.map_map]
    rfl

/-- Branches of which one has a join are a membership, which is true or false. -/
theorem truth_predicate_of_joined {branches : List Branch}
    (joined : branches.all Branch.isJoinFree = false) :
    row.truth (scope.predicate branches) = .ofBool (branches.any row.keeps) := by
  by_cases trivial : branches.any Branch.isTrivial = true
  · have held : branches.any row.keeps = true := row.valuation.any_keeps_of_isTrivial trivial
    rw [Scope.predicate, if_pos trivial, held]
    rfl
  · rw [Scope.predicate, if_neg trivial, if_neg (by simp [joined]), truth, isFoundByAny_eq,
      List.any_map]
    simp only [Function.comp_def, isFoundBy_keyQuery]

theorem truth_predicate_group (alternatives : List Branch) :
    row.truth (scope.predicate (scope.group alternatives)) =
      row.truth (scope.predicate alternatives) := by
  unfold Scope.group
  split
  · rename_i trivial
    simp [Scope.predicate, trivial, Branch.isTrivial]
  · split
    · rename_i joinFree
      rw [truth_predicate_of_joinFree (by simp [Branch.isJoinFree])]
      simp only [List.map_cons, List.map_nil, demands, truth, truths]
      cases row.truth (scope.predicate alternatives) <;> rfl
    · rfl

/-! ## Negations -/

theorem keeps_lower_not {siblings : List Fragment} {fragment : Fragment}
    {context after : Context} (nonempty : siblings ≠ [])
    (combined : Filter.combine .not siblings context = .ok (fragment, after)) :
    row.keeps (fragment.lower scope) = true ↔
      row.truth (scope.predicate (Fragment.alternatives scope siblings)) = .no := by
  cases (Filter.combine_ok combined).1 with
  | none => exact absurd rfl nonempty
  | @some _ values =>
      have emptied : siblings.map Fragment.emptied ≠ [] := by simpa using nonempty
      have lowered : (Filter.combined .not siblings values).lower scope =
          { conditions := [.not (scope.predicate
              (scope.group (Fragment.alternatives scope siblings)))] } := by
        rw [Filter.combined, Fragment.lower, Fragment.branches_noneOf, Fragment.branches_anyOf emptied,
          Fragment.alternatives_emptied]
      rw [lowered, ← truth_predicate_group, keeps_of_isJoinFree rfl, ← Truth.not_eq_yes]
      simp [demands, truth, truths, Truth.all_eq_yes]

theorem keeps_not_of_joinFree {siblings : List Fragment} {fragment : Fragment}
    {context after : Context}
    (joinFree : ∀ sibling ∈ siblings, (sibling.branches scope).all Branch.isJoinFree = true)
    (combined : Filter.combine .not siblings context = .ok (fragment, after)) :
    row.keeps (fragment.lower scope) = true ↔ row.disjunction scope siblings = .no := by
  by_cases empty : siblings = []
  · subst empty
    obtain ⟨rfl, -⟩ := Compile.pure_ok.mp combined
    constructor <;> intro _ <;> rfl
  · rw [keeps_lower_not empty combined,
      truth_predicate_of_joinFree (Fragment.all_isJoinFree_alternatives joinFree)]
    rfl

theorem keeps_not_of_joined {siblings : List Fragment} {other fragment : Fragment}
    {context after : Context}
    (joinFree : ∀ sibling ∈ siblings, (sibling.branches scope).all Branch.isJoinFree = true)
    (joined : (other.branches scope).all Branch.isJoinFree = false)
    (unmatched : (other.branches scope).any row.keeps = false)
    (combined : Filter.combine .not (siblings ++ [other]) context = .ok (fragment, after)) :
    row.keeps (fragment.lower scope) = true ↔ row.disjunction scope siblings ≠ .yes := by
  have split : Fragment.alternatives scope (siblings ++ [other]) =
      Fragment.alternatives scope siblings ++ other.branches scope := by
    simp [Fragment.alternatives_append, Fragment.alternatives]
  have mixed : (Fragment.alternatives scope (siblings ++ [other])).all Branch.isJoinFree =
      false := by
    rw [split, List.all_append, joined, Bool.and_false]
  have free := Fragment.all_isJoinFree_alternatives joinFree
  have matched : (Fragment.alternatives scope (siblings ++ [other])).any row.keeps = true ↔
      row.disjunction scope siblings = .yes := by
    rw [split, List.any_append, unmatched, Bool.or_false, List.any_eq_true, disjunction,
      Truth.any_eq_yes, List.mem_map]
    refine exists_congr fun branch => and_congr_right fun member => ?_
    exact keeps_of_isJoinFree (List.all_eq_true.mp free branch member)
  rw [keeps_lower_not (by simp) combined, truth_predicate_of_joined mixed, ne_eq, ← matched]
  cases (Fragment.alternatives scope (siblings ++ [other])).any row.keeps <;> simp [Truth.ofBool]

theorem disjunction_ne_unknown (definite : row.Definite) (fragments : List Fragment) :
    row.disjunction scope fragments ≠ .unknown := by
  refine Truth.any_ne_unknown ?_
  rw [List.mem_map]
  rintro ⟨branch, -, found⟩
  exact row.truth_ne_unknown definite _ found

/--
A negation may depend on how its siblings are lowered.  With and without a sibling that
needs a join and does not match, it keeps the same rows but those for which the other
siblings are unknown, of which there are none if all tests are definite.
-/
theorem not_beside_unmatched_iff {siblings : List Fragment} {other alone beside : Fragment}
    {context after start last : Context}
    (joinFree : ∀ sibling ∈ siblings, (sibling.branches scope).all Branch.isJoinFree = true)
    (joined : (other.branches scope).all Branch.isJoinFree = false)
    (unmatched : (other.branches scope).any row.keeps = false)
    (first : Filter.combine .not siblings context = .ok (alone, after))
    (second : Filter.combine .not (siblings ++ [other]) start = .ok (beside, last)) :
    (row.keeps (alone.lower scope) = true ↔ row.disjunction scope siblings = .no) ∧
      (row.keeps (beside.lower scope) = true ↔ row.disjunction scope siblings ≠ .yes) ∧
      (row.keeps (alone.lower scope) = row.keeps (beside.lower scope) ↔
        row.disjunction scope siblings ≠ .unknown) ∧
      (row.Definite → row.keeps (alone.lower scope) = row.keeps (beside.lower scope)) := by
  have without : row.keeps (alone.lower scope) = true ↔ row.disjunction scope siblings = .no :=
    keeps_not_of_joinFree joinFree first
  have within := keeps_not_of_joined joinFree joined unmatched second
  have same : row.keeps (alone.lower scope) = row.keeps (beside.lower scope) ↔
      row.disjunction scope siblings ≠ .unknown := by
    rw [Bool.eq_iff_iff, without, within]
    cases row.disjunction scope siblings <;> simp
  exact ⟨without, within, same, fun definite => same.mpr (disjunction_ne_unknown definite siblings)⟩

end Row

namespace Sample

def demanded (filter : Members) : Fragment :=
  match Filter.compile compiler root filter started with
  | .ok (fragment, _) => fragment
  | .error _ => {}

def gollum : Fragment := demanded [("name", .string "Gollum")]

def mordor : Fragment := demanded [("fellowship", .object [("name", .string "Mordor")])]

def samwise : Row := { join := fun _ => false, test := fun _ => .no }

def nameless : Row := { join := fun _ => false, test := fun _ => .unknown }

theorem siblings_evaluated :
    ((gollum.branches (Filter.scope root)).all Branch.isJoinFree = true ∧
        (mordor.branches (Filter.scope root)).all Branch.isJoinFree = false) ∧
      ((Filter.combine .not [gollum] started).isOk = true ∧
        (Filter.combine .not ([gollum] ++ [mordor]) started).isOk = true) ∧
      ((mordor.branches (Filter.scope root)).any samwise.keeps = false ∧
        samwise.disjunction (Filter.scope root) [gollum] = .no) ∧
      (mordor.branches (Filter.scope root)).any nameless.keeps = false ∧
        nameless.disjunction (Filter.scope root) [gollum] = .unknown := by
  decide +kernel

theorem gollum_isJoinFree : ∀ sibling ∈ [gollum],
    (sibling.branches (Filter.scope root)).all Branch.isJoinFree = true :=
  List.forall_mem_singleton.mpr siblings_evaluated.1.1

theorem not_beside_unmatched_iff_samwise :
    ∃ alone after beside last, Filter.combine .not [gollum] started = .ok (alone, after) ∧
      Filter.combine .not ([gollum] ++ [mordor]) started = .ok (beside, last) ∧
      samwise.keeps (alone.lower (Filter.scope root)) = true ∧
      samwise.keeps (beside.lower (Filter.scope root)) = true := by
  obtain ⟨⟨-, joined⟩, ⟨one, both⟩, ⟨unmatched, refuted⟩, -⟩ := siblings_evaluated
  obtain ⟨⟨alone, after⟩, first⟩ := exists_ok one
  obtain ⟨⟨beside, last⟩, second⟩ := exists_ok both
  obtain ⟨without, within, -, -⟩ :=
    Row.not_beside_unmatched_iff gollum_isJoinFree joined unmatched first second
  exact ⟨alone, after, beside, last, first, second, without.mpr refuted,
    within.mpr (by simp [refuted])⟩

theorem nameless_kept_beside_relation_only :
    (∀ sibling ∈ [gollum], (sibling.branches (Filter.scope root)).all Branch.isJoinFree = true) ∧
      (mordor.branches (Filter.scope root)).all Branch.isJoinFree = false ∧
      (mordor.branches (Filter.scope root)).any nameless.keeps = false ∧
      ∃ alone after beside last, Filter.combine .not [gollum] started = .ok (alone, after) ∧
        Filter.combine .not ([gollum] ++ [mordor]) started = .ok (beside, last) ∧
        nameless.keeps (alone.lower (Filter.scope root)) = false ∧
        nameless.keeps (beside.lower (Filter.scope root)) = true := by
  obtain ⟨⟨-, joined⟩, ⟨one, both⟩, -, unmatched, unknown⟩ := siblings_evaluated
  obtain ⟨⟨alone, after⟩, first⟩ := exists_ok one
  obtain ⟨⟨beside, last⟩, second⟩ := exists_ok both
  refine ⟨gollum_isJoinFree, joined, unmatched, alone, after, beside, last, first, second, ?_, ?_⟩
  · rw [← Bool.not_eq_true, Row.keeps_not_of_joinFree gollum_isJoinFree first, unknown]
    nofun
  · rw [Row.keeps_not_of_joined gollum_isJoinFree joined unmatched second, unknown]
    nofun

end Sample

end TreeQuery
