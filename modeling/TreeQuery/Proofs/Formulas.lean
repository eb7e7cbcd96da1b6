import TreeQuery.Proofs.FragmentParts
import TreeQuery.Proofs.LiteralBindings
import TreeQuery.Proofs.Lowering

/-!
# Lowered conditions as formulas

The conditions and joins of a fragment are taken as texts about which nothing is known
but that each is true or false.  What a fragment is lowered to is then written as
formulas over these texts: negations, conjunctions, disjunctions and lookups of a row's
key among the keys that some ways find.  In the text of a formula every operand that
could run into its surroundings stands in parentheses of its own.  For every verdict on
the texts the formulas have the truth value of the fragment.
-/

namespace TreeQuery

/-! ## Formulas and their text -/

section Formulas

variable {own tested : String → Prop}

mutual

/-- A condition as a tree over texts of conditions that are `own` and of joins that are
`tested`. -/
inductive Formula (own tested : String → Prop) where
  | atom (text : { text // own text })
  | not (operand : Formula own tested)
  | all (operands : List (Formula own tested))
  | any (operands : List (Formula own tested))
  | member (ways : List (Way own tested))

structure Way (own tested : String → Prop) where
  joins : List { text // tested text } := []
  conditions : List (Formula own tested) := []

end

def parenthesized (text : String) : String := "(" ++ text ++ ")"

/-- A single operand stands alone, and of several each stands in its own parentheses. -/
def chained (word whenNone : String) : List String → String
  | [] => whenNone
  | [operand] => operand
  | operands => word.intercalate (operands.map parenthesized)

def keysText (scope : Scope) (joins conditions : List String) : String :=
  Text.collapse
    ("SELECT " ++ ", ".intercalate (Sql.columnTexts scope.keyColumns) ++ " FROM " ++
      scope.source.render ++ String.join (joins.map (" " ++ ·)) ++
      (if conditions.isEmpty then "" else " WHERE " ++ chained " AND " "TRUE" conditions))

mutual

def Formula.text (scope : Scope) : Formula own tested → String
  | .atom text => text.val
  | .not operand => "NOT " ++ parenthesized (operand.text scope)
  | .all operands => chained " AND " "TRUE" (Formula.texts scope operands)
  | .any operands => chained " OR " "FALSE" (Formula.texts scope operands)
  | .member ways =>
      Sql.columnsText scope.keyColumns ++ " IN " ++
        parenthesized (Text.collapse (" UNION ALL ".intercalate (Way.texts scope ways)))

def Formula.texts (scope : Scope) : List (Formula own tested) → List String
  | [] => []
  | formula :: rest => formula.text scope :: Formula.texts scope rest

def Way.text (scope : Scope) : Way own tested → String
  | ⟨joins, conditions⟩ => keysText scope (joins.map (·.val)) (Formula.texts scope conditions)

def Way.texts (scope : Scope) : List (Way own tested) → List String
  | [] => []
  | way :: rest => way.text scope :: Way.texts scope rest

end

structure Verdict where
  condition : String → Bool
  join : String → Bool

namespace Verdict

variable (verdict : Verdict)

def valuation : Valuation :=
  ⟨fun join => verdict.join join.render, fun condition => verdict.condition condition.render⟩

mutual

def value : Formula own tested → Bool
  | .atom text => verdict.condition text.val
  | .not operand => !value operand
  | .all operands => valueAll operands
  | .any operands => valueAny operands
  | .member ways => keepsAny ways

def valueAll : List (Formula own tested) → Bool
  | [] => true
  | formula :: rest => value formula && valueAll rest

def valueAny : List (Formula own tested) → Bool
  | [] => false
  | formula :: rest => value formula || valueAny rest

def keeps : Way own tested → Bool
  | ⟨joins, conditions⟩ => (joins.all fun text => verdict.join text.val) && valueAll conditions

def keepsAny : List (Way own tested) → Bool
  | [] => false
  | way :: rest => keeps way || keepsAny rest

end

theorem valueAll_eq (formulas : List (Formula own tested)) :
    verdict.valueAll formulas = formulas.all verdict.value := by
  induction formulas with
  | nil => rfl
  | cons formula rest ih => simp [valueAll, ih]

theorem valueAny_eq (formulas : List (Formula own tested)) :
    verdict.valueAny formulas = formulas.any verdict.value := by
  induction formulas with
  | nil => rfl
  | cons formula rest ih => simp [valueAny, ih]

theorem keepsAny_eq (ways : List (Way own tested)) :
    verdict.keepsAny ways = ways.any verdict.keeps := by
  induction ways with
  | nil => rfl
  | cons way rest ih => simp [keepsAny, ih]

theorem keeps_eq (way : Way own tested) :
    verdict.keeps way =
      ((way.joins.all fun text => verdict.join text.val) &&
        way.conditions.all verdict.value) := by
  cases way
  rw [keeps, valueAll_eq]

end Verdict

theorem Formula.texts_eq (scope : Scope) (formulas : List (Formula own tested)) :
    Formula.texts scope formulas = formulas.map (Formula.text scope) := by
  induction formulas with
  | nil => rfl
  | cons formula rest ih => simp [Formula.texts, ih]

def Way.parts (scope : Scope) (way : Way own tested) : List String × List String :=
  (way.joins.map (·.val), way.conditions.map (Formula.text scope))

theorem Way.texts_eq (scope : Scope) (ways : List (Way own tested)) :
    Way.texts scope ways =
      (ways.map (Way.parts scope)).map fun parts => keysText scope parts.1 parts.2 := by
  induction ways with
  | nil => rfl
  | cons way rest ih =>
      cases way
      simp [Way.texts, Way.text, Way.parts, Formula.texts_eq, ih]

def Way.combine (left right : Way own tested) : Way own tested :=
  ⟨left.joins ++ right.joins, left.conditions ++ right.conditions⟩

def joined (left right : List String × List String) : List String × List String :=
  (left.1 ++ right.1, left.2 ++ right.2)

theorem Way.parts_combine (scope : Scope) (left right : Way own tested) :
    (left.combine right).parts scope = joined (left.parts scope) (right.parts scope) := by
  simp [parts, combine, joined]

theorem Verdict.keeps_combine (verdict : Verdict) (left right : Way own tested) :
    verdict.keeps (left.combine right) = (verdict.keeps left && verdict.keeps right) := by
  simp only [keeps_eq, Way.combine, List.all_append]
  ac_rfl

end Formulas

/-! ## The text of lowered conditions -/

def Branch.parts (branch : Branch) : List String × List String :=
  (branch.joins.map Sql.Join.render, branch.conditions.map Sql.Condition.render)

theorem Branch.parts_combine (left right : Branch) :
    (left.combine right).parts = joined left.parts right.parts := by
  simp [parts, combine, joined]

theorem connected_eq_chained (word whenNone : String) (operands : List String) :
    Sql.connected word whenNone operands = chained (" " ++ word ++ " ") whenNone operands := by
  match operands with
  | [] => rfl
  | [_] => rfl
  | _ :: _ :: _ => rfl

theorem not_render (operand : Sql.Condition) :
    (Sql.Condition.not operand).render = "NOT " ++ parenthesized operand.render := by
  have opened : "NOT (" = "NOT " ++ "(" := rfl
  rw [Sql.Condition.render, parenthesized, opened]
  simp only [← String.append_assoc]

theorem all_render (operands : List Sql.Condition) :
    (Sql.Condition.all operands).render =
      chained " AND " "TRUE" (operands.map Sql.Condition.render) := by
  rw [Sql.Condition.render, Sql.conjunction, connected_eq_chained, Sql.Condition.renderAll_eq]
  rfl

theorem any_render (operands : List Sql.Condition) :
    (Sql.Condition.any operands).render =
      chained " OR " "FALSE" (operands.map Sql.Condition.render) := by
  rw [Sql.Condition.render, Sql.disjunction, connected_eq_chained, Sql.Condition.renderAll_eq]
  rfl

theorem keyQuery_render (scope : Scope) (branch : Branch) :
    (scope.keyQuery branch).render = keysText scope branch.parts.1 branch.parts.2 := by
  have restricted : ∀ conditions : List String,
      (if (Sql.whereClause conditions).isEmpty then ""
        else " " ++ Sql.whereClause conditions) =
      (if conditions.isEmpty then "" else " WHERE " ++ chained " AND " "TRUE" conditions) := by
    intro conditions
    cases conditions with
    | nil => rfl
    | cons condition rest =>
        simp [Sql.whereClause, Sql.conjunction, connected_eq_chained, ← String.append_assoc]
  simp only [Scope.keyQuery, Sql.Select.render, Sql.Join.renderAll_eq,
    Sql.Condition.renderAll_eq, Sql.SelectText.render, restricted]
  simp [keysText, Branch.parts, Sql.Output.render, Sql.slice]

theorem keyIn_render (scope : Scope) (branches : List Branch) :
    (Sql.Condition.keyIn scope.keyColumns (branches.map scope.keyQuery)).render =
      Sql.columnsText scope.keyColumns ++ " IN " ++
        parenthesized (Text.collapse (" UNION ALL ".intercalate
          ((branches.map Branch.parts).map fun parts => keysText scope parts.1 parts.2))) := by
  have texts : (branches.map scope.keyQuery).map Sql.Select.render =
      (branches.map Branch.parts).map fun parts => keysText scope parts.1 parts.2 := by
    simp [keyQuery_render]
  have opened : " IN (" = " IN " ++ "(" := rfl
  rw [Sql.Condition.render, Sql.Select.renderAll_eq, texts, Sql.unionAll, parenthesized, opened]
  simp only [← String.append_assoc]

/-! ## Lowering as formulas -/

section Lowering

variable (own tested : String → Prop) (scope : Scope)

def Means (condition : Sql.Condition) (meaning : Verdict → Bool) : Prop :=
  ∃ formula : Formula own tested, formula.text scope = condition.render ∧
    ∀ verdict, verdict.value formula = meaning verdict

def MeansAll (conditions : List Sql.Condition) (meaning : Verdict → Bool) : Prop :=
  ∃ formulas : List (Formula own tested),
    formulas.map (Formula.text scope) = conditions.map Sql.Condition.render ∧
      ∀ verdict, formulas.all verdict.value = meaning verdict

/-- The branches are written as ways of which one holds when the meaning does. -/
def Lowers (branches : List Branch) (meaning : Verdict → Bool) : Prop :=
  ∃ ways : List (Way own tested),
    ways.map (Way.parts scope) = branches.map Branch.parts ∧
      ∀ verdict, ways.any verdict.keeps = meaning verdict

variable {own tested scope} {meaning : Verdict → Bool}

theorem meansAll_atoms {conditions : List Sql.Condition}
    (each : ∀ condition ∈ conditions, own condition.render) :
    MeansAll own tested scope conditions
      fun verdict => conditions.all verdict.valuation.condition := by
  refine ⟨conditions.pmap (fun condition owned => .atom ⟨condition.render, owned⟩) each, ?_, ?_⟩
  · simp [List.map_pmap, Formula.text]
  · intro verdict
    induction conditions with
    | nil => rfl
    | cons condition rest ih =>
        simp [Verdict.value, Verdict.valuation, ih]

theorem MeansAll.append {left right : List Sql.Condition} {first second : Verdict → Bool}
    (before : MeansAll own tested scope left first)
    (after : MeansAll own tested scope right second) :
    MeansAll own tested scope (left ++ right) fun verdict => first verdict && second verdict := by
  obtain ⟨formulas, texts, values⟩ := before
  obtain ⟨others, otherTexts, otherValues⟩ := after
  refine ⟨formulas ++ others, by simp [texts, otherTexts], fun verdict => ?_⟩
  rw [List.all_append, values, otherValues]

theorem lowers_single {joins : List Sql.Join} {conditions : List Sql.Condition}
    (each : ∀ join ∈ joins, tested join.render)
    (means : MeansAll own tested scope conditions meaning) :
    Lowers own tested scope [⟨joins, conditions⟩]
      fun verdict => joins.all verdict.valuation.join && meaning verdict := by
  obtain ⟨formulas, texts, values⟩ := means
  refine ⟨[⟨joins.pmap (fun join found => ⟨join.render, found⟩) each, formulas⟩], ?_, ?_⟩
  · simp [Way.parts, Branch.parts, texts, List.map_pmap]
  · intro verdict
    have found : ((joins.pmap (fun join found => (⟨join.render, found⟩ : { text // tested text }))
        each).all fun text => verdict.join text.val) = joins.all verdict.valuation.join := by
      clear values texts
      induction joins with
      | nil => rfl
      | cons join rest ih => simp [Verdict.valuation, ih]
    simp only [List.any_cons, List.any_nil, Bool.or_false, Verdict.keeps_eq, found, values]

theorem Lowers.of_eq {branches : List Branch} {other : Verdict → Bool}
    (lowers : Lowers own tested scope branches meaning)
    (same : ∀ verdict, other verdict = meaning verdict) :
    Lowers own tested scope branches other :=
  funext same ▸ lowers

theorem Lowers.append {left right : List Branch} {first second : Verdict → Bool}
    (before : Lowers own tested scope left first)
    (after : Lowers own tested scope right second) :
    Lowers own tested scope (left ++ right) fun verdict => first verdict || second verdict := by
  obtain ⟨ways, texts, values⟩ := before
  obtain ⟨others, otherTexts, otherValues⟩ := after
  refine ⟨ways ++ others, by simp [texts, otherTexts], fun verdict => ?_⟩
  rw [List.any_append, values, otherValues]

theorem Lowers.product {left right : List Branch} {first second : Verdict → Bool}
    (before : Lowers own tested scope left first)
    (after : Lowers own tested scope right second) :
    Lowers own tested scope (Branch.product left right)
      fun verdict => first verdict && second verdict := by
  obtain ⟨ways, texts, values⟩ := before
  obtain ⟨others, otherTexts, otherValues⟩ := after
  refine ⟨ways.flatMap fun way => others.map way.combine, ?_, fun verdict => ?_⟩
  · calc (ways.flatMap fun way => others.map way.combine).map (Way.parts scope)
      _ = (ways.map (Way.parts scope)).flatMap fun first =>
            (others.map (Way.parts scope)).map (joined first) := by
          simp [List.map_flatMap, List.flatMap_map, Function.comp_def, Way.parts_combine]
      _ = (left.map Branch.parts).flatMap fun first =>
            (right.map Branch.parts).map (joined first) := by rw [texts, otherTexts]
      _ = (Branch.product left right).map Branch.parts := by
          simp [Branch.product, List.map_flatMap, List.flatMap_map, Function.comp_def,
            Branch.parts_combine]
  · rw [any_combinations verdict.keeps_combine, values, otherValues]

theorem Lowers.meaning_of_isTrivial {branches : List Branch}
    (lowers : Lowers own tested scope branches meaning)
    (trivial : branches.any Branch.isTrivial = true) (verdict : Verdict) :
    meaning verdict = true := by
  obtain ⟨ways, texts, values⟩ := lowers
  obtain ⟨branch, listed, demandsNothing⟩ := List.any_eq_true.mp trivial
  have nothing : branch.parts = ([], []) := by
    simpa [Branch.isTrivial, Branch.parts] using demandsNothing
  have among : ([], []) ∈ ways.map (Way.parts scope) := by
    rw [texts, ← nothing]
    exact List.mem_map_of_mem listed
  obtain ⟨way, member, same⟩ := List.mem_map.mp among
  have bare : way.joins = [] ∧ way.conditions = [] :=
    ⟨List.map_eq_nil_iff.mp (congrArg Prod.fst same),
      List.map_eq_nil_iff.mp (congrArg Prod.snd same)⟩
  rw [← values verdict, List.any_eq_true]
  exact ⟨way, member, by simp [Verdict.keeps_eq, bare]⟩

theorem Lowers.predicate {branches : List Branch}
    (lowers : Lowers own tested scope branches meaning) :
    Means own tested scope (scope.predicate branches) meaning := by
  unfold Scope.predicate
  split
  · rename_i trivial
    refine ⟨.all [], by rw [all_render]; rfl, fun verdict => ?_⟩
    rw [lowers.meaning_of_isTrivial trivial]
    rfl
  · obtain ⟨ways, texts, values⟩ := lowers
    split
    · rename_i joinFree
      have bare : ∀ way ∈ ways, way.joins = [] := by
        intro way member
        have among : way.parts scope ∈ branches.map Branch.parts :=
          texts ▸ List.mem_map_of_mem member
        obtain ⟨branch, listed, same⟩ := List.mem_map.mp among
        have noJoins : branch.joins = [] := by
          simpa [Branch.isJoinFree] using List.all_eq_true.mp joinFree branch listed
        have none : (way.parts scope).1 = [] := by
          rw [← same, Branch.parts, noJoins]
          rfl
        exact List.map_eq_nil_iff.mp none
      -- without joins a way is the conjunction of its conditions
      refine ⟨.any (ways.map fun way => .all way.conditions), ?_, fun verdict => ?_⟩
      · have operands := congrArg (List.map fun parts => chained " AND " "TRUE" parts.2) texts
        simp only [List.map_map, Function.comp_def, Way.parts, Branch.parts] at operands
        simp only [any_render, List.map_map, Function.comp_def, all_render, Formula.text,
          Formula.texts_eq, operands]
      · rw [← values verdict, Verdict.value, Verdict.valueAny_eq, List.any_map, Bool.eq_iff_iff,
          List.any_eq_true, List.any_eq_true]
        refine exists_congr fun way => and_congr_right fun member => ?_
        simp [Verdict.value, Verdict.valueAll_eq, Verdict.keeps_eq, bare way member]
    · refine ⟨.member ways, ?_, fun verdict => ?_⟩
      · rw [keyIn_render, Formula.text, Way.texts_eq, texts]
      · rw [Verdict.value, Verdict.keepsAny_eq, values]

theorem lowers_of_means {condition : Sql.Condition}
    (means : Means own tested scope condition meaning) :
    Lowers own tested scope [{ conditions := [condition] }] meaning := by
  obtain ⟨formula, text, values⟩ := means
  refine ⟨[{ conditions := [formula] }], by simp [Way.parts, Branch.parts, text], ?_⟩
  intro verdict
  simp [Verdict.keeps_eq, values]

theorem Lowers.group {alternatives : List Branch}
    (lowers : Lowers own tested scope alternatives meaning) :
    Lowers own tested scope (scope.group alternatives) meaning := by
  unfold Scope.group
  split
  · rename_i trivial
    refine ⟨[{}], rfl, fun verdict => ?_⟩
    rw [lowers.meaning_of_isTrivial trivial]
    rfl
  · split
    · exact lowers_of_means lowers.predicate
    · exact lowers

mutual

theorem lowers_branches : ∀ {fragment : Fragment},
    fragment.Each (fun join => tested join.render) (fun condition => own condition.render) →
      Lowers own tested scope (fragment.branches scope)
        fun verdict => verdict.valuation.holds fragment
  | ⟨_, _, _, filterJoins, _, conditions, _, _, _, _, allOf, anyOf, noneOf⟩, each => by
      obtain ⟨joins, atoms, inAll, inAny, inNone⟩ := each
      -- the branch that is conjoined with the children holds the fragment's own tests
      have base := lowers_single joins ((meansAll_atoms atoms).append (meansAll_negations inNone))
      have conjoined := lowers_conjoin base inAll
      simp only [Fragment.branches, Valuation.holds_eq]
      cases none : anyOf.isEmpty with
      | true =>
          refine conjoined.of_eq fun verdict => ?_
          rw [Bool.true_or, Bool.and_true]
          ac_rfl
      | false =>
          refine (conjoined.product (lowers_alternatives inAny).group).of_eq fun verdict => ?_
          rw [Bool.false_or]
          ac_rfl

theorem meansAll_negations : ∀ {fragments : List Fragment},
    Fragment.EachAll (fun join => tested join.render) (fun condition => own condition.render)
        fragments →
      MeansAll own tested scope (Fragment.negations scope fragments)
        fun verdict => !fragments.any verdict.valuation.holds
  | [], _ => ⟨[], rfl, fun _ => rfl⟩
  | fragment :: rest, each => by
      obtain ⟨formula, text, values⟩ := (lowers_branches each.1).predicate
      obtain ⟨others, texts, otherValues⟩ := meansAll_negations each.2
      refine ⟨.not formula :: others, ?_, fun verdict => ?_⟩
      · simp [Fragment.negations, not_render, Formula.text, text, texts]
      · simp [Verdict.value, values, otherValues]

theorem lowers_conjoin : ∀ {fragments : List Fragment} {given : List Branch}
    {meaning : Verdict → Bool},
    Lowers own tested scope given meaning →
    Fragment.EachAll (fun join => tested join.render) (fun condition => own condition.render)
        fragments →
      Lowers own tested scope (Fragment.conjoin scope given fragments)
        fun verdict => meaning verdict && fragments.all verdict.valuation.holds
  | [], _, _, lowers, _ => by simpa [Fragment.conjoin] using lowers
  | fragment :: rest, _, _, lowers, each => by
      have later := lowers_conjoin (lowers.product (lowers_branches each.1)) each.2
      simpa only [Fragment.conjoin, List.all_cons, Bool.and_assoc] using later

theorem lowers_alternatives : ∀ {fragments : List Fragment},
    Fragment.EachAll (fun join => tested join.render) (fun condition => own condition.render)
        fragments →
      Lowers own tested scope (Fragment.alternatives scope fragments)
        fun verdict => fragments.any verdict.valuation.holds
  | [], _ => ⟨[], rfl, fun _ => rfl⟩
  | _ :: _, each => (lowers_branches each.1).append (lowers_alternatives each.2)

end

theorem lowers_lower {fragment : Fragment}
    (lowers : Lowers own tested scope (fragment.branches scope) meaning) :
    Lowers own tested scope [fragment.lower scope] meaning := by
  unfold Fragment.lower
  split
  · rename_i branch single
    rwa [← single]
  · exact lowers_of_means lowers.predicate

end Lowering

namespace Fragment

def HasCondition (fragment : Fragment) (text : String) : Prop :=
  ∃ part ∈ fragment :: fragment.descendants, ∃ condition ∈ part.conditions,
    condition.render = text

def HasFilterJoin (fragment : Fragment) (text : String) : Prop :=
  ∃ part ∈ fragment :: fragment.descendants, ∃ join ∈ part.filterJoins, join.render = text

def Tests (join : Sql.Join → Prop) (condition : Sql.Condition → Prop) (part : Fragment) : Prop :=
  (∀ tested ∈ part.filterJoins, join tested) ∧ ∀ tested ∈ part.conditions, condition tested

section Descendants

variable {join : Sql.Join → Prop} {condition : Sql.Condition → Prop}

mutual

theorem each_of_descendants : ∀ {fragment : Fragment},
    (∀ part ∈ fragment :: fragment.descendants, part.Tests join condition) →
      fragment.Each join condition
  | ⟨_, _, _, _, _, _, _, _, _, _, _, _, _⟩, each => by
      obtain ⟨⟨joins, conditions⟩, inside⟩ := List.forall_mem_cons.mp each
      simp only [descendants, List.forall_mem_append] at inside
      obtain ⟨⟨inAll, inAny⟩, inNone⟩ := inside
      exact ⟨joins, conditions, eachAll_of_family inAll, eachAll_of_family inAny,
        eachAll_of_family inNone⟩

theorem eachAll_of_family : ∀ {fragments : List Fragment},
    (∀ part ∈ family fragments, part.Tests join condition) →
      EachAll join condition fragments
  | [], _ => trivial
  | _ :: _, each => by
      simp only [family, List.forall_mem_cons, List.forall_mem_append] at each
      obtain ⟨first, inside, later⟩ := each
      exact ⟨each_of_descendants (List.forall_mem_cons.mpr ⟨first, inside⟩),
        eachAll_of_family later⟩

end

end Descendants

/-- Every fragment and every nesting is lowered to formulas over its own conditions and
joins, with the truth value of the fragment under every verdict. -/
theorem exists_ways_lower (scope : Scope) (fragment : Fragment) :
    ∃ (ways : List (Way fragment.HasCondition fragment.HasFilterJoin))
      (lowered : Way fragment.HasCondition fragment.HasFilterJoin),
      ways.map (Way.parts scope) = (fragment.branches scope).map Branch.parts ∧
      lowered.parts scope = (fragment.lower scope).parts ∧
      ∀ verdict : Verdict,
        ways.any verdict.keeps = verdict.valuation.holds fragment ∧
        verdict.keeps lowered = verdict.valuation.holds fragment := by
  have each : fragment.Each (fun join => fragment.HasFilterJoin join.render)
      (fun condition => fragment.HasCondition condition.render) :=
    each_of_descendants fun part among =>
      ⟨fun join listed => ⟨part, among, join, listed, rfl⟩,
        fun condition listed => ⟨part, among, condition, listed, rfl⟩⟩
  have lowers : Lowers fragment.HasCondition fragment.HasFilterJoin scope
      (fragment.branches scope) fun verdict => verdict.valuation.holds fragment :=
    lowers_branches each
  obtain ⟨single, text, value⟩ := lowers_lower lowers
  obtain ⟨ways, texts, values⟩ := lowers
  -- one branch has the parts of one way
  obtain ⟨lowered, rfl⟩ : ∃ lowered, single = [lowered] :=
    List.length_eq_one_iff.mp (by simpa using congrArg List.length text)
  refine ⟨ways, lowered, texts, by simpa using text, fun verdict => ⟨values verdict, ?_⟩⟩
  simpa using value verdict

end Fragment

end TreeQuery
