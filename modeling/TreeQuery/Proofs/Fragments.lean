import Mathlib.Data.List.Induction
import TreeQuery.Proofs.Bindings
import TreeQuery.Proofs.Steps

/-!
# Putting fragments together

Merging, reducing and hoisting fail only when a name is bound twice.  The
lemmas say what the result is made of when they succeed.
-/

namespace TreeQuery

theorem mem_insertName {name other : String} {names : List String} :
    other ∈ insertName name names ↔ other = name ∨ other ∈ names := by
  induction names with
  | nil => simp [insertName]
  | cons first rest ih =>
      unfold insertName
      split
      · exact List.mem_cons
      · split
        · rename_i same
          simp [same]
        · rw [List.mem_cons, ih, List.mem_cons, or_left_comm]

theorem mem_unionNames {name : String} {names more : List String} :
    name ∈ unionNames names more ↔ name ∈ names ∨ name ∈ more := by
  induction more generalizing names with
  | nil => simp [unionNames]
  | cons first rest ih =>
      change name ∈ unionNames (insertName first names) rest ↔ _
      rw [ih, mem_insertName, List.mem_cons, or_assoc, or_left_comm]

namespace Fragment

/-- The fragment without its values, as a child that was hoisted. -/
def emptied (fragment : Fragment) : Fragment := { fragment with values := [] }

theorem checked_ok {fragment result : Fragment} {duplicate : Option String} :
    checked (fragment, duplicate) = .ok result ↔
      duplicate = none ∧ result = fragment := by
  cases duplicate with
  | none => simp [checked, eq_comm]
  | some name => simp [checked]

theorem checked_bindAll_ok {fragment result : Fragment}
    {entries : List (String × Json)} :
    checked (fragment.bindAll entries) = .ok result ↔
      ∃ values, fragment.values.bindAll entries = (values, none) ∧
        result = { fragment with values } := by
  rcases h : fragment.values.bindAll entries with ⟨values, duplicate⟩
  simp only [bindAll, h, checked_ok, Prod.mk.injEq]
  constructor
  · rintro ⟨rfl, rfl⟩
    exact ⟨values, ⟨rfl, rfl⟩, rfl⟩
  · rintro ⟨_, ⟨rfl, rfl⟩, rfl⟩
    exact ⟨rfl, rfl⟩

theorem checked_of_nodup {fragment : Fragment} {entries : List (String × Json)}
    (unbound : fragment.values = []) (distinct : (Bindings.names entries).Nodup)
    {error : CompileError} : checked (fragment.bindAll entries) ≠ .error error := by
  intro failed
  have fresh : fragment.values.Fresh entries :=
    Bindings.fresh_of_nodup (by simpa [unbound, Bindings.names] using distinct)
  obtain ⟨values, bound⟩ := Bindings.bindAll_of_fresh fresh
  simp only [Fragment.bindAll, bound, checked] at failed
  cases failed

theorem merge_ok {fragment other result : Fragment} :
    fragment.merge other = .ok result ↔
      ∃ values, fragment.values.bindAll other.values = (values, none) ∧
        result = addRest { fragment.addOwn other with values } other := by
  rcases h : fragment.values.bindAll other.values with ⟨values, duplicate⟩
  have bound : (fragment.addOwn other).bindAll other.values =
      ({ fragment.addOwn other with values }, duplicate) := by
    simp [bindAll, addOwn, h]
  unfold merge absorb
  rw [bound]
  cases duplicate with
  | none =>
      simp only [checked_ok, Prod.mk.injEq, and_true, true_and]
      constructor
      · rintro rfl
        exact ⟨values, rfl, rfl⟩
      · rintro ⟨_, rfl, rfl⟩
        rfl
  | some name => simp [checked]

theorem merge_fields {fragment other result : Fragment}
    (merged : fragment.merge other = .ok result) :
    ∃ values allOf anyOf, fragment.values.bindAll other.values = (values, none) ∧
      result =
        { columns := unionNames fragment.columns other.columns
          pairs := fragment.pairs ++ other.pairs
          computed := fragment.computed || other.computed
          filterJoins := fragment.filterJoins ++ other.filterJoins
          joins := fragment.joins ++ other.joins
          conditions := fragment.conditions ++ other.conditions
          values
          limit := other.limit <|> fragment.limit
          offset := other.offset <|> fragment.offset
          order := fragment.order ++ other.order
          allOf
          anyOf
          noneOf := fragment.noneOf ++ other.noneOf } := by
  obtain ⟨values, bound, rfl⟩ := merge_ok.mp merged
  unfold addRest addGroup
  split
  · exact ⟨values, _, _, bound, rfl⟩
  · split <;> exact ⟨values, _, _, bound, rfl⟩

theorem reduce_concat (fragments : List Fragment) (other : Fragment) :
    reduce (fragments ++ [other]) = (reduce fragments).bind (·.merge other) := by
  unfold reduce
  rw [List.foldlM_append]
  cases List.foldlM merge {} fragments with
  | error error => rfl
  | ok fragment => exact bind_pure (fragment.merge other)

/-- What holds of nothing reduced and is kept by merging holds of every reduction. -/
theorem reduce_induction {motive : List Fragment → Fragment → Prop}
    (nothing : motive [] {})
    (step : ∀ {fragments fragment other result}, motive fragments fragment →
      fragment.merge other = .ok result → motive (fragments ++ [other]) result)
    {fragments : List Fragment} {result : Fragment}
    (reduced : reduce fragments = .ok result) : motive fragments result := by
  induction fragments using List.reverseRecOn generalizing result with
  | nil =>
      cases reduced
      exact nothing
  | append_singleton fragments other ih =>
      rw [reduce_concat] at reduced
      cases before : reduce fragments with
      | error error => simp [before, Except.bind] at reduced
      | ok fragment =>
          rw [before] at reduced
          exact step (ih before) reduced

theorem merge_values {fragment other result : Fragment}
    (merged : fragment.merge other = .ok result) :
    result.values.Perm (fragment.values ++ other.values) ∧
      fragment.values.Fresh other.values := by
  obtain ⟨values, -, -, bound, rfl⟩ := merge_fields merged
  exact Bindings.bindAll_none bound

/-- A reduction holds the values of all its parts, each name once. -/
theorem reduce_values {fragments : List Fragment} {result : Fragment}
    (reduced : reduce fragments = .ok result) :
    result.values.Perm (fragments.flatMap (·.values)) ∧
      result.values.names.Nodup := by
  refine reduce_induction (motive := fun fragments result =>
    result.values.Perm (fragments.flatMap (·.values)) ∧
      result.values.names.Nodup) ?_ ?_ reduced
  · exact ⟨.refl _, List.nodup_nil⟩
  · rintro fragments fragment other result ⟨perm, distinct⟩ merged
    obtain ⟨joined, fresh⟩ := merge_values merged
    refine ⟨?_, Bindings.names_nodup_of_perm distinct fresh joined⟩
    rw [List.flatMap_append]
    simpa using joined.trans (perm.append_right other.values)

def boundNames (fragments : List Fragment) : List String :=
  Bindings.names (fragments.flatMap (·.values))

theorem reduce_of_nodup {fragments : List Fragment} (distinct : (boundNames fragments).Nodup) :
    ∃ fragment, reduce fragments = .ok fragment := by
  induction fragments using List.reverseRecOn with
  | nil => exact ⟨{}, rfl⟩
  | append_singleton fragments other ih =>
      rw [boundNames, List.flatMap_append, Bindings.names, List.map_append,
        List.nodup_append] at distinct
      obtain ⟨fragment, reduced⟩ := ih distinct.1
      obtain ⟨perm, -⟩ := reduce_values reduced
      -- the fragment reduced so far binds the names of its parts
      have names : fragment.values.names.Perm (boundNames fragments) := perm.map Prod.fst
      have fresh : fragment.values.Fresh other.values := by
        refine ⟨fun entry member present => ?_, ?_⟩
        · refine distinct.2.2 _ (names.mem_iff.mp present) _ ?_ rfl
          exact List.mem_map_of_mem (by simpa using member)
        · simpa using distinct.2.1
      obtain ⟨values, bound⟩ := Bindings.bindAll_of_fresh fresh
      rw [reduce_concat, reduced]
      exact ⟨_, merge_ok.mpr ⟨values, bound, rfl⟩⟩

theorem merge_shown {fragment other result : Fragment}
    (merged : fragment.merge other = .ok result) :
    result.joins = fragment.joins ++ other.joins ∧
      result.pairs = fragment.pairs ++ other.pairs ∧
      result.columns = unionNames fragment.columns other.columns ∧
      result.order = fragment.order ++ other.order := by
  obtain ⟨-, -, -, -, rfl⟩ := merge_fields merged
  exact ⟨rfl, rfl, rfl, rfl⟩

theorem merge_computed {fragment other result : Fragment}
    (merged : fragment.merge other = .ok result) :
    result.computed = (fragment.computed || other.computed) := by
  obtain ⟨-, -, -, -, rfl⟩ := merge_fields merged
  rfl

theorem reduce_joins {fragments : List Fragment} {result : Fragment}
    (reduced : reduce fragments = .ok result) :
    result.joins = fragments.flatMap (·.joins) := by
  refine reduce_induction (motive := fun fragments result =>
    result.joins = fragments.flatMap (·.joins)) rfl ?_ reduced
  intro fragments fragment other result before merged
  rw [(merge_shown merged).1, before, List.flatMap_append]
  simp

theorem reduce_pairs {fragments : List Fragment} {result : Fragment}
    (reduced : reduce fragments = .ok result) :
    result.pairs = fragments.flatMap (·.pairs) := by
  refine reduce_induction (motive := fun fragments result =>
    result.pairs = fragments.flatMap (·.pairs)) rfl ?_ reduced
  intro fragments fragment other result before merged
  rw [(merge_shown merged).2.1, before, List.flatMap_append]
  simp

theorem reduce_computed {fragments : List Fragment} {result : Fragment}
    (reduced : reduce fragments = .ok result) :
    result.computed = fragments.any (·.computed) := by
  refine reduce_induction (motive := fun fragments result =>
    result.computed = fragments.any (·.computed)) rfl ?_ reduced
  intro fragments fragment other result before merged
  rw [merge_computed merged, before, List.any_append]
  simp

theorem hoist_none {fragment result : Fragment}
    {children others : List Fragment}
    (hoisted : fragment.hoist children = (result, others, none)) :
    ∃ values,
      values.Perm (fragment.values ++ children.flatMap (·.values)) ∧
      (fragment.values.names.Nodup → values.names.Nodup) ∧
      result = { fragment with values } ∧ others = children.map emptied := by
  induction children generalizing fragment result others with
  | nil =>
      simp only [hoist, Prod.mk.injEq, and_true] at hoisted
      obtain ⟨rfl, rfl⟩ := hoisted
      exact ⟨fragment.values, by simp, id, by cases fragment; rfl, rfl⟩
  | cons child rest ih =>
      simp only [hoist] at hoisted
      rcases h : fragment.values.bindAll child.values with ⟨values, duplicate⟩
      have bound : fragment.bindAll child.values =
          ({ fragment with values }, duplicate) := by simp [bindAll, h]
      rw [bound] at hoisted
      cases duplicate with
      | some name => simp at hoisted
      | none =>
          rcases later : hoist { fragment with values } rest with
            ⟨moved, tail, duplicate⟩
          simp only [later, Prod.mk.injEq] at hoisted
          obtain ⟨rfl, rfl, rfl⟩ := hoisted
          obtain ⟨final, perm, distinct, rfl, rfl⟩ := ih later
          obtain ⟨first, fresh⟩ := Bindings.bindAll_none h
          refine ⟨final, ?_, ?_, rfl, rfl⟩
          · simp only [List.flatMap_cons, ← List.append_assoc]
            exact perm.trans (first.append_right _)
          · exact fun nodup => distinct (Bindings.names_nodup_of_perm nodup fresh first)

theorem hoist_of_nodup (fragment : Fragment) {children : List Fragment}
    (distinct : (fragment.values.names ++ boundNames children).Nodup) :
    (fragment.hoist children).2.2 = none := by
  induction children generalizing fragment with
  | nil => rfl
  | cons child rest ih =>
      have parts : (fragment.values.names ++ (child.values.names ++ boundNames rest)).Nodup := by
        simpa [boundNames, Bindings.names] using distinct
      rw [← List.append_assoc] at parts
      have fresh : fragment.values.Fresh child.values :=
        Bindings.fresh_of_nodup (List.nodup_append.mp parts).1
      obtain ⟨values, bound⟩ := Bindings.bindAll_of_fresh fresh
      have names : values.names.Perm (fragment.values.names ++ child.values.names) := by
        simpa [Bindings.names] using (Bindings.bindAll_none bound).1.map (·.1)
      simp only [hoist, Fragment.bindAll, bound]
      exact ih _ ((names.append_right _).nodup_iff.mpr parts)

end Fragment

end TreeQuery
