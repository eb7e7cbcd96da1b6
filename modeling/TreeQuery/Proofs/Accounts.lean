import Mathlib.Data.List.Pairwise
import TreeQuery.Proofs.FragmentParameters
import TreeQuery.Proofs.Relations
import TreeQuery.Proofs.Requests
import TreeQuery.Proofs.SelectionRuns

/-!
# Bound names and parameters

Every parameter of a compiled fragment is bound.  A name is bound in vain exactly
where the tally of the filter says so: its parameter went with a group of
alternatives of which one demands nothing.
-/

namespace TreeQuery

open Sql (Parameter)

namespace Fragment

def parameters (fragment : Fragment) : List Parameter :=
  fragment.joins.flatMap Sql.Join.parameters ++ fragment.filterParameters

def usedNames (fragment : Fragment) : List String := fragment.parameters.map Parameter.name

def Backed (fragment : Fragment) : Prop := ∀ name ∈ fragment.usedNames, name ∈ fragment.values.names

def Idle (fragment : Fragment) : Prop :=
  ∃ name ∈ fragment.values.names, name ∉ fragment.usedNames

/-! ## Reducing -/

theorem exists_unused_flatMap {α : Type} {items : List α} {bound used : α → List String}
    (distinct : (items.flatMap bound).Nodup)
    (backed : ∀ item ∈ items, ∀ name ∈ used item, name ∈ bound item) :
    (∃ name ∈ items.flatMap bound, name ∉ items.flatMap used) ↔
      ∃ item ∈ items, ∃ name ∈ bound item, name ∉ used item := by
  constructor
  · rintro ⟨name, listed, unused⟩
    obtain ⟨item, member, held⟩ := List.mem_flatMap.mp listed
    exact ⟨item, member, name, held, fun h => unused (List.mem_flatMap.mpr ⟨item, member, h⟩)⟩
  · rintro ⟨item, member, name, held, unused⟩
    refine ⟨name, List.mem_flatMap.mpr ⟨item, member, held⟩, fun h => ?_⟩
    obtain ⟨other, listed, elsewhere⟩ := List.mem_flatMap.mp h
    -- a name that two items bind would occur twice
    have apart := (List.nodup_flatMap.mp distinct).2
    by_cases same : item = other
    · exact unused (same ▸ elsewhere)
    · have symmetric : Std.Symm (Function.onFun List.Disjoint bound) :=
        ⟨fun _ _ apart _ first second => apart second first⟩
      have disjoint : (bound item).Disjoint (bound other) := apart.forall member listed same
      exact disjoint held (backed other listed name elsewhere)

theorem mem_usedNames_reduce {fragments : List Fragment} {result : Fragment}
    (reduced : reduce fragments = .ok result) {name : String} :
    name ∈ result.usedNames ↔ name ∈ fragments.flatMap usedNames := by
  simp only [usedNames, parameters, List.mem_map, List.mem_append, List.mem_flatMap,
    mem_filterParameters_reduce reduced, reduce_joins reduced]
  constructor
  · rintro ⟨parameter, ⟨join, ⟨fragment, member, listed⟩, held⟩ | ⟨fragment, member, held⟩, rfl⟩
    · exact ⟨fragment, member, parameter, .inl ⟨join, listed, held⟩, rfl⟩
    · exact ⟨fragment, member, parameter, .inr held, rfl⟩
  · rintro ⟨fragment, member, parameter, ⟨join, listed, held⟩ | held, rfl⟩
    · exact ⟨parameter, .inl ⟨join, ⟨fragment, member, listed⟩, held⟩, rfl⟩
    · exact ⟨parameter, .inr ⟨fragment, member, held⟩, rfl⟩

theorem names_perm_of_perm {values : Bindings} {fragments : List Fragment}
    (perm : values.Perm (fragments.flatMap (·.values))) :
    values.names.Perm (fragments.flatMap fun fragment => fragment.values.names) := by
  simpa [Bindings.names, List.map_flatMap] using perm.map (·.1)

/-- Some of the fragments bind a name in vain, or none does; all parameters are bound. -/
structure Balanced (fragments : List Fragment) (wastes : Bool) : Prop where
  backed : ∀ fragment ∈ fragments, fragment.Backed
  idle : (∃ fragment ∈ fragments, fragment.Idle) ↔ wastes = true

theorem Balanced.gather {fragments : List Fragment} {result : Fragment} {wastes : Bool}
    (balanced : Balanced fragments wastes)
    (perm : result.values.Perm (fragments.flatMap (·.values)))
    (distinct : result.values.names.Nodup)
    (used : ∀ name, name ∈ result.usedNames ↔ name ∈ fragments.flatMap usedNames) :
    Balanced [result] wastes := by
  have names := names_perm_of_perm perm
  refine ⟨?_, ?_⟩
  · simp only [List.mem_singleton, forall_eq]
    intro name held
    obtain ⟨fragment, member, inside⟩ := List.mem_flatMap.mp ((used name).mp held)
    exact names.mem_iff.mpr
      (List.mem_flatMap.mpr ⟨fragment, member, balanced.backed fragment member name inside⟩)
  · have spread := exists_unused_flatMap (names.nodup_iff.mp distinct) balanced.backed
    rw [← balanced.idle]
    simp only [List.mem_singleton, exists_eq_left, Idle, names.mem_iff, used]
    exact spread

theorem Balanced.reduce {fragments : List Fragment} {result : Fragment} {wastes : Bool}
    (balanced : Balanced fragments wastes) (reduced : Fragment.reduce fragments = .ok result) :
    Balanced [result] wastes :=
  balanced.gather (reduce_values reduced).1 (reduce_values reduced).2
    fun _ => mem_usedNames_reduce reduced

theorem exists_mem_append {α : Type} {property : α → Prop} {first second : List α} :
    (∃ item ∈ first ++ second, property item) ↔
      (∃ item ∈ first, property item) ∨ ∃ item ∈ second, property item := by
  simp only [List.mem_append, or_and_right, exists_or]

theorem Balanced.append {fragments others : List Fragment} {wastes wastesMore : Bool}
    (first : Balanced fragments wastes) (second : Balanced others wastesMore) :
    Balanced (fragments ++ others) (wastes || wastesMore) where
  backed := List.forall_mem_append.mpr ⟨first.backed, second.backed⟩
  idle := by
    rw [Bool.or_eq_true, ← first.idle, ← second.idle]
    exact exists_mem_append

theorem balanced_of_silent {fragments : List Fragment}
    (silent : ∀ fragment ∈ fragments, fragment.parameters = [] ∧ fragment.values = []) :
    Balanced fragments false where
  backed := fun fragment member name used => by
    simp [usedNames, (silent fragment member).1] at used
  idle := by
    simp only [Bool.false_eq_true, iff_false, not_exists, not_and]
    rintro fragment member ⟨name, bound, -⟩
    simp [Bindings.names, (silent fragment member).2] at bound

theorem idle_of_isVacuous {fragment : Fragment} (unshown : fragment.joins = [])
    (vacuous : fragment.isVacuous = true) (bound : fragment.values.isEmpty = false) :
    fragment.Idle := by
  cases values : fragment.values with
  | nil => simp [values] at bound
  | cons entry rest =>
      refine ⟨entry.1, by simp [values, Bindings.names], ?_⟩
      simp [usedNames, parameters, unshown, filterParameters_of_isVacuous vacuous]

end Fragment

/-! ## Filters -/

namespace Filter

open Fragment (Balanced)

structure Accounted (fragment : Fragment) (tally : Tally) : Prop where
  unshown : fragment.joins = []
  vacuous : fragment.isVacuous = tally.vacuous
  binds : fragment.values.isEmpty = !tally.binds
  balanced : Balanced [fragment] tally.wastes

section Lists

variable {fragments : List Fragment} {tallies : List Tally}

theorem accounted_balanced (accounted : List.Forall₂ Accounted fragments tallies) :
    Balanced fragments (tallies.any Tally.wastes) := by
  induction accounted with
  | nil => exact Fragment.balanced_of_silent (by simp)
  | cons first later ih => exact first.balanced.append ih

theorem accounted_all (accounted : List.Forall₂ Accounted fragments tallies) :
    fragments.all Fragment.isVacuous = tallies.all Tally.vacuous := by
  induction accounted with
  | nil => rfl
  | cons first later ih => simp [first.vacuous, ih]

theorem accounted_any (accounted : List.Forall₂ Accounted fragments tallies) :
    fragments.any Fragment.isVacuous = tallies.any Tally.vacuous := by
  induction accounted with
  | nil => rfl
  | cons first later ih => simp [first.vacuous, ih]

theorem accounted_binds (accounted : List.Forall₂ Accounted fragments tallies)
    {values : Bindings} (perm : values.Perm (fragments.flatMap (·.values))) :
    values.isEmpty = !tallies.any Tally.binds := by
  have same : values.isEmpty = (fragments.flatMap (·.values)).isEmpty := by
    rw [Bool.eq_iff_iff, List.isEmpty_iff, List.isEmpty_iff]
    exact ⟨fun h => (h ▸ perm).nil_eq.symm, fun h => (h ▸ perm).eq_nil⟩
  rw [same]
  clear same perm
  induction accounted with
  | nil => rfl
  | @cons fragment tally fragments tallies first later ih =>
      have binds := first.binds
      cases empty : fragment.values <;> simp_all

theorem accounted_unshown (accounted : List.Forall₂ Accounted fragments tallies) :
    ∀ fragment ∈ fragments, fragment.joins = [] := by
  induction accounted with
  | nil => simp
  | cons first later ih => simpa using ⟨first.unshown, ih⟩

theorem Accounted.reduce (accounted : List.Forall₂ Accounted fragments tallies)
    {fragment : Fragment} (reduced : Fragment.reduce fragments = .ok fragment) :
    Accounted fragment (Tally.all tallies) where
  unshown := by
    rw [Fragment.reduce_joins reduced]
    exact List.flatMap_eq_nil_iff.mpr (accounted_unshown accounted)
  vacuous := (Fragment.isVacuous_reduce reduced).trans (accounted_all accounted)
  binds := accounted_binds accounted (Fragment.reduce_values reduced).1
  balanced := (accounted_balanced accounted).reduce reduced

theorem mem_usedNames_of_unshown {fragment : Fragment} (unshown : fragment.joins = [])
    {name : String} :
    name ∈ fragment.usedNames ↔ ∃ parameter ∈ fragment.filterParameters, parameter.name = name := by
  simp [Fragment.usedNames, Fragment.parameters, unshown]

theorem mem_flatMap_usedNames (unshown : ∀ fragment ∈ fragments, fragment.joins = [])
    {name : String} :
    name ∈ fragments.flatMap Fragment.usedNames ↔
      ∃ parameter ∈ fragments.flatMap Fragment.filterParameters, parameter.name = name := by
  simp only [List.mem_flatMap]
  constructor
  · rintro ⟨fragment, member, held⟩
    obtain ⟨parameter, listed, rfl⟩ :=
      (mem_usedNames_of_unshown (unshown fragment member)).mp held
    exact ⟨parameter, ⟨fragment, member, listed⟩, rfl⟩
  · rintro ⟨parameter, ⟨fragment, member, listed⟩, rfl⟩
    exact ⟨fragment, member,
      (mem_usedNames_of_unshown (unshown fragment member)).mpr ⟨parameter, listed, rfl⟩⟩

theorem usedNames_combined (combinator : Combinator) (values : Bindings)
    (unshown : ∀ fragment ∈ fragments, fragment.joins = []) (name : String) :
    name ∈ (combined combinator fragments values).usedNames ↔
      (combinator = .and ∨ fragments.any Fragment.isVacuous = false) ∧
        name ∈ fragments.flatMap Fragment.usedNames := by
  have emptied : (fragments.map Fragment.emptied).flatMap Fragment.filterParameters =
      fragments.flatMap Fragment.filterParameters := by
    simp [List.flatMap_map]
  have vacuous : (fragments.map Fragment.emptied).any Fragment.isVacuous =
      fragments.any Fragment.isVacuous := by
    simp [List.any_map, Function.comp_def]
  have group : ∀ parameter,
      parameter ∈ Fragment.filterParameters { anyOf := fragments.map Fragment.emptied } ↔
        fragments.any Fragment.isVacuous = false ∧
          parameter ∈ fragments.flatMap Fragment.filterParameters := by
    intro parameter
    rw [Fragment.mem_filterParameters, emptied, vacuous]
    simp
  rw [mem_flatMap_usedNames unshown]
  cases combinator with
  | and =>
      rw [mem_usedNames_of_unshown rfl]
      simp only [combined, Fragment.mem_filterParameters, emptied]
      simp
  | or =>
      rw [mem_usedNames_of_unshown rfl]
      simp only [combined, Fragment.mem_filterParameters, emptied, vacuous]
      simp [and_assoc]
  | not =>
      rw [mem_usedNames_of_unshown rfl]
      simp only [combined, Fragment.mem_filterParameters, List.flatMap_singleton, group]
      simp [and_assoc]

theorem isVacuous_combined (combinator : Combinator) (values : Bindings)
    (nonempty : fragments ≠ []) :
    (combined combinator fragments values).isVacuous =
      match combinator with
      | .or => fragments.any Fragment.isVacuous
      | .and => fragments.all Fragment.isVacuous
      | .not => false := by
  have several : fragments.isEmpty = false := by simpa using nonempty
  rw [Fragment.isVacuous_eq]
  cases combinator <;>
    simp [combined, several, List.any_map, List.all_map, Function.comp_def]

theorem balanced_of_dropped (accounted : List.Forall₂ Accounted fragments tallies)
    {result : Fragment} (perm : result.values.Perm (fragments.flatMap (·.values)))
    (dropped : ∀ name, name ∉ result.usedNames) :
    Balanced [result] (tallies.any Tally.wastes || tallies.any Tally.binds) := by
  have binds := accounted_binds accounted perm
  have idle : result.Idle ↔ tallies.any Tally.binds = true := by
    rw [← Bool.not_eq_false', ← binds]
    cases values : result.values with
    | nil => simp [Fragment.Idle, values, Bindings.names]
    | cons entry rest =>
        simp only [List.isEmpty_cons, iff_true]
        exact ⟨entry.1, by simp [values, Bindings.names], dropped _⟩
  have backed : result.Backed := fun name held => (dropped name held).elim
  refine ⟨by simpa using backed, ?_⟩
  simp only [List.mem_singleton, exists_eq_left, idle, Bool.or_eq_true]
  refine ⟨.inr, ?_⟩
  rintro (wastes | bound)
  · obtain ⟨fragment, member, name, bound, -⟩ := (accounted_balanced accounted).idle.mpr wastes
    have listed : name ∈ result.values.names :=
      (Fragment.names_perm_of_perm perm).mem_iff.mpr
        (List.mem_flatMap.mpr ⟨fragment, member, bound⟩)
    exact idle.mp ⟨name, listed, dropped name⟩
  · exact bound

/-- Of the names that siblings bind, those of a dropped group are bound in vain. -/
theorem balanced_combined (combinator : Combinator) {values : Bindings}
    (accounted : List.Forall₂ Accounted fragments tallies)
    (perm : values.Perm (fragments.flatMap (·.values))) (distinct : values.names.Nodup) :
    Balanced [combined combinator fragments values]
      (tallies.any Tally.wastes ||
        combinator != .and && tallies.any Tally.vacuous && tallies.any Tally.binds) := by
  have used := usedNames_combined combinator values (accounted_unshown accounted)
  have resultPerm : (combined combinator fragments values).values.Perm
      (fragments.flatMap (·.values)) := by cases combinator <;> exact perm
  have resultDistinct : (combined combinator fragments values).values.names.Nodup := by
    cases combinator <;> exact distinct
  rw [← accounted_any accounted]
  -- `_and` keeps all its elements; the other two keep all alternatives or none
  by_cases kept : combinator = .and ∨ fragments.any Fragment.isVacuous = false
  · have nothing : (combinator != .and && fragments.any Fragment.isVacuous &&
        tallies.any Tally.binds) = false := by
      rcases kept with rfl | demanding
      · rfl
      · rw [demanding, Bool.and_false, Bool.false_and]
    rw [nothing, Bool.or_false]
    exact (accounted_balanced accounted).gather resultPerm resultDistinct fun name =>
      (used name).trans (and_iff_right kept)
  · obtain ⟨other, trivial⟩ := not_or.mp kept
    rw [bne_iff_ne.mpr other, eq_true_of_ne_false trivial, Bool.true_and, Bool.true_and]
    exact balanced_of_dropped accounted resultPerm fun name held =>
      kept ((used name).mp held).1

theorem Accounted.combined {combinator : Combinator} {fragment : Fragment}
    (accounted : List.Forall₂ Accounted fragments tallies)
    (combined : Combined combinator fragments fragment) :
    Accounted fragment (Tally.combined combinator tallies) := by
  cases combined with
  | none =>
      cases accounted
      have vacuous : Fragment.isVacuous {} = true := by
        rw [Fragment.isVacuous_eq]
        rfl
      have silent : Fragment.parameters {} = [] := by
        simp [Fragment.parameters, Fragment.filterParameters_of_isVacuous vacuous]
      exact ⟨rfl, vacuous, rfl, Fragment.balanced_of_silent (by simpa using silent)⟩
  | @some _ values nonempty perm distinct =>
      have several : tallies.isEmpty = false := by
        cases accounted with
        | nil => exact (nonempty rfl).elim
        | cons first later => rfl
      have vacuous := isVacuous_combined combinator values nonempty
      have binds := accounted_binds accounted perm
      have balanced := balanced_combined combinator accounted perm distinct
      rw [accounted_any accounted, accounted_all accounted] at vacuous
      unfold Tally.combined
      rw [several]
      cases combinator with
      | or => exact ⟨rfl, by simpa using vacuous, binds, balanced⟩
      | and => exact ⟨rfl, vacuous, binds, by simpa [Tally.all] using balanced⟩
      | not => exact ⟨rfl, by simpa using vacuous, binds, balanced⟩

end Lists

/-! ## Operators and relations -/

open Sql (Supply)

theorem testSubjects_parameters (label : Sql.Alias) (field : String) (test : Sql.Test Json)
    (subjects : List (List Sql.Column)) (supply : Supply) (bound : List (Parameter × Json)) :
    (testSubjects label field test subjects (supply, bound)).2.2.map (·.1) =
      bound.map (·.1) ++ (testSubjects label field test subjects
        (supply, bound)).1.flatMap Sql.Condition.parameters := by
  induction subjects generalizing supply bound with
  | nil => simp [testSubjects]
  | cons subject rest ih =>
      rw [testSubjects_cons]
      simp only [ih, List.map_append, List.flatMap_cons, Sql.Condition.parameters,
        withParameters_slots, List.append_assoc]
      simp [List.map_fst_zip]

theorem testSubjects_length (label : Sql.Alias) (field : String) (test : Sql.Test Json)
    (subjects : List (List Sql.Column)) (supply : Supply) (bound : List (Parameter × Json)) :
    (testSubjects label field test subjects (supply, bound)).1.length = subjects.length ∧
      ((testSubjects label field test subjects
        (supply, bound)).1.flatMap Sql.Condition.parameters).length =
          subjects.length * test.slots.length := by
  induction subjects generalizing supply bound with
  | nil => simp [testSubjects]
  | cons subject rest ih =>
      rw [testSubjects_cons]
      obtain ⟨count, drawn⟩ := ih (supply.skip test.slots.length)
        (bound ++ (supply.upcoming label field test.slots.length).zip test.slots)
      refine ⟨by simp [count], ?_⟩
      simp only [List.flatMap_cons, List.length_append, drawn, Sql.Condition.parameters,
        withParameters_slots, Supply.upcoming_length, List.length_cons]
      rw [Nat.succ_mul, Nat.add_comm]

theorem compared_ne_nil {columns : List String} (nonempty : columns ≠ []) (operator : Operator) :
    compared columns operator ≠ [] := by
  unfold compared
  split <;> simp [nonempty]

theorem mem_usedNames_conditions {conditions : List Sql.Condition} {values : Bindings}
    {name : String} :
    name ∈ Fragment.usedNames { conditions, values } ↔
      name ∈ (conditions.flatMap Sql.Condition.parameters).map Parameter.name := by
  rw [mem_usedNames_of_unshown rfl, List.mem_map]
  refine exists_congr fun parameter => and_congr_left fun _ => ?_
  rw [Fragment.mem_filterParameters]
  simp

theorem Applied.accounted {node : Node} {field : String} {columns : List String}
    {operator : Operator} {operand : Json} {context after : Context} {fragment : Fragment}
    (applied : Applied node field columns operator operand context fragment after) :
    Accounted fragment { binds := bindsOperand operator operand } := by
  obtain ⟨nonempty, subjects, test, conditions, supply, bound, values, listed, accepted, tested,
    -, perm, distinct, rfl⟩ := applied
  have subjectsNonempty : subjects ≠ [] := by
    rw [subjects_ok listed]
    simpa using compared_ne_nil nonempty operator
  have parameters := testSubjects_parameters node.label field test subjects context.supply []
  obtain ⟨count, drawn⟩ :=
    testSubjects_length node.label field test subjects context.supply []
  rw [tested] at parameters count drawn
  simp only [List.map_nil, List.nil_append] at parameters
  have several : 0 < subjects.length := List.length_pos_of_ne_nil subjectsNonempty
  have conditionsNonempty : conditions.isEmpty = false := by
    cases conditions with
    | nil => simp at count; omega
    | cons _ _ => rfl
  have names : values.names.Perm
      ((conditions.flatMap Sql.Condition.parameters).map Parameter.name) := by
    rw [← parameters]
    simpa [Bindings.names, Function.comp_def] using perm.map (·.1)
  -- every subject draws its own parameters, so nothing is bound only if there are no slots
  have length : values.length = subjects.length * test.slots.length := by
    simpa [Bindings.names, drawn] using names.length_eq
  refine ⟨rfl, ?_, ?_, ?_, ?_⟩
  · rw [Fragment.isVacuous_eq]
    simp [conditionsNonempty]
  · simp only [bindsOperand, accepted, Bool.not_not]
    rw [Bool.eq_iff_iff, List.isEmpty_iff_length_eq_zero, List.isEmpty_iff_length_eq_zero, length,
      Nat.mul_eq_zero]
    omega
  · simp only [List.mem_singleton, forall_eq]
    exact fun name held => names.mem_iff.mpr (mem_usedNames_conditions.mp held)
  · simp only [List.mem_singleton, exists_eq_left, Bool.false_eq_true, iff_false]
    rintro ⟨name, listed, unused⟩
    exact unused (mem_usedNames_conditions.mpr (names.mem_iff.mp listed))

theorem AppliedAll.accounted {node : Node} {field : String} {columns : List String}
    {operators : List (String × Json)} {context after : Context} {fragments : List Fragment}
    (applied : AppliedAll node field columns operators context fragments after) :
    List.Forall₂ Accounted fragments (operators.map fun entry =>
      { binds := (Operator.ofName? entry.1).any (bindsOperand · entry.2) }) := by
  induction applied with
  | nil => exact .nil
  | cons named first later ih =>
      refine .cons ?_ ih
      simpa [named] using first.accounted

theorem all_tallyOperators (operators : List (String × Json)) :
    Tally.all (operators.map fun entry =>
        { binds := (Operator.ofName? entry.1).any (bindsOperand · entry.2) }) =
      tallyOperators operators := by
  cases operators <;> simp [Tally.all, tallyOperators, List.any_map, Function.comp_def]

theorem Accounted.related {site : Site} {pivot : Sql.Alias} {link : Link} {matched : Fragment}
    {label : Sql.Alias} {values : Bindings} {tally : Tally} (accounted : Accounted matched tally)
    (perm : values.Perm matched.values) (distinct : values.names.Nodup) :
    Accounted
      (Filter.related site (Site.linking site.parent.label site.child.label pivot link) matched
        label values)
      { tally with vacuous := false } := by
  have joined : ∀ parameter, parameter ∈ Fragment.filterParameters
      (Filter.related site (Site.linking site.parent.label site.child.label pivot link) matched
        label values) ↔ parameter ∈ matched.filterParameters := by
    intro parameter
    have lowered : parameter ∈ (matched.lower (scope site.child)).parameters ↔
        parameter ∈ matched.filterParameters := Fragment.mem_lower_parameters
    rw [Fragment.mem_filterParameters, ← lowered]
    simp [Filter.related, existence, Site.source, Sql.Join.parameters, Sql.Select.parameters,
      Sql.Source.parameters, Sql.Join.parametersAll_eq, Sql.Condition.parametersAll_eq,
      Site.linking_parameters, Branch.parameters]
  have gathered : Balanced [Filter.related site
      (Site.linking site.parent.label site.child.label pivot link) matched label values]
      tally.wastes := by
    refine accounted.balanced.gather ?_ distinct fun name => ?_
    · rw [List.flatMap_singleton]
      exact perm
    rw [mem_usedNames_of_unshown rfl, List.flatMap_singleton,
      mem_usedNames_of_unshown accounted.unshown]
    simp only [joined]
  have empty : values.isEmpty = matched.values.isEmpty := by
    rw [Bool.eq_iff_iff, List.isEmpty_iff_length_eq_zero, List.isEmpty_iff_length_eq_zero,
      perm.length_eq]
  refine ⟨rfl, ?_, empty.trans accounted.binds, gathered⟩
  rw [Fragment.isVacuous_eq]
  simp [Filter.related]

/-! ## Whole filters -/

theorem Runs.accounted {compiler : Compiler} {node : Node} {part : Part}
    {context after : Context} {fragments : List Fragment}
    (run : Runs compiler node part context fragments after) :
    List.Forall₂ Accounted fragments (part.tallies compiler node.entity) := by
  induction run with
  | noMembers => exact .nil
  | members first later firstAccounted laterAccounted =>
      cases firstAccounted with
      | cons accounted none =>
          rw [Part.tallies, Filter.tallies]
          exact .cons accounted laterAccounted
  | noElements => exact .nil
  | elements first reduced compiled later firstAccounted laterAccounted =>
      rw [Part.tallies, talliesOfAll, tallyOf]
      exact .cons (Accounted.reduce firstAccounted reduced) laterAccounted
  | compared role plain applied =>
      rename_i value _ _ _ _
      have accounted := (applyOperator_ok applied).accounted
      cases value with
      | object inner => simp [Json.asObject?] at plain
      | _ => simpa [Part.tallies, tallyEntry, role, tallyLeaf] using accounted
  | operators role applied reduced =>
      have accounted := Accounted.reduce (applyOperators_ok applied).accounted reduced
      rw [all_tallyOperators] at accounted
      simpa [Part.tallies, tallyEntry, role] using accounted
  | suffixed role applied =>
      rename_i value _ _ _ _ _
      have accounted := (applyOperator_ok applied).accounted
      cases value <;> simpa [Part.tallies, tallyEntry, role, tallyLeaf] using accounted
  | combinedList role elements combined accounted =>
      simpa [Part.tallies, tallyEntry, role] using Accounted.combined accounted combined
  | combinedObject role elements combined accounted =>
      have whole := Accounted.combined accounted combined
      simpa [Part.tallies, tallyEntry, role, talliesOfAll, tallyOf] using whole
  | related role found shallow members reduced correlated labelled perm distinct accounted =>
      obtain ⟨link, -, rfl, -⟩ := Site.conditions_ok correlated
      have matched := Accounted.reduce accounted reduced
      simp only [Part.tallies, tallyEntry, role, found]
      exact .cons (matched.related perm distinct) .nil

/-- A compiled filter demands and binds what its tally says. -/
theorem compile_accounted {compiler : Compiler} {node : Node} {filter : Members}
    {context after : Context} {fragment : Fragment}
    (compiled : compile compiler node filter context = .ok (fragment, after)) :
    Accounted fragment (tally compiler node.entity filter) := by
  obtain ⟨fragments, run, reduced⟩ := compile_ok compiled
  exact Accounted.reduce run.accounted reduced

end Filter

end TreeQuery
