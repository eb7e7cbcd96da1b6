import Mathlib.Algebra.Order.Group.Multiset
import Mathlib.Tactic.Abel
import TreeQuery.Proofs.FragmentParts
import TreeQuery.Proofs.ScopedSelects

/-!
# Scopes of lowered fragments

If every join and condition of a fragment fits into the scope, and no two of them
declare the same alias, then the branches that the fragment is lowered to can stand
in selects of the rows of the scope, whatever the connectives are.
-/

namespace TreeQuery

open Sql (Join Condition Place Select)
open Scope (Apart Fitting)

namespace Fragment

mutual

def declared : Fragment → List (List String)
  | ⟨_, _, _, filterJoins, _, conditions, _, _, _, _, allOf, anyOf, noneOf⟩ =>
      (filterJoins.map Join.declared ++ conditions.map Condition.declared) ++
        (declaredAll allOf ++ (declaredAll anyOf ++ declaredAll noneOf))

def declaredAll : List Fragment → List (List String)
  | [] => []
  | fragment :: rest => declared fragment ++ declaredAll rest

end

theorem declaredAll_eq (fragments : List Fragment) :
    declaredAll fragments = fragments.flatMap declared := by
  induction fragments with
  | nil => simp [declaredAll]
  | cons fragment rest ih => simp [declaredAll, ih]

theorem declared_eq (fragment : Fragment) :
    fragment.declared =
      (fragment.filterJoins.map Join.declared ++ fragment.conditions.map Condition.declared) ++
        (fragment.allOf.flatMap declared ++ (fragment.anyOf.flatMap declared ++
          fragment.noneOf.flatMap declared)) := by
  cases fragment
  simp only [declared, declaredAll_eq]

@[simp] theorem declared_emptied (fragment : Fragment) :
    fragment.emptied.declared = fragment.declared := by
  rw [declared_eq, declared_eq]
  rfl

theorem declared_addGroup (fragment : Fragment) (group : List Fragment) :
    (fragment.addGroup group).declared.Perm (fragment.declared ++ group.flatMap declared) := by
  unfold addGroup
  split
  · rename_i none
    simp [List.isEmpty_iff.mp none]
  · split
    · rename_i none
      simp only [declared_eq, List.isEmpty_iff.mp none, List.flatMap_nil, List.nil_append,
        List.append_assoc, List.perm_append_left_iff]
      exact List.perm_append_comm
    · have alone : ({ anyOf := group } : Fragment).declared = group.flatMap declared := by
        simp [declared_eq]
      simp only [declared_eq fragment, declared_eq { fragment with allOf := _ },
        List.flatMap_append, List.flatMap_singleton, alone, List.append_assoc,
        List.perm_append_left_iff]
      rw [← List.append_assoc (List.flatMap declared fragment.anyOf)]
      exact List.perm_append_comm

theorem declared_merge {fragment other result : Fragment}
    (merged : fragment.merge other = .ok result) :
    result.declared.Perm (fragment.declared ++ other.declared) := by
  obtain ⟨values, -, rfl⟩ := merge_ok.mp merged
  refine (declared_addGroup _ _).trans ?_
  rw [declared_eq, declared_eq fragment, declared_eq other]
  simp only [addOwn, List.map_append, List.flatMap_append, ← Multiset.coe_eq_coe,
    ← Multiset.coe_add]
  abel

theorem declared_reduce {fragments : List Fragment} {result : Fragment}
    (reduced : reduce fragments = .ok result) :
    result.declared.Perm (fragments.flatMap declared) := by
  refine reduce_induction (motive := fun fragments result =>
    result.declared.Perm (fragments.flatMap declared)) ?_ ?_ reduced
  · simp [declared_eq]
  · intro fragments fragment other result before merged
    rw [List.flatMap_append, List.flatMap_singleton]
    exact (declared_merge merged).trans (before.append_right _)

def aliases (fragment : Fragment) : List (List String) :=
  fragment.joins.map Join.declared ++ fragment.declared

theorem aliases_reduce {fragments : List Fragment} {result : Fragment}
    (reduced : reduce fragments = .ok result) :
    result.aliases.Perm (fragments.flatMap aliases) := by
  rw [aliases, reduce_joins reduced, List.map_flatMap]
  refine ((declared_reduce reduced).append_left _).trans ?_
  exact List.flatMap_append_perm _ _ _

end Fragment

/-! ## Branches -/

/-- The branch can stand in a select of the scope's rows, and declares only the names. -/
structure Branch.Fits (isKey : String → List String → Bool) (scope : Scope)
    (names : List String) (branch : Branch) : Prop where
  joining : ∀ join ∈ branch.joins, join.Fits isKey scope
  testing : ∀ condition ∈ branch.conditions, condition.Fits isKey scope []
  apart : Apart (branch.joins.map Join.declared ++ branch.conditions.map Condition.declared)
  within : (branch.joins.map Join.declared ++
    branch.conditions.map Condition.declared).flatten ⊆ names

section Branches

variable {isKey : String → List String → Bool} {scope : Scope} {names more : List String}
  {branch other : Branch}

theorem Branch.Fits.mono (fits : branch.Fits isKey scope names) (fewer : names ⊆ more) :
    branch.Fits isKey scope more :=
  ⟨fits.joining, fits.testing, fits.apart, List.Subset.trans fits.within fewer⟩

theorem Branch.Fits.fitting (fits : branch.Fits isKey scope names)
    (own : scope.label.text ∉ names) :
    Fitting isKey scope [] branch.joins branch.conditions :=
  ⟨fits.joining, fits.testing, fits.apart, fun member => own (fits.within member)⟩

theorem Branch.fits_empty : Branch.Fits isKey scope names {} :=
  ⟨by simp, by simp, by simp, by simp⟩

theorem Branch.Fits.combine (first : branch.Fits isKey scope names)
    (second : other.Fits isKey scope more) (disjoint : names.Disjoint more) :
    (branch.combine other).Fits isKey scope (names ++ more) := by
  have both : Apart ((branch.joins.map Join.declared ++
      branch.conditions.map Condition.declared) ++ (other.joins.map Join.declared ++
        other.conditions.map Condition.declared)) :=
    Scope.apart_append.mpr ⟨first.apart, second.apart, fun name held also =>
      disjoint (first.within held) (second.within also)⟩
  have perm : ((branch.joins.map Join.declared ++
      branch.conditions.map Condition.declared) ++ (other.joins.map Join.declared ++
        other.conditions.map Condition.declared)).Perm
      ((branch.combine other).joins.map Join.declared ++
        (branch.combine other).conditions.map Condition.declared) := by
    simp only [Branch.combine, List.map_append, ← Multiset.coe_eq_coe, ← Multiset.coe_add]
    abel
  refine ⟨List.forall_mem_append.mpr ⟨first.joining, second.joining⟩,
    List.forall_mem_append.mpr ⟨first.testing, second.testing⟩, both.perm perm, ?_⟩
  refine List.Subset.trans perm.symm.flatten.subset ?_
  rw [List.flatten_append]
  exact List.append_subset.mpr
    ⟨List.Subset.trans first.within (List.subset_append_left _ _),
      List.Subset.trans second.within (List.subset_append_right _ _)⟩

theorem Branch.fits_product {left right : List Branch}
    (first : ∀ branch ∈ left, branch.Fits isKey scope names)
    (second : ∀ branch ∈ right, branch.Fits isKey scope more) (disjoint : names.Disjoint more) :
    ∀ branch ∈ Branch.product left right, branch.Fits isKey scope (names ++ more) := by
  intro branch member
  simp only [Branch.product, List.mem_flatMap, List.mem_map] at member
  obtain ⟨one, oneListed, other, otherListed, rfl⟩ := member
  exact (first one oneListed).combine (second other otherListed) disjoint

structure Scope.Keyed (isKey : String → List String → Bool) (scope : Scope) : Prop where
  plain : Sql.isPlainName scope.label.text = true
  key : isKey scope.table scope.keys = true

theorem Scope.Keyed.keyQuery (keyed : scope.Keyed isKey) (own : scope.label.text ∉ names)
    (fits : branch.Fits isKey scope names) {place : Place} (hosts : place.Hosts scope)
    (clear : place.Clear (scope.keyQuery branch).added) :
    (scope.keyQuery branch).isScoped isKey place = true := by
  have renews : scope.source.renews isKey place (scope.keyQuery branch).output = true := by
    have named : scope.keyColumns.map Sql.Column.name = scope.keys := by
      simp [Scope.keyColumns, Sql.Alias.columns, Function.comp_def]
    have labelled : (scope.keyColumns.all fun column =>
        column.label.text == scope.label.text) = true := by
      simp [Scope.keyColumns, Sql.Alias.columns]
    have same : (place.surrounding.all fun declared =>
        declared.name != scope.label.text || declared.table == some scope.table) = true := by
      refine List.all_eq_true.mpr fun declared listed => ?_
      have known := hosts.same declared listed
      by_cases name : declared.name = scope.label.text <;> simp [name, known]
    simp only [Scope.source, Sql.Source.renews, Scope.keyQuery, named, keyed.key, labelled, same,
      Bool.and_self]
  refine (fits.fitting own).isScoped rfl keyed.plain (by simp) clear hosts.same (.inr renews) ?_
  intro inner seen
  exact ⟨Place.seesAll_columns (seen (by simp)) scope.keys, rfl⟩

theorem Scope.Keyed.predicate (keyed : scope.Keyed isKey) (own : scope.label.text ∉ names)
    {branches : List Branch} (fits : ∀ branch ∈ branches, branch.Fits isKey scope names) :
    (scope.predicate branches).Fits isKey scope [] ∧
      (scope.predicate branches).declared ⊆ names := by
  unfold Scope.predicate
  split
  · exact ⟨Condition.fits_all (by simp), by simp [Condition.declared, Condition.declaredAll]⟩
  · split
    · refine ⟨Condition.fits_any fun operand member => ?_, fun name held => ?_⟩
      · obtain ⟨branch, listed, rfl⟩ := List.mem_map.mp member
        exact Condition.fits_all (fits branch listed).testing
      · simp only [Condition.declared, Condition.declaredAll_eq, List.flatMap_map,
          List.mem_flatMap] at held
        obtain ⟨branch, listed, condition, tested, held⟩ := held
        refine (fits branch listed).within (List.mem_flatten.mpr
          ⟨condition.declared, List.mem_append_right _ (List.mem_map_of_mem tested), held⟩)
    · refine ⟨fun place hosts seen clear => ?_, fun name held => ?_⟩
      · rw [Condition.isScoped, Select.areScoped_eq, Bool.and_eq_true, List.all_eq_true]
        refine ⟨Place.seesAll_columns hosts.visible scope.keys, fun query member => ?_⟩
        obtain ⟨branch, listed, rfl⟩ := List.mem_map.mp member
        refine keyed.keyQuery own (fits branch listed) hosts (clear.subset fun name held => ?_)
        rw [Condition.declared, Select.addedAll_eq]
        exact List.mem_flatMap.mpr ⟨_, member, held⟩
      · rw [Condition.declared, Select.addedAll_eq, List.flatMap_map] at held
        obtain ⟨branch, listed, held⟩ := List.mem_flatMap.mp held
        rw [Scope.keyQuery, Select.added_eq] at held
        exact (fits branch listed).within held

theorem Scope.Keyed.group (keyed : scope.Keyed isKey) (own : scope.label.text ∉ names)
    {branches : List Branch} (fits : ∀ branch ∈ branches, branch.Fits isKey scope names) :
    ∀ branch ∈ scope.group branches, branch.Fits isKey scope names := by
  obtain ⟨predicate, within⟩ := keyed.predicate own fits
  unfold Scope.group
  split
  · simpa using Branch.fits_empty
  · split
    · simp only [List.mem_singleton, forall_eq]
      exact ⟨by simp, by simpa using predicate, by simp, by simpa using within⟩
    · exact fits

mutual

theorem Scope.Keyed.branches (keyed : scope.Keyed isKey) : ∀ fragment : Fragment,
    fragment.Each (Join.Fits isKey scope) (Condition.Fits isKey scope []) →
    scope.Spread fragment.declared →
    ∀ branch ∈ fragment.branches scope, branch.Fits isKey scope fragment.declared.flatten
  | ⟨_, _, _, filterJoins, _, conditions, _, _, _, _, allOf, anyOf, noneOf⟩, each, spread => by
      simp only [Fragment.Each] at each
      obtain ⟨joining, testing, all, any, none⟩ := each
      simp only [Fragment.declared] at spread ⊢
      -- the aliases of each part differ from those of the parts after it
      obtain ⟨ownSpread, spread, ownDiffer⟩ := Scope.spread_append.mp spread
      obtain ⟨allSpread, spread, allDiffer⟩ := Scope.spread_append.mp spread
      obtain ⟨anySpread, noneSpread, anyDiffer⟩ := Scope.spread_append.mp spread
      simp only [List.flatten_append, List.disjoint_append_right] at ownDiffer allDiffer
      obtain ⟨ownAll, ownAny, ownNone⟩ := ownDiffer
      obtain ⟨negated, negationsApart, negationsWithin⟩ := keyed.negations noneOf none noneSpread
      have own : Branch.Fits isKey scope _ ⟨filterJoins, conditions⟩ :=
        ⟨joining, testing, ownSpread.apart, List.Subset.refl _⟩
      have negations : Branch.Fits isKey scope _ ⟨[], Fragment.negations scope noneOf⟩ :=
        ⟨by simp, negated, negationsApart, negationsWithin⟩
      have base := own.combine negations (by simpa using ownNone)
      rw [Branch.combine, List.append_nil] at base
      have conjoined := keyed.conjoin allOf all allSpread (List.forall_mem_singleton.mpr base)
        (List.disjoint_append_left.mpr ⟨by simpa using ownAll, List.disjoint_comm.mp allDiffer.2⟩)
      simp only [Fragment.branches]
      split
      · intro branch listed
        refine (conjoined branch listed).mono fun name held => ?_
        simp only [List.flatten_append, List.mem_append] at held ⊢
        tauto
      · intro branch listed
        refine (Branch.fits_product conjoined (keyed.group anySpread.own
          (keyed.alternatives anyOf any anySpread)) ?_ branch listed).mono fun name held => ?_
        · simp only [List.disjoint_append_left]
          exact ⟨⟨by simpa using ownAny, List.disjoint_comm.mp anyDiffer⟩, allDiffer.1⟩
        · simp only [List.flatten_append, List.mem_append] at held ⊢
          tauto

theorem Scope.Keyed.negations (keyed : scope.Keyed isKey) : ∀ fragments : List Fragment,
    Fragment.EachAll (Join.Fits isKey scope) (Condition.Fits isKey scope []) fragments →
    scope.Spread (Fragment.declaredAll fragments) →
    (∀ negation ∈ Fragment.negations scope fragments, negation.Fits isKey scope []) ∧
      Apart ((Fragment.negations scope fragments).map Condition.declared) ∧
      ((Fragment.negations scope fragments).map Condition.declared).flatten ⊆
        (Fragment.declaredAll fragments).flatten
  | [], _, _ => by simp [Fragment.negations]
  | fragment :: rest, each, spread => by
      simp only [Fragment.EachAll] at each
      rw [Fragment.declaredAll] at spread ⊢
      obtain ⟨firstSpread, restSpread, differ⟩ := Scope.spread_append.mp spread
      obtain ⟨first, firstWithin⟩ := keyed.predicate firstSpread.own
        (keyed.branches fragment each.1 firstSpread)
      obtain ⟨later, laterApart, laterWithin⟩ := keyed.negations rest each.2 restSpread
      rw [Fragment.negations, List.flatten_append]
      refine ⟨List.forall_mem_cons.mpr ⟨first.not, later⟩, ?_, ?_⟩
      · refine List.pairwise_cons.mpr ⟨fun names listed name held also => ?_, laterApart⟩
        rw [Condition.declared] at held
        exact differ (firstWithin held) (laterWithin (List.mem_flatten.mpr ⟨names, listed, also⟩))
      · rw [List.map_cons, List.flatten_cons, Condition.declared]
        exact List.append_subset.mpr
          ⟨List.Subset.trans firstWithin (List.subset_append_left _ _),
            List.Subset.trans laterWithin (List.subset_append_right _ _)⟩

theorem Scope.Keyed.conjoin (keyed : scope.Keyed isKey) : ∀ fragments : List Fragment,
    Fragment.EachAll (Join.Fits isKey scope) (Condition.Fits isKey scope []) fragments →
    scope.Spread (Fragment.declaredAll fragments) →
    ∀ {given : List Branch} {names : List String},
      (∀ branch ∈ given, branch.Fits isKey scope names) →
      names.Disjoint (Fragment.declaredAll fragments).flatten →
      ∀ branch ∈ Fragment.conjoin scope given fragments,
        branch.Fits isKey scope (names ++ (Fragment.declaredAll fragments).flatten)
  | [], _, _, _, _, given, _ => by
      simpa [Fragment.conjoin, Fragment.declaredAll] using given
  | fragment :: rest, each, spread, _, names, given, disjoint => by
      simp only [Fragment.EachAll] at each
      rw [Fragment.declaredAll] at spread disjoint ⊢
      rw [List.flatten_append] at disjoint ⊢
      obtain ⟨firstSpread, restSpread, differ⟩ := Scope.spread_append.mp spread
      obtain ⟨fromFirst, fromRest⟩ := List.disjoint_append_right.mp disjoint
      rw [Fragment.conjoin, ← List.append_assoc]
      refine keyed.conjoin rest each.2 restSpread ?_ ?_
      · exact Branch.fits_product given (keyed.branches fragment each.1 firstSpread) fromFirst
      · exact List.disjoint_append_left.mpr ⟨fromRest, differ⟩

theorem Scope.Keyed.alternatives (keyed : scope.Keyed isKey) : ∀ fragments : List Fragment,
    Fragment.EachAll (Join.Fits isKey scope) (Condition.Fits isKey scope []) fragments →
    scope.Spread (Fragment.declaredAll fragments) →
    ∀ branch ∈ Fragment.alternatives scope fragments,
      branch.Fits isKey scope (Fragment.declaredAll fragments).flatten
  | [], _, _ => by simp [Fragment.alternatives]
  | fragment :: rest, each, spread => by
      simp only [Fragment.EachAll] at each
      rw [Fragment.declaredAll] at spread ⊢
      obtain ⟨firstSpread, restSpread, -⟩ := Scope.spread_append.mp spread
      rw [Fragment.alternatives, List.flatten_append]
      refine List.forall_mem_append.mpr ⟨fun branch listed => ?_, fun branch listed => ?_⟩
      · exact (keyed.branches fragment each.1 firstSpread branch listed).mono
          (List.subset_append_left _ _)
      · exact (keyed.alternatives rest each.2 restSpread branch listed).mono
          (List.subset_append_right _ _)

end

theorem Scope.Keyed.lower (keyed : scope.Keyed isKey) {fragment : Fragment}
    (each : fragment.Each (Join.Fits isKey scope) (Condition.Fits isKey scope []))
    (spread : scope.Spread fragment.declared) :
    (fragment.lower scope).Fits isKey scope fragment.declared.flatten := by
  have branches := keyed.branches fragment each spread
  unfold Fragment.lower
  split
  · rename_i branch single
    exact branches branch (by simp [single])
  · obtain ⟨predicate, within⟩ := keyed.predicate spread.own branches
    exact ⟨by simp, by simpa using predicate, by simp, by simpa using within⟩

end Branches

end TreeQuery
