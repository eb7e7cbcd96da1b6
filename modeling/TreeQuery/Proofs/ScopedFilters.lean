import TreeQuery.Proofs.Aliases
import TreeQuery.Proofs.ScopedFragments
import TreeQuery.Proofs.StatementText

/-!
# Scopes of compiled filters

Aliases of one stem are written differently, so the aliases that a supply hands out
later are not those that it has handed out before.  This keeps the fragments of a
run apart, and lets a relation declare its own aliases inside a join.
-/

namespace TreeQuery

open Scope (Apart Fitting)
open Sql (Alias Condition Join Place Select Supply)

/-! ## Aliases as they are written -/

theorem Sql.Alias.eq_of_text {left right : Alias} (stem : left.stem = right.stem)
    (same : left.text = right.text) : left = right := by
  obtain ⟨kind, stem, index⟩ := left
  obtain ⟨otherKind, _, otherIndex⟩ := right
  dsimp only at stem
  subst stem
  have tails : kind.tag.toList ++ Nat.toDigits 10 index =
      otherKind.tag.toList ++ Nat.toDigits 10 otherIndex := by
    simpa [Alias.text] using congrArg String.toList same
  have digits : kind = otherKind ∧ Nat.toDigits 10 index = Nat.toDigits 10 otherIndex := by
    cases kind <;> cases otherKind <;> simp_all [Alias.Kind.tag]
  have indices : index = otherIndex :=
    calc index = Nat.ofDigitChars 10 (Nat.toDigits 10 index) 0 :=
          Nat.ofDigitChars_ten_toDigits.symm
      _ = Nat.ofDigitChars 10 (Nat.toDigits 10 otherIndex) 0 := by rw [digits.2]
      _ = otherIndex := Nat.ofDigitChars_ten_toDigits
  rw [digits.1, indices]

namespace Sql.Supply

variable {stem : String} {earlier before between after later : Supply} {names more : List String}

/-- The names are aliases of the stem that are handed out from one supply to the other. -/
def Gives (stem : String) (before after : Supply) (names : List String) : Prop :=
  ∀ name ∈ names, ∃ label : Alias,
    label.text = name ∧ label.stem = stem ∧ ¬ before.Issued label ∧ after.Issued label

theorem gives_nil : Gives stem before after [] := by
  simp [Gives]

theorem gives_append :
    Gives stem before after (names ++ more) ↔
      Gives stem before after names ∧ Gives stem before after more :=
  List.forall_mem_append

theorem Gives.subset (gives : Gives stem before after names) (fewer : more ⊆ names) :
    Gives stem before after more :=
  fun name member => gives name (fewer member)

theorem Gives.widen (gives : Gives stem before after names) (starts : earlier.Grows before)
    (ends : after.Grows later) : Gives stem earlier later names := by
  intro name member
  obtain ⟨label, text, stem, fresh, issued⟩ := gives name member
  exact ⟨label, text, stem, fun known => fresh (starts.issued known), ends.issued issued⟩

theorem Gives.disjoint (first : Gives stem before between names)
    (second : Gives stem between after more) : names.Disjoint more := by
  intro name held also
  obtain ⟨label, rfl, stem, -, issued⟩ := first name held
  obtain ⟨other, text, otherStem, fresh, -⟩ := second label.text also
  rw [Alias.eq_of_text (otherStem.trans stem.symm) text] at fresh
  exact fresh issued

theorem Gives.text_notin (gives : Gives stem before after names) {label : Alias}
    (issued : before.Issued label) (stemmed : label.stem = stem) : label.text ∉ names := by
  intro member
  obtain ⟨other, text, otherStem, fresh, -⟩ := gives label.text member
  rw [Alias.eq_of_text (otherStem.trans stemmed.symm) text] at fresh
  exact fresh issued

theorem gives_next (supply : Supply) (kind : Alias.Kind) (stem : String) :
    Gives stem supply (supply.next kind stem).2 [(supply.next kind stem).1.text] := by
  intro name member
  refine ⟨(supply.next kind stem).1, (List.mem_singleton.mp member).symm, rfl, fun known => ?_,
    supply.next_issued kind stem⟩
  exact supply.next_ne known kind stem rfl

end Sql.Supply

/-! ## Fragments of a run -/

structure Fragment.Fits (isKey : String → List String → Bool) (node : Node)
    (fragment : Fragment) : Prop where
  each : fragment.Each (Join.Fits isKey (Filter.scope node))
    (Condition.Fits isKey (Filter.scope node) [])
  joining : ∀ join ∈ fragment.joins, join.Fits isKey (Filter.scope node)
  showing : ∀ pair ∈ fragment.pairs, ∀ place : Place,
    node.label.text :: Join.names fragment.joins ⊆ place.visible → pair.2.isScoped place = true

structure Fragment.Scoped (isKey : String → List String → Bool) (node : Node)
    (before after : Supply) (fragments : List Fragment) : Prop where
  grows : before.Grows after
  gives : Supply.Gives node.label.stem before after (fragments.flatMap aliases).flatten
  apart : Apart (fragments.flatMap aliases)
  fits : ∀ fragment ∈ fragments, fragment.Fits isKey node

namespace Fragment

variable {isKey : String → List String → Bool} {node : Node} {before between after : Supply}
  {fragments others : List Fragment} {fragment other result : Fragment}

theorem fits_of_each (joins : fragment.joins = []) (pairs : fragment.pairs = [])
    (each : fragment.Each (Join.Fits isKey (Filter.scope node))
      (Condition.Fits isKey (Filter.scope node) [])) : fragment.Fits isKey node :=
  ⟨each, by simp [joins], by simp [pairs]⟩

theorem Fits.merge (first : fragment.Fits isKey node) (second : other.Fits isKey node)
    (merged : fragment.merge other = .ok result) : result.Fits isKey node := by
  obtain ⟨joins, pairs, -, -⟩ := merge_shown merged
  have names : Join.names result.joins = Join.names fragment.joins ++ Join.names other.joins := by
    rw [joins, Join.names, Join.declarations_append, List.map_append]
    rfl
  refine ⟨first.each.merge second.each merged, ?_, ?_⟩
  · rw [joins]
    exact List.forall_mem_append.mpr ⟨first.joining, second.joining⟩
  · rw [pairs, names]
    refine List.forall_mem_append.mpr ⟨fun pair listed place seen => ?_,
      fun pair listed place seen => ?_⟩
    · refine first.showing pair listed place (List.Subset.trans ?_ seen)
      exact List.cons_subset_cons _ (List.subset_append_left _ _)
    · refine second.showing pair listed place (List.Subset.trans ?_ seen)
      exact List.cons_subset_cons _ (List.subset_append_right _ _)

theorem Fits.reduce (fits : ∀ fragment ∈ fragments, fragment.Fits isKey node)
    (reduced : Fragment.reduce fragments = .ok result) : result.Fits isKey node := by
  refine reduce_induction (motive := fun fragments result =>
    (∀ fragment ∈ fragments, fragment.Fits isKey node) → result.Fits isKey node)
    (fun _ => ?_) ?_ reduced fits
  · exact fits_of_each rfl rfl each_empty
  · intro fragments fragment other result before merged fits
    obtain ⟨earlier, last⟩ := List.forall_mem_append.mp fits
    exact (before earlier).merge (last other List.mem_cons_self) merged

namespace Scoped

theorem nil (supply : Supply) : Scoped isKey node supply supply [] :=
  ⟨.refl _, Supply.gives_nil, .nil, by simp⟩

theorem append (first : Scoped isKey node before between fragments)
    (second : Scoped isKey node between after others) :
    Scoped isKey node before after (fragments ++ others) where
  grows := first.grows.trans second.grows
  gives := by
    rw [List.flatMap_append, List.flatten_append]
    exact Supply.gives_append.mpr ⟨first.gives.widen (.refl _) second.grows,
      second.gives.widen first.grows (.refl _)⟩
  apart := by
    rw [List.flatMap_append]
    exact Scope.apart_append.mpr ⟨first.apart, second.apart, first.gives.disjoint second.gives⟩
  fits := List.forall_mem_append.mpr ⟨first.fits, second.fits⟩

theorem regroup (run : Scoped isKey node before after fragments) {left : List (List String)}
    (perm : (fragments.flatMap aliases).Perm (left ++ fragment.aliases))
    (fits : fragment.Fits isKey node) : Scoped isKey node before after [fragment] where
  grows := run.grows
  gives := by
    rw [List.flatMap_singleton]
    refine run.gives.subset fun name member => perm.flatten.symm.subset ?_
    rw [List.flatten_append]
    exact List.mem_append_right _ member
  apart := by
    rw [List.flatMap_singleton]
    exact (Scope.apart_append.mp (run.apart.perm perm)).2.1
  fits := List.forall_mem_singleton.mpr fits

theorem reduce (run : Scoped isKey node before after fragments)
    (reduced : Fragment.reduce fragments = .ok fragment) :
    Scoped isKey node before after [fragment] := by
  have perm : (fragments.flatMap aliases).Perm ([] ++ fragment.aliases) :=
    (aliases_reduce reduced).symm
  exact run.regroup perm (Fits.reduce run.fits reduced)

theorem of_silent (grows : before.Grows after) (silent : ∀ names ∈ fragment.aliases, names = [])
    (fits : fragment.Fits isKey node) : Scoped isKey node before after [fragment] := by
  have none : fragment.aliases.flatten = [] := List.flatten_eq_nil_iff.mpr silent
  refine ⟨grows, ?_, ?_, List.forall_mem_singleton.mpr fits⟩
  · rw [List.flatMap_singleton, none]
    exact Supply.gives_nil
  · rw [List.flatMap_singleton]
    exact Scope.apart_of_silent silent

theorem of_join (grows : before.Grows after) {join : Join}
    (declares : fragment.aliases = [join.declared])
    (gives : Supply.Gives node.label.stem before after join.declared)
    (fits : fragment.Fits isKey node) : Scoped isKey node before after [fragment] := by
  refine ⟨grows, ?_, ?_, List.forall_mem_singleton.mpr fits⟩
  · simpa [declares] using gives
  · simp [declares]

theorem spread (run : Scoped isKey node before after [fragment])
    (issued : before.Issued node.label) : (Filter.scope node).Spread fragment.aliases := by
  have gives := run.gives
  have apart := run.apart
  rw [List.flatMap_singleton] at gives apart
  exact ⟨apart, gives.text_notin issued rfl⟩

theorem lowered (run : Scoped isKey node before after [fragment])
    (keyed : (Filter.scope node).Keyed isKey) (issued : before.Issued node.label) :
    (fragment.lower (Filter.scope node)).Fits isKey (Filter.scope node)
      fragment.declared.flatten :=
  keyed.lower (run.fits fragment List.mem_cons_self).each
    (Scope.spread_append.mp (run.spread issued)).2.1

theorem fitting_lowered (run : Scoped isKey node before after [fragment])
    (keyed : (Filter.scope node).Keyed isKey) (issued : before.Issued node.label) :
    Fitting isKey (Filter.scope node) [] (fragment.lower (Filter.scope node)).joins
        (fragment.lower (Filter.scope node)).conditions ∧
      Supply.Gives node.label.stem before after
        ((fragment.lower (Filter.scope node)).joins.map Join.declared ++
          (fragment.lower (Filter.scope node)).conditions.map Condition.declared).flatten := by
  have lowered := run.lowered keyed issued
  have gives := run.gives
  rw [List.flatMap_singleton, aliases, List.flatten_append] at gives
  exact ⟨lowered.fitting (Scope.spread_append.mp (run.spread issued)).2.1.own,
    (Supply.gives_append.mp gives).2.subset lowered.within⟩

end Scoped

end Fragment

/-! ## Links -/

namespace Site

variable {isKey : String → List String → Bool} {parent child : Node}

theorem fits_equal (childColumns parentColumns : List String) :
    ∀ pair ∈ (child.label.columns childColumns).zip (parent.label.columns parentColumns),
      (Condition.equal pair.1 pair.2).Fits isKey (Filter.scope child) [parent.label.text] := by
  intro pair zipped place hosts seen clear
  obtain ⟨left, right⟩ := List.of_mem_zip zipped
  obtain ⟨name, -, first⟩ := List.mem_map.mp left
  obtain ⟨other, -, second⟩ := List.mem_map.mp right
  rw [Condition.isScoped, ← first, ← second, Bool.and_eq_true]
  exact ⟨Place.sees_iff.mpr hosts.visible, Place.sees_iff.mpr (seen (by simp))⟩

theorem fits_linked {pivot : Alias} (plain : Sql.isPlainName pivot.text = true) (table : String)
    (parentColumns pivotParentColumns pivotChildColumns childColumns : List String) :
    (Condition.linked (child.label.columns childColumns)
      (hop table pivot parent.label parentColumns pivotParentColumns pivotChildColumns)).Fits
        isKey (Filter.scope child) [parent.label.text] := by
  intro place hosts seen clear
  have new : place.isNew pivot.text = true := clear _ (by simp [Condition.declared, hop])
  have parentSeen : parent.label.text ∈ place.visible := seen (by simp)
  rw [Condition.isScoped, Bool.and_eq_true]
  refine ⟨Place.seesAll_columns hosts.visible childColumns, ?_⟩
  simp only [Sql.Hop.isScoped, hop, plain, new, Bool.true_and, Bool.and_eq_true]
  refine ⟨Place.seesAll_columns (by simp [Place.inside]) pivotChildColumns, ?_⟩
  refine List.all_eq_true.mpr fun pair zipped => ?_
  obtain ⟨left, right⟩ := List.of_mem_zip zipped
  obtain ⟨name, -, first⟩ := List.mem_map.mp left
  obtain ⟨other, -, second⟩ := List.mem_map.mp right
  rw [← first, ← second]
  simp [Place.sees, Place.inside, parentSeen]

theorem linking_scoped (isKey : String → List String → Bool) (parent : Node)
    (plain : child.label.isPlain = true) (supply : Supply) (link : Link) :
    (∀ condition ∈ linking parent.label child.label
        (supply.next .pivot child.label.stem).1 link,
      condition.Fits isKey (Filter.scope child) [parent.label.text]) ∧
    Apart ((linking parent.label child.label
      (supply.next .pivot child.label.stem).1 link).map Condition.declared) ∧
    Supply.Gives child.label.stem supply (linkedSupply supply child.label.stem link)
      ((linking parent.label child.label
        (supply.next .pivot child.label.stem).1 link).map Condition.declared).flatten := by
  cases link with
  | direct parentColumns childColumns =>
      have silent : ∀ names ∈ (linking parent.label child.label
          (supply.next .pivot child.label.stem).1
          (.direct parentColumns childColumns)).map Condition.declared, names = [] := by
        simp [linking, Condition.declared]
      refine ⟨fun condition member => ?_, Scope.apart_of_silent silent, ?_⟩
      · obtain ⟨pair, zipped, rfl⟩ := List.mem_map.mp member
        exact fits_equal childColumns parentColumns pair zipped
      · rw [List.flatten_eq_nil_iff.mpr silent]
        exact Supply.gives_nil
  | pivot table parentColumns pivotParentColumns pivotChildColumns childColumns =>
      refine ⟨?_, by simp [linking], ?_⟩
      · have pivot : (supply.next .pivot child.label.stem).1.isPlain = true := plain
        simp only [linking, List.mem_singleton, forall_eq]
        exact fits_linked (Alias.text_isNameChar pivot) table _ _ _ _
      · simpa [linking, linkedSupply, Condition.declared, hop] using
          supply.gives_next .pivot child.label.stem

theorem fitting_linked (parent : Node) {joins : List Join} {conditions : List Condition}
    {before supply : Supply}
    (fitting : Fitting isKey (Filter.scope child) [] joins conditions)
    (gives : Supply.Gives child.label.stem before supply
      (joins.map Join.declared ++ conditions.map Condition.declared).flatten)
    (grows : before.Grows supply) (issued : before.Issued child.label)
    (plain : child.label.isPlain = true) (link : Link) :
    Fitting isKey (Filter.scope child) [parent.label.text] joins
      (linking parent.label child.label (supply.next .pivot child.label.stem).1 link ++
        conditions) ∧
    Supply.Gives child.label.stem before (linkedSupply supply child.label.stem link)
      (joins.map Join.declared ++ (linking parent.label child.label
        (supply.next .pivot child.label.stem).1 link ++
          conditions).map Condition.declared).flatten := by
  obtain ⟨fits, apart, given⟩ := linking_scoped isKey parent plain supply link
  -- the alias of a pivot table is drawn last
  have perm : (((linking parent.label child.label
      (supply.next .pivot child.label.stem).1 link).map Condition.declared) ++
        (joins.map Join.declared ++ conditions.map Condition.declared)).Perm
      (joins.map Join.declared ++ (linking parent.label child.label
        (supply.next .pivot child.label.stem).1 link ++ conditions).map Condition.declared) := by
    simp only [List.map_append, ← Multiset.coe_eq_coe, ← Multiset.coe_add]
    abel
  have drawn := given.widen grows (.refl _)
  refine ⟨⟨fitting.joining, List.forall_mem_append.mpr ⟨fits, fun condition listed =>
    (fitting.testing condition listed).mono (by simp)⟩, ?_⟩, ?_⟩
  · refine Scope.Spread.perm (Scope.spread_append.mpr ⟨⟨apart, ?_⟩, fitting.spread, ?_⟩) perm
    · exact drawn.text_notin issued rfl
    · exact List.disjoint_comm.mp (gives.disjoint given)
  · refine Supply.Gives.subset (Supply.gives_append.mpr
      ⟨drawn, gives.widen (.refl _) (linkedSupply_grows _ _ link)⟩) ?_
    rw [← List.flatten_append]
    exact perm.symm.flatten.subset

end Site

/-! ## Subqueries -/

structure Sql.Select.Stands (isKey : String → List String → Bool) (parent : Node)
    (before after : Supply) (query : Select) : Prop where
  gives : Supply.Gives parent.label.stem before after query.declared
  stands : ∀ place : Place, parent.label.text ∈ place.visible → place.Clear query.declared →
    query.isScoped isKey place = true

namespace Sql.Select.Stands

variable {isKey : String → List String → Bool} {parent : Node}
  {before between after : Supply} {query : Select}

/-- The alias of a subquery is drawn after those inside it. -/
theorem lateral (inner : query.Stands isKey parent before after)
    (plain : parent.label.isPlain = true) (grows : before.Grows after) (kind : Alias.Kind)
    (join : JoinKind) :
    (Join.lateral join query (after.next kind parent.label.stem).1).Fits isKey
        (Filter.scope parent) ∧
      Supply.Gives parent.label.stem before (after.next kind parent.label.stem).2
        (Join.lateral join query (after.next kind parent.label.stem).1).declared := by
  have label : (after.next kind parent.label.stem).1.isPlain = true := plain
  have drawn := after.gives_next kind parent.label.stem
  refine ⟨⟨Alias.text_isNameChar label, fun member => ?_, fun place hosts clear => ?_⟩, ?_⟩
  · exact inner.gives.disjoint drawn member List.mem_cons_self
  · exact inner.stands place hosts.visible clear
  · rw [Join.declared, ← List.singleton_append]
    exact Supply.gives_append.mpr ⟨drawn.widen grows (.refl _),
      inner.gives.widen (.refl _) (after.next_grows kind parent.label.stem)⟩

theorem page (rows : query.Stands isKey parent before after)
    (plain : parent.label.isPlain = true) (grows : before.Grows after) (ordered : Bool) :
    Stands isKey parent before (after.next .page parent.label.stem).2
      { output := .collectedPage (after.next .page parent.label.stem).1 ordered
        source := .page query (after.next .page parent.label.stem).1 } := by
  have label : (after.next .page parent.label.stem).1.isPlain = true := plain
  have named : isPlainName (after.next .page parent.label.stem).1.text = true :=
    Alias.text_isNameChar label
  have drawn := after.gives_next .page parent.label.stem
  have declared : Select.declared
      { output := .collectedPage (after.next .page parent.label.stem).1 ordered
        source := .page query (after.next .page parent.label.stem).1 } =
      (after.next .page parent.label.stem).1.text :: query.declared := by
    simp [Select.declared, Source.declared, Join.declaredAll, Condition.declaredAll]
  constructor
  · rw [declared, ← List.singleton_append]
    exact Supply.gives_append.mpr ⟨drawn.widen grows (.refl _),
      rows.gives.widen (.refl _) (after.next_grows .page parent.label.stem)⟩
  · intro place seen clear
    rw [declared] at clear
    have new := clear _ List.mem_cons_self
    have inner := rows.stands
      (place.inside [⟨(after.next .page parent.label.stem).1.text, none⟩] []) seen
      ((clear.subset (List.subset_cons_self _ _)).inside
        (List.disjoint_comm.mp (rows.gives.disjoint drawn)))
    simpa [Select.isScoped, Source.declaration, Join.declarations, named, new, Source.isScoped,
      Join.areScoped, Output.isScoped, Condition.areScoped, Place.sees, Place.inside] using inner

theorem of_fitting (child : Node) (stem : child.label.stem = parent.label.stem)
    (plain : child.label.isPlain = true)
    (drawn : Supply.Gives parent.label.stem before between [child.label.text])
    (fitting : Fitting isKey (Filter.scope child) [parent.label.text] query.joins query.conditions)
    (gives : Supply.Gives child.label.stem between after
      (query.joins.map Join.declared ++ query.conditions.map Condition.declared).flatten)
    (starts : before.Grows between) (ends : between.Grows after)
    (source : query.source = (Filter.scope child).source)
    (shown : ∀ inner : Place, child.label.text :: Join.names query.joins ⊆ inner.visible →
      query.output.isScoped inner = true ∧ query.order.all (Order.isScoped inner) = true) :
    query.Stands isKey parent before after := by
  have declared : query.declared = child.label.text ::
      (query.joins.map Join.declared ++ query.conditions.map Condition.declared).flatten := by
    rw [declared_eq, source]
    cases query
    rw [added_eq]
    rfl
  constructor
  · rw [declared, ← List.singleton_append]
    exact Supply.gives_append.mpr
      ⟨drawn.widen (.refl _) ends, (stem ▸ gives).widen starts (.refl _)⟩
  · intro place seen clear
    rw [declared] at clear
    have new := clear _ List.mem_cons_self
    have added : query.added =
        (query.joins.map Join.declared ++ query.conditions.map Condition.declared).flatten := by
      cases query
      rw [added_eq]
    refine fitting.isScoped source (Alias.text_isNameChar plain) (by simpa using seen) ?_ ?_
      (.inl new) shown
    · rw [added]
      exact clear.subset (List.subset_cons_self _ _)
    · exact fun item listed same => (Place.isNew_iff.mp new item listed same).elim

end Sql.Select.Stands

/-! ## Filters -/

namespace Filter

variable {isKey : String → List String → Bool}

theorem testSubjects_fit (isKey : String → List String → Bool) (node : Node) (field : String)
    (test : Sql.Test Json) (subjects : List (List String)) (drawn : Drawn) :
    ∀ condition ∈
      (testSubjects node.label field test (subjects.map node.label.columns) drawn).1,
      condition.declared = [] ∧ condition.Fits isKey (scope node) [] := by
  induction subjects generalizing drawn with
  | nil => simp [testSubjects]
  | cons names rest ih =>
      obtain ⟨supply, bound⟩ := drawn
      rw [List.map_cons, testSubjects_cons]
      refine List.forall_mem_cons.mpr ⟨⟨by rw [Condition.declared], ?_⟩, ih _⟩
      intro place hosts seen clear
      have visible : node.label.text ∈ place.visible := hosts.visible
      rw [Condition.isScoped, Place.seesAll_columns visible names, withParameters_slots,
        Bool.true_and]
      refine List.all_eq_true.mpr fun parameter member => ?_
      obtain ⟨number, -, rfl⟩ := List.mem_map.mp member
      exact Place.sees_iff.mpr visible

theorem Applied.scoped {node : Node} {field : String} {columns : List String}
    {operator : Operator} {operand : Json} {context after : Context} {fragment : Fragment}
    (applied : Applied node field columns operator operand context fragment after) :
    Fragment.Scoped isKey node context.supply after.supply [fragment] := by
  have grows := applied.grows
  obtain ⟨-, subjects, test, conditions, supply, bound, values, listed, -, tested, rfl, -, -,
    rfl⟩ := applied
  have fit := testSubjects_fit isKey node field test (compared columns operator)
    (context.supply, [])
  rw [← subjects_ok listed, tested] at fit
  refine .of_silent grows ?_ (Fragment.fits_of_each rfl rfl (Fragment.each_iff.mpr ?_))
  · intro names member
    rw [Fragment.aliases, Fragment.declared_eq] at member
    obtain ⟨condition, here, rfl⟩ : ∃ condition ∈ conditions, condition.declared = names := by
      simpa using member
    exact (fit condition here).1
  · exact ⟨by simp, fun condition here => (fit condition here).2, by simp⟩

theorem AppliedAll.scoped {node : Node} {field : String} {columns : List String}
    {operators : List (String × Json)} {context after : Context} {fragments : List Fragment}
    (applied : AppliedAll node field columns operators context fragments after) :
    Fragment.Scoped isKey node context.supply after.supply fragments := by
  induction applied with
  | nil => exact .nil _
  | cons named first later ih => exact first.scoped.append ih

theorem Combined.declared {combinator : Combinator} {siblings : List Fragment}
    {fragment : Fragment} (combined : Combined combinator siblings fragment) :
    fragment.declared = siblings.flatMap Fragment.declared := by
  have emptied : (siblings.map Fragment.emptied).flatMap Fragment.declared =
      siblings.flatMap Fragment.declared := by
    simp [List.flatMap_map]
  cases combined with
  | none => simp [Fragment.declared_eq]
  | some nonempty perm distinct =>
      cases combinator <;>
        simp [Filter.combined, Fragment.declared, Fragment.declaredAll_eq, emptied]

theorem Combined.shows_nothing {combinator : Combinator} {siblings : List Fragment}
    {fragment : Fragment} (combined : Combined combinator siblings fragment) :
    fragment.joins = [] ∧ fragment.pairs = [] := by
  cases combined with
  | none => exact ⟨rfl, rfl⟩
  | some nonempty perm distinct => cases combinator <;> exact ⟨rfl, rfl⟩

theorem Combined.scoped {node : Node} {combinator : Combinator} {siblings : List Fragment}
    {fragment : Fragment} {before after : Supply}
    (run : Fragment.Scoped isKey node before after siblings)
    (combined : Combined combinator siblings fragment) :
    Fragment.Scoped isKey node before after [fragment] := by
  obtain ⟨joins, pairs⟩ := combined.shows_nothing
  have perm : (siblings.flatMap Fragment.aliases).Perm
      (siblings.flatMap (fun sibling => sibling.joins.map Join.declared) ++
        fragment.aliases) := by
    rw [Fragment.aliases, joins, combined.declared]
    exact (List.flatMap_append_perm siblings _ _).symm
  have each := combined.each fun sibling listed => (run.fits sibling listed).each
  exact run.regroup perm (Fragment.fits_of_each joins pairs each)

theorem keyed_childOf {node : Node} {entity : Entity} (plain : node.label.isPlain = true)
    (served : isKey entity.table entity.primaryKeys = true) (context : Context) :
    (scope (childOf node entity context)).Keyed isKey := by
  have named : (childOf node entity context).label.isPlain = true := plain
  exact ⟨Alias.text_isNameChar named, served⟩

theorem linked_stands {node : Node} {entity : Entity} {context : Context} {after : Supply}
    {joins : List Join} {conditions : List Condition} (property : Property) (link : Link)
    (output : Sql.Output) (order : Option Sql.Order) (limit offset : Option Nat)
    (plain : node.label.isPlain = true) (grows : (opened node context).supply.Grows after)
    (fitting : Fitting isKey (scope (childOf node entity context)) [] joins conditions)
    (gives : Supply.Gives node.label.stem (opened node context).supply after
      (joins.map Join.declared ++ conditions.map Condition.declared).flatten)
    (shown : ∀ inner : Place,
      (childOf node entity context).label.text :: Join.names joins ⊆ inner.visible →
        output.isScoped inner = true ∧ order.all (Sql.Order.isScoped inner) = true) :
    (Select.mk output (Site.mk node property (childOf node entity context)).source joins
      (Site.linking node.label (childOf node entity context).label
        (after.next .pivot node.label.stem).1 link ++ conditions) order limit offset).Stands isKey
          node context.supply (Site.linkedSupply after node.label.stem link) := by
  have named : (childOf node entity context).label.isPlain = true := plain
  obtain ⟨linked, drawn⟩ := Site.fitting_linked node fitting gives grows
    (issued_childOf node entity context) named link
  exact .of_fitting (childOf node entity context) rfl named
    (context.supply.gives_next .entity node.label.stem) linked drawn (opened_grows node context)
    (grows.trans (Site.linkedSupply_grows after node.label.stem link)) rfl shown

theorem related_scoped {node : Node} {property : Property} {entity : Entity}
    {context : Context} {matched : Fragment} {after : Supply} (values : Bindings) (link : Link)
    (plain : node.label.isPlain = true)
    (served : isKey entity.table entity.primaryKeys = true)
    (run : Fragment.Scoped isKey (childOf node entity context) (opened node context).supply after
      [matched]) :
    Fragment.Scoped isKey node context.supply
      ((Site.linkedSupply after node.label.stem link).next .filter node.label.stem).2
      [related ⟨node, property, childOf node entity context⟩
        (Site.linking node.label (childOf node entity context).label
          (after.next .pivot node.label.stem).1 link) matched
        ((Site.linkedSupply after node.label.stem link).next .filter node.label.stem).1
        values] := by
  obtain ⟨fitting, gives⟩ := run.fitting_lowered (keyed_childOf plain served context)
    (issued_childOf node entity context)
  have stands := linked_stands property link .matched none (some 1) none plain run.grows fitting
    gives fun inner seen => ⟨rfl, rfl⟩
  have grows := ((opened_grows node context).trans run.grows).trans
    (Site.linkedSupply_grows after node.label.stem link)
  obtain ⟨fits, declared⟩ := stands.lateral plain grows .filter .inner
  refine .of_join (grows.trans (Supply.next_grows _ .filter _)) ?_ declared
    (Fragment.fits_of_each rfl rfl (Fragment.each_iff.mpr ?_))
  · simp [Fragment.aliases, Fragment.declared, Fragment.declaredAll, related, existence]
  · simpa [related, existence] using fits

/-- What a filter compiles to can stand in selects of the rows of its node. -/
theorem Runs.scoped {compiler : Compiler}
    (served : ∀ {name entity}, compiler.provider.entity name = .ok entity →
      isKey entity.table entity.primaryKeys = true)
    {node : Node} {part : Part} {context after : Context} {fragments : List Fragment}
    (run : Runs compiler node part context fragments after) (plain : node.label.isPlain = true) :
    Fragment.Scoped isKey node context.supply after.supply fragments := by
  induction run with
  | noMembers => exact .nil _
  | members first later firstScoped laterScoped =>
      exact (firstScoped plain).append (laterScoped plain)
  | noElements => exact .nil _
  | elements first reduced compiled later firstScoped laterScoped =>
      exact ((firstScoped plain).reduce reduced).append (laterScoped plain)
  | compared role simple applied => exact (applyOperator_ok applied).scoped
  | operators role applied reduced => exact (applyOperators_ok applied).scoped.reduce reduced
  | suffixed role applied => exact (applyOperator_ok applied).scoped
  | combinedList role elements combined ih => exact combined.scoped (ih plain)
  | combinedObject role elements combined ih => exact combined.scoped (ih plain)
  | related role found shallow members reduced correlated labelled perm distinct ih =>
      obtain ⟨link, -, rfl, rfl⟩ := Site.conditions_ok correlated
      obtain ⟨rfl, rfl⟩ := Compile.freshAlias_ok.mp labelled
      exact related_scoped _ link plain (served found) ((ih plain).reduce reduced)

theorem compile_scoped {compiler : Compiler}
    (served : ∀ {name entity}, compiler.provider.entity name = .ok entity →
      isKey entity.table entity.primaryKeys = true)
    {node : Node} {filter : Members} {context after : Context} {fragment : Fragment}
    (done : compile compiler node filter context = .ok (fragment, after))
    (plain : node.label.isPlain = true) :
    Fragment.Scoped isKey node context.supply after.supply [fragment] := by
  obtain ⟨fragments, run, reduced⟩ := compile_ok done
  exact (run.scoped served plain).reduce reduced

end Filter

end TreeQuery
