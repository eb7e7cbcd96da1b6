import TreeQuery.Proofs.QueryAccounts

/-!
# Alternatives that vanish

A name that a filter binds in vain stands beside an alternative that compiles to
nothing: the group of the alternative is dropped with all its comparisons, and the
values are kept.  So a query without such an alternative uses every name it binds.
-/

namespace TreeQuery

namespace Filter

/-- Under some alias the filter is lowered to neither joins nor conditions. -/
def Vanishes (compiler : Compiler) (filter : Entity × Members) : Prop :=
  ∃ label context fragment after,
    compile compiler ⟨filter.1, label⟩ filter.2 context = .ok (fragment, after) ∧
      (fragment.lower (scope ⟨filter.1, label⟩)).isTrivial = true

theorem not_vanishes {compiler : Compiler} {filter : Entity × Members}
    (demanding : (tally compiler filter.1 filter.2).vacuous = false) :
    ¬ Vanishes compiler filter := by
  rintro ⟨label, context, fragment, after, compiled, trivial⟩
  rw [Fragment.lower_isTrivial, (compile_accounted compiled).vacuous, demanding] at trivial
  cases trivial

def Part.alternatives (compiler : Compiler) (entity : Entity) (part : Part) :
    List (Entity × Members) :=
  (part.entries compiler entity).flatMap (Entry.alternatives compiler)

theorem Accounted.wastes {fragment : Fragment} {tally : Tally}
    (accounted : Accounted fragment tally) (vacuous : tally.vacuous = true)
    (binds : tally.binds = true) : tally.wastes = true := by
  have bound : fragment.values.isEmpty = false := by rw [accounted.binds, binds, Bool.not_true]
  have idle := Fragment.idle_of_isVacuous accounted.unshown
    (accounted.vacuous.trans vacuous) bound
  exact accounted.balanced.idle.mp ⟨fragment, List.mem_cons_self, idle⟩

theorem exists_vanishing_element {compiler : Compiler} {node : Node} {items : List Json}
    {context after : Context} {siblings : List Fragment}
    (run : Runs compiler node (.elements items) context siblings after)
    (vacuous : siblings.any Fragment.isVacuous = true) :
    ∃ inner, .object inner ∈ items ∧ Vanishes compiler (node.entity, inner) := by
  induction items generalizing context siblings with
  | nil =>
      cases run
      cases vacuous
  | cons item rest ih =>
      cases run with
      | @elements _ inner _ _ between _ fragment _ _ first reduced compiled later =>
          rcases Bool.or_eq_true_iff.mp vacuous with here | there
          · refine ⟨inner, List.mem_cons_self, node.label, context, fragment, between, compiled, ?_⟩
            rw [Fragment.lower_isTrivial, here]
          · obtain ⟨found, member, vanishes⟩ := ih later there
            exact ⟨found, List.mem_cons_of_mem _ member, vanishes⟩

theorem idle_of_combined {combinator : Combinator} {siblings : List Fragment}
    {tallies : List Tally} {fragment : Fragment}
    (accounted : List.Forall₂ Accounted siblings tallies)
    (combined : Combined combinator siblings fragment) (idle : fragment.Idle) :
    (∃ sibling ∈ siblings, sibling.Idle) ∨
      combinator ≠ .and ∧ tallies.any Tally.vacuous = true ∧ tallies.any Tally.binds = true := by
  cases combined with
  | none =>
      obtain ⟨name, bound, -⟩ := idle
      cases bound
  | some nonempty perm distinct =>
      have balanced := balanced_combined combinator accounted perm distinct
      have wasted := balanced.idle.mp ⟨_, List.mem_cons_self, idle⟩
      simp only [Bool.or_eq_true, Bool.and_eq_true, bne_iff_ne, and_assoc] at wasted
      exact wasted.imp_left (accounted_balanced accounted).idle.mpr

theorem Runs.exists_vanishing {compiler : Compiler} {node : Node} {part : Part}
    {context after : Context} {fragments : List Fragment}
    (run : Runs compiler node part context fragments after) :
    (∃ fragment ∈ fragments, fragment.Idle) →
      ∃ alternative ∈ part.alternatives compiler node.entity,
        Vanishes compiler alternative := by
  induction run with
  | noMembers => simp
  | members first later firstVanishing laterVanishing =>
      rw [Part.alternatives, Part.entries_members, List.flatMap_append, Fragment.exists_mem_append,
        List.exists_mem_cons_iff]
      exact Or.imp (fun idle => firstVanishing ⟨_, List.mem_cons_self, idle⟩) laterVanishing
  | noElements => simp
  | elements first reduced compiled later firstVanishing laterVanishing =>
      rw [Part.alternatives, Part.entries_elements, List.flatMap_append, Fragment.exists_mem_append,
        List.exists_mem_cons_iff]
      refine Or.imp (fun idle => firstVanishing ?_) laterVanishing
      have parts := accounted_balanced first.accounted
      exact parts.idle.mpr ((parts.reduce reduced).idle.mp ⟨_, List.mem_cons_self, idle⟩)
  | compared role plain applied =>
      intro idle
      cases (applyOperator_ok applied).accounted.balanced.idle.mp idle
  | operators role applied reduced =>
      intro idle
      have accounted := Accounted.reduce (applyOperators_ok applied).accounted reduced
      rw [all_tallyOperators] at accounted
      cases accounted.balanced.idle.mp idle
  | suffixed role applied =>
      intro idle
      cases (applyOperator_ok applied).accounted.balanced.idle.mp idle
  | combinedList role elements combined vanishing =>
      rw [Part.alternatives, Part.entries_list role, List.flatMap_cons, Fragment.exists_mem_append]
      rintro ⟨fragment, member, idle⟩
      rw [List.mem_singleton.mp member] at idle
      rcases idle_of_combined elements.accounted combined idle with below | ⟨other, vacuous, -⟩
      · exact .inr (vanishing below)
      · rw [← accounted_any elements.accounted] at vacuous
        obtain ⟨inner, listed, vanishes⟩ := exists_vanishing_element elements vacuous
        exact .inl ⟨_, Entry.mem_alternatives role other listed, vanishes⟩
  | combinedObject role elements combined vanishing =>
      rw [Part.alternatives, Part.entries_object role, List.flatMap_cons,
        Fragment.exists_mem_append]
      rintro ⟨fragment, member, idle⟩
      rw [List.mem_singleton.mp member] at idle
      refine .inr (vanishing ?_)
      have accounted := elements.accounted
      rcases idle_of_combined accounted combined idle with below | ⟨-, vacuous, binds⟩
      · exact below
      · -- a single element that demands nothing has dropped what it binds itself
        rw [Part.tallies, talliesOfAll, talliesOfAll] at accounted vacuous binds
        have single := (accounted_balanced accounted).idle
        cases accounted with
        | cons first none =>
            refine single.mpr ?_
            simp only [List.any_cons, List.any_nil, Bool.or_false] at vacuous binds ⊢
            exact first.wastes vacuous binds
  | related role found shallow members reduced correlated labelled perm distinct vanishing =>
      rw [Part.alternatives, Part.entries_related role found, List.flatMap_cons,
        Fragment.exists_mem_append]
      intro idle
      obtain ⟨link, -, rfl, -⟩ := Site.conditions_ok correlated
      have matched := Accounted.reduce members.accounted reduced
      have wasted := (matched.related perm distinct).balanced.idle.mp idle
      exact .inr (vanishing ((accounted_balanced members.accounted).idle.mpr wasted))

/-- A compiled filter that wastes a literal has an alternative that vanishes. -/
theorem exists_vanishing_of_wastes {compiler : Compiler} {node : Node} {filter : Members}
    {context after : Context} {fragment : Fragment}
    (compiled : compile compiler node filter context = .ok (fragment, after))
    (wastes : (tally compiler node.entity filter).wastes = true) :
    ∃ alternative ∈ alternatives compiler node.entity filter, Vanishes compiler alternative := by
  obtain ⟨fragments, run, -⟩ := compile_ok compiled
  exact run.exists_vanishing ((accounted_balanced run.accounted).idle.mpr wastes)

end Filter

/-! ## Queries -/

namespace Display

theorem Argued.compiled {compiler : Compiler} {node : Node} {given : Arguments}
    {context after : Context} {fragments : List Fragment}
    (argued : Argued compiler node given context fragments after) :
    ∀ filter ∈ given.filter, ∃ before fragment between,
      Filter.compile compiler node filter before = .ok (fragment, between) := by
  intro filter wanted
  cases argued with
  | unfiltered unfiltered => simp [unfiltered] at wanted
  | filtered filtered compiled =>
      rw [filtered] at wanted
      cases wanted
      exact ⟨_, _, _, compiled⟩

theorem Runs.compiled {compiler : Compiler} {node : Node} {part : Part}
    {context after : Context} {fragments : List Fragment}
    (run : Runs compiler node part context fragments after) :
    ∀ below ∈ part.nodes compiler node.entity, ∀ filter ∈ below.2.filter?,
      ∃ label before fragment between,
        Filter.compile compiler ⟨below.1, label⟩ filter before = .ok (fragment, between) := by
  induction run with
  | keys argued =>
      rw [Part.nodes, Selection.nodes, Selection.fieldNodes]
      refine List.forall_mem_singleton.mpr fun filter wanted => ?_
      rw [Selection.filter?_eq] at wanted
      exact ⟨_, argued.compiled filter wanted⟩
  | selected nonempty ran argued compiled =>
      rw [Part.nodes, Selection.nodes]
      refine List.forall_mem_cons.mpr ⟨fun filter wanted => ?_, compiled⟩
      rw [Selection.filter?_eq] at wanted
      exact ⟨_, argued.compiled filter wanted⟩
  | noFields => simp [Part.nodes, Selection.fieldNodes]
  | fields first later firstCompiled laterCompiled =>
      rw [Part.nodes, Selection.fieldNodes]
      exact List.forall_mem_append.mpr ⟨firstCompiled, laterCompiled⟩
  | computed resolved plain => simp [Part.nodes_computed resolved]
  | scalar resolved scalar plain => simp [Part.nodes_scalar resolved scalar]
  | @related _ _ wanted _ _ _ _ _ _ _ _ _ resolved relation found _ _ _ _ _ _ compiled =>
      cases wanted with
      | leaf => simp [Part.nodes, Selection.nodesOf]
      | nested selection =>
          rw [Part.nodes_related resolved relation found]
          exact compiled

end Display

theorem Query.exists_vanishing {compiler : Compiler} {query : Query} {statement : Statement}
    (compiled : compiler.compile query = .ok statement) (wastes : query.wastes compiler = true) :
    ∃ alternative ∈ query.alternatives compiler, Filter.Vanishes compiler alternative := by
  obtain ⟨entity, shown, argued, fragment, between, after, found, run, given, -, -⟩ :=
    Compiler.compile_ok compiled
  have each : ∀ filter ∈ query.filters compiler, ∃ label before fragment between,
      Filter.compile compiler ⟨filter.1, label⟩ filter.2 before = .ok (fragment, between) := by
    simp only [Query.filters, Query.nodes, found, List.forall_mem_append]
    refine ⟨fun filter member => ?_, fun filter member => ?_⟩
    · obtain ⟨wanted, listed, rfl⟩ := List.mem_map.mp member
      exact ⟨_, given.compiled wanted (Option.mem_toList.mp listed)⟩
    · obtain ⟨node, below, inside⟩ := List.mem_flatMap.mp member
      obtain ⟨wanted, listed, rfl⟩ := List.mem_map.mp inside
      exact run.compiled node below wanted (Option.mem_toList.mp listed)
  obtain ⟨filter, member, wasted⟩ := List.any_eq_true.mp wastes
  obtain ⟨label, before, fragment, between, done⟩ := each filter member
  obtain ⟨alternative, listed, vanishes⟩ := Filter.exists_vanishing_of_wastes done wasted
  exact ⟨alternative, List.mem_flatMap.mpr ⟨filter, member, listed⟩, vanishes⟩

end TreeQuery
