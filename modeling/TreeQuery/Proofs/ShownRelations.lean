import TreeQuery.Proofs.Literals
import TreeQuery.Proofs.RegistryFaults

/-!
# Showing a relation and filtering on it

A filter asks of a relation only that its link resolves, which an accepted registry has
checked.  To show a relation, each kind of reference has a demand of its own about the
owner.  The demands agree except for a many-to-one relation that claims an owner: it can
be filtered on but not shown.
-/

namespace TreeQuery

def Query.showing (entity key : String) : Query :=
  { entity, selection := { fields := [(key, .leaf)] } }

def Query.demanding (entity key : String) : Query :=
  { entity, filter := some [(key, .object [])] }

theorem Selection.ofJson_single {key : String} (named : key ≠ argumentsKey) :
    Selection.ofJson (.object [(key, .object [])]) = .ok { fields := [(key, .leaf)] } := by
  simp [Selection.ofJson, Selection.ofMembers, named, FieldNode.ofJson, bind, Except.bind, pure,
    Except.pure]

theorem Resolver.resolve_of_declared {resolver : Resolver} {key : String} {property : Property}
    (declared : resolver.entity.property? key = some property) :
    resolver.resolve key = some (.property property) := by
  simp [resolve, declared]

/-! ## Steps that succeed -/

namespace Fragment

def Unbound (fragment : Fragment) : Prop := fragment.values = []

theorem reduce_unbound {fragments : List Fragment} (each : ∀ fragment ∈ fragments, fragment.Unbound) :
    ∃ fragment, reduce fragments = .ok fragment ∧ fragment.Unbound := by
  have nothing : fragments.flatMap (·.values) = [] := List.flatMap_eq_nil_iff.mpr each
  have distinct : (boundNames fragments).Nodup := by
    rw [boundNames, nothing]
    exact List.nodup_nil
  obtain ⟨fragment, reduced⟩ := reduce_of_nodup distinct
  have perm := (reduce_values reduced).1
  rw [nothing] at perm
  exact ⟨fragment, reduced, perm.eq_nil⟩

end Fragment

namespace Filter

variable {compiler : Compiler} {node : Node} {property : Property} {target : Entity} {link : Link}
  {context : Context}

theorem relationFilter_succeeds {inner : Node → Compile Fragment} {matched : Fragment}
    {between : Context}
    (found : compiler.provider.entity property.typeName = .ok target)
    (shallow : context.depth + 1 ≤ compiler.settings.maxDepth)
    (ran : inner (childOf node target context) (opened node context) = .ok (matched, between))
    (unbound : matched.Unbound)
    (resolved : Link.resolve node.entity property target = .ok link) :
    ∃ fragment after, relationFilter compiler node property inner context = .ok (fragment, after) ∧
      fragment.Unbound := by
  cases outcome : relationFilter compiler node property inner context with
  | ok result =>
      obtain ⟨fragment, after⟩ := result
      obtain ⟨entity, other, _, shown, _, _, values, known, -, same, -, -, perm, -, rfl⟩ :=
        relationFilter_ok outcome
      cases found.symm.trans known
      cases ran.symm.trans same
      rw [unbound] at perm
      exact ⟨_, after, rfl, perm.eq_nil⟩
  | error error =>
      rcases relationFilter_error outcome with ⟨fault, missing, -⟩ | ⟨deep, -⟩ |
        ⟨entity, known, failed | ⟨shown, other, same, failed | ⟨fragment, empty, failed⟩⟩⟩
      · cases found.symm.trans missing
      · omega
      · cases found.symm.trans known
        cases ran.symm.trans failed
      · cases found.symm.trans known
        obtain ⟨fault, unresolved, -⟩ := Site.conditions_error failed
        cases resolved.symm.trans unresolved
      · cases found.symm.trans known
        cases ran.symm.trans same
        rw [unbound] at failed
        cases failed

end Filter

namespace Display

open TreeQuery.Filter (childOf opened)

variable {compiler : Compiler} {node : Node} {key : String} {property : Property}
  {target : Entity} {context : Context}

theorem relationField_succeeds {inner : Node → Compile Fragment} {shown : Fragment}
    {between : Context}
    (found : compiler.provider.entity property.typeName = .ok target)
    (shallow : context.depth + 1 ≤ compiler.settings.maxDepth)
    (ran : inner (childOf node target context) (opened node context) = .ok (shown, between))
    (unbound : shown.Unbound)
    (rendered : ∀ error, (Site.mk node property (childOf node target context)).render
      compiler.settings (body compiler (childOf node target context) shown) between.leave ≠
        .error error) :
    ∃ fragment after,
      relationField compiler node key property inner context = .ok (fragment, after) ∧
        fragment.Unbound := by
  cases outcome : relationField compiler node key property inner context with
  | ok result =>
      obtain ⟨fragment, after⟩ := result
      obtain ⟨entity, _, _, _, values, known, -, same, -, perm, -, rfl⟩ := relationField_ok outcome
      cases found.symm.trans known
      cases ran.symm.trans same
      rw [unbound] at perm
      exact ⟨_, after, rfl, perm.eq_nil⟩
  | error error =>
      rcases relationField_error outcome with ⟨fault, missing, -⟩ | ⟨deep, -⟩ |
        ⟨entity, known, failed | ⟨_, _, same, failed | ⟨fragment, empty, failed⟩⟩⟩
      · cases found.symm.trans missing
      · omega
      · cases found.symm.trans known
        cases ran.symm.trans failed
      · cases found.symm.trans known
        cases ran.symm.trans same
        exact (rendered error failed).elim
      · cases found.symm.trans known
        cases ran.symm.trans same
        rw [unbound] at failed
        cases failed

theorem keyFields_unbound (node : Node) : ∀ fragment ∈ keyFields node, fragment.Unbound := by
  intro fragment listed
  obtain ⟨property, -, rfl⟩ := List.mem_map.mp listed
  rfl

end Display

/-! ## Queries -/

namespace Compiler

variable {compiler : Compiler} {query : Query} {entity : Entity}

theorem compile_of_node {fragment : Fragment} {after : Context}
    (found : compiler.provider.entity query.entity = .ok entity)
    (unpaged : query.pagination = none)
    (done : Compile.node compiler (compiler.rootNode entity) (some query.selection) query.filter
      compiler.rootContext = .ok (fragment, after)) :
    ∃ statement, compiler.compile query = .ok statement := by
  have ran : compiler.statement query {} =
      .ok (⟨compiler.rootSelect (compiler.rootNode entity) fragment, fragment.values⟩, after) := by
    simp only [statement, root, unpaged, Compile.bind_ok, Compile.entity_ok,
      Compile.fromSupply_ok, Compile.pure_ok]
    exact ⟨_, _, ⟨entity, _, ⟨found, rfl⟩, _, _, ⟨rfl, rfl⟩, fragment, after, done, rfl, rfl⟩,
      fragment, after, ⟨rfl, rfl⟩, rfl, rfl⟩
  refine ⟨⟨compiler.rootSelect (compiler.rootNode entity) fragment, fragment.values⟩, ?_⟩
  simp [compile, StateT.run', ran, Functor.map, Except.map]

structure Leads (compiler : Compiler) (entity : Entity) (key : String) (property : Property) :
    Prop where
  served : compiler.provider.entity entity.name = .ok entity
  declared : entity.property? key = some property
  relation : property.isRelation = true
  linked : ∃ target link, compiler.provider.entity property.typeName = .ok target ∧
    Link.resolve entity property target = .ok link

variable {key : String} {property : Property}

theorem Leads.resolve (leads : compiler.Leads entity key property) :
    (compiler.resolver entity).resolve key = some (.property property) :=
  Resolver.resolve_of_declared leads.declared

theorem Leads.demanded (leads : compiler.Leads entity key property)
    (plain : Combinator.ofKey? key = none) (deep : 1 ≤ compiler.settings.maxDepth) :
    ∃ statement, compiler.compile (.demanding entity.name key) = .ok statement := by
  obtain ⟨target, link, found, resolved⟩ := leads.linked
  have role : Filter.role (compiler.resolver (compiler.rootNode entity).entity) key =
      .relation property := by
    have resolve := leads.resolve
    simp [Filter.role, plain, rootNode, resolve, Filter.fieldRole, leads.relation]
  obtain ⟨matched, after, entry, unbound⟩ : ∃ matched after,
      Filter.entry compiler (compiler.rootNode entity) key (.object []) compiler.rootContext =
        .ok (matched, after) ∧ matched.Unbound := by
    have nothing : Fragment.Unbound {} := rfl
    simp only [Filter.entry, role]
    exact Filter.relationFilter_succeeds found deep rfl nothing resolved
  obtain ⟨whole, reduced, empty⟩ := Fragment.reduce_unbound (List.forall_mem_singleton.mpr unbound)
  obtain ⟨fragment, all, -⟩ := Fragment.reduce_unbound (List.forall_mem_append.mpr
    ⟨Display.keyFields_unbound (compiler.rootNode entity), List.forall_mem_singleton.mpr empty⟩)
  have members : Filter.members compiler (compiler.rootNode entity) [(key, .object [])]
      compiler.rootContext = .ok ([matched], after) := by
    simp only [Filter.members, Compile.bind_ok, Compile.pure_ok]
    exact ⟨matched, after, entry, [], after, ⟨rfl, rfl⟩, rfl, rfl⟩
  have compiled := Filter.compile_of_members members reduced
  have keys : Display.parts compiler (compiler.rootNode entity) {} compiler.rootContext =
      .ok (Display.keyFields (compiler.rootNode entity), compiler.rootContext) := by
    simp only [Display.parts, List.isEmpty_nil, if_true, Compile.bind_ok, Compile.pure_ok]
    exact ⟨_, _, ⟨rfl, rfl⟩, [], _, rfl, by simp, rfl⟩
  have node : Compile.node compiler (compiler.rootNode entity) (some {})
      (some [(key, .object [])]) compiler.rootContext = .ok (fragment, after) := by
    simp only [Compile.node, Compile.bind_ok, Compile.pure_ok, Compile.reduce_ok]
    exact ⟨_, _, keys, whole, after, compiled, [whole], after, ⟨rfl, rfl⟩, all, rfl⟩
  exact compile_of_node leads.served rfl node

theorem Leads.shown (leads : compiler.Leads entity key property)
    (deep : 1 ≤ compiler.settings.maxDepth)
    (owning : ¬(property.reference = .manyToOne ∧ property.mappedBy.isSome = true)) :
    ∃ statement, compiler.compile (.showing entity.name key) = .ok statement := by
  obtain ⟨target, link, found, resolved⟩ := leads.linked
  obtain ⟨shown, after, field, unbound⟩ : ∃ shown after,
      Display.field compiler (compiler.rootNode entity) key .leaf compiler.rootContext =
        .ok (shown, after) ∧ shown.Unbound := by
    obtain ⟨keys, reduced, empty⟩ := Fragment.reduce_unbound
      (Display.keyFields_unbound (Filter.childOf (compiler.rootNode entity) target
        compiler.rootContext))
    have resolve : (compiler.resolver (compiler.rootNode entity).entity).resolve key =
        some (.property property) := leads.resolve
    simp only [Display.field, resolve, leads.relation, if_true]
    refine Display.relationField_succeeds found deep (Compile.reduce_ok.mpr ⟨reduced, rfl⟩) empty
      fun error failed => ?_
    obtain ⟨reference, mapped, -⟩ := Site.render_error leads.relation resolved failed
    exact owning ⟨reference, mapped⟩
  obtain ⟨fragment, all, -⟩ := Fragment.reduce_unbound (List.forall_mem_singleton.mpr unbound)
  have parts : Display.parts compiler (compiler.rootNode entity) { fields := [(key, .leaf)] }
      compiler.rootContext = .ok ([shown], after) := by
    simp only [Display.parts, Display.fields, List.isEmpty_cons, Bool.false_eq_true, if_false,
      Compile.bind_ok, Compile.pure_ok]
    exact ⟨[shown], after, ⟨shown, after, field, [], after, ⟨rfl, rfl⟩, rfl, rfl⟩, [], after,
      rfl, rfl, rfl⟩
  have node : Compile.node compiler (compiler.rootNode entity)
      (some { fields := [(key, .leaf)] }) none compiler.rootContext = .ok (fragment, after) := by
    simp only [Compile.node, Compile.bind_ok, Compile.pure_ok, Compile.reduce_ok]
    exact ⟨[shown], after, parts, [], after, ⟨rfl, rfl⟩, all, rfl⟩
  exact compile_of_node leads.served rfl node

theorem Leads.owning_of_shown (leads : compiler.Leads entity key property) {statement : Statement}
    (compiled : compiler.compile (.showing entity.name key) = .ok statement) :
    ¬(property.reference = .manyToOne ∧ property.mappedBy.isSome = true) := by
  rintro ⟨reference, mapped⟩
  obtain ⟨root, _, _, _, _, _, found, run, -⟩ := compile_ok compiled
  cases leads.served.symm.trans found
  have resolve : (compiler.resolver (compiler.rootNode entity).entity).resolve key =
      some (.property property) := leads.resolve
  -- the run goes through the only field, which is a relation and has been rendered
  simp only [Query.showing] at run
  cases run with
  | selected nonempty fields argued =>
      cases fields with
      | fields first later =>
          cases first with
          | computed other plain => cases resolve.symm.trans other
          | scalar other scalar plain =>
              cases resolve.symm.trans other
              cases leads.relation.symm.trans scalar
          | related other relation target shallow inner reduced brought perm distinct =>
              cases resolve.symm.trans other
              simp only [Site.render, reference, Site.manyToOne, mapped, if_true, Site.fail,
                Compile.throw_ok] at brought

theorem leads_of_accepted {entities : List Entity} {registry : Registry}
    (accepted : Registry.ofEntities entities = .ok registry)
    (provided : compiler.provider = registry.provider) (listed : entity ∈ entities)
    (declared : entity.property? key = some property) (relation : property.isRelation = true) :
    compiler.Leads entity key property := by
  have served : compiler.provider.entity entity.name = .ok entity := by
    rw [provided]
    exact Registry.entity_of_mem accepted listed
  exact ⟨served, declared, relation, Registry.linked_of_accepted accepted provided entity.name
    entity served property (List.mem_of_find?_eq_some declared) relation⟩

/--
On an accepted registry every relation can be filtered on.  It can be shown exactly if it
is no many-to-one relation that claims an owner.
-/
theorem filtered_and_shown {entities : List Entity} {registry : Registry}
    (accepted : Registry.ofEntities entities = .ok registry)
    (provided : compiler.provider = registry.provider)
    (deep : 1 ≤ compiler.settings.maxDepth) (listed : entity ∈ entities)
    (declared : entity.property? key = some property) (relation : property.isRelation = true)
    (plain : Combinator.ofKey? key = none) (named : key ≠ argumentsKey) :
    (∃ statement, compiler.compile (.demanding entity.name key) = .ok statement) ∧
      ∃ selection, Selection.ofJson (.object [(key, .object [])]) = .ok selection ∧
        ((∃ statement, compiler.compile { entity := entity.name, selection } = .ok statement) ↔
          ¬(property.reference = .manyToOne ∧ property.mappedBy.isSome = true)) := by
  have leads := leads_of_accepted accepted provided listed declared relation
  refine ⟨leads.demanded plain deep, _, Selection.ofJson_single named, ?_, leads.shown deep⟩
  rintro ⟨statement, compiled⟩
  exact leads.owning_of_shown compiled

end Compiler

namespace Sample

theorem filtered_and_shown_members :
    (∃ statement, compiler.compile (.demanding "Fellowship" "members") = .ok statement) ∧
      ∃ selection, Selection.ofJson (.object [("members", .object [])]) = .ok selection ∧
        ∃ statement, compiler.compile { entity := "Fellowship", selection } = .ok statement := by
  have listed : fellowship ∈ [person, fellowship, battle] := by simp
  have declared : fellowship.property? "members" =
      some ((Property.ofReference "members" "Person" .oneToMany).withMappedBy "fellowship") := rfl
  obtain ⟨demanded, selection, read, shown⟩ := Compiler.filtered_and_shown registry_accepted
    (rfl : compiler.provider = registry.provider) (by decide) listed declared rfl rfl (by decide)
  refine ⟨demanded, selection, read, shown.mpr ?_⟩
  rintro ⟨reference, -⟩
  cases reference

theorem guardian_filtered_but_not_shown :
    Registry.ofEntities [ward] = .ok ⟨[ward]⟩ ∧ wardCompiler.provider = (Registry.mk [ward]).provider ∧
      1 ≤ wardCompiler.settings.maxDepth ∧
      (∃ guardian, ward.property? "guardian" = some guardian ∧ guardian.isRelation = true) ∧
      (∃ statement, wardCompiler.compile (.demanding "Ward" "guardian") = .ok statement) ∧
      ¬∃ statement, wardCompiler.compile (.showing "Ward" "guardian") = .ok statement := by
  refine ⟨rfl, rfl, by decide, ⟨_, rfl, rfl⟩, exists_statement (by decide +kernel), ?_⟩
  have refused : (wardCompiler.compile (.showing "Ward" "guardian")).isOk = false := by
    decide +kernel
  rintro ⟨statement, compiled⟩
  rw [compiled] at refused
  cases refused

end Sample

end TreeQuery
