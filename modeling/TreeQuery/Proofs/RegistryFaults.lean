import TreeQuery.Proofs.QuietNames
import TreeQuery.Proofs.Sample
import TreeQuery.Proofs.SelectionFailures

/-!
# Requests on an accepted registry

Every relation of an accepted registry leads to an entity of the registry and
resolves to a link.  A compilation walks from entity to entity along such
relations only, so it never fails on the description of the entities.  What is
not checked beforehand is that a displayed many-to-one relation is an owning one.
-/

namespace TreeQuery

def Compiler.Linked (compiler : Compiler) : Prop :=
  ∀ name entity, compiler.provider.entity name = .ok entity →
    ∀ property ∈ entity.properties, property.isRelation = true →
      ∃ target link, compiler.provider.entity property.typeName = .ok target ∧
        Link.resolve entity property target = .ok link

def Compiler.Serves (compiler : Compiler) (entity : Entity) : Prop :=
  ∃ name, compiler.provider.entity name = .ok entity

theorem Registry.linked_of_checkProperty {registry : Registry} {entity : Entity}
    {property : Property} (checked : checkProperty registry entity property = .ok ())
    (relation : property.isRelation = true) :
    ∃ target link, registry.entity property.typeName = .ok target ∧
      Link.resolve entity property target = .ok link := by
  simp only [checkProperty, relation, if_true, Except.bind_ok] at checked
  obtain ⟨_, -, _, -, target, found, link, resolved, -⟩ := checked
  exact ⟨target, link, found, resolved⟩

theorem Registry.linked_of_accepted {entities : List Entity} {registry : Registry}
    {compiler : Compiler} (accepted : ofEntities entities = .ok registry)
    (provided : compiler.provider = registry.provider) : compiler.Linked := by
  obtain ⟨rfl, checked⟩ := ofEntities_ok accepted
  intro name entity found property listed relation
  rw [provided] at found ⊢
  obtain ⟨-, -, -, properties⟩ := checkEntity_ok.mp (checked entity (mem_of_entity found))
  exact linked_of_checkProperty (properties property listed) relation

namespace Site

variable {site : Site} {context : Context} {error : CompileError}

theorem render_error {settings : Settings} {body : Body} {link : Link}
    (relation : site.property.isRelation = true)
    (resolved : Link.resolve site.parent.entity site.property site.child.entity = .ok link)
    (failed : site.render settings body context = .error error) :
    site.property.reference = .manyToOne ∧ site.property.mappedBy.isSome = true ∧
      error = .relation site.parent.entity.name site.property.name .manyToOne .alwaysOwning := by
  have correlated : site.conditions context ≠ .error error := by
    intro failed
    obtain ⟨fault, unresolved, -⟩ := conditions_error failed
    rw [resolved] at unresolved
    cases unresolved
  unfold render at failed
  cases reference : site.property.reference with
  | scalar => simp [Property.isRelation, Reference.isRelation, reference] at relation
  | oneToOne =>
      rw [reference] at failed
      exact (correlated (singular_error failed)).elim
  | oneToMany =>
      simp only [reference, oneToMany] at failed
      split at failed
      · -- without an owner the link would not have resolved
        rename_i unmapped
        simp [Link.resolve, reference, Link.inverse, Option.isNone_iff_eq_none.mp unmapped]
          at resolved
      · exact (correlated (plural_error failed)).elim
  | manyToOne =>
      simp only [reference, manyToOne] at failed
      split at failed
      · rename_i mapped
        have thrown := Compile.throw_error.mp failed
        rw [reference] at thrown
        exact ⟨rfl, mapped, thrown.symm⟩
      · exact (correlated (singular_error failed)).elim
  | manyToMany =>
      rw [reference] at failed
      exact (correlated (plural_error failed)).elim

end Site

/-! ## Filters -/

namespace Filter

variable {compiler : Compiler} {node : Node}

theorem linked_of_role (linked : compiler.Linked) (served : compiler.Serves node.entity)
    {key : String} {property : Property}
    (role : role (compiler.resolver node.entity) key = .relation property) :
    ∃ target link, compiler.provider.entity property.typeName = .ok target ∧
      Link.resolve node.entity property target = .ok link := by
  obtain ⟨name, found⟩ := served
  obtain ⟨resolved, relation⟩ := resolve_of_role_relation role
  exact linked name node.entity found property (Resolver.mem_of_resolve resolved) relation

theorem Fails.blame_ne_catalog (linked : compiler.Linked) {part : Part} {context : Context}
    {error : CompileError} (failed : Fails compiler node part context error)
    (served : compiler.Serves node.entity) : error.blame ≠ .catalog := by
  induction failed with
  | first failed ih => exact ih served
  | later ran failed ih => exact ih served
  | element failed ih => exact ih served
  | reduced ran failed => simp [Fragment.blame_of_reduce failed]
  | laterElement ran failed ih => exact ih served
  | leaf failed =>
      rcases leafFilter_error failed with blamed | ⟨_, _, _, _, _, failed⟩ | ⟨_, _, _, _, _, failed⟩
      · simp [blamed]
      · rcases applyOperator_error failed with blamed | ⟨_, _, _, _, failed⟩
        · simp [blamed]
        · simp [Fragment.blame_of_checked failed]
      · simp [Fragment.blame_of_reduce failed]
  | notObject role failed => simp [blame_of_checkElements failed]
  | combinedList role failed ih => exact ih served
  | combinedObject role failed ih => exact ih served
  | hoisted role ran failed =>
      obtain ⟨_, _, _, -, failed⟩ := combine_error failed
      simp [Fragment.blame_of_checked failed]
  | unknownTarget role missing =>
      obtain ⟨target, link, found, -⟩ := linked_of_role linked served role
      cases missing.symm.trans found
  | tooDeep role deep => simp [CompileError.blame]
  | related role found failed ih => exact ih ⟨_, found⟩
  | uncorrelated role found ran failed =>
      obtain ⟨target, link, known, resolved⟩ := linked_of_role linked served role
      cases found.symm.trans known
      obtain ⟨fault, unresolved, -⟩ := Site.conditions_error failed
      cases unresolved.symm.trans resolved
  | rebound role found ran unbound failed => simp [Fragment.blame_of_checked failed]

end Filter

/-! ## Selections -/

/-- The key shows a many-to-one property that is mapped by another, which the error reports. -/
def Compiler.RefusesInverse (compiler : Compiler) (error : CompileError) (shown : Entity × String) :
    Prop :=
  ∃ property, (compiler.resolver shown.1).resolve shown.2 = some (.property property) ∧
    property.reference = .manyToOne ∧ property.mappedBy.isSome = true ∧
    error = .relation shown.1.name property.name .manyToOne .alwaysOwning

def Selection.ownKeys (node : Entity × Selection) : List (Entity × String) :=
  node.2.fields.map fun field => (node.1, field.1)

namespace Display

open TreeQuery.Filter (childOf opened)

variable {compiler : Compiler} {node : Node}

def Part.shownKeys (compiler : Compiler) (entity : Entity) : Part → List (Entity × String)
  | .selection whole => (whole.nodes compiler entity).flatMap Selection.ownKeys
  | .fields list =>
      (list.map fun field => (entity, field.1)) ++
        (Selection.fieldNodes compiler entity list).flatMap Selection.ownKeys
  | .field key wanted =>
      (entity, key) :: (Selection.nodesOf compiler entity key wanted).flatMap Selection.ownKeys

theorem Part.shownKeys_selection (entity : Entity) (fields : List (String × FieldNode))
    (given : Option Arguments) :
    (Part.selection ⟨fields, given⟩).shownKeys compiler entity =
      (Part.fields fields).shownKeys compiler entity := by
  simp only [shownKeys, Selection.nodes, List.flatMap_cons, Selection.ownKeys]

theorem Part.mem_shownKeys_fields {entity : Entity} {key : String} {wanted : FieldNode}
    {rest : List (String × FieldNode)} {shown : Entity × String} :
    shown ∈ (Part.fields ((key, wanted) :: rest)).shownKeys compiler entity ↔
      shown ∈ (Part.field key wanted).shownKeys compiler entity ∨
        shown ∈ (Part.fields rest).shownKeys compiler entity := by
  simp only [shownKeys, Selection.fieldNodes, List.map_cons, List.flatMap_append,
    List.mem_append, List.mem_cons]
  tauto

theorem Part.mem_shownKeys_related {key : String} {wanted : FieldNode} {property : Property}
    {child : Entity} {shown : Entity × String}
    (resolved : (compiler.resolver node.entity).resolve key = some (.property property))
    (relation : property.isRelation = true)
    (found : compiler.provider.entity property.typeName = .ok child)
    (below : shown ∈ (Part.selection wanted.selection).shownKeys compiler child) :
    shown ∈ (Part.field key wanted).shownKeys compiler node.entity := by
  cases wanted with
  | leaf =>
      -- nothing is shown below a field that is wanted as it is
      simp [FieldNode.selection, shownKeys, Selection.nodes, Selection.fieldNodes,
        Selection.ownKeys] at below
  | nested selection =>
      simp only [shownKeys, Selection.nodesOf, Compiler.related?_of_relation resolved relation found]
      exact List.mem_cons_of_mem _ below

/-- If the catalog is blamed, then for a relation that is shown. -/
theorem Fails.refusesInverse (linked : compiler.Linked) {part : Part} {context : Context}
    {error : CompileError} (failed : Fails compiler node part context error)
    (served : compiler.Serves node.entity) (blamed : error.blame = .catalog) :
    ∃ shown ∈ part.shownKeys compiler node.entity, compiler.RefusesInverse error shown := by
  induction failed with
  | fields failed ih =>
      rw [Part.shownKeys_selection]
      exact ih served blamed
  | filter filtered failed => exact (failed.blame_ne_catalog linked served blamed).elim
  | first failed ih =>
      obtain ⟨shown, listed, refuses⟩ := ih served blamed
      exact ⟨shown, Part.mem_shownKeys_fields.mpr (.inl listed), refuses⟩
  | later ran failed ih =>
      obtain ⟨shown, listed, refuses⟩ := ih served blamed
      exact ⟨shown, Part.mem_shownKeys_fields.mpr (.inr listed), refuses⟩
  | unresolved => cases blamed
  | noSubfields => cases blamed
  | unknownTarget resolved relation missing =>
      obtain ⟨name, known⟩ := served
      obtain ⟨target, link, found, -⟩ :=
        linked name _ known _ (Resolver.mem_of_resolve resolved) relation
      cases missing.symm.trans found
  | tooDeep deep => cases blamed
  | related resolved relation found failed ih =>
      obtain ⟨shown, listed, refuses⟩ := ih ⟨_, found⟩ blamed
      exact ⟨shown, Part.mem_shownKeys_related resolved relation found listed, refuses⟩
  | reduced ran failed => cases (Fragment.blame_of_reduce failed).symm.trans blamed
  | @unrendered node key wanted property _ _ _ _ _ resolved relation found failed =>
      obtain ⟨name, known⟩ := served
      obtain ⟨target, link, present, linkage⟩ :=
        linked name _ known _ (Resolver.mem_of_resolve resolved) relation
      cases found.symm.trans present
      obtain ⟨reference, mapped, rfl⟩ := Site.render_error relation linkage failed
      exact ⟨(node.entity, key), List.mem_cons_self, property, resolved, reference, mapped, rfl⟩
  | rebound ran reduced unbound failed =>
      cases (Fragment.blame_of_checked failed).symm.trans blamed

end Display

/-! ## Queries -/

namespace Compiler

theorem Fails.refusesInverse {compiler : Compiler} {query : Query} {error : CompileError}
    (linked : compiler.Linked) (failed : Fails compiler query error)
    (blamed : error.blame = .catalog) :
    (∃ fault, compiler.provider.entity query.entity = .error fault ∧ error = .catalog fault) ∨
      ∃ node ∈ query.nodes compiler, ∃ selected ∈ node.2.fields,
        compiler.RefusesInverse error (node.1, selected.1) := by
  cases failed with
  | unknownRoot missing => exact .inl ⟨_, missing, rfl⟩
  | selection found failed =>
      obtain ⟨shown, listed, refuses⟩ :=
        failed.refusesInverse linked ⟨query.entity, found⟩ blamed
      obtain ⟨node, present, own⟩ := List.mem_flatMap.mp listed
      obtain ⟨selected, wanted, rfl⟩ := List.mem_map.mp own
      refine .inr ⟨node, ?_, selected, wanted, refuses⟩
      simpa only [Query.nodes, found, Compiler.rootNode] using present
  | filter found filtered failed =>
      exact (failed.blame_ne_catalog linked ⟨query.entity, found⟩ blamed).elim
  | reduced found ran given failed =>
      cases (Fragment.blame_of_reduce failed).symm.trans blamed

/--
A registry that was accepted is not to blame for a query that fails, except that the
root entity may be unknown and that a displayed many-to-one relation may claim an owner.
-/
theorem catalog_blamed_only_for_root_or_inverse {entities : List Entity} {registry : Registry}
    {compiler : Compiler} {query : Query} {error : CompileError}
    (accepted : Registry.ofEntities entities = .ok registry)
    (provided : compiler.provider = registry.provider)
    (failed : compiler.compile query = .error error) :
    (∀ fault, error = .catalog fault →
      fault = .unknownEntity query.entity ∧ registry.find? query.entity = none) ∧
    (∀ entity field reference fault, error = .relation entity field reference fault →
      ∃ node ∈ query.nodes compiler, ∃ selected ∈ node.2.fields,
        compiler.RefusesInverse error (node.1, selected.1)) := by
  have linked := Registry.linked_of_accepted accepted provided
  have split := fun blamed => (compile_fails failed).refusesInverse linked blamed
  constructor
  · rintro fault rfl
    rcases split rfl with ⟨found, missing, same⟩ | ⟨_, _, _, _, _, _, _, _, other⟩
    · cases same
      rw [provided] at missing
      simp only [Registry.provider, Registry.entity] at missing
      split at missing
      · cases missing
      · rename_i absent
        cases missing
        exact ⟨rfl, absent⟩
    · cases other
  · rintro entity field reference fault rfl
    rcases split rfl with ⟨_, _, other⟩ | refused
    · cases other
    · exact refused

end Compiler

namespace Sample

def ward : Entity :=
  { name := "Ward"
    table := "ward"
    primaryKeys := ["id"]
    properties :=
      [.ofColumn "id" "int" "id",
        ((Property.ofReference "guardian" "Ward" .manyToOne).withJoinColumns
          ["guardian_id"]).withMappedBy "wards"] }

def wardCompiler : Compiler := { provider := (Registry.mk [ward]).provider }

def guardians : Query :=
  { entity := "Ward", selection := { fields := [("guardian", .leaf)] } }

theorem catalog_blamed_for_guardians :
    ∃ error, wardCompiler.compile guardians = .error error ∧ error.blame = .catalog ∧
      ∃ node ∈ guardians.nodes wardCompiler, ∃ selected ∈ node.2.fields,
        wardCompiler.RefusesInverse error (node.1, selected.1) := by
  have accepted : Registry.ofEntities [ward] = .ok ⟨[ward]⟩ := rfl
  have blamed : (match wardCompiler.compile guardians with
      | .error error => error.blame
      | .ok _ => .request) = Blame.catalog := by decide +kernel
  cases failed : wardCompiler.compile guardians with
  | ok statement =>
      rw [failed] at blamed
      cases blamed
  | error error =>
      rw [failed] at blamed
      obtain ⟨known, refused⟩ :=
        Compiler.catalog_blamed_only_for_root_or_inverse accepted rfl failed
      refine ⟨error, rfl, blamed, ?_⟩
      cases error with
      | catalog fault => cases (known fault rfl).2
      | relation entity field reference fault => exact refused entity field reference fault rfl
      | _ => cases blamed

end Sample

end TreeQuery
