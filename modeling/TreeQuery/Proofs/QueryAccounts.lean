import TreeQuery.Proofs.Accounts

/-!
# Bound names and parameters of whole queries

The accounts of filters carry over to selections, whose arguments hold filters, and
to statements.  So a statement binds a name in vain exactly if some filter of its
query wastes a literal.
-/

namespace TreeQuery

open Sql (Parameter)
open Fragment (Balanced)

/-! ## Selections -/

def Selection.wastesAt (compiler : Compiler) (node : Entity × Selection) : Bool :=
  node.2.filter?.any fun filter => (Filter.tally compiler node.1 filter).wastes

namespace Display

open TreeQuery.Filter (childOf opened)

def Part.nodes (compiler : Compiler) (entity : Entity) : Part → List (Entity × Selection)
  | .selection whole => whole.nodes compiler entity
  | .fields list => Selection.fieldNodes compiler entity list
  | .field key wanted => Selection.nodesOf compiler entity key wanted

def Part.wastes (compiler : Compiler) (entity : Entity) (part : Part) : Bool :=
  (part.nodes compiler entity).any (Selection.wastesAt compiler)

theorem silent_of_unfiltered {fragment : Fragment} (joins : fragment.joins = [])
    (vacuous : fragment.isVacuous = true) : fragment.parameters = [] := by
  rw [Fragment.parameters, joins, Fragment.filterParameters_of_isVacuous vacuous]
  rfl

theorem ofPagination_silent (pagination : Pagination) :
    (Fragment.ofPagination pagination).parameters = [] ∧
      (Fragment.ofPagination pagination).values = [] := by
  refine ⟨silent_of_unfiltered rfl ?_, rfl⟩
  rw [Fragment.isVacuous_eq]
  rfl

theorem scalarField_silent (node : Node) (key : String) (columns : List String) :
    (scalarField node key columns).parameters = [] ∧
      (scalarField node key columns).values = [] := by
  refine ⟨silent_of_unfiltered rfl ?_, rfl⟩
  rw [Fragment.isVacuous_eq]
  rfl

theorem computedField_silent (key : String) (columns : List String) :
    (computedField key columns).parameters = [] ∧ (computedField key columns).values = [] := by
  refine ⟨silent_of_unfiltered rfl ?_, rfl⟩
  rw [Fragment.isVacuous_eq]
  rfl

theorem Argued.balanced {compiler : Compiler} {node : Node} {given : Arguments}
    {context after : Context} {fragments : List Fragment}
    (argued : Argued compiler node given context fragments after) :
    Balanced fragments
      (given.filter.any fun filter => (Filter.tally compiler node.entity filter).wastes) := by
  have sliced : Balanced (given.pagination.map Fragment.ofPagination).toList false := by
    refine Fragment.balanced_of_silent fun fragment member => ?_
    obtain ⟨pagination, -, rfl⟩ := Option.map_eq_some_iff.mp (Option.mem_toList.mp member)
    exact ofPagination_silent pagination
  cases argued with
  | unfiltered unfiltered => simpa [unfiltered] using sliced
  | filtered filtered compiled =>
      have both := (Filter.compile_accounted compiled).balanced.append sliced
      simpa [filtered] using both

theorem relating_balanced (key : String) {compiler : Compiler} {child : Node} {stem : String}
    {site : Site} {shown : Fragment} {context after : Context} {rendered : Rendered} {values : Bindings}
    {wastes : Bool}
    (displayed : site.Displayed stem (body compiler child shown) context rendered after)
    (perm : values.Perm shown.values) (distinct : values.names.Nodup)
    (balanced : Balanced [shown] wastes) : Balanced [relating key rendered values] wastes := by
  have passed : ∀ parameter, parameter ∈ (relating key rendered values).parameters ↔
      parameter ∈ shown.parameters := by
    intro parameter
    have lowered : parameter ∈ (shown.lower (Filter.scope child)).parameters ↔
        parameter ∈ shown.filterParameters := Fragment.mem_lower_parameters
    have unfiltered : (relating key rendered values).filterParameters = [] := by
      apply Fragment.filterParameters_of_isVacuous
      rw [Fragment.isVacuous_eq]
      rfl
    rw [Fragment.parameters, unfiltered, List.append_nil, relating, List.flatMap_singleton,
      displayed.parameters, Fragment.parameters, List.mem_append, List.mem_append, ← lowered]
    simp only [body, Branch.parameters, List.flatMap_append, List.mem_append]
    tauto
  refine balanced.gather ?_ distinct fun name => ?_
  · rw [List.flatMap_singleton]
    exact perm
  · simp only [List.flatMap_singleton, Fragment.usedNames, List.mem_map, passed]

section Nodes

variable {compiler : Compiler} {entity child : Entity} {key : String} {property : Property}
  {wanted : FieldNode}

theorem Part.nodes_computed {found : ComputedField}
    (resolved : (compiler.resolver entity).resolve key = some (.computed found)) :
    (Part.field key wanted).nodes compiler entity = [] := by
  cases wanted <;> simp [Part.nodes, Selection.nodesOf, Compiler.related?_of_computed resolved]

theorem Part.nodes_scalar
    (resolved : (compiler.resolver entity).resolve key = some (.property property))
    (scalar : property.isRelation = false) :
    (Part.field key wanted).nodes compiler entity = [] := by
  cases wanted <;>
    simp [Part.nodes, Selection.nodesOf, Compiler.related?_of_scalar resolved scalar]

theorem Part.nodes_related {selection : Selection}
    (resolved : (compiler.resolver entity).resolve key = some (.property property))
    (relation : property.isRelation = true)
    (found : compiler.provider.entity property.typeName = .ok child) :
    (Part.field key (.nested selection)).nodes compiler entity =
      (Part.selection selection).nodes compiler child := by
  simp [Part.nodes, Selection.nodesOf, Compiler.related?_of_relation resolved relation found]

end Nodes

theorem wastes_selection (compiler : Compiler) (entity : Entity)
    (fields : List (String × FieldNode)) (given : Option Arguments) :
    (Part.selection ⟨fields, given⟩).wastes compiler entity =
      (((given.getD {}).filter.any fun filter => (Filter.tally compiler entity filter).wastes) ||
        (Part.fields fields).wastes compiler entity) := by
  simp only [Part.wastes, Part.nodes, Selection.nodes, List.any_cons, Selection.wastesAt,
    Selection.filter?_eq]

theorem Runs.balanced {compiler : Compiler} {node : Node} {part : Part}
    {context after : Context} {fragments : List Fragment}
    (run : Runs compiler node part context fragments after) :
    Balanced fragments (part.wastes compiler node.entity) := by
  induction run with
  | @keys node given context after fragments argued =>
      have keys : Balanced (keyFields node) false := by
        refine Fragment.balanced_of_silent fun fragment member => ?_
        obtain ⟨property, -, rfl⟩ := List.mem_map.mp member
        exact scalarField_silent node property.name property.columns
      have both := keys.append argued.balanced
      rw [wastes_selection]
      simpa [Part.wastes, Part.nodes, Selection.fieldNodes] using both
  | selected nonempty ran argued shown =>
      rw [wastes_selection, Bool.or_comm]
      exact shown.append argued.balanced
  | noFields => exact Fragment.balanced_of_silent (by simp)
  | fields first later firstBalanced laterBalanced =>
      have both := firstBalanced.append laterBalanced
      simpa [Part.wastes, Part.nodes, Selection.fieldNodes] using both
  | computed resolved plain =>
      rw [Part.wastes, Part.nodes_computed resolved]
      exact Fragment.balanced_of_silent (by simpa using computedField_silent _ _)
  | scalar resolved scalar plain =>
      rw [Part.wastes, Part.nodes_scalar resolved scalar]
      exact Fragment.balanced_of_silent (by simpa using scalarField_silent _ _ _)
  | @related _ key wanted _ _ _ _ _ _ _ _ _ resolved relation found _ _ reduced brought perm
      distinct balanced =>
      have shown :=
        relating_balanced key (Site.render_ok brought) perm distinct (balanced.reduce reduced)
      cases wanted with
      | leaf => exact shown
      | nested selection =>
          rw [Part.wastes, Part.nodes_related resolved relation found]
          exact shown

end Display

/-! ## Statements -/

namespace Compiler

theorem mem_rootSelect_parameters {compiler : Compiler} {node : Node} {fragment : Fragment}
    {parameter : Parameter} :
    parameter ∈ (compiler.rootSelect node fragment).parameters ↔
      parameter ∈ fragment.parameters := by
  have lowered : parameter ∈ (fragment.lower (Filter.scope node)).parameters ↔
      parameter ∈ fragment.filterParameters := Fragment.mem_lower_parameters
  rw [Fragment.parameters, List.mem_append, ← lowered]
  simp only [rootSelect, Scope.source, Sql.Select.parameters, Sql.Source.parameters,
    Sql.Join.parametersAll_eq, Sql.Condition.parametersAll_eq, Branch.parameters,
    List.flatMap_append, List.mem_append, List.nil_append]
  tauto

theorem wastes_eq {compiler : Compiler} {query : Query} {entity : Entity}
    (found : compiler.provider.entity query.entity = .ok entity) :
    query.wastes compiler =
      ((query.filter.any fun filter => (Filter.tally compiler entity filter).wastes) ||
        (Display.Part.selection query.selection).wastes compiler entity) := by
  simp only [Query.wastes, Query.filters, Query.nodes, found, List.any_append, List.any_flatMap,
    List.any_map, Display.Part.wastes, Display.Part.nodes]
  congr 1
  · cases query.filter <;> simp
  · refine congrArg _ (funext fun node => ?_)
    simp only [Selection.wastesAt]
    cases node.2.filter? <;> simp

/-- All parameters of a statement are bound, and all bound names are used unless some are wasted. -/
theorem compile_balanced {compiler : Compiler} {query : Query} {statement : Statement}
    (compiled : compiler.compile query = .ok statement) :
    (∀ parameter ∈ statement.query.parameters, parameter.name ∈ statement.bindings.names) ∧
      ((∃ name ∈ statement.bindings.names,
          name ∉ statement.query.parameters.map Parameter.name) ↔
        query.wastes compiler = true) ∧
      statement.bindings.names.Nodup := by
  obtain ⟨entity, shown, argued, fragment, between, after, found, run, given, reduced, rfl⟩ :=
    compile_ok compiled
  have balanced := (run.balanced.append given.balanced).reduce reduced
  have used : ∀ name, name ∈ (compiler.rootSelect (compiler.rootNode entity)
      fragment).parameters.map Parameter.name ↔ name ∈ fragment.usedNames := by
    intro name
    simp only [Fragment.usedNames, List.mem_map, mem_rootSelect_parameters]
  refine ⟨fun parameter held => ?_, ?_, (Fragment.reduce_values reduced).2⟩
  · refine balanced.backed fragment List.mem_cons_self parameter.name ((used _).mp ?_)
    exact List.mem_map_of_mem held
  · have idle := balanced.idle
    simp only [List.mem_singleton, exists_eq_left, Fragment.Idle] at idle
    simp only [used, idle]
    rw [wastes_eq found, Bool.or_comm]
    rfl

end Compiler

end TreeQuery
