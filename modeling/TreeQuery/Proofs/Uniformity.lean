import TreeQuery.Proofs.Operators
import TreeQuery.Proofs.Renaming

/-!
# Compilation under another stem

A compilation that draws its names without a stem and one that draws them with a stem
go through the same steps: at each of them the one differs from the other by the stem
in front of the names.  This holds of failures too.
-/

namespace TreeQuery

def Compiler.withStem (compiler : Compiler) (stem : String) : Compiler :=
  { compiler with settings := { compiler.settings with stem } }

@[simp] theorem Compiler.resolver_withStem (compiler : Compiler) (stem : String)
    (entity : Entity) :
    (compiler.withStem stem).resolver entity = compiler.resolver entity := rfl

variable {α β : Type} {stem : String}

/-! ## Steps -/

namespace Compile

/-- From every context, `other` does with the stem what `step` does without. -/
def Moved (stem : String) (act : α → α) (step other : Compile α) : Prop :=
  ∀ context, other (context.restem stem) =
    moved stem (Prod.map act (Context.restem stem)) (step context)

theorem moved_pure {act : α → α} {value result : α} (same : result = act value) :
    Moved stem act (pure value) (pure result) := by
  intro context
  rw [same]
  rfl

theorem moved_throw {act : α → α} {error fault : CompileError}
    (same : fault = error.restem stem) : Moved stem act (throw error) (throw fault) := by
  intro context
  rw [same]
  rfl

theorem moved_ofExcept {act : α → α} {outcome other : Except CompileError α}
    (same : other = moved stem act outcome) :
    Moved stem act (ofExcept outcome) (ofExcept other) := by
  intro context
  rw [same]
  cases outcome <;> rfl

theorem Moved.bind {act : α → α} {final : β → β} {first other : Compile α}
    {next follow : α → Compile β} (same : Moved stem act first other)
    (later : ∀ value, Moved stem final (next value) (follow (act value))) :
    Moved stem final (first >>= next) (other >>= follow) := by
  intro context
  change other (context.restem stem) >>= (fun pair => follow pair.1 pair.2) =
    moved stem _ (first context >>= fun pair => next pair.1 pair.2)
  rw [same context]
  exact moved_bind fun pair => later pair.1 pair.2

theorem moved_fromSupply_bind (act : α → α) {final : β → β}
    {draw other : Sql.Supply → α × Sql.Supply} {next follow : α → Compile β}
    (same : ∀ supply : Sql.Supply, other (supply.restem stem) =
      (act (draw supply).1, (draw supply).2.restem stem))
    (later : ∀ supply, Moved stem final (next (draw supply).1) (follow (act (draw supply).1))) :
    Moved stem final (fromSupply draw >>= next) (fromSupply other >>= follow) := by
  intro context
  change follow (other (context.supply.restem stem)).1
      { context.restem stem with supply := (other (context.supply.restem stem)).2 } = _
  rw [same]
  exact later context.supply { context with supply := (draw context.supply).2 }

theorem moved_freshAlias_bind {final : β → β} (kind : Sql.Alias.Kind)
    {next follow : Sql.Alias → Compile β}
    (later : ∀ label, label.stem = "" → Moved stem final (next label) (follow (label.restem stem))) :
    Moved stem final (freshAlias kind "" >>= next) (freshAlias kind stem >>= follow) :=
  moved_fromSupply_bind _ (Sql.Supply.restem_next stem kind) fun _ => later _ rfl

theorem moved_enter (limit : Nat) : Moved stem id (enter limit) (enter limit) := by
  intro context
  by_cases deep : limit < context.depth + 1 <;>
    simp [enter, Context.enter, Context.restem, deep] <;> rfl

theorem moved_leave : Moved stem id leave leave := fun _ => rfl

theorem moved_reduce (fragments : List Fragment) :
    Moved stem (Fragment.restem stem) (reduce fragments)
      (reduce (fragments.map (Fragment.restem stem))) :=
  moved_ofExcept (Fragment.reduce_restem stem fragments)

theorem moved_bindAll (stem : String) (fragment : Fragment) (entries : List (String × Json)) :
    Moved stem (Fragment.restem stem) (ofExcept (Fragment.checked (fragment.bindAll entries)))
      (ofExcept (Fragment.checked
        ((fragment.restem stem).bindAll (Bindings.restem stem entries)))) := by
  refine moved_ofExcept ?_
  rw [Fragment.bindAll_restem, Fragment.checked_restem]

end Compile

open Compile (Moved moved_pure moved_throw moved_ofExcept moved_freshAlias_bind moved_reduce)

/-! ## Relations -/

def Rendered.restem (stem : String) (rendered : Rendered) : Rendered :=
  ⟨rendered.join.restem stem, rendered.label.restem stem⟩

def Body.restem (stem : String) (body : Body) : Body :=
  { body with
    object := body.object.restem stem
    joins := body.joins.map (Sql.Join.restem stem)
    conditions := body.conditions.map (Sql.Condition.restem stem)
    order := body.order.map (Sql.Order.restem stem) }

namespace Site

def restem (stem : String) (site : Site) : Site :=
  { site with parent := site.parent.restem stem, child := site.child.restem stem }

theorem moved_fail {act : α → α} (site : Site) (fault : RelationFault) :
    Moved stem act (site.fail fault) ((site.restem stem).fail fault) :=
  moved_throw rfl

theorem moved_link (site : Site) : Moved stem id site.link (site.restem stem).link := by
  unfold link
  simp only [restem, Node.restem]
  cases Link.resolve site.parent.entity site.property site.child.entity with
  | ok link => exact moved_pure rfl
  | error error => exact moved_throw rfl

theorem moved_correlation (link : Link) (parent : Sql.Alias) {child : Sql.Alias}
    (bare : child.stem = "") :
    Moved stem (List.map (Sql.Condition.restem stem)) (correlation link parent child)
      (correlation link (parent.restem stem) (child.restem stem)) := by
  cases link with
  | direct parentColumns childColumns =>
      refine moved_pure ?_
      simp [← Sql.Alias.restem_columns, List.zip_map, Sql.Condition.restem]
  | pivot table parentColumns pivotParentColumns pivotChildColumns childColumns =>
      simp only [correlation, bare, Sql.Alias.restem_stem]
      refine moved_freshAlias_bind .pivot fun pivot _ => moved_pure ?_
      simp [← Sql.Alias.restem_columns, List.zip_map, Sql.Condition.restem, hop, Sql.Hop.restem]

theorem moved_conditions (site : Site) (bare : site.child.label.stem = "") :
    Moved stem (List.map (Sql.Condition.restem stem)) site.conditions
      (site.restem stem).conditions :=
  (moved_link site).bind fun link => moved_correlation link site.parent.label bare

section Display

variable {settings : Settings} (named : settings.stem = "") (site : Site)
  (bare : site.child.label.stem = "")
include named bare

theorem moved_singular (body : Body) (limitOne : Bool) :
    Moved stem (Rendered.restem stem) (site.singular settings body limitOne)
      ((site.restem stem).singular { settings with stem } (body.restem stem) limitOne) := by
  unfold singular
  refine (moved_conditions site bare).bind fun conditions => ?_
  rw [named]
  refine moved_freshAlias_bind .subquery fun label _ => moved_pure ?_
  simp [display, Rendered.restem, Sql.Join.restem, Sql.Select.restem, Sql.Output.restem,
    Sql.Join.restemAll_eq, Sql.Condition.restemAll_eq, Site.source, Sql.Source.restem,
    Body.restem, restem, Node.restem]

theorem moved_plural (body : Body) :
    Moved stem (Rendered.restem stem) (site.plural settings body)
      ((site.restem stem).plural { settings with stem } (body.restem stem)) := by
  have paginated : (body.restem stem).isPaginated = body.isPaginated := by
    simp [Body.isPaginated, Body.restem]
  have output : pageOutput (body.restem stem) = (pageOutput body).restem stem := by
    unfold pageOutput
    cases given : body.order <;> simp [Body.restem, given, Sql.Output.restem]
  unfold plural
  refine (moved_conditions site bare).bind fun conditions => ?_
  rw [paginated, output, named]
  split
  · refine moved_freshAlias_bind .page fun page _ => ?_
    refine moved_freshAlias_bind .subquery fun label _ => moved_pure ?_
    simp [display, Rendered.restem, Sql.Join.restem, Sql.Select.restem, Sql.Output.restem,
      Sql.Join.restemAll_eq, Sql.Condition.restemAll_eq, Site.source, Sql.Source.restem,
      Body.restem, restem, Node.restem]
  · refine moved_freshAlias_bind .subquery fun label _ => moved_pure ?_
    simp [display, Rendered.restem, Sql.Join.restem, Sql.Select.restem, Sql.Output.restem,
      Sql.Join.restemAll_eq, Sql.Condition.restemAll_eq, Site.source, Sql.Source.restem,
      Body.restem, restem, Node.restem]

theorem moved_render (body : Body) :
    Moved stem (Rendered.restem stem) (site.render settings body)
      ((site.restem stem).render { settings with stem } (body.restem stem)) := by
  have property : (site.restem stem).property = site.property := rfl
  unfold render
  rw [property]
  cases site.property.reference with
  | scalar => exact moved_fail site _
  | oneToOne => exact moved_singular named site bare body _
  | oneToMany =>
      simp only [oneToMany, property]
      split
      · exact moved_fail site _
      · exact moved_plural named site bare body
  | manyToOne =>
      simp only [manyToOne, property]
      split
      · exact moved_fail site _
      · exact moved_singular named site bare body _
  | manyToMany => exact moved_plural named site bare body

end Display

end Site

/-! ## Filters -/

namespace Filter

open Sql (Supply Parameter)

theorem withParameters_restem (label : Sql.Alias) (field : String) (test : Sql.Test Json)
    (supply : Supply) :
    withParameters (label.restem stem) field test (supply.restem stem) =
      (withParameters label field test supply).map (Parameter.restem stem) := by
  refine Sql.Test.eq_of_shape ?_ ?_
  · rw [Sql.Test.shape_map, withParameters_shape, withParameters_shape]
  · rw [Sql.Test.slots_map, withParameters_slots, withParameters_slots]
    simp [Supply.upcoming, Supply.restem, Parameter.restem]

theorem testSubjects_restem (stem : String) (label : Sql.Alias) (field : String) (test : Sql.Test Json)
    (subjects : List (List Sql.Column)) (supply : Supply) (bound : List (Parameter × Json)) :
    testSubjects (label.restem stem) field test (subjects.map (List.map (Sql.Column.restem stem)))
        (supply.restem stem, bound.map (Prod.map (Parameter.restem stem) id)) =
      ((testSubjects label field test subjects (supply, bound)).1.map (Sql.Condition.restem stem),
        (testSubjects label field test subjects (supply, bound)).2.1.restem stem,
        (testSubjects label field test subjects (supply, bound)).2.2.map
          (Prod.map (Parameter.restem stem) id)) := by
  induction subjects generalizing supply bound with
  | nil => rfl
  | cons subject rest ih =>
      have drawn : (supply.restem stem).upcoming (label.restem stem) field test.slots.length =
          (supply.upcoming label field test.slots.length).map (Parameter.restem stem) := by
        simp [Supply.upcoming, Supply.restem, Parameter.restem]
      have skipped : (supply.restem stem).skip test.slots.length =
          (supply.skip test.slots.length).restem stem := rfl
      have extended : bound.map (Prod.map (Parameter.restem stem) id) ++
          ((supply.upcoming label field test.slots.length).map (Parameter.restem stem)).zip
            test.slots =
          (bound ++ (supply.upcoming label field test.slots.length).zip test.slots).map
            (Prod.map (Parameter.restem stem) id) := by
        rw [List.map_append, List.zip_map_left]
      rw [List.map_cons, testSubjects_cons, testSubjects_cons, withParameters_restem, drawn,
        skipped, extended, ih]
      simp [Sql.Condition.restem]

theorem label_of_testSubjects (label : Sql.Alias) (field : String) (test : Sql.Test Json)
    (subjects : List (List Sql.Column)) (supply : Supply) (bound : List (Parameter × Json))
    (own : ∀ entry ∈ bound, entry.1.label = label) :
    ∀ entry ∈ (testSubjects label field test subjects (supply, bound)).2.2,
      entry.1.label = label := by
  induction subjects generalizing supply bound with
  | nil => exact own
  | cons subject rest ih =>
      rw [testSubjects_cons]
      refine ih _ _ (List.forall_mem_append.mpr ⟨own, fun entry member => ?_⟩)
      obtain ⟨drawn, -⟩ := List.of_mem_zip member
      obtain ⟨number, -, same⟩ := List.mem_map.mp drawn
      rw [← same]

theorem subjects_restem (label : Sql.Alias) (field : String) (columns : List String)
    (operator : Operator) (operand : Json) :
    subjects (label.restem stem) field columns operator operand =
      moved stem (List.map (List.map (Sql.Column.restem stem)))
        (subjects label field columns operator operand) := by
  have arity : ∀ items : List Json, checkArity field columns.length items =
      moved stem id (checkArity field columns.length items) := by
    intro items
    induction items with
    | nil => rfl
    | cons item rest ih =>
        cases item <;>
          · simp only [checkArity]
            split
            · exact ih
            · rfl
  unfold subjects
  split
  · rw [← Sql.Alias.restem_columns]
    cases operand with
    | array items =>
        have checked := arity items
        cases outcome : checkArity field columns.length items with
        | ok => simp [outcome, moved, bind, Except.bind, pure, Except.pure]
        | error error =>
            simp only [outcome, moved, Except.error.injEq] at checked
            simp [outcome, moved, bind, Except.bind, ← checked]
    | _ => rfl
  · simp [moved, ← Sql.Alias.restem_columns]

theorem readOperand_restem (operator : Operator) (operand : Json) :
    readOperand operator operand = moved stem id (readOperand operator operand) := by
  unfold readOperand
  cases operator.test operand <;> rfl

theorem moved_applyOperator {node : Node} (bare : node.label.stem = "") (field : String)
    (columns : List String) (operator : Operator) (operand : Json) :
    Moved stem (Fragment.restem stem) (applyOperator node field columns operator operand)
      (applyOperator (node.restem stem) field columns operator operand) := by
  cases columns with
  | nil => exact fun _ => rfl
  | cons column columns =>
      simp only [applyOperator, List.isEmpty_cons, Bool.false_eq_true, if_false]
      refine (moved_ofExcept (subjects_restem _ _ _ _ _)).bind fun subjects => ?_
      refine (moved_ofExcept (readOperand_restem operator operand)).bind fun test => ?_
      refine Compile.moved_fromSupply_bind
        (Prod.map (List.map (Sql.Condition.restem stem))
          (List.map (Prod.map (Parameter.restem stem) id))) (fun supply => ?_) fun supply => ?_
      · have same := testSubjects_restem stem node.label field test subjects supply []
        rw [List.map_nil] at same
        simp only [Node.restem, id, same, Prod.map]
      · have own := label_of_testSubjects node.label field test subjects supply [] (by simp)
        generalize testSubjects node.label field test subjects (supply, []) = tested at own ⊢
        obtain ⟨conditions, after, bound⟩ := tested
        have names : (bound.map (Prod.map (Parameter.restem stem) id)).map
            (fun entry => (entry.1.name, entry.2)) =
            Bindings.restem stem (bound.map fun entry => (entry.1.name, entry.2)) := by
          simp only [Bindings.restem, List.map_map]
          refine List.map_congr_left fun entry member => ?_
          have label : entry.1.label.stem = "" := by rw [own entry member, bare]
          exact congrArg (·, entry.2) (Parameter.restem_name label stem)
        have shown : ({ conditions := conditions.map (Sql.Condition.restem stem) } : Fragment) =
            Fragment.restem stem { conditions } := by
          simp [Fragment.restem_eq, Bindings.restem]
        simp only [Prod.map, names, shown]
        exact Compile.moved_bindAll stem _ _

theorem moved_applyOperators {node : Node} (bare : node.label.stem = "") (field : String)
    (columns : List String) (operators : List (String × Json)) :
    Moved stem (List.map (Fragment.restem stem)) (applyOperators node field columns operators)
      (applyOperators (node.restem stem) field columns operators) := by
  induction operators with
  | nil => exact moved_pure rfl
  | cons entry rest ih =>
      obtain ⟨name, operand⟩ := entry
      rw [applyOperators, applyOperators]
      cases Operator.ofName? name with
      | none => exact moved_throw rfl
      | some operator =>
          refine (moved_applyOperator bare field columns operator operand).bind fun fragment => ?_
          exact ih.bind fun others => moved_pure rfl

theorem moved_leafFilter {node : Node} (bare : node.label.stem = "") (key : String)
    (role : FilterRole) (value : Json) :
    Moved stem (Fragment.restem stem) (leafFilter node key role value)
      (leafFilter (node.restem stem) key role value) := by
  cases role with
  | combinator _ | relation _ | suffixedRelation _ | unknown => exact moved_throw rfl
  | suffixed stem columns operator => exact moved_applyOperator bare stem columns operator value
  | field columns =>
      have compared : Moved stem (Fragment.restem stem)
          (applyOperator node key columns .eq value)
          (applyOperator (node.restem stem) key columns .eq value) :=
        moved_applyOperator bare key columns .eq value
      cases value with
      | object operators =>
          exact (moved_applyOperators bare key columns operators).bind moved_reduce
      | _ => exact compared

theorem moved_combine (combinator : Combinator) (siblings : List Fragment) :
    Moved stem (Fragment.restem stem) (combine combinator siblings)
      (combine combinator (siblings.map (Fragment.restem stem))) := by
  have hoisted := Fragment.hoist_restem stem {} siblings
  rw [Fragment.restem_empty] at hoisted
  unfold combine
  simp only [List.isEmpty_map, hoisted]
  split
  · exact moved_pure (Fragment.restem_empty stem).symm
  · rcases ({} : Fragment).hoist siblings with ⟨group, others, duplicate⟩
    refine (moved_ofExcept (Fragment.checked_restem stem (group, duplicate))).bind fun whole => ?_
    cases combinator <;>
      exact moved_pure (by simp [Fragment.restem_eq, Bindings.restem])

theorem checkElements_restem (node : Node) (combinator : Combinator) (items : List Json) :
    checkElements (node.restem stem) combinator items =
      moved stem id (checkElements node combinator items) := by
  unfold checkElements
  split <;> rfl

theorem scope_restem (node : Node) : scope (node.restem stem) = (scope node).restem stem := rfl

theorem moved_entity (compiler : Compiler) (name : String) :
    Moved stem id (Compile.entity compiler name)
      (Compile.entity (compiler.withStem stem) name) := by
  unfold Compile.entity
  simp only [Compiler.withStem]
  cases compiler.provider.entity name with
  | ok entity => exact moved_pure rfl
  | error error => exact moved_throw rfl

theorem moved_relationFilter (compiler : Compiler) {node : Node} (bare : node.label.stem = "")
    (property : Property) {inner follow : Node → Compile Fragment}
    (same : ∀ child : Node, child.label.stem = "" →
      Moved stem (Fragment.restem stem) (inner child) (follow (child.restem stem))) :
    Moved stem (Fragment.restem stem) (relationFilter compiler node property inner)
      (relationFilter (compiler.withStem stem) (node.restem stem) property follow) := by
  unfold relationFilter
  refine (moved_entity compiler property.typeName).bind fun entity => ?_
  refine (Compile.moved_enter _).bind fun _ => ?_
  have restemmed : (node.restem stem).label.stem = stem := rfl
  rw [bare, restemmed]
  refine moved_freshAlias_bind .entity fun label fresh => ?_
  refine (same ⟨entity, label⟩ fresh).bind fun matched => ?_
  refine Compile.moved_leave.bind fun _ => ?_
  refine (Site.moved_conditions ⟨node, property, ⟨entity, label⟩⟩ fresh).bind
    fun correlation => ?_
  refine moved_freshAlias_bind .filter fun filter _ => ?_
  have joined : ({ filterJoins := [existence ⟨node.restem stem, property, ⟨entity,
        label.restem stem⟩⟩ (correlation.map (Sql.Condition.restem stem))
        ((matched.restem stem).lower (scope ⟨entity, label.restem stem⟩))
        (filter.restem stem)] } : Fragment) =
      Fragment.restem stem { filterJoins := [existence ⟨node, property, ⟨entity, label⟩⟩
        correlation (matched.lower (scope ⟨entity, label⟩)) filter] } := by
    have lowered := Fragment.lower_restem stem (scope ⟨entity, label⟩) matched
    rw [← scope_restem] at lowered
    simp only [Node.restem] at lowered
    rw [lowered, Fragment.restem_eq]
    simp [existence, Sql.Join.restem, Sql.Select.restem, Sql.Output.restem, Site.source,
      Sql.Source.restem, Branch.restem, Sql.Join.restemAll_eq, Sql.Condition.restemAll_eq,
      Bindings.restem]
  have bound := Compile.moved_bindAll stem { filterJoins := [existence ⟨node, property,
    ⟨entity, label⟩⟩ correlation (matched.lower (scope ⟨entity, label⟩)) filter] } matched.values
  rw [← joined, ← Fragment.restem_values] at bound
  exact bound

section Members

variable (compiler : Compiler)

mutual

theorem moved_members {node : Node} (bare : node.label.stem = "") :
    ∀ list : List (String × Json), Moved stem (List.map (Fragment.restem stem))
      (members compiler node list) (members (compiler.withStem stem) (node.restem stem) list)
  | [] => moved_pure rfl
  | (key, value) :: rest => by
      rw [members, members]
      refine (moved_entry bare key value).bind fun fragment => ?_
      exact (moved_members bare rest).bind fun others => moved_pure rfl

theorem moved_entry {node : Node} (bare : node.label.stem = "") (key : String) :
    ∀ value : Json, Moved stem (Fragment.restem stem) (entry compiler node key value)
      (entry (compiler.withStem stem) (node.restem stem) key value)
  | .object inner => by
      rw [entry, entry, Compiler.resolver_withStem, Node.restem_entity]
      cases role (compiler.resolver node.entity) key with
      | combinator combinator =>
          refine (moved_members bare inner).bind fun fragments => ?_
          exact (moved_reduce fragments).bind fun fragment => moved_combine combinator [fragment]
      | relation property =>
          refine moved_relationFilter compiler bare property fun child fresh => ?_
          exact (moved_members fresh inner).bind moved_reduce
      | _ => exact moved_leafFilter bare key _ _
  | .array items => by
      rw [entry, entry, Compiler.resolver_withStem, Node.restem_entity]
      cases role (compiler.resolver node.entity) key with
      | combinator combinator =>
          refine (moved_ofExcept (checkElements_restem node combinator items)).bind fun _ => ?_
          exact (moved_elements bare items).bind (moved_combine combinator)
      | _ => exact moved_leafFilter bare key _ _
  | .null => moved_leafFilter bare key _ _
  | .bool _ => moved_leafFilter bare key _ _
  | .number _ => moved_leafFilter bare key _ _
  | .string _ => moved_leafFilter bare key _ _

theorem moved_elements {node : Node} (bare : node.label.stem = "") :
    ∀ items : List Json, Moved stem (List.map (Fragment.restem stem))
      (elements compiler node items) (elements (compiler.withStem stem) (node.restem stem) items)
  | [] => moved_pure rfl
  | item :: rest => by
      rw [elements, elements]
      refine (moved_element bare item).bind fun fragment => ?_
      exact (moved_elements bare rest).bind fun others => moved_pure rfl

theorem moved_element {node : Node} (bare : node.label.stem = "") :
    ∀ item : Json, Moved stem (Fragment.restem stem) (element compiler node item)
      (element (compiler.withStem stem) (node.restem stem) item)
  | .object inner => by
      rw [element, element]
      exact (moved_members bare inner).bind moved_reduce
  | .array _ => moved_pure (Fragment.restem_empty stem).symm
  | .null => moved_pure (Fragment.restem_empty stem).symm
  | .bool _ => moved_pure (Fragment.restem_empty stem).symm
  | .number _ => moved_pure (Fragment.restem_empty stem).symm
  | .string _ => moved_pure (Fragment.restem_empty stem).symm

end

theorem moved_compile {node : Node} (bare : node.label.stem = "") (filter : Members) :
    Moved stem (Fragment.restem stem) (compile compiler node filter)
      (compile (compiler.withStem stem) (node.restem stem) filter) :=
  (moved_members compiler bare filter).bind moved_reduce

end Members

end Filter

/-! ## Selections -/

namespace Display

theorem scalarField_restem (node : Node) (key : String) (columns : List String) :
    scalarField (node.restem stem) key columns = (scalarField node key columns).restem stem := by
  have value : scalarValue (node.restem stem).label columns =
      (scalarValue node.label columns).restem stem := by
    match columns with
    | [] => rfl
    | [column] => rfl
    | first :: second :: rest =>
        simp [scalarValue, Sql.Value.restem, Sql.Alias.restem_columns, Node.restem]
  simp [scalarField, value, Fragment.restem_eq, Bindings.restem]

theorem computedField_restem (key : String) (columns : List String) :
    computedField key columns = (computedField key columns).restem stem := by
  simp [computedField, Fragment.restem_eq, Bindings.restem, Sql.Value.restem]

theorem object_restem (stem : String) (settings : Settings) (fragment : Fragment) (label : Sql.Alias) :
    object { settings with stem } (fragment.restem stem) (label.restem stem) =
      (object settings fragment label).restem stem := by
  rw [Fragment.restem_eq]
  cases computed : fragment.computed <;>
    simp [object, computed, Sql.ObjectExpr.restem, Sql.Value.restem, Sql.Alias.restem_columns]

theorem orderOf_restem (stem : String) (compiler : Compiler) (node : Node) (order : List SortTerm) :
    orderOf (compiler.withStem stem) (node.restem stem) order =
      (orderOf compiler node order).map (Sql.Order.restem stem) := by
  have columns : ∀ names : Option (List String),
      (names.map (node.label.restem stem).columns).getD [] =
        ((names.map node.label.columns).getD []).map (Sql.Column.restem stem) := by
    intro names
    cases names with
    | none => rfl
    | some names => exact (Sql.Alias.restem_columns stem node.label names).symm
  have sorted : sortColumns (fun field =>
        ((compiler.resolver node.entity).scalarColumns? field).map
          (node.label.restem stem).columns) order =
      (sortColumns (fun field =>
        ((compiler.resolver node.entity).scalarColumns? field).map node.label.columns) order).map
          (Prod.map (Sql.Column.restem stem) id) := by
    simp [sortColumns, columns, List.map_flatMap, Function.comp_def]
  unfold orderOf
  simp only [Compiler.resolver_withStem, Node.restem, sorted]
  cases sortColumns (fun field =>
      ((compiler.resolver node.entity).scalarColumns? field).map node.label.columns) order with
  | nil => rfl
  | cons term rest => rfl

theorem body_restem (compiler : Compiler) (child : Node) (fragment : Fragment) :
    body (compiler.withStem stem) (child.restem stem) (fragment.restem stem) =
      (body compiler child fragment).restem stem := by
  have object := object_restem stem compiler.settings fragment child.label
  have order := orderOf_restem stem compiler child fragment.order
  have lowered := Fragment.lower_restem stem (Filter.scope child) fragment
  rw [← Filter.scope_restem] at lowered
  simp only [body, lowered, order, Fragment.restem_order, Fragment.restem_joins,
    Fragment.restem_limit, Fragment.restem_offset]
  simp only [Node.restem, Compiler.withStem, object, Body.restem, Branch.restem, List.map_append]

theorem moved_relationField {compiler : Compiler} (named : compiler.settings.stem = "")
    {node : Node} (bare : node.label.stem = "") (key : String) (property : Property)
    {inner follow : Node → Compile Fragment}
    (same : ∀ child : Node, child.label.stem = "" →
      Moved stem (Fragment.restem stem) (inner child) (follow (child.restem stem))) :
    Moved stem (Fragment.restem stem) (relationField compiler node key property inner)
      (relationField (compiler.withStem stem) (node.restem stem) key property follow) := by
  unfold relationField
  refine (Filter.moved_entity compiler property.typeName).bind fun entity => ?_
  refine (Compile.moved_enter _).bind fun _ => ?_
  have restemmed : (node.restem stem).label.stem = stem := rfl
  rw [bare, restemmed]
  refine moved_freshAlias_bind .entity fun label fresh => ?_
  refine (same ⟨entity, label⟩ fresh).bind fun shown => ?_
  refine Compile.moved_leave.bind fun _ => ?_
  have child : Node.mk entity (label.restem stem) = Node.restem stem ⟨entity, label⟩ := rfl
  simp only [id, child, body_restem]
  refine (Site.moved_render named ⟨node, property, ⟨entity, label⟩⟩ fresh _).bind
    fun rendered => ?_
  have brought : ∀ join value, ({ joins := [Sql.Join.restem stem join]
                                  pairs := [(key, Sql.Value.restem stem value)] } : Fragment) =
      Fragment.restem stem { joins := [join], pairs := [(key, value)] } := by
    intro join value
    simp [Fragment.restem_eq, Bindings.restem]
  have bound := Compile.moved_bindAll stem
    { joins := [rendered.join], pairs := [(key, rendered.value)] } shown.values
  rwa [← brought, ← Fragment.restem_values] at bound

theorem keyFields_restem (node : Node) :
    keyFields (node.restem stem) = (keyFields node).map (Fragment.restem stem) := by
  simp only [keyFields, Node.restem_entity, scalarField_restem, List.map_map]
  rfl

section Selection

variable {compiler : Compiler}

theorem moved_arguments {node : Node} (bare : node.label.stem = "") (given : Option Arguments) :
    Moved stem (List.map (Fragment.restem stem)) (arguments compiler node given)
      (arguments (compiler.withStem stem) (node.restem stem) given) := by
  have sliced : ∀ pagination : Option Pagination,
      (pagination.map Fragment.ofPagination).toList =
        (pagination.map Fragment.ofPagination).toList.map (Fragment.restem stem) := by
    intro pagination
    cases pagination <;> simp [Fragment.ofPagination, Fragment.restem_eq, Bindings.restem]
  cases wanted : (given.getD {}).filter with
  | none =>
      simp only [arguments, wanted]
      exact moved_pure (sliced (given.getD {}).pagination)
  | some filter =>
      simp only [arguments, wanted]
      refine (Filter.moved_compile compiler bare filter).bind fun fragment => moved_pure ?_
      exact congrArg (fragment.restem stem :: ·) (sliced (given.getD {}).pagination)

mutual

theorem moved_parts (named : compiler.settings.stem = "") {node : Node}
    (bare : node.label.stem = "") : ∀ selection : Selection,
    Moved stem (List.map (Fragment.restem stem)) (parts compiler node selection)
      (parts (compiler.withStem stem) (node.restem stem) selection)
  | ⟨selected, given⟩ => by
      have argued : ∀ shown : List Fragment, Moved stem (List.map (Fragment.restem stem))
          (do pure (shown ++ (← arguments compiler node given)))
          (do pure (shown.map (Fragment.restem stem) ++
            (← arguments (compiler.withStem stem) (node.restem stem) given))) := by
        intro shown
        refine (moved_arguments bare given).bind fun filtered => moved_pure ?_
        rw [List.map_append]
      rw [parts, parts]
      split
      · exact (moved_pure (keyFields_restem node)).bind argued
      · exact (moved_fields named bare selected).bind argued

theorem moved_fields (named : compiler.settings.stem = "") {node : Node}
    (bare : node.label.stem = "") :
    ∀ list : List (String × FieldNode), Moved stem (List.map (Fragment.restem stem))
      (fields compiler node list) (fields (compiler.withStem stem) (node.restem stem) list)
  | [] => moved_pure rfl
  | (key, wanted) :: rest => by
      rw [fields, fields]
      refine (moved_field named bare key wanted).bind fun fragment => ?_
      exact (moved_fields named bare rest).bind fun others => moved_pure rfl

theorem moved_field (named : compiler.settings.stem = "") {node : Node}
    (bare : node.label.stem = "") (key : String) :
    ∀ wanted : FieldNode, Moved stem (Fragment.restem stem) (field compiler node key wanted)
      (field (compiler.withStem stem) (node.restem stem) key wanted)
  | .leaf => by
      rw [field, field, Compiler.resolver_withStem, Node.restem_entity]
      split
      · exact moved_throw rfl
      · exact moved_pure (computedField_restem _ _)
      · split
        · refine moved_relationField named bare key _ fun child fresh => ?_
          rw [keyFields_restem]
          exact moved_reduce _
        · exact moved_pure (scalarField_restem _ _ _)
  | .nested selection => by
      rw [field, field, Compiler.resolver_withStem, Node.restem_entity]
      split
      · exact moved_throw rfl
      · split
        · exact moved_pure (computedField_restem _ _)
        · exact moved_throw rfl
      · split
        · refine moved_relationField named bare key _ fun child fresh => ?_
          exact (moved_parts named fresh selection).bind moved_reduce
        · split
          · exact moved_pure (scalarField_restem _ _ _)
          · exact moved_throw rfl

end

end Selection

end Display

/-! ## Statements -/

theorem Compile.moved_node {compiler : Compiler} (named : compiler.settings.stem = "")
    (node : Node) (bare : node.label.stem = "") (selection : Selection)
    (filter : Option Members) :
    Moved stem (Fragment.restem stem) (Compile.node compiler node (some selection) filter)
      (Compile.node (compiler.withStem stem) (node.restem stem) (some selection) filter) := by
  unfold Compile.node
  refine (Display.moved_parts named bare selection).bind fun shown => ?_
  cases filter with
  | none => simpa using moved_reduce shown
  | some filter =>
      refine (Filter.moved_compile compiler bare filter).bind fun fragment => ?_
      simpa using moved_reduce (shown ++ [fragment])

def Statement.restem (stem : String) (statement : Statement) : Statement :=
  ⟨statement.query.restem stem, statement.bindings.restem stem⟩

namespace Compiler

theorem rootSelect_restem (compiler : Compiler) (node : Node) (fragment : Fragment) :
    (compiler.withStem stem).rootSelect (node.restem stem) (fragment.restem stem) =
      (compiler.rootSelect node fragment).restem stem := by
  have object := Display.object_restem stem compiler.settings fragment node.label
  have order := Display.orderOf_restem stem compiler node fragment.order
  have lowered := Fragment.lower_restem stem (Filter.scope node) fragment
  rw [← Filter.scope_restem] at lowered
  simp only [rootSelect, lowered, order, Fragment.restem_order, Fragment.restem_joins,
    Fragment.restem_limit, Fragment.restem_offset]
  simp only [Node.restem, withStem, object, Branch.restem, Sql.Select.restem, Sql.Output.restem,
    Scope.source, Filter.scope, Sql.Source.restem, Sql.Join.restemAll_eq,
    Sql.Condition.restemAll_eq, List.map_append]

theorem moved_statement (stem : String) {compiler : Compiler} (named : compiler.settings.stem = "")
    (query : Query) :
    Moved stem (Statement.restem stem) (compiler.statement query)
      ((compiler.withStem stem).statement query) := by
  have finished : ∀ (node : Node) (fragment : Fragment), Moved stem (Statement.restem stem)
      (pure ⟨compiler.rootSelect node fragment, fragment.values⟩)
      (pure ⟨(compiler.withStem stem).rootSelect (node.restem stem) (fragment.restem stem),
        (fragment.restem stem).values⟩) := by
    intro node fragment
    refine moved_pure ?_
    rw [rootSelect_restem, Fragment.restem_values]
    rfl
  simp only [statement, root, bind_assoc, pure_bind]
  refine (Filter.moved_entity compiler query.entity).bind fun entity => ?_
  rw [named]
  refine Compile.moved_fromSupply_bind _ (Sql.Supply.restem_start stem) fun supply => ?_
  refine (Compile.moved_node named ⟨entity, (Sql.Supply.start "" supply).1⟩ rfl
    query.selection query.filter).bind fun fragment => ?_
  cases query.pagination with
  | none => exact finished _ fragment
  | some pagination =>
      have merged := Fragment.merge_restem stem fragment (Fragment.ofPagination pagination)
      have sliced : (Fragment.ofPagination pagination).restem stem =
          Fragment.ofPagination pagination := by
        simp [Fragment.ofPagination, Fragment.restem_eq, Bindings.restem]
      rw [sliced] at merged
      exact (moved_ofExcept merged).bind (finished _)

/-- A compilation under a stem is the one without a stem, with the stem in front of all names. -/
theorem compile_withStem (stem : String) {compiler : Compiler}
    (named : compiler.settings.stem = "") (query : Query) :
    (compiler.withStem stem).compile query =
      moved stem (Statement.restem stem) (compiler.compile query) := by
  have ran := moved_statement stem named query {}
  rw [Context.restem_empty] at ran
  unfold compile
  rw [StateT.run', StateT.run', ran]
  cases compiler.statement query {} <;> rfl

end Compiler

end TreeQuery
