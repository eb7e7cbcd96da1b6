import TreeQuery.Proofs.PlainStatements
import TreeQuery.Proofs.Sample
import TreeQuery.Proofs.ScopedFilters

/-!
# Scopes of whole statements

A displayed relation is a lateral join that sees the row it belongs to, and its
value is read under the alias of that join.  So every alias in a statement is
declared where it is used, and is declared again only to look up primary keys.
-/

namespace TreeQuery

open Scope (Fitting)
open Sql (Alias Condition Join Place Select Supply)

namespace Display

open TreeQuery.Filter (childOf opened opened_grows scope)

variable {isKey : String → List String → Bool} {compiler : Compiler} {node : Node}
  {fragment : Fragment} {place : Place}

theorem object_isScoped (settings : Settings) (fits : fragment.Fits isKey node)
    (seen : node.label.text :: Join.names fragment.joins ⊆ place.visible) :
    (object settings fragment node.label).isScoped place = true := by
  have pairs : ∀ pair ∈ fragment.pairs, pair.2.isScoped place = true :=
    fun pair listed => fits.showing pair listed place seen
  refine List.all_eq_true.mpr (List.forall_mem_append.mpr ⟨pairs, ?_⟩)
  split
  · exact List.forall_mem_singleton.mpr
      (Place.seesAll_columns (seen List.mem_cons_self) fragment.columns)
  · simp

theorem orderOf_isScoped (seen : node.label.text ∈ place.visible) (order : List SortTerm) :
    (orderOf compiler node order).all (Sql.Order.isScoped place) = true := by
  have terms : ∀ sorted ∈ sortColumns (fun field =>
      ((compiler.resolver node.entity).scalarColumns? field).map node.label.columns) order,
      place.sees sorted.1.label = true := by
    intro sorted member
    simp only [sortColumns, List.mem_flatMap, List.mem_map] at member
    obtain ⟨term, -, column, shown, rfl⟩ := member
    cases scalar : (compiler.resolver node.entity).scalarColumns? term.field with
    | none => simp [scalar] at shown
    | some columns =>
        simp only [scalar, Option.map_some, Option.getD_some] at shown
        exact List.all_eq_true.mp (Place.seesAll_columns seen columns) column shown
  unfold orderOf
  dsimp only
  split
  · rfl
  · simpa [Sql.Order.isScoped, Place.seesAll] using terms

end Display

theorem Fragment.Scoped.fitting_body {isKey : String → List String → Bool} {node : Node}
    {fragment : Fragment} {before after : Supply}
    (run : Scoped isKey node before after [fragment])
    (keyed : (Filter.scope node).Keyed isKey) (issued : before.Issued node.label) :
    Fitting isKey (Filter.scope node) []
        ((fragment.lower (Filter.scope node)).joins ++ fragment.joins)
        (fragment.lower (Filter.scope node)).conditions ∧
      Supply.Gives node.label.stem before after
        (((fragment.lower (Filter.scope node)).joins ++ fragment.joins).map Join.declared ++
          (fragment.lower (Filter.scope node)).conditions.map Condition.declared).flatten := by
  have lowered := run.lowered keyed issued
  obtain ⟨fitting, gives⟩ := run.fitting_lowered keyed issued
  have perm : (fragment.joins.map Join.declared ++
      ((fragment.lower (Filter.scope node)).joins.map Join.declared ++
        (fragment.lower (Filter.scope node)).conditions.map Condition.declared)).Perm
      (((fragment.lower (Filter.scope node)).joins ++ fragment.joins).map Join.declared ++
        (fragment.lower (Filter.scope node)).conditions.map Condition.declared) := by
    simp only [List.map_append, ← Multiset.coe_eq_coe, ← Multiset.coe_add]
    abel
  obtain ⟨shown, -, differ⟩ := Scope.spread_append.mp (run.spread issued)
  refine ⟨⟨List.forall_mem_append.mpr ⟨fitting.joining, ?_⟩, fitting.testing, ?_⟩, ?_⟩
  · exact (run.fits fragment List.mem_cons_self).joining
  · refine (Scope.spread_append.mpr ⟨shown, fitting.spread, fun name held also => ?_⟩).perm perm
    exact differ held (lowered.within also)
  · have all := run.gives
    rw [List.flatMap_singleton, aliases, List.flatten_append] at all
    refine Supply.Gives.subset
      (Supply.gives_append.mpr ⟨(Supply.gives_append.mp all).1, gives⟩) ?_
    rw [← List.flatten_append]
    exact perm.symm.flatten.subset

/-! ## Relations -/

namespace Display

open TreeQuery.Filter (childOf issued_childOf keyed_childOf linked_stands opened opened_grows scope)

variable {isKey : String → List String → Bool} {compiler : Compiler} {node : Node}
  {fragment : Fragment} {place : Place}

theorem body_isScoped (compiler : Compiler) {child : Node} {shown : Fragment}
    (fits : shown.Fits isKey child)
    (seen : child.label.text :: Join.names (body compiler child shown).joins ⊆ place.visible) :
    (body compiler child shown).object.isScoped place = true ∧
      (body compiler child shown).order.all (Sql.Order.isScoped place) = true := by
  refine ⟨object_isScoped compiler.settings fits (List.Subset.trans ?_ seen),
    orderOf_isScoped (seen List.mem_cons_self) shown.order⟩
  refine List.cons_subset_cons _ ?_
  rw [Join.names, Join.names, body, Join.declarations_append, List.map_append]
  exact List.subset_append_right _ _

theorem object_output {object : Sql.ObjectExpr} {name : String}
    (plain : Sql.isPlainName name = true) (shown : object.isScoped place = true) :
    (Sql.Output.object object name).isScoped place = true := by
  simp [Sql.Output.isScoped, shown, plain]

theorem pageOutput_isScoped {body : Body} (object : body.object.isScoped place = true)
    (order : body.order.all (Sql.Order.isScoped place) = true) :
    (Site.pageOutput body).isScoped place = true := by
  unfold Site.pageOutput
  split
  · rename_i terms ordered
    rw [ordered] at order
    simpa [Sql.Output.isScoped, object] using order
  · exact object_output (by decide) object

/-- A displayed relation is a join that fits beside the rows of the parent. -/
theorem brought_scoped {property : Property} {entity : Entity} {context : Context}
    {shown : Fragment} {before after : Supply} {rendered : Rendered} (link : Link)
    (plain : node.label.isPlain = true) (served : isKey entity.table entity.primaryKeys = true)
    (run : Fragment.Scoped isKey (childOf node entity context) (opened node context).supply before
      [shown])
    (brought : Site.Brought node.label.stem ⟨node, property, childOf node entity context⟩
      (body compiler (childOf node entity context) shown)
      (Site.linking node.label (childOf node entity context).label
        (before.next .pivot node.label.stem).1 link)
      (Site.linkedSupply before node.label.stem link) rendered after) :
    context.supply.Grows after ∧ rendered.join.Fits isKey (scope node) ∧
      Supply.Gives node.label.stem context.supply after rendered.join.declared ∧
      Join.names [rendered.join] = [rendered.label.text] := by
  obtain ⟨fitting, gives⟩ := run.fitting_body (keyed_childOf plain served context)
    (issued_childOf node entity context)
  have fits := run.fits shown List.mem_cons_self
  have grows := ((opened_grows node context).trans run.grows).trans
    (Site.linkedSupply_grows before node.label.stem link)
  cases brought with
  | singular limit =>
      have stands := linked_stands property link
        (.object (body compiler (childOf node entity context) shown).object "value")
        (body compiler (childOf node entity context) shown).order limit none plain run.grows
        fitting gives fun inner seen =>
          ⟨object_output (by decide) (body_isScoped compiler fits seen).1,
            (body_isScoped compiler fits seen).2⟩
      obtain ⟨joins, declared⟩ := stands.lateral plain grows .subquery .leftOuter
      exact ⟨grows.trans (Supply.next_grows _ .subquery _), joins, declared, rfl⟩
  | collected =>
      have stands := linked_stands property link
        (.collected (body compiler (childOf node entity context) shown).object) none none none
        plain run.grows fitting gives fun inner seen => ⟨(body_isScoped compiler fits seen).1, rfl⟩
      obtain ⟨joins, declared⟩ := stands.lateral plain grows .subquery .leftOuter
      exact ⟨grows.trans (Supply.next_grows _ .subquery _), joins, declared, rfl⟩
  | paged =>
      have rows := linked_stands property link
        (Site.pageOutput (body compiler (childOf node entity context) shown))
        (body compiler (childOf node entity context) shown).order
        (body compiler (childOf node entity context) shown).limit
        (body compiler (childOf node entity context) shown).offset plain run.grows fitting gives
        fun inner seen =>
          have ⟨object, order⟩ := body_isScoped compiler fits seen
          ⟨pageOutput_isScoped object order, order⟩
      have paged := grows.trans (Supply.next_grows _ .page node.label.stem)
      have stands := rows.page plain grows
        (body compiler (childOf node entity context) shown).order.isSome
      obtain ⟨joins, declared⟩ := stands.lateral plain paged .subquery .leftOuter
      exact ⟨paged.trans (Supply.next_grows _ .subquery _), joins, declared, rfl⟩

/-! ## Selections -/

theorem scalarField_scoped (key : String) (columns : List String) (supply : Supply) :
    Fragment.Scoped isKey node supply supply [scalarField node key columns] := by
  refine .of_silent (.refl _) ?_ ⟨Fragment.each_iff.mpr (by simp [scalarField]),
    by simp [scalarField], ?_⟩
  · simp [Fragment.aliases, scalarField, Fragment.declared, Fragment.declaredAll]
  · refine List.forall_mem_singleton.mpr fun place seen => ?_
    have visible : node.label.text ∈ place.visible := seen List.mem_cons_self
    unfold scalarValue
    split
    · exact Place.sees_iff.mpr visible
    · exact Place.seesAll_columns visible _

theorem computedField_scoped (key : String) (columns : List String) (supply : Supply) :
    Fragment.Scoped isKey node supply supply [computedField key columns] := by
  refine .of_silent (.refl _) ?_ ⟨Fragment.each_iff.mpr (by simp [computedField]),
    by simp [computedField], ?_⟩
  · simp [Fragment.aliases, computedField, Fragment.declared, Fragment.declaredAll]
  · exact List.forall_mem_singleton.mpr fun place seen => rfl

theorem keyFields_scoped (supply : Supply) :
    Fragment.Scoped isKey node supply supply (keyFields node) := by
  unfold keyFields
  induction node.entity.keyProperties with
  | nil => exact .nil _
  | cons property rest ih =>
      exact (scalarField_scoped property.name property.columns supply).append ih

theorem ofPagination_scoped (pagination : Option Pagination) (supply : Supply) :
    Fragment.Scoped isKey node supply supply
      (pagination.map Fragment.ofPagination).toList := by
  cases pagination with
  | none => exact .nil _
  | some given =>
      refine .of_silent (.refl _) ?_ (Fragment.fits_of_each rfl rfl
        (Fragment.each_iff.mpr (by simp [Fragment.ofPagination])))
      simp [Fragment.aliases, Fragment.ofPagination, Fragment.declared, Fragment.declaredAll]

variable (served : ∀ {name entity}, compiler.provider.entity name = .ok entity →
  isKey entity.table entity.primaryKeys = true)

include served

theorem Argued.scoped {given : Arguments} {context after : Context} {fragments : List Fragment}
    (argued : Argued compiler node given context fragments after)
    (plain : node.label.isPlain = true) :
    Fragment.Scoped isKey node context.supply after.supply fragments := by
  cases argued with
  | unfiltered unfiltered => exact ofPagination_scoped _ _
  | filtered filtered compiled =>
      exact (Filter.compile_scoped served compiled plain).append (ofPagination_scoped _ _)

theorem Runs.scoped {part : Part} {context after : Context} {fragments : List Fragment}
    (run : Runs compiler node part context fragments after) (plain : node.label.isPlain = true)
    (stem : node.label.stem = compiler.settings.stem) :
    Fragment.Scoped isKey node context.supply after.supply fragments := by
  induction run with
  | keys argued => exact (keyFields_scoped _).append (argued.scoped served plain)
  | selected nonempty ran argued ih => exact (ih plain stem).append (argued.scoped served plain)
  | noFields => exact .nil _
  | fields first later firstScoped laterScoped =>
      exact (firstScoped plain stem).append (laterScoped plain stem)
  | computed resolved simple => exact computedField_scoped _ _ _
  | scalar resolved scalar simple => exact scalarField_scoped _ _ _
  | @related node key _ _ _ _ _ _ _ _ _ values resolved relation found _ _ reduced brought _ _
      ih =>
      obtain ⟨link, supply, -, joined, rfl⟩ := Site.render_ok brought
      rw [← stem] at joined
      obtain ⟨grows, fits, declared, names⟩ :=
        brought_scoped link plain (served found) ((ih plain stem).reduce reduced) joined
      refine .of_join grows ?_ declared ⟨Fragment.each_iff.mpr (by simp [relating]),
        List.forall_mem_singleton.mpr fits, List.forall_mem_singleton.mpr fun place seen => ?_⟩
      · simp [Fragment.aliases, relating, Fragment.declared, Fragment.declaredAll]
      · refine Place.sees_iff.mpr (seen ?_)
        rw [relating, names]
        simp

end Display

/-! ## Statements -/

namespace Compiler

variable {isKey : String → List String → Bool} {compiler : Compiler}

theorem compile_isScoped
    (served : ∀ {name entity}, compiler.provider.entity name = .ok entity →
      isKey entity.table entity.primaryKeys = true)
    (letters : compiler.settings.stem.toList.all Lexeme.isNameChar = true) {query : Query}
    {statement : Statement} (compiled : compiler.compile query = .ok statement) :
    statement.query.isScoped isKey {} = true := by
  obtain ⟨entity, shown, argued, fragment, between, after, found, run, given, reduced, rfl⟩ :=
    compile_ok compiled
  have plain : (compiler.rootNode entity).label.isPlain = true := letters
  have issued := compiler.issued_rootNode entity
  have keyed : (Filter.scope (compiler.rootNode entity)).Keyed isKey :=
    ⟨Sql.Alias.text_isNameChar plain, served found⟩
  have whole : Fragment.Scoped isKey (compiler.rootNode entity) compiler.rootContext.supply
      after.supply [fragment] :=
    ((run.scoped served plain rfl).append (given.scoped served plain)).reduce reduced
  obtain ⟨fitting, -⟩ := whole.fitting_body keyed issued
  have fits := whole.fits fragment List.mem_cons_self
  have stands : (compiler.rootSelect (compiler.rootNode entity) fragment).isScoped isKey {} =
      true := by
    refine fitting.isScoped rfl keyed.plain (by simp) (fun _ _ => rfl) (by simp) (.inl rfl) ?_
    intro inner seen
    obtain ⟨object, order⟩ := Display.body_isScoped compiler fits seen
    exact ⟨Display.object_output (by decide) object, order⟩
  exact stands

end Compiler

namespace Registry

def isPrimaryKey (registry : Registry) (table : String) (columns : List String) : Bool :=
  registry.entities.any fun entity => entity.table == table && entity.primaryKeys == columns

theorem isPrimaryKey_of_entity {registry : Registry} {name : String} {entity : Entity}
    (found : registry.entity name = .ok entity) :
    registry.isPrimaryKey entity.table entity.primaryKeys = true := by
  unfold Registry.entity at found
  split at found
  · rename_i other listed
    cases found
    exact List.any_eq_true.mpr ⟨entity, List.mem_of_find?_eq_some listed, by simp⟩
  · cases found

end Registry

/--
In the statement of a query every alias is visible where it is used, no select declares one
twice, and a subquery that declares one again looks up primary keys of the same table.
-/
theorem Compiler.statement_is_scoped {registry : Registry} {compiler : Compiler} {query : Query}
    {statement : Statement}
    (provided : compiler.provider = registry.provider)
    (valid : compiler.settings.violations = [])
    (compiled : compiler.compile query = .ok statement) :
    statement.sql = statement.query.render ∧
      statement.query.isScoped registry.isPrimaryKey {} = true := by
  refine ⟨rfl, compile_isScoped ?_ (Settings.isNameChar_stem valid) compiled⟩
  intro name entity found
  rw [provided] at found
  exact Registry.isPrimaryKey_of_entity found

namespace Sample

def riders : Query :=
  { entity := "Person"
    selection :=
      { fields :=
          [("fellowship", .nested { fields := [("name", .leaf), ("members", .leaf)] }),
            ("battles",
              .nested
                { fields := [("name", .leaf)]
                  arguments :=
                    some
                      { pagination :=
                          some { limit := some 2, order := [⟨"name", .ascending⟩] } } })] }
    filter :=
      some
        [("_or",
            .array
              [.object [("fellowship", .object [("name", .string "Nine")])],
                .object
                  [("battles", .object [("name", .string "Pelennor")]),
                    ("_not", .object [("battles", .object [("name", .string "Bywater")])])]])] }

theorem statement_is_scoped_riders :
    ∃ statement, compiler.compile riders = .ok statement ∧
      statement.sql = statement.query.render ∧
      statement.query.isScoped registry.isPrimaryKey {} = true := by
  cases compiled : compiler.compile riders with
  | error error =>
      have succeeds : (compiler.compile riders).isOk = true := by decide +kernel
      simp [compiled, Except.isOk, Except.toBool] at succeeds
  | ok statement =>
      exact ⟨statement, rfl, Compiler.statement_is_scoped rfl (by decide) compiled⟩

end Sample

end TreeQuery
