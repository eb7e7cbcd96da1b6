import TreeQuery.Proofs.PlainFragments
import TreeQuery.Proofs.SelectionRuns

/-!
# Plain statements

With valid settings and an accepted registry, the statement of a query is plain as
soon as the computed fields that the query names have quiet columns.
-/

namespace TreeQuery

open Fragment (Plain)
open Lexeme (isNameChar)

theorem Settings.isNameChar_of_stemLetters {settings : Settings}
    (letters : settings.satisfies .stemLetters = true) :
    settings.stem.toList.all isNameChar = true := by
  obtain ⟨-, all⟩ := (Bool.and_eq_true _ _).mp letters
  refine List.all_eq_true.mpr fun c member => ?_
  have stem := List.all_eq_true.mp all c member
  simp only [Settings.isStemLetter, Text.isDigit, Bool.or_eq_true, Bool.and_eq_true,
    decide_eq_true_eq] at stem
  simp only [isNameChar, Bool.or_eq_true, Bool.and_eq_true, decide_eq_true_eq]
  tauto

theorem Settings.isNameChar_stem {settings : Settings} (valid : settings.violations = []) :
    settings.stem.toList.all isNameChar = true := by
  have kept := List.filter_eq_nil_iff.mp valid .stemLetters (by simp)
  exact isNameChar_of_stemLetters (by simpa using kept)

/-- The step of `Entity.keyProperties`: a property is kept if its name is new. -/
def Entity.keepNamed (found : List Property) (property : Property) : List Property :=
  if found.any fun other => other.name == property.name then found else found ++ [property]

theorem Entity.mem_of_mem_keepNamed {rest found : List Property} {property : Property}
    (member : property ∈ rest.foldl keepNamed found) : property ∈ found ∨ property ∈ rest := by
  induction rest generalizing found with
  | nil => exact .inl member
  | cons first rest ih =>
      rcases ih member with kept | later
      · unfold keepNamed at kept
        split at kept
        · exact .inl kept
        · simpa [or_assoc] using Or.inl (List.mem_append.mp kept)
      · exact .inr (List.mem_cons_of_mem first later)

theorem Entity.mem_of_mem_keyProperties {entity : Entity} {property : Property}
    (member : property ∈ entity.keyProperties) :
    property ∈ entity.primaryKeys.filterMap entity.keyProperty? := by
  simpa using mem_of_mem_keepNamed member

theorem Entity.mem_properties_of_mem_keyProperties {entity : Entity} {property : Property}
    (member : property ∈ entity.keyProperties) : property ∈ entity.properties := by
  obtain ⟨column, -, found⟩ := List.mem_filterMap.mp (mem_of_mem_keyProperties member)
  exact List.mem_of_find?_eq_some found

/-! ## Orderings and bodies -/

namespace Display

variable {compiler : Compiler} {node : Node}

theorem isPlain_orderOf (plain : node.isPlain = true) {order : List SortTerm}
    (quiet : ∀ term ∈ order, ∀ found ∈ (compiler.resolver node.entity).computedField? term.field,
      found.isQuiet = true) :
    (orderOf compiler node order).all Sql.Order.isPlain = true := by
  obtain ⟨label, entity⟩ := Node.isPlain_iff.mp plain
  have terms : ∀ sorted ∈ sortColumns (fun field =>
      ((compiler.resolver node.entity).scalarColumns? field).map node.label.columns) order,
      sorted.1.isPlain = true := by
    intro sorted member
    simp only [sortColumns, List.mem_flatMap, List.mem_map] at member
    obtain ⟨term, listed, column, shown, rfl⟩ := member
    cases scalar : (compiler.resolver node.entity).scalarColumns? term.field with
    | none => simp [scalar] at shown
    | some columns =>
        obtain ⟨field, resolved, chosen⟩ := Option.bind_eq_some_iff.mp scalar
        split at chosen
        · cases chosen
        · cases chosen
          have all := Resolver.isQuiet_columns resolved entity (quiet term listed)
          simp only [scalar, Option.map_some, Option.getD_some] at shown
          exact List.all_eq_true.mp (Sql.Alias.isPlain_columns label all) column shown
  unfold orderOf
  dsimp only
  split
  · rfl
  · exact List.all_eq_true.mpr terms

theorem isPlain_object (settings : Settings) {fragment : Fragment} {resolver : Resolver}
    {label : Sql.Alias} (plain : fragment.Plain resolver) (named : label.isPlain = true) :
    (object settings fragment label).isPlain = true := by
  have columns := Sql.Alias.isPlain_columns named (List.all_eq_true.mpr plain.columns)
  refine List.all_eq_true.mpr (List.forall_mem_append.mpr ⟨plain.pairs, ?_⟩)
  split
  · exact List.forall_mem_singleton.mpr columns
  · simp

end Display

structure Body.Plain (body : Body) : Prop where
  object : body.object.isPlain = true
  joins : ∀ join ∈ body.joins, join.isPlain = true
  conditions : ∀ condition ∈ body.conditions, condition.isPlain = true
  order : body.order.all Sql.Order.isPlain = true

theorem Display.body_plain {compiler : Compiler} {child : Node} {fragment : Fragment}
    (named : child.isPlain = true) (plain : fragment.Plain (compiler.resolver child.entity)) :
    (body compiler child fragment).Plain := by
  obtain ⟨joins, conditions⟩ := (Scope.passes_isPlain named).lower plain.filter
  exact ⟨isPlain_object _ plain (Node.isPlain_iff.mp named).1,
    List.forall_mem_append.mpr ⟨joins, plain.joins⟩, conditions,
    isPlain_orderOf named plain.order⟩

theorem Site.Brought.plain {stem : String} {site : Site} {body : Body}
    {correlation : List Sql.Condition} {supply after : Sql.Supply} {rendered : Rendered}
    (brought : Brought stem site body correlation supply rendered after)
    (letters : stem.toList.all isNameChar = true) (child : site.child.isPlain = true)
    (linked : ∀ condition ∈ correlation, condition.isPlain = true) (plain : body.Plain) :
    rendered.join.isPlain = true ∧ rendered.value.isPlain = true := by
  have label : ∀ kind supply, (Sql.Supply.next kind stem supply).1.isPlain = true :=
    fun _ _ => letters
  have restricted := List.all_eq_true.mpr (List.forall_mem_append.mpr ⟨linked, plain.conditions⟩)
  have joins := List.all_eq_true.mpr plain.joins
  have source := site.isPlain_source child
  have value : isQuiet "value" = true := by decide
  have output : (pageOutput body).isPlain = true := by
    have order := plain.order
    unfold pageOutput
    split
    · rename_i terms ordered
      rw [ordered] at order
      simpa [Sql.Output.isPlain, plain.object] using order
    · simp [Sql.Output.isPlain, plain.object, value]
  have rows : (pageRows site body correlation).isPlain = true := by
    simp only [pageRows, Sql.Select.isPlain, output, source, Sql.Join.arePlain_eq,
      Sql.Condition.arePlain_eq, joins, restricted, plain.order]
    rfl
  cases brought <;> refine ⟨?_, label _ _⟩
  · simp [display, Sql.Join.isPlain, Sql.Select.isPlain, Sql.Output.isPlain, plain.object, value,
      source, Sql.Join.arePlain_eq, Sql.Condition.arePlain_eq, joins, restricted, plain.order,
      label]
  · simp [display, Sql.Join.isPlain, Sql.Select.isPlain, Sql.Output.isPlain, plain.object,
      source, Sql.Join.arePlain_eq, Sql.Condition.arePlain_eq, joins, restricted, label]
  · simp [display, Sql.Join.isPlain, Sql.Select.isPlain, Sql.Source.isPlain, Sql.Output.isPlain,
      rows, Sql.Join.arePlain_eq, Sql.Condition.arePlain_eq, label]

/-! ## Selections -/

namespace Display

open TreeQuery.Filter (childOf opened)

variable {compiler : Compiler} {node : Node}

theorem plain_scalarField (plain : node.isPlain = true) (key : String) {columns : List String}
    (quiet : columns.all isQuiet = true) {resolver : Resolver} :
    (scalarField node key columns).Plain resolver := by
  have label := (Node.isPlain_iff.mp plain).1
  have shown := Sql.Alias.isPlain_columns label quiet
  refine ⟨fun name member => ?_, ?_, by simp [scalarField], ?_, by simp [scalarField]⟩
  · rcases mem_unionNames.mp member with none | listed
    · cases none
    · exact List.all_eq_true.mp quiet name listed
  · refine List.forall_mem_singleton.mpr ?_
    unfold scalarValue
    split
    · simpa [Sql.Alias.columns, Sql.Value.isPlain] using shown
    · exact shown
  · exact Fragment.each_iff.mpr (by simp [scalarField])

theorem plain_computedField (key : String) {found : ComputedField} (quiet : found.isQuiet = true)
    {resolver : Resolver} : (computedField key found.columns).Plain resolver := by
  refine ⟨fun name member => ?_, ?_, by simp [computedField], ?_, by simp [computedField]⟩
  · rcases mem_unionNames.mp member with none | listed
    · cases none
    · exact List.all_eq_true.mp quiet name listed
  · exact List.forall_mem_singleton.mpr rfl
  · exact Fragment.each_iff.mpr (by simp [computedField])

theorem plain_relating (key : String) {rendered : Rendered} (values : Bindings)
    (plain : rendered.join.isPlain = true ∧ rendered.value.isPlain = true)
    {resolver : Resolver} : (relating key rendered values).Plain resolver := by
  refine ⟨by simp [relating], List.forall_mem_singleton.mpr plain.2,
    List.forall_mem_singleton.mpr plain.1, ?_, by simp [relating]⟩
  exact Fragment.each_iff.mpr (by simp [relating])

theorem Argued.plain (registered : compiler.Quiet) (plain : node.isPlain = true)
    {given : Arguments} {context after : Context} {fragments : List Fragment}
    (argued : Argued compiler node given context fragments after)
    (quiet : ∀ found ∈ given.computedFields compiler node.entity, found.isQuiet = true) :
    ∀ fragment ∈ fragments, fragment.Plain (compiler.resolver node.entity) := by
  obtain ⟨filtering, ordering⟩ := List.forall_mem_append.mp quiet
  have sliced : ∀ fragment ∈ (given.pagination.map Fragment.ofPagination).toList,
      fragment.Plain (compiler.resolver node.entity) := by
    intro fragment member
    obtain ⟨pagination, wanted, rfl⟩ := Option.map_eq_some_iff.mp (Option.mem_toList.mp member)
    refine ⟨by simp [Fragment.ofPagination], by simp [Fragment.ofPagination],
      by simp [Fragment.ofPagination], Fragment.each_iff.mpr (by simp [Fragment.ofPagination]), ?_⟩
    intro term listed found named
    refine ordering found (List.mem_filterMap.mpr ⟨term, ?_, named⟩)
    simpa [wanted, Fragment.ofPagination] using listed
  cases argued with
  | unfiltered unfiltered => exact sliced
  | filtered filtered compiled =>
      refine List.forall_mem_cons.mpr ⟨Filter.compile_plain registered plain ?_ compiled, sliced⟩
      intro found named
      refine filtering found (List.mem_flatMap.mpr ⟨_, ?_, named⟩)
      simp [filtered]

def Part.computedFields (compiler : Compiler) (entity : Entity) : Part → List ComputedField
  | .selection whole =>
      (whole.nodes compiler entity).flatMap (Selection.computedFields compiler)
  | .fields list =>
      (list.filterMap fun field => (compiler.resolver entity).computedField? field.1) ++
        (Selection.fieldNodes compiler entity list).flatMap (Selection.computedFields compiler)
  | .field key wanted =>
      ((compiler.resolver entity).computedField? key).toList ++
        (Selection.nodesOf compiler entity key wanted).flatMap (Selection.computedFields compiler)

def Part.Quiet (compiler : Compiler) (entity : Entity) (part : Part) : Prop :=
  ∀ found ∈ part.computedFields compiler entity, found.isQuiet = true

theorem Part.quiet_selection {entity : Entity} {fields : List (String × FieldNode)}
    {given : Option Arguments} :
    (Part.selection ⟨fields, given⟩).Quiet compiler entity ↔
      (Part.fields fields).Quiet compiler entity ∧
        ∀ found ∈ (given.getD {}).computedFields compiler entity, found.isQuiet = true := by
  simp only [Part.Quiet, Part.computedFields, Selection.nodes, List.flatMap_cons,
    Selection.computedFields, List.forall_mem_append]
  tauto

theorem Part.quiet_fields {entity : Entity} {key : String} {wanted : FieldNode}
    {rest : List (String × FieldNode)} :
    (Part.fields ((key, wanted) :: rest)).Quiet compiler entity ↔
      (Part.field key wanted).Quiet compiler entity ∧
        (Part.fields rest).Quiet compiler entity := by
  have first : (((key, wanted) :: rest).filterMap fun field =>
      (compiler.resolver entity).computedField? field.1) =
      ((compiler.resolver entity).computedField? key).toList ++
        rest.filterMap fun field => (compiler.resolver entity).computedField? field.1 := by
    cases named : (compiler.resolver entity).computedField? key <;> simp [named]
  simp only [Part.Quiet, Part.computedFields, first, Selection.fieldNodes, List.flatMap_append,
    List.forall_mem_append]
  tauto

theorem Part.Quiet.related {entity child : Entity} {key : String} {wanted : FieldNode}
    {property : Property} (quiet : (Part.field key wanted).Quiet compiler entity)
    (resolved : (compiler.resolver entity).resolve key = some (.property property))
    (relation : property.isRelation = true)
    (found : compiler.provider.entity property.typeName = .ok child) :
    (Part.selection wanted.selection).Quiet compiler child := by
  obtain ⟨-, below⟩ := List.forall_mem_append.mp quiet
  cases wanted with
  | leaf =>
      refine Part.quiet_selection.mpr ⟨?_, ?_⟩
      · simp [Part.Quiet, Part.computedFields, Selection.fieldNodes]
      · simp [Arguments.computedFields]
  | nested selection =>
      simp only [Selection.nodesOf, Compiler.related?_of_relation resolved relation found] at below
      exact below

theorem Runs.plain (registered : compiler.Quiet)
    (letters : compiler.settings.stem.toList.all isNameChar = true) {part : Part}
    {context after : Context} {fragments : List Fragment}
    (run : Runs compiler node part context fragments after) :
    node.isPlain = true → part.Quiet compiler node.entity →
      ∀ fragment ∈ fragments, fragment.Plain (compiler.resolver node.entity) := by
  induction run with
  | @keys node _ _ _ _ argued =>
      intro plain quiet
      obtain ⟨-, arguments⟩ := Part.quiet_selection.mp quiet
      refine List.forall_mem_append.mpr ⟨?_, argued.plain registered plain arguments⟩
      intro fragment member
      obtain ⟨property, listed, rfl⟩ := List.mem_map.mp member
      have properties := (Entity.isQuiet_iff.mp (Node.isPlain_iff.mp plain).2).2.2
      have columns :=
        properties property (Entity.mem_properties_of_mem_keyProperties listed)
      exact plain_scalarField plain _ (Property.isQuiet_iff.mp columns).1
  | selected nonempty ran argued shown =>
      intro plain quiet
      obtain ⟨fields, arguments⟩ := Part.quiet_selection.mp quiet
      exact List.forall_mem_append.mpr
        ⟨shown plain fields, argued.plain registered plain arguments⟩
  | noFields => simp
  | fields first later firstPlain laterPlain =>
      intro plain quiet
      obtain ⟨here, there⟩ := Part.quiet_fields.mp quiet
      exact List.forall_mem_append.mpr ⟨firstPlain plain here, laterPlain plain there⟩
  | computed resolved simple =>
      intro plain quiet
      obtain ⟨named, -⟩ := List.forall_mem_append.mp quiet
      refine List.forall_mem_singleton.mpr (plain_computedField _ (named _ ?_))
      simp [Resolver.computedField?, resolved]
  | scalar resolved scalar simple =>
      intro plain quiet
      have properties := (Entity.isQuiet_iff.mp (Node.isPlain_iff.mp plain).2).2.2
      have columns := properties _ (Resolver.mem_of_resolve resolved)
      exact List.forall_mem_singleton.mpr
        (plain_scalarField plain _ (Property.isQuiet_iff.mp columns).1)
  | @related node _ _ _ entity context _ _ _ _ _ values resolved relation found _ _ reduced brought
      _ _ inner =>
      intro plain quiet
      have child := Filter.isPlain_childOf plain (registered found) context
      have shown := Plain.reduce (inner child (quiet.related resolved relation found)) reduced
      obtain ⟨link, supply, linked, joined, -⟩ := Site.render_ok brought
      have correlated :=
        Site.isPlain_linked plain child (Resolver.mem_of_resolve resolved) linked
      refine List.forall_mem_singleton.mpr (plain_relating _ values ?_)
      exact joined.plain letters child (correlated _) (body_plain child shown)

end Display

/-! ## Statements -/

/-- The statement of a query is plain if the computed fields that the query names are quiet. -/
theorem Compiler.compile_isPlain_of_stem {compiler : Compiler} (registered : compiler.Quiet)
    (letters : compiler.settings.stem.toList.all isNameChar = true) {query : Query}
    (quiet : ∀ found ∈ query.computedFields compiler, found.isQuiet = true)
    {statement : Statement} (compiled : compiler.compile query = .ok statement) :
    statement.query.isPlain = true := by
  obtain ⟨entity, shown, argued, fragment, between, after, found, run, given, reduced, rfl⟩ :=
    compile_ok compiled
  have root : (compiler.rootNode entity).isPlain = true :=
    Node.isPlain_iff.mpr ⟨letters, registered found⟩
  simp only [Query.computedFields, found] at quiet
  obtain ⟨arguments, selected⟩ := List.forall_mem_append.mp quiet
  have plain : fragment.Plain (compiler.resolver entity) := by
    refine Plain.reduce (List.forall_mem_append.mpr ⟨?_, ?_⟩) reduced
    · exact run.plain registered letters root selected
    · exact given.plain registered root arguments
  obtain ⟨object, joins, conditions, order⟩ := Display.body_plain root plain
  have source := Filter.isPlain_source root
  have value : isQuiet valueColumn = true := by decide
  simp only [Display.body] at object joins conditions order
  simp only [rootSelect, Sql.Select.isPlain, Sql.Output.isPlain, Sql.Join.arePlain_eq,
    Sql.Condition.arePlain_eq, object, value, source, List.all_eq_true.mpr joins,
    List.all_eq_true.mpr conditions, order]
  rfl

theorem Compiler.compile_isPlain {compiler : Compiler} (registered : compiler.Quiet)
    (valid : compiler.settings.violations = []) {query : Query}
    (quiet : ∀ found ∈ query.computedFields compiler, found.isQuiet = true)
    {statement : Statement} (compiled : compiler.compile query = .ok statement) :
    statement.query.isPlain = true :=
  compile_isPlain_of_stem registered (Settings.isNameChar_stem valid) quiet compiled

end TreeQuery
