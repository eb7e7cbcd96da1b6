import TreeQuery.Proofs.FilterMeaning
import TreeQuery.Proofs.PairedColumns
import TreeQuery.Proofs.Relations

/-!
# The shape of a displayed relation

A relation is displayed in one of three ways: as an object, as an array of all rows,
or as an array of a page of rows.  Each has a select that lists the related rows, and this
select has everything that the body asks for.  `Site.Lists` says so once for the three ways,
and `Site.Gathers` how they differ around it.  What the statement says and which rows it
shows follows from these two.
-/

namespace TreeQuery

open Sql (Alias Condition Select)

namespace Site

variable {settings : Settings} {site : Site} {body : Body} {correlation : List Condition}
  {page : Alias} {rows query : Select} {context after : Context} {rendered : Rendered}

/-- How many rows are shown at most; the body has a say only if many may be shown. -/
def limit (site : Site) (body : Body) : Option Nat :=
  if site.property.reference.isPlural then body.limit
  else if site.isInverseSingle then some 1
  else none

def offset (site : Site) (body : Body) : Option Nat :=
  if site.property.reference.isPlural then body.offset else none

/-- The select lists the rows of the child under a correlation, as the body asks for them. -/
structure Lists (site : Site) (body : Body) (correlation : List Condition) (rows : Select) :
    Prop where
  source : rows.source = .table site.child.entity.table site.child.label
  joins : rows.joins = body.joins
  conditions : rows.conditions = correlation ++ body.conditions
  order : rows.order = body.order
  limit : rows.limit = site.limit body
  offset : rows.offset = site.offset body

/--
How the value of a relation is made from the rows that are listed: one by one, all in one array,
or in one array behind a page.  Only the rows of a page can be ordered or sliced before they are
collected, and an ordered page is collected by the positions of its rows.
-/
inductive Gathers (site : Site) (body : Body) (page : Alias) (rows : Select) : Select → Prop
  | single (singular : site.property.reference.isPlural = false)
      (output : rows.output = .object body.object "value") :
      Gathers site body page rows rows
  | array (plural : site.property.reference.isPlural = true) (whole : body.isPaginated = false)
      (output : rows.output = .collected body.object) :
      Gathers site body page rows rows
  | paged (plural : site.property.reference.isPlural = true) (paginated : body.isPaginated = true)
      (output : rows.output = body.order.elim (.object body.object "value")
        (.numbered body.object)) :
      Gathers site body page rows
        { output := .collectedPage page body.order.isSome, source := .page rows page }

def Shows (stem : String) (site : Site) (body : Body) (context : Context)
    (rendered : Rendered) : Prop :=
  ∃ link correlation between rows query,
    Link.resolve site.parent.entity site.property site.child.entity = .ok link ∧
    Site.correlation link site.parent.label site.child.label context =
      .ok (correlation, between) ∧
    site.Lists body correlation rows ∧
    site.Gathers body (between.supply.next .page stem).1 rows query ∧
    rendered.join = .lateral .leftOuter query rendered.label ∧
    rendered.label.kind = .subquery

theorem correlation_of_conditions {correlation : List Condition} {between : Context}
    (correlated : site.conditions context = .ok (correlation, between)) :
    ∃ link, Link.resolve site.parent.entity site.property site.child.entity = .ok link ∧
      Site.correlation link site.parent.label site.child.label context =
        .ok (correlation, between) := by
  obtain ⟨link, resolved, rfl, rfl⟩ := conditions_ok correlated
  exact ⟨link, resolved, Link.correlation_eq link _ _ context⟩

theorem shows_singular (single : site.property.reference.isPlural = false)
    (done : site.singular settings body site.isInverseSingle context = .ok (rendered, after)) :
    Shows settings.stem site body context rendered := by
  simp only [singular, Compile.bind_ok, Compile.freshAlias_ok, Compile.pure_ok] at done
  obtain ⟨correlation, between, correlated, _, _, ⟨rfl, rfl⟩, rfl, rfl⟩ := done
  obtain ⟨link, resolved, correlated⟩ := correlation_of_conditions correlated
  refine ⟨link, correlation, between, _, _, resolved, correlated, ?_, .single single rfl, rfl, rfl⟩
  exact ⟨rfl, rfl, rfl, rfl, by simp [limit, single], by simp [offset, single]⟩

theorem shows_plural (plural : site.property.reference.isPlural = true)
    (done : site.plural settings body context = .ok (rendered, after)) :
    Shows settings.stem site body context rendered := by
  cases paginated : body.isPaginated with
  | true =>
      simp only [Site.plural, paginated, if_true, Compile.bind_ok, Compile.freshAlias_ok,
        Compile.pure_ok] at done
      obtain ⟨correlation, between, correlated, _, _, ⟨rfl, rfl⟩, _, _, ⟨rfl, rfl⟩, rfl, rfl⟩ :=
        done
      obtain ⟨link, resolved, correlated⟩ := correlation_of_conditions correlated
      refine ⟨link, correlation, between, _, _, resolved, correlated, ?_,
        .paged plural paginated ?_, rfl, rfl⟩
      · exact ⟨rfl, rfl, rfl, rfl, by simp [limit, plural], by simp [offset, plural]⟩
      · cases ordered : body.order <;> simp [pageOutput, ordered]
  | false =>
      simp only [Site.plural, paginated, Bool.false_eq_true, if_false, Compile.bind_ok,
        Compile.freshAlias_ok, Compile.pure_ok] at done
      obtain ⟨correlation, between, correlated, _, _, ⟨rfl, rfl⟩, rfl, rfl⟩ := done
      obtain ⟨link, resolved, correlated⟩ := correlation_of_conditions correlated
      obtain ⟨⟨order, limited⟩, skipped⟩ :
          (body.order = none ∧ body.limit = none) ∧ body.offset = none := by
        simpa [Body.isPaginated] using paginated
      refine ⟨link, correlation, between, _, _, resolved, correlated, ?_,
        .array plural paginated rfl, rfl, rfl⟩
      exact ⟨rfl, rfl, rfl, order.symm, by simp [limit, plural, limited],
        by simp [offset, plural, skipped]⟩

theorem shows_of_render (done : site.render settings body context = .ok (rendered, after)) :
    Shows settings.stem site body context rendered := by
  rcases render_cases done with ⟨single, done⟩ | ⟨plural, done⟩
  · exact shows_singular single done
  · exact shows_plural plural done

/-! ## What the statement says -/

def arrayOf (elements : String) : String :=
  "coalesce(json_agg(" ++ elements ++ "), '[]'::json) AS value"

def rowsText (site : Site) (body : Body) (correlation : List Condition) (shown : String) :
    String :=
  Text.collapse
    ("SELECT " ++ shown ++
      " FROM " ++ Sql.tableName site.child.entity.table ++ " AS " ++ site.child.label.text ++
      String.join (body.joins.map fun join => " " ++ join.render) ++
      " WHERE " ++ Sql.conjunction ((correlation ++ body.conditions).map Condition.render) ++
      (body.order.elim "" fun order => " " ++ order.render) ++
      Sql.slice (site.limit body) (site.offset body))

def queryText (site : Site) (body : Body) (correlation : List Condition) (page : Alias) :
    String :=
  let object := body.object.render
  if !site.property.reference.isPlural then
    site.rowsText body correlation (object ++ " AS value")
  else if !body.isPaginated then
    site.rowsText body correlation (arrayOf object)
  else
    let numbered := body.order.elim "" fun order =>
      ", row_number() OVER (" ++ order.render ++ ") AS row_index"
    let byNumber := body.order.elim "" fun _ => " ORDER BY " ++ page.text ++ ".row_index"
    Text.collapse
      ("SELECT " ++ arrayOf (page.text ++ ".value" ++ byNumber) ++
        " FROM (" ++ site.rowsText body correlation (object ++ " AS value" ++ numbered) ++
        ") AS " ++ page.text)

theorem select_render (query : Select) :
    query.render =
      Sql.SelectText.render
        { output := query.output.render
          source := query.source.render
          joins := query.joins.map Sql.Join.render
          conditions := query.conditions.map Condition.render
          order := query.order.map Sql.Order.render
          limit := query.limit
          offset := query.offset } := by
  cases query
  rw [Select.render, Condition.renderAll_eq, Sql.Join.renderAll_eq]

theorem Lists.render (lists : site.Lists body correlation rows) (some : correlation ≠ []) :
    rows.render = site.rowsText body correlation rows.output.render := by
  -- the correlation is not empty, so there is a condition to be met
  have filter : Sql.whereClause ((correlation ++ body.conditions).map Condition.render) =
      "WHERE " ++ Sql.conjunction ((correlation ++ body.conditions).map Condition.render) := by
    simp [Sql.whereClause, some]
  have written : ∀ text : String, ("WHERE " ++ text).isEmpty = false := by simp
  have spaced : " WHERE " = " " ++ "WHERE " := by decide
  have order : ((body.order.map Sql.Order.render).elim "" fun text => " " ++ text) =
      body.order.elim "" fun order => " " ++ order.render := by
    cases body.order <;> rfl
  rw [select_render, lists.source, lists.joins, lists.conditions, lists.order, lists.limit,
    lists.offset]
  simp only [Sql.SelectText.render, rowsText, filter, written, order, spaced, Sql.Source.render,
    Sql.aliased, List.map_map, Function.comp_def, String.append_assoc, Bool.false_eq_true, if_false]

theorem arrayText_value (elements : String) :
    Sql.arrayText elements ++ " AS value" = arrayOf elements := by
  have joined : "), '[]'::json)" ++ " AS value" = "), '[]'::json) AS value" := by decide
  unfold Sql.arrayText arrayOf
  rw [String.append_assoc, joined]

theorem object_render (object : Sql.ObjectExpr) :
    (Sql.Output.object object "value").render = object.render ++ " AS value" := by
  have joined : " AS " ++ "value" = " AS value" := by decide
  rw [Sql.Output.render, String.append_assoc, joined]

theorem collectedPage_render (page : Alias) (order : Option Sql.Order) :
    (Sql.Output.collectedPage page order.isSome).render =
      arrayOf (page.text ++ ".value" ++
        (order.elim "" fun _ => " ORDER BY " ++ page.text ++ ".row_index")) := by
  have position : page.column Sql.position = page.text ++ ".row_index" := by
    have bare : Sql.identifier Sql.position = "row_index" := by decide
    rw [Alias.column, Sql.qualified, bare, String.append_assoc]
    rfl
  rw [Sql.Output.render, arrayText_value, position]
  cases order <;> simp [String.append_assoc]

theorem numbered_render (body : Body) :
    (body.order.elim (.object body.object "value") (.numbered body.object) : Sql.Output).render =
      body.object.render ++ " AS value" ++ (body.order.elim "" fun order =>
        ", row_number() OVER (" ++ order.render ++ ") AS row_index") := by
  cases body.order with
  | none => simp [object_render]
  | some order =>
      apply String.toList_injective
      simp [Sql.Output.render, Sql.position]

theorem Gathers.render (gathers : site.Gathers body page rows query)
    (lists : site.Lists body correlation rows) (some : correlation ≠ []) :
    query.render = site.queryText body correlation page := by
  have listed := lists.render some
  cases gathers with
  | single singular output =>
      rw [listed, output, object_render]
      simp [queryText, singular]
  | array plural whole output =>
      rw [listed, output, Sql.Output.render, arrayText_value]
      simp [queryText, plural, whole]
  | paged plural paginated output =>
      rw [output, numbered_render] at listed
      have opened : " FROM (" = " FROM " ++ "(" := by decide
      have closed : ") AS " = ")" ++ " AS " := by decide
      have bare : Sql.whereClause [] = "" := rfl
      rw [select_render, collectedPage_render, Sql.Source.render, listed]
      simp only [queryText, plural, paginated, Sql.SelectText.render, Sql.aliased, Sql.slice,
        opened, closed, bare, List.map_nil, String.append_assoc]
      simp

/-! ## Which rows are shown -/

section

variable {Row Value : Type} {database : Database Row Value} {bindings : Bindings}
  {assignment : Assignment Row}

/-- A page holds the rows that it lists, and collecting them leaves none out. -/
theorem Gathers.answer (gathers : site.Gathers body page rows query) :
    database.answer bindings assignment query = database.answer bindings assignment rows := by
  cases gathers with
  | single | array => rfl
  | paged plural paginated output =>
      simp [Database.answer, Database.range, Database.slice, Database.keepsAll, Database.holdsAll]

theorem Lists.answer (lists : site.Lists body correlation rows) :
    database.answer bindings assignment rows =
      database.slice body.order (site.limit body) (site.offset body)
        (((database.rows site.child.entity.table).map
            (Function.update assignment site.child.label)).filter fun inner =>
          body.joins.all (database.keeps bindings inner) &&
            (correlation ++ body.conditions).all (database.holds bindings inner)) := by
  have answered : database.answer bindings assignment rows =
      database.slice rows.order rows.limit rows.offset
        ((database.range bindings assignment rows.source).filter fun inner =>
          rows.joins.all (database.keeps bindings inner) &&
            rows.conditions.all (database.holds bindings inner)) := by
    cases rows
    simp only [Database.answer, Database.keepsAll_eq, Database.holdsAll_eq]
  rw [answered, lists.source, lists.joins, lists.conditions, lists.order, lists.limit,
    lists.offset, Database.range]

def related (site : Site) (body : Body) (link : Link) (database : Database Row Value)
    (bindings : Bindings) (assignment : Assignment Row) : List (Assignment Row) :=
  let belonging := (database.rows site.child.entity.table).filter fun row =>
    link.relates database (assignment site.parent.label) row
  (belonging.map (Function.update assignment site.child.label)).filter fun inner =>
    body.joins.all (database.keeps bindings inner) &&
      body.conditions.all (database.holds bindings inner)

theorem Lists.answer_related {link : Link} {pivot : Alias}
    (distinct : site.parent.label ≠ site.child.label) (apart : pivot ≠ site.parent.label)
    (lists : site.Lists body (linking site.parent.label site.child.label pivot link) rows) :
    database.answer bindings assignment rows =
      database.slice body.order (site.limit body) (site.offset body)
        (site.related body link database bindings assignment) := by
  rw [lists.answer, related, List.filter_map, List.filter_map, List.filter_filter]
  congr 3
  funext row
  -- the row of the parent stays as it is while the rows of the child are gone through
  rw [Function.comp_apply, Function.comp_apply, List.all_append, Filter.linking_holds apart,
    Function.update_of_ne distinct, Function.update_self, Bool.and_comm (link.relates _ _ _),
    Bool.and_assoc]

end

/--
Whenever a relation is displayed, its join declares a select around the rows of the child.
The rows have the joins, the conditions and the ordering of the body, and those of a plural
relation are sliced as the body asks and collected once.  So what is shown for a parent row are
the rows that belong to it and meet the body.
-/
theorem render_shape (done : site.render settings body context = .ok (rendered, after)) :
    ∃ link correlation between rows query page,
      Link.resolve site.parent.entity site.property site.child.entity = .ok link ∧
      Site.correlation link site.parent.label site.child.label context =
        .ok (correlation, between) ∧
      site.Lists body correlation rows ∧
      site.Gathers body page rows query ∧
      page.kind = .page ∧ ¬between.supply.Issued page ∧ page ≠ rendered.label ∧
      rendered.join = .lateral .leftOuter query rendered.label ∧
      rendered.join.render =
        Text.collapse ("LEFT OUTER JOIN LATERAL (" ++ site.queryText body correlation page ++
          ") AS " ++ rendered.label.text ++ " ON TRUE") ∧
      rendered.value.render = rendered.label.text ++ ".value" ∧
      (site.parent.label ≠ site.child.label → context.supply.Issued site.parent.label →
        ∀ {Row Value : Type} (database : Database Row Value) (bindings : Bindings)
          (assignment : Assignment Row),
          database.answer bindings assignment query =
            database.slice body.order (site.limit body) (site.offset body)
              (site.related body link database bindings assignment)) := by
  obtain ⟨link, correlation, between, rows, query, resolved, correlated, lists, gathers, join,
    labelled⟩ := shows_of_render done
  have pair := correlated
  rw [Link.correlation_eq] at pair
  cases pair
  have some := ((Link.isPaired_of_resolve resolved).compared site.parent.label site.child.label
    (context.supply.next .pivot site.child.label.stem).1).2
  refine ⟨link, _, _, rows, query, _, resolved, correlated, lists, gathers, rfl,
    fun issued => Sql.Supply.next_ne issued _ _ rfl, fun same => ?_, join, ?_, rfl, ?_⟩
  · rw [← same] at labelled
    cases labelled
  · have opened : "LEFT OUTER" ++ " JOIN LATERAL (" = "LEFT OUTER JOIN LATERAL (" := by decide
    rw [join, Sql.Join.render, Sql.lateral, gathers.render lists some, ← opened]
    rfl
  · intro distinct issued _ _ database bindings assignment
    rw [gathers.answer, lists.answer_related distinct (Sql.Supply.next_ne issued _ _)]

end Site

namespace Sample

def membership : Site :=
  { parent := ⟨fellowship, ⟨.entity, "t", 1⟩⟩
    property := (Property.ofReference "members" "Person" .oneToMany).withMappedBy "fellowship"
    child := ⟨person, ⟨.entity, "t", 2⟩⟩ }

def twoByName : Body :=
  { object := .pairs 50 [("name", .column ⟨⟨.entity, "t", 2⟩, "name"⟩)]
    conditions := [.test [⟨⟨.entity, "t", 2⟩, "name"⟩] (.isNull true)]
    order := some (.terms [(⟨⟨.entity, "t", 2⟩, "name"⟩, .ascending)])
    limit := some 2
    offset := some 1 }

theorem render_shape_membership :
    ∃ rendered after rows page,
      membership.render {} twoByName started = .ok (rendered, after) ∧
      membership.Lists twoByName
        [.equal ⟨⟨.entity, "t", 2⟩, "fellowship_id"⟩ ⟨⟨.entity, "t", 1⟩, "id"⟩] rows ∧
      rows.limit = some 2 ∧ rows.offset = some 1 ∧
      rendered.join = .lateral .leftOuter
        { output := .collectedPage page true, source := .page rows page } rendered.label ∧
      ¬started.supply.Issued page ∧ membership.parent.label ≠ membership.child.label ∧
      started.supply.Issued membership.parent.label := by
  obtain ⟨rendered, after, done⟩ : ∃ rendered after,
      membership.render {} twoByName started = .ok (rendered, after) := ⟨_, _, rfl⟩
  obtain ⟨link, correlation, between, rows, query, page, resolved, correlated, lists, gathers,
    -, fresh, -, join, -⟩ := Site.render_shape done
  cases resolved
  cases correlated
  cases gathers with
  | single singular => cases singular
  | array plural whole => cases whole
  | paged =>
      exact ⟨rendered, after, rows, page, done, lists, lists.limit, lists.offset, join, fresh,
        by decide, Nat.le_refl 1⟩

end Sample

end TreeQuery
