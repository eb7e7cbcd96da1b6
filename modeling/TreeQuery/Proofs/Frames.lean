import TreeQuery.Proofs.FragmentSides
import TreeQuery.Proofs.Sample

/-!
# What filters and pages leave as it is

The text of a statement falls into a frame, which the selection determines, what a
filter adds to it, and what a page adds.  The filter puts joins in the middle of the
frame and a condition behind it, and the page a tail behind that.  Neither changes
the frame or what the selection binds.
-/

namespace TreeQuery

open Text (collapse isWritten)

/-! ## Clauses -/

namespace Sql

def SelectText.clauses (parts : SelectText) : List String :=
  ["SELECT", parts.output, "FROM", parts.source] ++ parts.joins ++
    (if parts.conditions.isEmpty then [] else ["WHERE " ++ conjunction parts.conditions]) ++
    parts.order.toList ++ (parts.limit.map fun count => "LIMIT " ++ toString count).toList ++
    (parts.offset.map fun count => "OFFSET " ++ toString count).toList

theorem intercalate_cons (text : String) (rest : List String) :
    " ".intercalate (text :: rest) = text ++ String.join (rest.map (" " ++ ·)) := by
  induction rest generalizing text with
  | nil => simp
  | cons next rest ih =>
      rw [String.intercalate_cons_cons, ih]
      simp [String.append_assoc]

theorem SelectText.render_eq (parts : SelectText) :
    parts.render = collapse (" ".intercalate parts.clauses) := by
  obtain ⟨output, source, joins, conditions, order, limit, offset⟩ := parts
  have restricted : (if (whereClause conditions).isEmpty then "" else " " ++ whereClause conditions) =
      String.join ((if conditions.isEmpty then [] else ["WHERE " ++ conjunction conditions]).map
        (" " ++ ·)) := by
    cases conditions <;> simp [whereClause]
  have ordered : order.elim "" (" " ++ ·) = String.join (order.toList.map (" " ++ ·)) := by
    cases order <;> simp
  have sliced : slice limit offset =
      String.join (((limit.map fun count => "LIMIT " ++ toString count).toList ++
        (offset.map fun count => "OFFSET " ++ toString count).toList).map (" " ++ ·)) := by
    apply String.toList_injective
    cases limit <;> cases offset <;> simp [slice]
  refine congrArg collapse ?_
  simp only [clauses, List.cons_append, List.nil_append]
  rw [intercalate_cons, restricted, ordered, sliced]
  apply String.toList_injective
  simp

def JoinKind.lead : JoinKind → String
  | .inner => "INNER JOIN LATERAL ("
  | .leftOuter => "LEFT OUTER JOIN LATERAL ("

def Join.inside : Join → String
  | .text sql => sql
  | .lateral _ query label =>
      String.ofList
        (Text.squeeze false (query.render ++ ") AS " ++ label.text ++ " ON TRUE").toList)

theorem Join.render_lateral (kind : JoinKind) (query : Select) (label : Alias) :
    (Join.lateral kind query label).render = kind.lead ++ (Join.lateral kind query label).inside := by
  have leads : Text.isLead kind.lead = true := by cases kind <;> decide
  rw [inside, ← Text.collapse_lead leads, Join.render, Sql.lateral]
  refine congrArg collapse (String.toList_injective ?_)
  cases kind <;> simp [JoinKind.text, JoinKind.lead]

theorem Join.collapse_lateral (kind : JoinKind) (query : Select) (label : Alias) :
    collapse (Join.lateral kind query label).render = (Join.lateral kind query label).render := by
  rw [Join.render, Sql.lateral, Text.collapse_collapse]

def Order.inside : Order → String
  | .text sql => sql
  | .terms list =>
      collapse (", ".intercalate (list.map fun term => term.1.text ++ " " ++ term.2.text))

theorem isWritten_terms {terms : List (Column × Direction)} (nonempty : terms ≠ []) :
    isWritten (", ".intercalate (terms.map fun term => term.1.text ++ " " ++ term.2.text)) =
      true := by
  cases terms with
  | nil => exact (nonempty rfl).elim
  | cons term rest =>
      have direction : isWritten term.2.text = true := by cases term.2 <;> decide
      exact Text.isWritten_intercalate ", " (by simp [direction]) _

theorem isWritten_number (number : Nat) : isWritten (toString number) = true := by
  obtain ⟨c, member⟩ := List.exists_mem_of_ne_nil _ (toString_ne_nil number)
  exact List.any_eq_true.mpr ⟨c, member, by simp [unblank_number number c member]⟩

theorem intercalate_head (object source : String) (rest : List String) :
    " ".intercalate (["SELECT", object ++ " AS val", "FROM", source] ++ rest) =
      " ".intercalate (["SELECT " ++ object ++ " AS val FROM " ++ source] ++ rest) := by
  simp only [List.cons_append, List.nil_append]
  rw [intercalate_cons, intercalate_cons]
  apply String.toList_injective
  simp

end Sql

/-! ## Frames -/

/-- What a selection determines of a statement. -/
structure Frame where
  object : String
  source : String
  displayed : List String := []
  bindings : Bindings := []

/-- What a filter adds to a frame. -/
structure Restriction where
  tests : List String := []
  condition : Option String := none
  bindings : Bindings := []

/-- What a page adds to a frame. -/
structure Tail where
  order : Option String := none
  limit : Option Nat := none
  offset : Option Nat := none

namespace Frame

def head (frame : Frame) : String := "SELECT " ++ frame.object ++ " AS val FROM " ++ frame.source

def text (frame : Frame) (restriction : Restriction) (tail : Tail) : String :=
  " ".intercalate
    ([frame.head] ++ restriction.tests.map (Sql.JoinKind.inner.lead ++ ·) ++
      frame.displayed.map (Sql.JoinKind.leftOuter.lead ++ ·) ++
      (restriction.condition.map ("WHERE " ++ ·)).toList ++
      (tail.order.map ("ORDER BY " ++ ·)).toList ++
      (tail.limit.map fun count => "LIMIT " ++ toString count).toList ++
      (tail.offset.map fun count => "OFFSET " ++ toString count).toList)

end Frame

namespace Compiler

def frame (compiler : Compiler) (node : Node) (shown : Fragment) : Frame where
  object := collapse (Display.object compiler.settings shown node.label).render
  source := collapse (Filter.scope node).source.render
  displayed := shown.joins.map Sql.Join.inside
  bindings := shown.values

def restriction (node : Node) (filtered : Fragment) : Restriction :=
  let lowered := filtered.lower (Filter.scope node)
  { tests := lowered.joins.map Sql.Join.inside
    condition :=
      if lowered.conditions.isEmpty then none
      else some (collapse (Sql.conjunction (lowered.conditions.map Sql.Condition.render)))
    bindings := filtered.values }

def tail (compiler : Compiler) (node : Node) (page : Fragment) : Tail where
  order := (Display.orderOf compiler node page.order).map Sql.Order.inside
  limit := page.limit
  offset := page.offset

section Clauses

variable {compiler : Compiler} {node : Node}

theorem collapse_joins {kind : Sql.JoinKind} {joins : List Sql.Join}
    (same : ∀ join ∈ joins, join.HasKind kind) :
    (joins.map Sql.Join.render).map collapse =
      (joins.map Sql.Join.inside).map (kind.lead ++ ·) := by
  rw [List.map_map, List.map_map]
  refine List.map_congr_left fun join listed => ?_
  obtain ⟨query, label, rfl⟩ := same join listed
  exact (Sql.Join.collapse_lateral kind query label).trans
    (Sql.Join.render_lateral kind query label)

theorem isWritten_joins {kind : Sql.JoinKind} {joins : List Sql.Join}
    (same : ∀ join ∈ joins, join.HasKind kind) :
    ∀ text ∈ joins.map Sql.Join.render, isWritten text = true := by
  refine List.forall_mem_map.mpr fun join listed => ?_
  obtain ⟨query, label, rfl⟩ := same join listed
  have lead : isWritten kind.lead = true := by cases kind <;> decide
  rw [Sql.Join.render_lateral, Text.isWritten_append, lead, Bool.true_or]

theorem orderOf_terms {order : List SortTerm} {ordering : Sql.Order}
    (ordered : Display.orderOf compiler node order = some ordering) :
    ∃ terms, terms ≠ [] ∧ ordering = .terms terms := by
  unfold Display.orderOf at ordered
  dsimp only at ordered
  split at ordered
  · cases ordered
  · rename_i several
    cases ordered
    exact ⟨_, several, rfl⟩

theorem collapse_order (order : List SortTerm) :
    ((Display.orderOf compiler node order).map Sql.Order.render).map collapse =
      ((Display.orderOf compiler node order).map Sql.Order.inside).map ("ORDER BY " ++ ·) := by
  cases ordered : Display.orderOf compiler node order with
  | none => rfl
  | some ordering =>
      obtain ⟨terms, several, rfl⟩ := orderOf_terms ordered
      simp only [Option.map_some, Sql.Order.render, Sql.orderClause, List.map_map,
        Function.comp_def, Sql.Order.inside]
      rw [Text.collapse_keyword "ORDER BY" (by decide) (by decide) (by decide)
        (Sql.isWritten_terms several)]

theorem collapse_where {conditions : List Sql.Condition}
    (written : ∀ condition ∈ conditions, condition.Written) :
    (if (conditions.map Sql.Condition.render).isEmpty then []
      else ["WHERE " ++ Sql.conjunction (conditions.map Sql.Condition.render)]).map collapse =
      ((if conditions.isEmpty then none
        else some (collapse (Sql.conjunction (conditions.map Sql.Condition.render)))).map
          ("WHERE " ++ ·)).toList := by
  cases conditions with
  | nil => rfl
  | cons first rest =>
      have clause : isWritten
          (Sql.conjunction ((first :: rest).map Sql.Condition.render)) = true :=
        Sql.isWritten_connected "AND" (by decide) (List.forall_mem_map.mpr written)
      have spaced : "WHERE " = "WHERE" ++ " " := by decide
      simpa using Text.collapse_keyword "WHERE" spaced (by decide) (by decide) clause

theorem collapse_count (keyword : String) {spaced : String} (same : spaced = keyword ++ " ")
    (kept : collapse keyword = keyword) (word : isWritten keyword = true) (count : Option Nat) :
    ((count.map fun count => spaced ++ toString count).toList).map collapse =
      (count.map fun count => spaced ++ toString count).toList := by
  cases count with
  | none => rfl
  | some number =>
      simp only [Option.map_some, Option.toList_some, List.map_cons, List.map_nil]
      rw [Text.collapse_keyword keyword same kept word (Sql.isWritten_number number),
        Text.collapse_of_unblank (Sql.unblank_number number)]

theorem isWritten_object (settings : Settings) (shown : Fragment) (label : Sql.Alias) :
    isWritten (Display.object settings shown label).render = true := by
  rw [Display.object, Sql.ObjectExpr.render]
  exact Sql.isWritten_objectText _ _

theorem collapse_output (settings : Settings) (shown : Fragment) (label : Sql.Alias) :
    collapse ((Display.object settings shown label).render ++ " AS " ++ valueColumn) =
      collapse (Display.object settings shown label).render ++ " AS val" := by
  have spaced : (Display.object settings shown label).render ++ " AS " ++ valueColumn =
      (Display.object settings shown label).render ++ " " ++ "AS val" := by
    apply String.toList_injective
    simp [valueColumn]
  have named : collapse "AS val" = "AS val" := by decide
  rw [spaced, Text.collapse_spaced (isWritten_object settings shown label) (by decide), named]
  apply String.toList_injective
  simp

theorem isWritten_clauses {settings : Settings} {shown : Fragment} {tests displayed : List Sql.Join}
    {conditions : List Sql.Condition} {order : List SortTerm} {limit offset : Option Nat}
    (testing : ∀ join ∈ tests, join.HasKind .inner)
    (bringing : ∀ join ∈ displayed, join.HasKind .leftOuter) :
    ∀ text ∈ Sql.SelectText.clauses
      { output := (Display.object settings shown node.label).render ++ " AS " ++ valueColumn
        source := (Filter.scope node).source.render
        joins := tests.map Sql.Join.render ++ displayed.map Sql.Join.render
        conditions := conditions.map Sql.Condition.render
        order := (Display.orderOf compiler node order).map Sql.Order.render
        limit
        offset }, isWritten text = true := by
  have keyword : ∀ {keyword : String}, isWritten keyword = true → ∀ (count : Option Nat),
      ∀ text ∈ (count.map fun count => keyword ++ toString count).toList, isWritten text = true := by
    intro keyword written count
    cases count <;> simp [written]
  have ordered : ∀ text ∈ ((Display.orderOf compiler node order).map Sql.Order.render).toList,
      isWritten text = true := by
    cases chosen : Display.orderOf compiler node order with
    | none => simp
    | some ordering =>
        obtain ⟨terms, -, rfl⟩ := orderOf_terms chosen
        simp [Sql.Order.render, Sql.orderClause, show isWritten "ORDER BY " = true by decide]
  have restricted : ∀ text ∈ (if (conditions.map Sql.Condition.render).isEmpty then []
      else ["WHERE " ++ Sql.conjunction (conditions.map Sql.Condition.render)]),
      isWritten text = true := by
    split
    · simp
    · simp [show isWritten "WHERE " = true by decide]
  have first : ∀ text ∈ ["SELECT",
      (Display.object settings shown node.label).render ++ " AS " ++ valueColumn, "FROM",
      (Filter.scope node).source.render], isWritten text = true := by
    have source : isWritten (Filter.scope node).source.render = true := by
      rw [Scope.source, Sql.Source.render]
      exact Sql.isWritten_aliased _ _
    simp [isWritten_object, source, show isWritten "SELECT" = true by decide,
      show isWritten "FROM" = true by decide]
  simp only [Sql.SelectText.clauses, List.forall_mem_append]
  exact ⟨⟨⟨⟨⟨first, isWritten_joins testing, isWritten_joins bringing⟩, restricted⟩, ordered⟩,
    keyword (by decide) limit⟩, keyword (by decide) offset⟩

end Clauses

theorem rootSelect_render {compiler : Compiler} {node : Node}
    {fragment shown filtered page : Fragment} (display : fragment.display = shown.display)
    (demand : fragment.demand = filtered.demand) (slicing : fragment.slicing = page.slicing)
    (brings : ∀ join ∈ shown.joins, join.HasKind .leftOuter)
    (each : filtered.Each (Sql.Join.HasKind .inner) Sql.Condition.Written) :
    (compiler.rootSelect node fragment).render =
      (compiler.frame node shown).text (restriction node filtered) (compiler.tail node page) := by
  simp only [Fragment.display, Fragment.mk.injEq] at display
  obtain ⟨columns, pairs, computed, -, joins, -⟩ := display
  simp only [Fragment.slicing, Fragment.mk.injEq] at slicing
  obtain ⟨-, -, -, -, -, -, -, limit, offset, order, -⟩ := slicing
  have object : Display.object compiler.settings fragment node.label =
      Display.object compiler.settings shown node.label := by
    simp only [Display.object, columns, pairs, computed]
  have lowered : fragment.lower (Filter.scope node) = filtered.lower (Filter.scope node) := by
    rw [← Fragment.lower_demand, demand, Fragment.lower_demand]
  obtain ⟨tests, written⟩ := each.lowered (Filter.scope node)
  simp only [rootSelect, object, joins, lowered, order, limit, offset, Sql.Select.render,
    Sql.SelectText.render_eq, Sql.Output.render, Sql.Join.renderAll_eq, Sql.Condition.renderAll_eq,
    List.map_append]
  rw [Text.collapse_intercalate (isWritten_clauses tests brings)]
  simp only [Sql.SelectText.clauses, List.map_append, collapse_joins tests, collapse_joins brings]
  rw [collapse_where written, collapse_count "LIMIT" (by decide) (by decide) (by decide),
    collapse_count "OFFSET" (by decide) (by decide) (by decide), ← Option.toList_map,
    collapse_order]
  have select : collapse "SELECT" = "SELECT" := by decide
  have from_ : collapse "FROM" = "FROM" := by decide
  simp only [List.map_cons, List.map_nil, collapse_output, select, from_, List.append_assoc,
    Sql.intercalate_head, Frame.text, Frame.head, frame, restriction, tail]

/-! ## Runs -/

/-- The fragment of a filter that may be absent; a filter that fails gives none. -/
def filtered (compiler : Compiler) (node : Node) (context : Context) : Option Members → Fragment
  | none => {}
  | some filter =>
      match Filter.compile compiler node filter context with
      | .ok (fragment, _) => fragment
      | .error _ => {}

def paged (pagination : Option Pagination) : Fragment :=
  (pagination.map Fragment.ofPagination).getD {}

theorem merge_page {start fragment : Fragment} (unsliced : start.slicing = {})
    (pagination : Option Pagination)
    (merged : (pagination.map Fragment.ofPagination).toList.foldlM Fragment.merge start =
      .ok fragment) :
    fragment.display = start.display ∧ fragment.demand = start.demand ∧
      fragment.slicing = (paged pagination).slicing ∧ fragment.values.Perm start.values := by
  cases pagination with
  | none =>
      cases merged
      exact ⟨rfl, rfl, unsliced, .refl _⟩
  | some pagination =>
      have once : start.merge (Fragment.ofPagination pagination) = .ok fragment := by
        simpa using merged
      have values := (Fragment.merge_values once).1
      rw [Fragment.ofPagination, List.append_nil] at values
      exact ⟨Fragment.merge_display once rfl, Fragment.merge_demand_right once rfl,
        Fragment.merge_slicing_left once unsliced, values⟩

theorem merge_argued {compiler : Compiler} {node : Node} {filter : Option Members}
    {pagination : Option Pagination} {between after : Context} {argued : List Fragment}
    {shown fragment : Fragment} (shows : shown.Shows)
    (given : Display.Argued compiler node ⟨filter, pagination⟩ between argued after)
    (merged : argued.foldlM Fragment.merge shown = .ok fragment) :
    fragment.display = shown.display ∧
      fragment.demand = (filtered compiler node between filter).demand ∧
      fragment.slicing = (paged pagination).slicing ∧
      fragment.values.Perm (shown.values ++ (filtered compiler node between filter).values) ∧
      (filtered compiler node between filter).Each (Sql.Join.HasKind .inner)
        Sql.Condition.Written := by
  cases given with
  | unfiltered unfiltered =>
      obtain rfl : filter = none := unfiltered
      obtain ⟨display, demand, slicing, values⟩ := merge_page shows.unsliced pagination merged
      exact ⟨display, demand.trans shows.undemanding, slicing, by simpa [filtered] using values,
        Fragment.each_empty⟩
  | @filtered wanted _ _ tested chosen compiled =>
      obtain rfl : filter = some wanted := chosen
      have whole : filtered compiler node between (some wanted) = tested := by
        simp only [filtered, compiled]
      have demands := Filter.compile_demands compiled
      rw [List.foldlM_cons] at merged
      cases first : shown.merge tested with
      | error error => simp [first, bind, Except.bind] at merged
      | ok middle =>
          rw [first] at merged
          have unsliced := Fragment.merge_slicing_left first shows.unsliced
          obtain ⟨display, demand, slicing, values⟩ :=
            merge_page (unsliced.trans demands.unsliced) pagination merged
          rw [whole]
          exact ⟨display.trans (Fragment.merge_display first demands.hidden),
            demand.trans (Fragment.merge_demand_left first shows.undemanding), slicing,
            values.trans (Fragment.merge_values first).1, demands.tests⟩

/-- A selection that is compiled together with a filter and a page is compiled without them. -/
theorem compile_plain {compiler : Compiler} {name : String} {selection : Selection}
    {entity : Entity} {parts : List Fragment} {shown : Fragment} {between : Context}
    (found : compiler.provider.entity name = .ok entity)
    (ran : Display.parts compiler (compiler.rootNode entity) selection compiler.rootContext =
      .ok (parts, between))
    (reduced : Fragment.reduce parts = .ok shown) :
    compiler.compile { entity := name, selection } =
      .ok ⟨compiler.rootSelect (compiler.rootNode entity) shown, shown.values⟩ := by
  have node : Compile.node compiler (compiler.rootNode entity) (some selection) none
      compiler.rootContext = .ok (shown, between) := by
    simp only [Compile.node, Compile.bind_ok, Compile.pure_ok, Compile.reduce_ok]
    exact ⟨parts, between, ran, [], between, ⟨rfl, rfl⟩, by simpa using reduced, rfl⟩
  have done : compiler.statement { entity := name, selection } {} =
      .ok (⟨compiler.rootSelect (compiler.rootNode entity) shown, shown.values⟩, between) := by
    simp only [Compiler.statement, Compiler.root, Compile.bind_ok, Compile.pure_ok,
      Compile.entity_ok, Compile.fromSupply_ok]
    exact ⟨_, _, ⟨entity, _, ⟨found, rfl⟩, _, _, ⟨rfl, rfl⟩, shown, between, node, rfl, rfl⟩,
      _, _, ⟨rfl, rfl⟩, rfl, rfl⟩
  simp only [compile, StateT.run', done, Functor.map, Except.map]

theorem compile_framed {compiler : Compiler} {name : String} {selection : Selection}
    {entity : Entity} {parts : List Fragment} {shown : Fragment} {between : Context}
    (bare : selection.arguments = none) (found : compiler.provider.entity name = .ok entity)
    (ran : Display.parts compiler (compiler.rootNode entity) selection compiler.rootContext =
      .ok (parts, between))
    (reduced : Fragment.reduce parts = .ok shown) {filter : Option Members}
    {pagination : Option Pagination} {statement : Statement}
    (compiled : compiler.compile ⟨name, selection, filter, pagination⟩ = .ok statement) :
    statement.sql =
        (compiler.frame (compiler.rootNode entity) shown).text
          (restriction (compiler.rootNode entity)
            (filtered compiler (compiler.rootNode entity) between filter))
          (compiler.tail (compiler.rootNode entity) (paged pagination)) ∧
      statement.bindings.Perm (shown.values ++
        (filtered compiler (compiler.rootNode entity) between filter).values) := by
  obtain ⟨after, done⟩ := statement_of_compile compiled
  obtain ⟨other, others, argued, fragment, middle, named, again, given, whole, rfl⟩ :=
    statement_parts done
  -- the selection is compiled before the filter, and does not depend on it
  obtain rfl : entity = other := Except.ok.inj (found.symm.trans named)
  obtain ⟨rfl, rfl⟩ : parts = others ∧ between = middle :=
    Prod.mk.inj (Except.ok.inj (ran.symm.trans again))
  obtain ⟨start, same, merged⟩ := Fragment.reduce_append_ok whole
  obtain rfl : shown = start := Except.ok.inj (reduced.symm.trans same)
  have run := Display.parts_runs ran
  have shows : shown.Shows := .reduce (run.shows bare) reduced
  have brings : ∀ join ∈ shown.joins, join.HasKind .leftOuter := by
    intro join listed
    rw [Fragment.reduce_joins reduced] at listed
    obtain ⟨part, member, inside⟩ := List.mem_flatMap.mp listed
    exact run.brings part member join inside
  obtain ⟨display, demand, slicing, values, each⟩ := merge_argued shows given merged
  exact ⟨rootSelect_render display demand slicing brings each, values⟩

/--
The selection alone determines the frame of a statement and its bindings.  A filter
adds joins and a condition of its own, and a page a tail of its own.
-/
theorem filter_and_page_keep_frame (compiler : Compiler) (name : String) (selection : Selection)
    (bare : selection.arguments = none) :
    ∃ (frame : Frame) (restrict : Option Members → Restriction)
      (tail : Option Pagination → Tail),
      restrict none = {} ∧ tail none = {} ∧
      (∀ pagination, (tail (some pagination)).limit = pagination.limit ∧
        (tail (some pagination)).offset = pagination.offset) ∧
      ∀ filter pagination statement,
        compiler.compile ⟨name, selection, filter, pagination⟩ = .ok statement →
          statement.sql = frame.text (restrict filter) (tail pagination) ∧
          statement.bindings.Perm (frame.bindings ++ (restrict filter).bindings) ∧
          ∃ plain, compiler.compile { entity := name, selection } = .ok plain ∧
            plain.bindings = frame.bindings := by
  by_cases some : ∃ filter pagination statement,
      compiler.compile ⟨name, selection, filter, pagination⟩ = .ok statement
  · obtain ⟨_, _, statement, compiled⟩ := some
    obtain ⟨after, done⟩ := statement_of_compile compiled
    obtain ⟨entity, parts, argued, fragment, between, found, ran, given, whole, -⟩ :=
      statement_parts done
    obtain ⟨shown, reduced, -⟩ := Fragment.reduce_append_ok whole
    refine ⟨compiler.frame (compiler.rootNode entity) shown,
      fun filter => restriction (compiler.rootNode entity)
        (filtered compiler (compiler.rootNode entity) between filter),
      fun pagination => compiler.tail (compiler.rootNode entity) (paged pagination), ?_, ?_,
      fun pagination => ⟨rfl, rfl⟩, fun filter pagination statement compiled => ?_⟩
    · simp only [restriction, filtered, Fragment.lower_empty]
      rfl
    · rfl
    · obtain ⟨sql, bindings⟩ := compile_framed bare found ran reduced compiled
      exact ⟨sql, bindings, _, compile_plain found ran reduced, rfl⟩
  · refine ⟨⟨"", "", [], []⟩, fun _ => {},
      fun pagination => ⟨none, pagination.bind Pagination.limit, pagination.bind Pagination.offset⟩,
      rfl, rfl, fun pagination => ⟨rfl, rfl⟩, fun filter pagination statement compiled => ?_⟩
    exact (some ⟨filter, pagination, statement, compiled⟩).elim

end Compiler

namespace Sample

def shirefolk : Selection :=
  { fields :=
      [("name", .leaf),
        ("battles",
          .nested
            { fields := [("name", .leaf)]
              arguments := some { filter := some [("name", .string "Bywater")] } })] }

def travellers : Query :=
  { entity := "Person"
    selection := shirefolk
    filter := some [("fellowship", .object [("name", .string "Nine")])]
    pagination := some { limit := some 2, order := [⟨"name", .ascending⟩] } }

theorem filter_and_page_keep_frame_travellers :
    shirefolk.arguments = none ∧
    ∃ everyone few : Statement,
      compiler.compile { entity := "Person", selection := shirefolk } = .ok everyone ∧
      compiler.compile travellers = .ok few ∧
      ∃ frame restriction tail,
        everyone.sql = Frame.text frame {} {} ∧ few.sql = Frame.text frame restriction tail ∧
          tail.limit = some 2 ∧ few.bindings.Perm (everyone.bindings ++ restriction.bindings) := by
  refine ⟨rfl, ?_⟩
  obtain ⟨few, compiled⟩ : ∃ few, compiler.compile travellers = .ok few :=
    exists_statement (by decide +kernel)
  obtain ⟨frame, restrict, tail, unrestricted, whole, sliced, framed⟩ :=
    Compiler.filter_and_page_keep_frame compiler "Person" shirefolk rfl
  obtain ⟨sql, bindings, everyone, shown, own⟩ := framed _ _ few compiled
  obtain ⟨plain, -⟩ := framed none none everyone shown
  rw [unrestricted, whole] at plain
  exact ⟨everyone, few, shown, compiled, frame, _, _, plain, sql, (sliced _).1,
    by simpa [own] using bindings⟩

end Sample

end TreeQuery
