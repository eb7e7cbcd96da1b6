import TreeQuery.Proofs.Aliases

/-!
# Successful runs of the selection compiler

`Display.Runs` relates a part of a selection to the fragments that it compiles to,
with one rule for each way in which a part can be compiled without an error.  A
relation that is wanted as it is runs like a relation with an empty selection.
-/

namespace TreeQuery

def FieldNode.selection : FieldNode → Selection
  | .leaf => {}
  | .nested selection => selection

namespace Display

open TreeQuery.Filter (childOf opened)

inductive Part where
  | selection (selection : Selection)
  | fields (fields : List (String × FieldNode))
  | field (key : String) (wanted : FieldNode)

def relating (key : String) (rendered : Rendered) (values : Bindings) : Fragment :=
  { joins := [rendered.join], pairs := [(key, rendered.value)], values }

inductive Argued (compiler : Compiler) (node : Node) (given : Arguments) :
    Context → List Fragment → Context → Prop
  | unfiltered {context : Context} (unfiltered : given.filter = none) :
      Argued compiler node given context
        (given.pagination.map Fragment.ofPagination).toList context
  | filtered {filter : Members} {context after : Context} {fragment : Fragment}
      (filtered : given.filter = some filter)
      (compiled : Filter.compile compiler node filter context = .ok (fragment, after)) :
      Argued compiler node given context
        (fragment :: (given.pagination.map Fragment.ofPagination).toList) after

theorem arguments_ok {compiler : Compiler} {node : Node} {given : Option Arguments}
    {context after : Context} {fragments : List Fragment}
    (done : arguments compiler node given context = .ok (fragments, after)) :
    Argued compiler node (given.getD {}) context fragments after := by
  cases wanted : (given.getD {}).filter with
  | none =>
      simp only [arguments, wanted, Compile.bind_ok, Compile.pure_ok] at done
      obtain ⟨_, _, ⟨rfl, rfl⟩, rfl, rfl⟩ := done
      exact .unfiltered wanted
  | some filter =>
      simp only [arguments, wanted, Compile.bind_ok, Compile.pure_ok] at done
      obtain ⟨fragment, _, compiled, _, _, ⟨rfl, rfl⟩, rfl, rfl⟩ := done
      exact .filtered wanted compiled

theorem Argued.paginated {compiler : Compiler} {node : Node} {filter : Option Members}
    {context after : Context} {fragments : List Fragment}
    (argued : Argued compiler node { filter } context fragments after)
    (pagination : Option Pagination) :
    Argued compiler node ⟨filter, pagination⟩ context
      (fragments ++ (pagination.map Fragment.ofPagination).toList) after := by
  cases argued with
  | unfiltered unfiltered => exact .unfiltered unfiltered
  | filtered filtered compiled => exact .filtered filtered compiled

inductive Runs (compiler : Compiler) :
    Node → Part → Context → List Fragment → Context → Prop
  | keys {node : Node} {given : Option Arguments} {context after : Context}
      {fragments : List Fragment}
      (argued : Argued compiler node (given.getD {}) context fragments after) :
      Runs compiler node (.selection ⟨[], given⟩) context (keyFields node ++ fragments) after
  | selected {node : Node} {fields : List (String × FieldNode)} {given : Option Arguments}
      {context between after : Context} {shown fragments : List Fragment}
      (nonempty : fields ≠ [])
      (ran : Runs compiler node (.fields fields) context shown between)
      (argued : Argued compiler node (given.getD {}) between fragments after) :
      Runs compiler node (.selection ⟨fields, given⟩) context (shown ++ fragments) after
  | noFields {node : Node} {context : Context} :
      Runs compiler node (.fields []) context [] context
  | fields {node : Node} {key : String} {wanted : FieldNode}
      {rest : List (String × FieldNode)} {context between after : Context}
      {fragment : Fragment} {others : List Fragment}
      (first : Runs compiler node (.field key wanted) context [fragment] between)
      (later : Runs compiler node (.fields rest) between others after) :
      Runs compiler node (.fields ((key, wanted) :: rest)) context (fragment :: others) after
  | computed {node : Node} {key : String} {wanted : FieldNode} {context : Context}
      {found : ComputedField}
      (resolved : (compiler.resolver node.entity).resolve key = some (.computed found))
      (plain : wanted.selection.isEmpty = true) :
      Runs compiler node (.field key wanted) context [computedField key found.columns] context
  | scalar {node : Node} {key : String} {wanted : FieldNode} {context : Context}
      {property : Property}
      (resolved : (compiler.resolver node.entity).resolve key = some (.property property))
      (scalar : property.isRelation = false) (plain : wanted.selection.isEmpty = true) :
      Runs compiler node (.field key wanted) context
        [scalarField node key property.columns] context
  | related {node : Node} {key : String} {wanted : FieldNode} {property : Property}
      {entity : Entity} {context between after : Context} {fragments : List Fragment}
      {shown : Fragment} {rendered : Rendered} {values : Bindings}
      (resolved : (compiler.resolver node.entity).resolve key = some (.property property))
      (relation : property.isRelation = true)
      (found : compiler.provider.entity property.typeName = .ok entity)
      (shallow : context.depth + 1 ≤ compiler.settings.maxDepth)
      (inner : Runs compiler (childOf node entity context) (.selection wanted.selection)
        (opened node context) fragments between)
      (reduced : Fragment.reduce fragments = .ok shown)
      (brought : (Site.mk node property (childOf node entity context)).render
        compiler.settings (body compiler (childOf node entity context) shown) between.leave =
          .ok (rendered, after))
      (perm : values.Perm shown.values) (distinct : values.names.Nodup) :
      Runs compiler node (.field key wanted) context [relating key rendered values] after

theorem relationField_ok {compiler : Compiler} {node : Node} {key : String}
    {property : Property} {inner : Node → Compile Fragment} {context after : Context}
    {fragment : Fragment}
    (done : relationField compiler node key property inner context = .ok (fragment, after)) :
    ∃ entity between shown rendered values,
      compiler.provider.entity property.typeName = .ok entity ∧
      context.depth + 1 ≤ compiler.settings.maxDepth ∧
      inner (childOf node entity context) (opened node context) = .ok (shown, between) ∧
      (Site.mk node property (childOf node entity context)).render compiler.settings
        (body compiler (childOf node entity context) shown) between.leave =
          .ok (rendered, after) ∧
      values.Perm shown.values ∧ values.names.Nodup ∧
      fragment = relating key rendered values := by
  simp only [relationField, Compile.bind_ok, Compile.entity_ok, Compile.enter_ok,
    Compile.leave_ok, Compile.ofExcept_ok, Fragment.checked_bindAll_ok] at done
  obtain ⟨entity, _, ⟨found, rfl⟩, _, _, ⟨shallow, rfl⟩, label, _, child, shown, between,
    ran, _, _, rfl, rendered, _, brought, ⟨values, bound, rfl⟩, rfl⟩ := done
  obtain ⟨rfl, rfl⟩ := Compile.fromSupply_ok.mp child
  obtain ⟨perm, fresh⟩ := Bindings.bindAll_none bound
  have nothing : (Bindings.names []).Nodup := List.nodup_nil
  exact ⟨entity, between, shown, rendered, values, found, shallow, ran, brought,
    by simpa using perm, Bindings.names_nodup_of_perm nothing fresh perm, rfl⟩

mutual

theorem parts_runs {compiler : Compiler} {node : Node} {context after : Context} :
    ∀ {selection : Selection} {fragments : List Fragment},
      parts compiler node selection context = .ok (fragments, after) →
      Runs compiler node (.selection selection) context fragments after
  | ⟨selected, given⟩, fragments, done => by
      cases selected with
      | nil =>
          simp only [parts, List.isEmpty_nil, if_true, Compile.bind_ok, Compile.pure_ok] at done
          obtain ⟨_, _, ⟨rfl, rfl⟩, argued, _, arguing, rfl, rfl⟩ := done
          exact .keys (arguments_ok arguing)
      | cons first rest =>
          simp only [parts, List.isEmpty_cons, Bool.false_eq_true, if_false, Compile.bind_ok,
            Compile.pure_ok] at done
          obtain ⟨shown, between, ran, argued, _, arguing, rfl, rfl⟩ := done
          exact .selected (by simp) (fields_runs ran) (arguments_ok arguing)

theorem fields_runs {compiler : Compiler} {node : Node} {context after : Context} :
    ∀ {list : List (String × FieldNode)} {fragments : List Fragment},
      fields compiler node list context = .ok (fragments, after) →
      Runs compiler node (.fields list) context fragments after
  | [], fragments, done => by
      rw [fields] at done
      obtain ⟨rfl, rfl⟩ := Compile.pure_ok.mp done
      exact .noFields
  | (key, wanted) :: rest, fragments, done => by
      simp only [fields, Compile.bind_ok, Compile.pure_ok] at done
      obtain ⟨fragment, between, first, others, _, later, rfl, rfl⟩ := done
      exact .fields (field_runs first) (fields_runs later)

theorem field_runs {compiler : Compiler} {node : Node} {key : String}
    {context after : Context} {fragment : Fragment} :
    ∀ {wanted : FieldNode}, field compiler node key wanted context = .ok (fragment, after) →
      Runs compiler node (.field key wanted) context [fragment] after
  | .leaf, done => by
      cases resolved : (compiler.resolver node.entity).resolve key with
      | none => exact (Compile.throw_ok.mp (by simpa [field, resolved] using done)).elim
      | some named =>
          cases named with
          | computed found =>
              simp only [field, resolved, Compile.pure_ok] at done
              obtain ⟨rfl, rfl⟩ := done
              exact .computed resolved rfl
          | property property =>
              by_cases relation : property.isRelation
              · simp only [field, resolved, relation, if_true] at done
                obtain ⟨entity, between, shown, rendered, values, found, shallow, ran, brought,
                  perm, distinct, rfl⟩ := relationField_ok done
                obtain ⟨reduced, rfl⟩ := Compile.reduce_ok.mp ran
                -- a relation without a selection shows its keys
                have inner : Runs compiler (childOf node entity context) (.selection {})
                    (opened node context) (keyFields (childOf node entity context) ++ [])
                    (opened node context) := .keys (.unfiltered rfl)
                rw [List.append_nil] at inner
                exact .related resolved relation found shallow inner reduced brought perm
                  distinct
              · simp only [field, resolved, relation, Bool.false_eq_true, if_false,
                  Compile.pure_ok] at done
                obtain ⟨rfl, rfl⟩ := done
                exact .scalar resolved (by simpa using relation) rfl
  | .nested selection, done => by
      cases resolved : (compiler.resolver node.entity).resolve key with
      | none => exact (Compile.throw_ok.mp (by simpa [field, resolved] using done)).elim
      | some named =>
          cases named with
          | computed found =>
              by_cases plain : selection.isEmpty
              · simp only [field, resolved, plain, if_true, Compile.pure_ok] at done
                obtain ⟨rfl, rfl⟩ := done
                exact .computed resolved plain
              · exact (Compile.throw_ok.mp (by simpa [field, resolved, plain] using done)).elim
          | property property =>
              by_cases relation : property.isRelation
              · simp only [field, resolved, relation, if_true] at done
                obtain ⟨entity, between, shown, rendered, values, found, shallow, ran, brought,
                  perm, distinct, rfl⟩ := relationField_ok done
                simp only [Compile.bind_ok, Compile.reduce_ok] at ran
                obtain ⟨fragments, _, ran, reduced, rfl⟩ := ran
                exact .related resolved relation found shallow (parts_runs ran) reduced brought
                  perm distinct
              · by_cases plain : selection.isEmpty
                · simp only [field, resolved, relation, plain, Bool.false_eq_true, if_false,
                    if_true, Compile.pure_ok] at done
                  obtain ⟨rfl, rfl⟩ := done
                  exact .scalar resolved (by simpa using relation) plain
                · exact (Compile.throw_ok.mp
                    (by simpa [field, resolved, relation, plain] using done)).elim

end

end Display

/-! ## Statements -/

namespace Compiler

def rootNode (compiler : Compiler) (entity : Entity) : Node :=
  ⟨entity, (Sql.Supply.start compiler.settings.stem {}).1⟩

def rootContext (compiler : Compiler) : Context :=
  { supply := (Sql.Supply.start compiler.settings.stem {}).2 }

theorem issued_rootNode (compiler : Compiler) (entity : Entity) :
    compiler.rootContext.supply.Issued (compiler.rootNode entity).label :=
  Sql.Supply.next_issued _ .entity _

theorem node_parts {compiler : Compiler} {node : Node} {selection : Selection}
    {filter : Option Members} {context after : Context} {fragment : Fragment}
    (done : Compile.node compiler node (some selection) filter context =
      .ok (fragment, after)) :
    ∃ shown filtered between,
      Display.parts compiler node selection context = .ok (shown, between) ∧
      Display.Argued compiler node { filter } between filtered after ∧
      Fragment.reduce (shown ++ filtered) = .ok fragment := by
  cases filter with
  | none =>
      simp only [Compile.node, Compile.bind_ok, Compile.pure_ok, Compile.reduce_ok] at done
      obtain ⟨shown, between, ran, _, _, ⟨rfl, rfl⟩, reduced, rfl⟩ := done
      exact ⟨shown, [], _, ran, .unfiltered rfl, reduced⟩
  | some filter =>
      simp only [Compile.node, Compile.bind_ok, Compile.pure_ok, Compile.reduce_ok] at done
      obtain ⟨shown, between, ran, filtered, _, compiled, _, _, ⟨rfl, rfl⟩, reduced, rfl⟩ := done
      exact ⟨shown, [filtered], between, ran, .filtered rfl compiled, reduced⟩

theorem node_ok {compiler : Compiler} {node : Node} {selection : Selection}
    {filter : Option Members} {context after : Context} {fragment : Fragment}
    (done : Compile.node compiler node (some selection) filter context =
      .ok (fragment, after)) :
    ∃ shown filtered between,
      Display.Runs compiler node (.selection selection) context shown between ∧
      Display.Argued compiler node { filter } between filtered after ∧
      Fragment.reduce (shown ++ filtered) = .ok fragment := by
  obtain ⟨shown, filtered, between, ran, argued, reduced⟩ := node_parts done
  exact ⟨shown, filtered, between, Display.parts_runs ran, argued, reduced⟩

theorem statement_parts {compiler : Compiler} {query : Query} {statement : Statement}
    {after : Context} (ran : compiler.statement query {} = .ok (statement, after)) :
    ∃ entity shown argued fragment between,
      compiler.provider.entity query.entity = .ok entity ∧
      Display.parts compiler (compiler.rootNode entity) query.selection
        compiler.rootContext = .ok (shown, between) ∧
      Display.Argued compiler (compiler.rootNode entity) ⟨query.filter, query.pagination⟩
        between argued after ∧
      Fragment.reduce (shown ++ argued) = .ok fragment ∧
      statement = ⟨compiler.rootSelect (compiler.rootNode entity) fragment, fragment.values⟩ := by
  -- the pagination is merged last, like a further part
  cases given : query.pagination with
  | none =>
      simp only [Compiler.statement, Compiler.root, given, Compile.bind_ok, Compile.pure_ok,
        Compile.entity_ok, Compile.fromSupply_ok] at ran
      obtain ⟨_, _, ⟨entity, _, ⟨found, rfl⟩, _, _, ⟨rfl, rfl⟩, fragment, _, done, rfl, rfl⟩,
        _, _, ⟨rfl, rfl⟩, rfl, rfl⟩ := ran
      obtain ⟨shown, filtered, between, selected, argued, reduced⟩ := node_parts done
      exact ⟨entity, shown, filtered, _, between, found, selected, argued, reduced, rfl⟩
  | some pagination =>
      simp only [Compiler.statement, Compiler.root, given, Compile.bind_ok, Compile.pure_ok,
        Compile.entity_ok, Compile.fromSupply_ok, Compile.ofExcept_ok] at ran
      obtain ⟨_, _, ⟨entity, _, ⟨found, rfl⟩, _, _, ⟨rfl, rfl⟩, fragment, _, done, rfl, rfl⟩,
        whole, _, ⟨merged, rfl⟩, rfl, rfl⟩ := ran
      obtain ⟨shown, filtered, between, selected, argued, reduced⟩ := node_parts done
      have extended : Fragment.reduce
          (shown ++ filtered ++ [Fragment.ofPagination pagination]) = .ok whole := by
        rw [Fragment.reduce_concat, reduced]
        exact merged
      rw [List.append_assoc] at extended
      exact ⟨entity, shown, filtered ++ [Fragment.ofPagination pagination], whole, between, found,
        selected, argued.paginated (some pagination), extended, rfl⟩

theorem statement_ok {compiler : Compiler} {query : Query} {statement : Statement}
    {after : Context} (ran : compiler.statement query {} = .ok (statement, after)) :
    ∃ entity shown argued fragment between,
      compiler.provider.entity query.entity = .ok entity ∧
      Display.Runs compiler (compiler.rootNode entity) (.selection query.selection)
        compiler.rootContext shown between ∧
      Display.Argued compiler (compiler.rootNode entity) ⟨query.filter, query.pagination⟩
        between argued after ∧
      Fragment.reduce (shown ++ argued) = .ok fragment ∧
      statement = ⟨compiler.rootSelect (compiler.rootNode entity) fragment, fragment.values⟩ := by
  obtain ⟨entity, shown, argued, fragment, between, found, selected, rest⟩ := statement_parts ran
  exact ⟨entity, shown, argued, fragment, between, found, Display.parts_runs selected, rest⟩

theorem statement_of_compile {compiler : Compiler} {query : Query} {statement : Statement}
    (done : compiler.compile query = .ok statement) :
    ∃ after, compiler.statement query {} = .ok (statement, after) := by
  unfold compile at done
  cases outcome : compiler.statement query {} with
  | error error => simp [StateT.run', outcome, Functor.map, Except.map] at done
  | ok result =>
      simp only [StateT.run', outcome, Functor.map, Except.map, Except.ok.injEq] at done
      exact ⟨result.2, by rw [← done]⟩

/--
A query that compiles is the reduction of a run over its selection and of its
filter and pagination, which are arguments of the root.
-/
theorem compile_ok {compiler : Compiler} {query : Query} {statement : Statement}
    (done : compiler.compile query = .ok statement) :
    ∃ entity shown argued fragment between after,
      compiler.provider.entity query.entity = .ok entity ∧
      Display.Runs compiler (compiler.rootNode entity) (.selection query.selection)
        compiler.rootContext shown between ∧
      Display.Argued compiler (compiler.rootNode entity) ⟨query.filter, query.pagination⟩
        between argued after ∧
      Fragment.reduce (shown ++ argued) = .ok fragment ∧
      statement = ⟨compiler.rootSelect (compiler.rootNode entity) fragment, fragment.values⟩ := by
  obtain ⟨after, ran⟩ := statement_of_compile done
  obtain ⟨entity, shown, argued, fragment, between, found, selected, given, reduced, same⟩ :=
    statement_ok ran
  exact ⟨entity, shown, argued, fragment, between, after, found, selected, given, reduced, same⟩

end Compiler

end TreeQuery
