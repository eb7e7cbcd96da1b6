import TreeQuery.Proofs.FilterFailures
import TreeQuery.Proofs.SelectionRuns

/-!
# Failing runs of the selection compiler

`Display.Fails` and `Compiler.Fails` say how the compilation of a selection and of
a whole query can end with an error.
-/

namespace TreeQuery

namespace Site

variable {site : Site} {settings : Settings} {body : Body} {context : Context}
  {error : CompileError}

theorem singular_error {limitOne : Bool}
    (failed : site.singular settings body limitOne context = .error error) :
    site.conditions context = .error error := by
  simpa only [singular, Compile.bind_error, Compile.freshAlias_error, Compile.pure_error,
    false_or, or_false, and_false, exists_false] using failed

theorem plural_error (failed : site.plural settings body context = .error error) :
    site.conditions context = .error error := by
  unfold plural at failed
  split at failed <;>
    simpa only [Compile.bind_error, Compile.freshAlias_error, Compile.pure_error,
      false_or, or_false, and_false, exists_false] using failed

theorem blame_of_fail {α : Type} {fault : RelationFault}
    (failed : (site.fail fault : Compile α) context = .error error) : error.blame = .catalog := by
  rw [← Compile.throw_error.mp failed]
  rfl

theorem blame_of_render (failed : site.render settings body context = .error error) :
    error.blame = .catalog := by
  unfold render at failed
  cases reference : site.property.reference with
  | scalar =>
      rw [reference] at failed
      exact blame_of_fail failed
  | oneToOne =>
      rw [reference] at failed
      exact blame_of_conditions (singular_error failed)
  | oneToMany =>
      simp only [reference, oneToMany] at failed
      split at failed
      · exact blame_of_fail failed
      · exact blame_of_conditions (plural_error failed)
  | manyToOne =>
      simp only [reference, manyToOne] at failed
      split at failed
      · exact blame_of_fail failed
      · exact blame_of_conditions (singular_error failed)
  | manyToMany =>
      rw [reference] at failed
      exact blame_of_conditions (plural_error failed)

end Site

namespace Display

open TreeQuery.Filter (childOf opened)

inductive Fails (compiler : Compiler) : Node → Part → Context → CompileError → Prop
  | fields {node : Node} {fields : List (String × FieldNode)} {given : Option Arguments}
      {context : Context} {error : CompileError}
      (failed : Fails compiler node (.fields fields) context error) :
      Fails compiler node (.selection ⟨fields, given⟩) context error
  | filter {node : Node} {fields : List (String × FieldNode)} {given : Option Arguments}
      {filter : Members} {context between : Context} {error : CompileError}
      (filtered : (given.getD {}).filter = some filter)
      (failed : Filter.Fails compiler node (.elements [.object filter]) between error) :
      Fails compiler node (.selection ⟨fields, given⟩) context error
  | first {node : Node} {key : String} {wanted : FieldNode} {rest : List (String × FieldNode)}
      {context : Context} {error : CompileError}
      (failed : Fails compiler node (.field key wanted) context error) :
      Fails compiler node (.fields ((key, wanted) :: rest)) context error
  | later {node : Node} {key : String} {wanted : FieldNode} {rest : List (String × FieldNode)}
      {context between : Context} {fragment : Fragment} {error : CompileError}
      (ran : Runs compiler node (.field key wanted) context [fragment] between)
      (failed : Fails compiler node (.fields rest) between error) :
      Fails compiler node (.fields ((key, wanted) :: rest)) context error
  | unresolved {node : Node} {key : String} {wanted : FieldNode} {context : Context} :
      Fails compiler node (.field key wanted) context (.unresolvedField node.label key)
  | noSubfields {node : Node} {key : String} {wanted : FieldNode} {context : Context} :
      Fails compiler node (.field key wanted) context (.selection (.noSubfields key))
  | unknownTarget {node : Node} {key : String} {wanted : FieldNode} {property : Property}
      {context : Context} {fault : CatalogError}
      (resolved : (compiler.resolver node.entity).resolve key = some (.property property))
      (relation : property.isRelation = true)
      (missing : compiler.provider.entity property.typeName = .error fault) :
      Fails compiler node (.field key wanted) context (.catalog fault)
  | tooDeep {node : Node} {key : String} {wanted : FieldNode} {context : Context}
      (deep : compiler.settings.maxDepth < context.depth + 1) :
      Fails compiler node (.field key wanted) context
        (.tooDeep (context.depth + 1) compiler.settings.maxDepth)
  | related {node : Node} {key : String} {wanted : FieldNode} {property : Property}
      {entity : Entity} {context : Context} {error : CompileError}
      (resolved : (compiler.resolver node.entity).resolve key = some (.property property))
      (relation : property.isRelation = true)
      (found : compiler.provider.entity property.typeName = .ok entity)
      (failed : Fails compiler (childOf node entity context) (.selection wanted.selection)
        (opened node context) error) :
      Fails compiler node (.field key wanted) context error
  | reduced {node : Node} {key : String} {wanted : FieldNode} {entity : Entity}
      {context between : Context} {fragments : List Fragment} {error : CompileError}
      (ran : Runs compiler (childOf node entity context) (.selection wanted.selection)
        (opened node context) fragments between)
      (failed : Fragment.reduce fragments = .error error) :
      Fails compiler node (.field key wanted) context error
  | unrendered {node : Node} {key : String} {wanted : FieldNode} {property : Property}
      {entity : Entity} {body : Body} {context between : Context} {error : CompileError}
      (resolved : (compiler.resolver node.entity).resolve key = some (.property property))
      (relation : property.isRelation = true)
      (found : compiler.provider.entity property.typeName = .ok entity)
      (failed : (Site.mk node property (childOf node entity context)).render
        compiler.settings body between = .error error) :
      Fails compiler node (.field key wanted) context error
  | rebound {node : Node} {key : String} {wanted : FieldNode} {entity : Entity}
      {context between : Context} {fragments : List Fragment} {shown fragment : Fragment}
      {error : CompileError}
      (ran : Runs compiler (childOf node entity context) (.selection wanted.selection)
        (opened node context) fragments between)
      (reduced : Fragment.reduce fragments = .ok shown) (unbound : fragment.values = [])
      (failed : Fragment.checked (fragment.bindAll shown.values) = .error error) :
      Fails compiler node (.field key wanted) context error

theorem relationField_error {compiler : Compiler} {node : Node} {key : String}
    {property : Property} {inner : Node → Compile Fragment} {context : Context}
    {error : CompileError}
    (failed : relationField compiler node key property inner context = .error error) :
    (∃ fault, compiler.provider.entity property.typeName = .error fault ∧
        error = .catalog fault) ∨
      (compiler.settings.maxDepth < context.depth + 1 ∧
        error = .tooDeep (context.depth + 1) compiler.settings.maxDepth) ∨
      ∃ entity, compiler.provider.entity property.typeName = .ok entity ∧
        (inner (childOf node entity context) (opened node context) = .error error ∨
          ∃ shown between,
            inner (childOf node entity context) (opened node context) = .ok (shown, between) ∧
            ((Site.mk node property (childOf node entity context)).render compiler.settings
                (body compiler (childOf node entity context) shown) between.leave =
                  .error error ∨
              ∃ fragment : Fragment, fragment.values = [] ∧
                Fragment.checked (fragment.bindAll shown.values) = .error error)) := by
  simp only [relationField, Compile.bind_error, Compile.entity_error, Compile.entity_ok,
    Compile.enter_error, Compile.enter_ok, Compile.freshAlias_error, Compile.leave_error,
    Compile.leave_ok, Compile.ofExcept_error, false_or] at failed
  rcases failed with unknown | ⟨entity, _, ⟨found, rfl⟩, failed⟩
  · exact .inl unknown
  rcases failed with deep | ⟨_, _, ⟨-, rfl⟩, label, _, child, failed⟩
  · exact .inr (.inl deep)
  obtain ⟨rfl, rfl⟩ := Compile.fromSupply_ok.mp child
  refine .inr (.inr ⟨entity, found, ?_⟩)
  rcases failed with failed | ⟨shown, between, ran, _, _, rfl, failed⟩
  · exact .inl failed
  refine .inr ⟨shown, between, ran, ?_⟩
  rcases failed with failed | ⟨rendered, _, -, failed⟩
  · exact .inl failed
  · exact .inr ⟨_, rfl, failed⟩

theorem arguments_error {compiler : Compiler} {node : Node} {given : Option Arguments}
    {context : Context} {error : CompileError}
    (failed : arguments compiler node given context = .error error) :
    ∃ filter, (given.getD {}).filter = some filter ∧
      Filter.Fails compiler node (.elements [.object filter]) context error := by
  cases wanted : (given.getD {}).filter with
  | none =>
      simp only [arguments, wanted, Compile.bind_error, Compile.pure_error] at failed
      simp at failed
  | some filter =>
      simp only [arguments, wanted, Compile.bind_error, Compile.pure_error, or_false, and_false,
        exists_false] at failed
      exact ⟨filter, rfl, Filter.compile_fails failed⟩

theorem relationField_fails {compiler : Compiler} {node : Node} {key : String}
    {wanted : FieldNode} {property : Property} {context : Context} {error : CompileError}
    (inner : Node → Compile (List Fragment))
    (resolved : (compiler.resolver node.entity).resolve key = some (.property property))
    (relation : property.isRelation = true)
    (runs : ∀ child start fragments after, inner child start = .ok (fragments, after) →
      Runs compiler child (.selection wanted.selection) start fragments after)
    (fails : ∀ child start found, inner child start = .error found →
      Fails compiler child (.selection wanted.selection) start found)
    (failed : relationField compiler node key property
      (fun child => inner child >>= Compile.reduce) context = .error error) :
    Fails compiler node (.field key wanted) context error := by
  rcases relationField_error failed with ⟨fault, missing, rfl⟩ | ⟨deep, rfl⟩ |
    ⟨entity, found, failed | ⟨shown, between, ran, failed⟩⟩
  · exact .unknownTarget resolved relation missing
  · exact .tooDeep deep
  · simp only [Compile.bind_error, Compile.reduce_error] at failed
    rcases failed with failed | ⟨fragments, between, ran, failed⟩
    · exact .related resolved relation found (fails _ _ _ failed)
    · exact .reduced (runs _ _ _ _ ran) failed
  · simp only [Compile.bind_ok, Compile.reduce_ok] at ran
    obtain ⟨fragments, _, ran, reduced, rfl⟩ := ran
    rcases failed with failed | ⟨_, unbound, failed⟩
    · exact .unrendered resolved relation found failed
    · exact .rebound (runs _ _ _ _ ran) reduced unbound failed

mutual

theorem parts_fails {compiler : Compiler} {node : Node} {context : Context}
    {error : CompileError} :
    ∀ {selection : Selection}, parts compiler node selection context = .error error →
      Fails compiler node (.selection selection) context error
  | ⟨selected, given⟩, failed => by
      cases selected with
      | nil =>
          simp only [parts, List.isEmpty_nil, if_true, Compile.bind_error, Compile.pure_error,
            Compile.pure_ok, or_false, and_false, exists_false, false_or] at failed
          obtain ⟨_, _, -, failed⟩ := failed
          obtain ⟨filter, filtered, failed⟩ := arguments_error failed
          exact .filter filtered failed
      | cons first rest =>
          simp only [parts, List.isEmpty_cons, Bool.false_eq_true, if_false, Compile.bind_error,
            Compile.pure_error, or_false, and_false, exists_false] at failed
          rcases failed with failed | ⟨_, _, -, failed⟩
          · exact .fields (fields_fails failed)
          · obtain ⟨filter, filtered, failed⟩ := arguments_error failed
            exact .filter filtered failed

theorem fields_fails {compiler : Compiler} {node : Node} {context : Context}
    {error : CompileError} :
    ∀ {list : List (String × FieldNode)}, fields compiler node list context = .error error →
      Fails compiler node (.fields list) context error
  | [], failed => by
      rw [fields] at failed
      exact (Compile.pure_error.mp failed).elim
  | (key, wanted) :: rest, failed => by
      simp only [fields, Compile.bind_error, Compile.pure_error, or_false, and_false,
        exists_false] at failed
      rcases failed with failed | ⟨fragment, between, ran, failed⟩
      · exact .first (field_fails failed)
      · exact .later (field_runs ran) (fields_fails failed)

theorem field_fails {compiler : Compiler} {node : Node} {key : String} {context : Context}
    {error : CompileError} :
    ∀ {wanted : FieldNode}, field compiler node key wanted context = .error error →
      Fails compiler node (.field key wanted) context error
  | .leaf, failed => by
      cases resolved : (compiler.resolver node.entity).resolve key with
      | none =>
          simp only [field, resolved, Compile.throw_error] at failed
          exact failed ▸ .unresolved
      | some named =>
          cases named with
          | computed found => simp only [field, resolved, Compile.pure_error] at failed
          | property property =>
              cases relation : property.isRelation with
              | false =>
                  simp only [field, resolved, relation, Bool.false_eq_true, if_false,
                    Compile.pure_error] at failed
              | true =>
                  simp only [field, resolved, relation, if_true] at failed
                  -- a relation without a selection is the one with an empty selection
                  refine relationField_fails (fun child => pure (keyFields child))
                    resolved relation ?_ ?_ failed
                  · intro child start fragments after ran
                    obtain ⟨rfl, rfl⟩ := Compile.pure_ok.mp ran
                    have keys : Runs compiler child (.selection {}) after
                        (keyFields child ++ []) after :=
                      .keys (.unfiltered rfl)
                    rwa [List.append_nil] at keys
                  · exact fun child start found failed => (Compile.pure_error.mp failed).elim
  | .nested selection, failed => by
      cases resolved : (compiler.resolver node.entity).resolve key with
      | none =>
          simp only [field, resolved, Compile.throw_error] at failed
          exact failed ▸ .unresolved
      | some named =>
          cases named with
          | computed found =>
              cases plain : selection.isEmpty with
              | true => simp only [field, resolved, plain, if_true, Compile.pure_error] at failed
              | false =>
                  simp only [field, resolved, plain, Bool.false_eq_true, if_false,
                    Compile.throw_error] at failed
                  exact failed ▸ .noSubfields
          | property property =>
              cases relation : property.isRelation with
              | true =>
                  simp only [field, resolved, relation, if_true] at failed
                  refine relationField_fails (fun child => parts compiler child selection)
                    resolved relation ?_ ?_ failed
                  · exact fun child start fragments after ran => parts_runs ran
                  · exact fun child start found failed => parts_fails failed
              | false =>
                  cases plain : selection.isEmpty with
                  | true =>
                      simp only [field, resolved, relation, plain, Bool.false_eq_true, if_false,
                        if_true, Compile.pure_error] at failed
                  | false =>
                      simp only [field, resolved, relation, plain, Bool.false_eq_true, if_false,
                        Compile.throw_error] at failed
                      exact failed ▸ .noSubfields

end

end Display

/-! ## Statements -/

namespace Compiler

inductive Fails (compiler : Compiler) (query : Query) : CompileError → Prop
  | unknownRoot {fault : CatalogError}
      (missing : compiler.provider.entity query.entity = .error fault) :
      Fails compiler query (.catalog fault)
  | selection {entity : Entity} {error : CompileError}
      (found : compiler.provider.entity query.entity = .ok entity)
      (failed : Display.Fails compiler (compiler.rootNode entity) (.selection query.selection)
        compiler.rootContext error) :
      Fails compiler query error
  | filter {entity : Entity} {filter : Members} {between : Context} {error : CompileError}
      (found : compiler.provider.entity query.entity = .ok entity)
      (filtered : query.filter = some filter)
      (failed : Filter.Fails compiler (compiler.rootNode entity) (.elements [.object filter])
        between error) :
      Fails compiler query error
  | reduced {entity : Entity} {shown argued : List Fragment} {between after : Context}
      {error : CompileError}
      (found : compiler.provider.entity query.entity = .ok entity)
      (ran : Display.Runs compiler (compiler.rootNode entity) (.selection query.selection)
        compiler.rootContext shown between)
      (given : Display.Argued compiler (compiler.rootNode entity)
        ⟨query.filter, query.pagination⟩ between argued after)
      (failed : Fragment.reduce (shown ++ argued) = .error error) :
      Fails compiler query error

theorem node_error {compiler : Compiler} {node : Node} {selection : Selection}
    {filter : Option Members} {context : Context} {error : CompileError}
    (failed : Compile.node compiler node (some selection) filter context = .error error) :
    Display.Fails compiler node (.selection selection) context error ∨
      (∃ wanted between, filter = some wanted ∧
        Filter.Fails compiler node (.elements [.object wanted]) between error) ∨
      ∃ shown filtered between after,
        Display.Runs compiler node (.selection selection) context shown between ∧
        Display.Argued compiler node { filter } between filtered after ∧
        Fragment.reduce (shown ++ filtered) = .error error := by
  cases filter with
  | none =>
      simp only [Compile.node, Compile.bind_error, Compile.pure_error, Compile.pure_ok,
        Compile.reduce_error, false_or] at failed
      rcases failed with failed | ⟨shown, _, ran, _, between, ⟨rfl, rfl⟩, failed⟩
      · exact .inl (Display.parts_fails failed)
      · exact .inr (.inr ⟨shown, [], between, between, Display.parts_runs ran, .unfiltered rfl,
          failed⟩)
  | some wanted =>
      simp only [Compile.node, Compile.bind_error, Compile.pure_error, Compile.pure_ok,
        Compile.reduce_error, false_or] at failed
      rcases failed with failed | ⟨shown, between, ran, failed⟩
      · exact .inl (Display.parts_fails failed)
      rcases failed with failed | ⟨fragment, after, compiled, _, _, ⟨rfl, rfl⟩, failed⟩
      · exact .inr (.inl ⟨wanted, between, rfl, Filter.compile_fails failed⟩)
      · exact .inr (.inr ⟨shown, [fragment], between, _, Display.parts_runs ran,
          .filtered rfl compiled, failed⟩)

theorem reduce_append_error {fragments : List Fragment} {error : CompileError}
    (failed : Fragment.reduce fragments = .error error) (others : List Fragment) :
    Fragment.reduce (fragments ++ others) = .error error := by
  unfold Fragment.reduce at failed ⊢
  rw [List.foldlM_append, failed]
  rfl

theorem statement_error_of_compile {compiler : Compiler} {query : Query} {error : CompileError}
    (failed : compiler.compile query = .error error) :
    compiler.statement query {} = .error error := by
  unfold compile at failed
  cases outcome : compiler.statement query {} with
  | error found => simpa [StateT.run', outcome, Functor.map, Except.map] using failed
  | ok result => simp [StateT.run', outcome, Functor.map, Except.map] at failed

theorem compile_fails {compiler : Compiler} {query : Query} {error : CompileError}
    (failed : compiler.compile query = .error error) : Fails compiler query error := by
  have stopped := statement_error_of_compile failed
  simp only [Compiler.statement, Compile.bind_error] at stopped
  rcases stopped with stopped | ⟨⟨node, fragment⟩, last, ran, stopped⟩
  · simp only [Compiler.root, Compile.bind_error, Compile.entity_error, Compile.entity_ok,
      Compile.fromSupply_error, Compile.fromSupply_ok, Compile.pure_error, false_or, or_false,
      and_false, exists_false] at stopped
    rcases stopped with ⟨fault, missing, rfl⟩ |
      ⟨entity, _, ⟨found, rfl⟩, _, _, ⟨rfl, rfl⟩, stopped⟩
    · exact .unknownRoot missing
    rcases node_error stopped with failed | ⟨wanted, between, filtered, failed⟩ |
      ⟨shown, filtered, between, after, selected, argued, failed⟩
    · exact .selection found failed
    · exact .filter found filtered failed
    · refine .reduced found selected (argued.paginated query.pagination) ?_
      rw [← List.append_assoc]
      exact reduce_append_error failed _
  · -- only merging the pagination can fail after the root was compiled
    cases given : query.pagination with
    | none => simp [given, Compile.pure_error] at stopped
    | some pagination =>
        simp only [given, Compile.bind_error, Compile.ofExcept_error, Compile.pure_error,
          and_false, exists_false, or_false] at stopped
        simp only [Compiler.root, Compile.bind_ok, Compile.entity_ok, Compile.fromSupply_ok,
          Compile.pure_ok, Prod.mk.injEq] at ran
        obtain ⟨entity, _, ⟨found, rfl⟩, _, _, ⟨rfl, rfl⟩, _, _, done, ⟨rfl, rfl⟩, rfl⟩ := ran
        obtain ⟨shown, filtered, between, selected, argued, reduced⟩ := node_ok done
        have failed : Fragment.reduce
            (shown ++ filtered ++ [Fragment.ofPagination pagination]) = .error error := by
          rw [Fragment.reduce_concat, reduced]
          exact stopped
        rw [List.append_assoc] at failed
        have extended := argued.paginated query.pagination
        rw [given] at extended
        exact .reduced found selected (by rwa [given]) failed

end Compiler

end TreeQuery
