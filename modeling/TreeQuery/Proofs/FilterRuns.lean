import TreeQuery.Proofs.Fragments
import TreeQuery.Proofs.Requests

/-!
# Successful runs of the filter compiler

`Filter.Runs` relates a part of a filter to the fragments that it compiles to
and to the contexts before and after.  It has one rule for each way in which a
part can be compiled without an error, so that a property of all compiled
filters is an induction over the rules.
-/

namespace TreeQuery

namespace Filter

/-! ## Combinators -/

def combined (combinator : Combinator) (siblings : List Fragment)
    (values : Bindings) : Fragment :=
  match combinator with
  | .or => { values, anyOf := siblings.map Fragment.emptied }
  | .and => { values, allOf := siblings.map Fragment.emptied }
  | .not => { values, noneOf := [{ anyOf := siblings.map Fragment.emptied }] }

/-- The fragment of a combinator: nothing for no siblings. -/
inductive Combined (combinator : Combinator) : List Fragment → Fragment → Prop
  | none : Combined combinator [] {}
  | some {siblings : List Fragment} {values : Bindings} (nonempty : siblings ≠ [])
      (perm : values.Perm (siblings.flatMap (·.values)))
      (distinct : values.names.Nodup) :
      Combined combinator siblings (combined combinator siblings values)

theorem combine_ok {combinator : Combinator} {siblings : List Fragment}
    {fragment : Fragment} {context after : Context}
    (done : combine combinator siblings context = .ok (fragment, after)) :
    Combined combinator siblings fragment ∧ after = context := by
  unfold combine at done
  by_cases none : siblings = []
  · subst none
    simp only [List.isEmpty_nil, if_true, Compile.pure_ok] at done
    obtain ⟨rfl, rfl⟩ := done
    exact ⟨.none, rfl⟩
  · have nonempty : siblings.isEmpty = false := by simpa using none
    rcases hoisted : ({} : Fragment).hoist siblings with ⟨group, others, duplicate⟩
    simp only [nonempty, Bool.false_eq_true, if_false, hoisted, Compile.bind_ok,
      Compile.ofExcept_ok, Fragment.checked_ok] at done
    obtain ⟨checked, between, ⟨⟨rfl, rfl⟩, rfl⟩, done⟩ := done
    obtain ⟨values, perm, distinct, rfl, rfl⟩ := Fragment.hoist_none hoisted
    have whole : Combined combinator siblings (combined combinator siblings values) :=
      .some none (by simpa using perm) (distinct List.nodup_nil)
    cases combinator <;>
      · obtain ⟨rfl, rfl⟩ := Compile.pure_ok.mp done
        exact ⟨whole, rfl⟩

theorem checkElements_ok {node : Node} {combinator : Combinator}
    {items : List Json} {result : Unit}
    (checked : checkElements node combinator items = .ok result) :
    ∀ item ∈ items, ∃ inner, item = .object inner := by
  unfold checkElements at checked
  split at checked
  · cases checked
  · rename_i absent
    intro item member
    have isObject := List.find?_eq_none.mp absent item member
    cases item with
    | object inner => exact ⟨inner, rfl⟩
    | _ => simp [Json.asObject?] at isObject

/-! ## Runs -/

def opened (node : Node) (context : Context) : Context :=
  ⟨(context.supply.next .entity node.label.stem).2, context.depth + 1⟩

def childOf (node : Node) (entity : Entity) (context : Context) : Node :=
  ⟨entity, (context.supply.next .entity node.label.stem).1⟩

def related (site : Site) (correlation : List Sql.Condition) (matched : Fragment)
    (label : Sql.Alias) (values : Bindings) : Fragment :=
  { filterJoins := [existence site correlation (matched.lower (scope site.child)) label]
    values }

inductive Runs (compiler : Compiler) :
    Node → Part → Context → List Fragment → Context → Prop
  | noMembers {node : Node} {context : Context} :
      Runs compiler node (.members []) context [] context
  | members {node : Node} {key : String} {value : Json} {rest : List (String × Json)}
      {context between after : Context} {fragment : Fragment} {others : List Fragment}
      (first : Runs compiler node (.entry key value) context [fragment] between)
      (later : Runs compiler node (.members rest) between others after) :
      Runs compiler node (.members ((key, value) :: rest)) context (fragment :: others) after
  | noElements {node : Node} {context : Context} :
      Runs compiler node (.elements []) context [] context
  | elements {node : Node} {inner : List (String × Json)} {rest : List Json}
      {context between after : Context} {fragment : Fragment}
      {fragments others : List Fragment}
      (first : Runs compiler node (.members inner) context fragments between)
      (reduced : Fragment.reduce fragments = .ok fragment)
      (compiled : compile compiler node inner context = .ok (fragment, between))
      (later : Runs compiler node (.elements rest) between others after) :
      Runs compiler node (.elements (.object inner :: rest)) context
        (fragment :: others) after
  | compared {node : Node} {key : String} {value : Json} {columns : List String}
      {context after : Context} {fragment : Fragment}
      (role : role (compiler.resolver node.entity) key = .field columns)
      (plain : value.asObject? = none)
      (applied : applyOperator node key columns .eq value context = .ok (fragment, after)) :
      Runs compiler node (.entry key value) context [fragment] after
  | operators {node : Node} {key : String} {operators : List (String × Json)}
      {columns : List String} {context after : Context} {fragment : Fragment}
      {fragments : List Fragment}
      (role : role (compiler.resolver node.entity) key = .field columns)
      (applied : applyOperators node key columns operators context = .ok (fragments, after))
      (reduced : Fragment.reduce fragments = .ok fragment) :
      Runs compiler node (.entry key (.object operators)) context [fragment] after
  | suffixed {node : Node} {key stem : String} {value : Json} {columns : List String}
      {operator : Operator} {context after : Context} {fragment : Fragment}
      (role : role (compiler.resolver node.entity) key = .suffixed stem columns operator)
      (applied :
        applyOperator node stem columns operator value context = .ok (fragment, after)) :
      Runs compiler node (.entry key value) context [fragment] after
  | combinedList {node : Node} {key : String} {items : List Json}
      {combinator : Combinator} {context after : Context} {fragment : Fragment}
      {siblings : List Fragment}
      (role : role (compiler.resolver node.entity) key = .combinator combinator)
      (elements : Runs compiler node (.elements items) context siblings after)
      (combined : Combined combinator siblings fragment) :
      Runs compiler node (.entry key (.array items)) context [fragment] after
  | combinedObject {node : Node} {key : String} {inner : List (String × Json)}
      {combinator : Combinator} {context after : Context} {fragment : Fragment}
      {siblings : List Fragment}
      (role : role (compiler.resolver node.entity) key = .combinator combinator)
      (elements : Runs compiler node (.elements [.object inner]) context siblings after)
      (combined : Combined combinator siblings fragment) :
      Runs compiler node (.entry key (.object inner)) context [fragment] after
  | related {node : Node} {key : String} {inner : List (String × Json)}
      {property : Property} {entity : Entity} {context between linked after : Context}
      {fragments : List Fragment} {matched : Fragment}
      {correlation : List Sql.Condition} {label : Sql.Alias} {values : Bindings}
      (role : role (compiler.resolver node.entity) key = .relation property)
      (found : compiler.provider.entity property.typeName = .ok entity)
      (shallow : context.depth + 1 ≤ compiler.settings.maxDepth)
      (members : Runs compiler (childOf node entity context) (.members inner)
        (opened node context) fragments between)
      (reduced : Fragment.reduce fragments = .ok matched)
      (correlated : (Site.mk node property (childOf node entity context)).conditions
        between.leave = .ok (correlation, linked))
      (labelled : Compile.freshAlias .filter node.label.stem linked = .ok (label, after))
      (perm : values.Perm matched.values) (distinct : values.names.Nodup) :
      Runs compiler node (.entry key (.object inner)) context
        [Filter.related ⟨node, property, childOf node entity context⟩ correlation matched
          label values] after

theorem relationFilter_ok {compiler : Compiler} {node : Node} {property : Property}
    {inner : Node → Compile Fragment} {context after : Context} {fragment : Fragment}
    (done : relationFilter compiler node property inner context = .ok (fragment, after)) :
    ∃ entity between linked matched correlation label values,
      compiler.provider.entity property.typeName = .ok entity ∧
      context.depth + 1 ≤ compiler.settings.maxDepth ∧
      inner (childOf node entity context) (opened node context) = .ok (matched, between) ∧
      (Site.mk node property (childOf node entity context)).conditions between.leave =
        .ok (correlation, linked) ∧
      Compile.freshAlias .filter node.label.stem linked = .ok (label, after) ∧
      values.Perm matched.values ∧ values.names.Nodup ∧
      fragment = related ⟨node, property, childOf node entity context⟩ correlation matched
        label values := by
  simp only [relationFilter, Compile.bind_ok, Compile.entity_ok, Compile.enter_ok,
    Compile.leave_ok, Compile.ofExcept_ok, Fragment.checked_bindAll_ok] at done
  obtain ⟨entity, _, ⟨found, rfl⟩, _, _, ⟨shallow, rfl⟩, label, _, child, matched, between,
    ran, _, _, rfl, correlation, linked, correlated, filterLabel, _, labelled,
    ⟨values, bound, rfl⟩, rfl⟩ := done
  obtain ⟨rfl, rfl⟩ := Compile.fromSupply_ok.mp child
  obtain ⟨perm, fresh⟩ := Bindings.bindAll_none bound
  refine ⟨entity, between, linked, matched, correlation, filterLabel, values, found, shallow,
    ran, correlated, labelled, by simpa using perm, ?_, rfl⟩
  have nothing : (Bindings.names []).Nodup := List.nodup_nil
  exact Bindings.names_nodup_of_perm nothing fresh perm

theorem leafFilter_runs {compiler : Compiler} {node : Node} {key : String} {value : Json}
    {context after : Context} {fragment : Fragment}
    (done : leafFilter node key (role (compiler.resolver node.entity) key) value context =
      .ok (fragment, after)) :
    Runs compiler node (.entry key value) context [fragment] after := by
  cases role : role (compiler.resolver node.entity) key with
  | combinator _ => exact (Compile.throw_ok.mp (by simpa [leafFilter, role] using done)).elim
  | relation _ => exact (Compile.throw_ok.mp (by simpa [leafFilter, role] using done)).elim
  | suffixedRelation _ =>
      exact (Compile.throw_ok.mp (by simpa [leafFilter, role] using done)).elim
  | unknown => exact (Compile.throw_ok.mp (by simpa [leafFilter, role] using done)).elim
  | suffixed stem columns operator =>
      rw [role] at done
      exact .suffixed role done
  | field columns =>
      rw [role] at done
      cases value with
      | object operators =>
          simp only [leafFilter, fieldFilter, Compile.bind_ok, Compile.reduce_ok] at done
          obtain ⟨fragments, _, applied, reduced, rfl⟩ := done
          exact .operators role applied reduced
      | _ => exact .compared role rfl done

theorem compile_of_members {compiler : Compiler} {node : Node} {filter : Members}
    {context after : Context} {fragments : List Fragment} {fragment : Fragment}
    (ran : members compiler node filter context = .ok (fragments, after))
    (reduced : Fragment.reduce fragments = .ok fragment) :
    compile compiler node filter context = .ok (fragment, after) := by
  simp only [compile, Compile.bind_ok, Compile.reduce_ok]
  exact ⟨fragments, after, ran, reduced, rfl⟩

mutual

theorem members_runs {compiler : Compiler} {node : Node} {context after : Context} :
    ∀ {list : List (String × Json)} {fragments : List Fragment},
      members compiler node list context = .ok (fragments, after) →
      Runs compiler node (.members list) context fragments after
  | [], fragments, done => by
      rw [members] at done
      obtain ⟨rfl, rfl⟩ := Compile.pure_ok.mp done
      exact .noMembers
  | (key, value) :: rest, fragments, done => by
      simp only [members, Compile.bind_ok, Compile.pure_ok] at done
      obtain ⟨fragment, between, first, others, _, later, rfl, rfl⟩ := done
      exact .members (entry_runs first) (members_runs later)

theorem entry_runs {compiler : Compiler} {node : Node} {key : String}
    {context after : Context} {fragment : Fragment} :
    ∀ {value : Json}, entry compiler node key value context = .ok (fragment, after) →
      Runs compiler node (.entry key value) context [fragment] after
  | .object inner, done => by
      cases role : role (compiler.resolver node.entity) key with
      | combinator combinator =>
          simp only [entry, role, Compile.bind_ok, Compile.reduce_ok] at done
          obtain ⟨fragments, between, ran, sibling, _, ⟨reduced, rfl⟩, done⟩ := done
          obtain ⟨whole, rfl⟩ := combine_ok done
          have single := Runs.elements (members_runs ran) reduced
            (compile_of_members ran reduced) .noElements
          exact .combinedObject role single whole
      | relation property =>
          simp only [entry, role] at done
          obtain ⟨entity, between, linked, matched, correlation, label, values, found,
            shallow, ran, correlated, labelled, perm, distinct, rfl⟩ := relationFilter_ok done
          simp only [Compile.bind_ok, Compile.reduce_ok] at ran
          obtain ⟨fragments, _, ran, reduced, rfl⟩ := ran
          exact .related role found shallow (members_runs ran) reduced correlated labelled
            perm distinct
      | _ => exact leafFilter_runs (by simpa only [entry, role] using done)
  | .array items, done => by
      cases role : role (compiler.resolver node.entity) key with
      | combinator combinator =>
          simp only [entry, role, Compile.bind_ok, Compile.ofExcept_ok] at done
          obtain ⟨_, _, ⟨checked, rfl⟩, siblings, between, ran, done⟩ := done
          obtain ⟨whole, rfl⟩ := combine_ok done
          exact .combinedList role (elements_runs (checkElements_ok checked) ran) whole
      | _ => exact leafFilter_runs (by simpa only [entry, role] using done)
  | .null, done => leafFilter_runs done
  | .bool _, done => leafFilter_runs done
  | .number _, done => leafFilter_runs done
  | .string _, done => leafFilter_runs done

theorem elements_runs {compiler : Compiler} {node : Node} {context after : Context} :
    ∀ {items : List Json} {fragments : List Fragment},
      (∀ item ∈ items, ∃ inner, item = .object inner) →
      elements compiler node items context = .ok (fragments, after) →
      Runs compiler node (.elements items) context fragments after
  | [], fragments, _, done => by
      rw [elements] at done
      obtain ⟨rfl, rfl⟩ := Compile.pure_ok.mp done
      exact .noElements
  | .object inner :: rest, fragments, objects, done => by
      simp only [elements, element, Compile.bind_ok, Compile.pure_ok,
        Compile.reduce_ok] at done
      obtain ⟨fragment, _, ⟨parts, between, first, reduced, rfl⟩, others, _, later, rfl,
        rfl⟩ := done
      refine .elements (members_runs first) reduced (compile_of_members first reduced)
        (elements_runs ?_ later)
      exact fun item member => objects item (List.mem_cons_of_mem _ member)
  | .null :: _, _, objects, _ => by simpa using objects _ List.mem_cons_self
  | .bool _ :: _, _, objects, _ => by simpa using objects _ List.mem_cons_self
  | .number _ :: _, _, objects, _ => by simpa using objects _ List.mem_cons_self
  | .string _ :: _, _, objects, _ => by simpa using objects _ List.mem_cons_self
  | .array _ :: _, _, objects, _ => by simpa using objects _ List.mem_cons_self

end

/-- A filter that compiles is the reduction of a run over its keys. -/
theorem compile_ok {compiler : Compiler} {node : Node} {filter : Members}
    {context after : Context} {fragment : Fragment}
    (done : compile compiler node filter context = .ok (fragment, after)) :
    ∃ fragments, Runs compiler node (.members filter) context fragments after ∧
      Fragment.reduce fragments = .ok fragment := by
  simp only [compile, Compile.bind_ok, Compile.reduce_ok] at done
  obtain ⟨fragments, _, ran, reduced, rfl⟩ := done
  exact ⟨fragments, members_runs ran, reduced⟩

end Filter

end TreeQuery
