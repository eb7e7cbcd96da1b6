import TreeQuery.Proofs.FilterRuns

/-!
# Failing runs of the filter compiler

`Filter.Fails` relates a part of a filter to the errors with which its compilation
can end.  The parts before the failing one have run, so every rule names the runs
that it comes after.  Together with `Filter.Runs` this accounts for every outcome.
-/

namespace TreeQuery

/-- What is to blame for an error: the request, the description of entities, or the naming. -/
inductive Blame where
  | request
  | catalog
  | naming
  deriving DecidableEq

def CompileError.blame : CompileError → Blame
  | .catalog _ => .catalog
  | .relation _ _ _ _ => .catalog
  | .duplicateBinding _ => .naming
  | _ => .request

namespace Fragment

theorem blame_of_checked {outcome : Fragment × Option String} {error : CompileError}
    (failed : checked outcome = .error error) : error.blame = .naming := by
  obtain ⟨fragment, duplicate⟩ := outcome
  cases duplicate with
  | none => cases failed
  | some name =>
      cases failed
      rfl

theorem blame_of_reduce {fragments : List Fragment} {error : CompileError}
    (failed : reduce fragments = .error error) : error.blame = .naming := by
  unfold reduce at failed
  generalize ({} : Fragment) = start at failed
  induction fragments generalizing start with
  | nil => cases failed
  | cons first rest ih =>
      rw [List.foldlM_cons] at failed
      cases merged : start.merge first with
      | error found =>
          rw [merged] at failed
          cases failed
          exact blame_of_checked merged
      | ok fragment =>
          rw [merged] at failed
          exact ih fragment failed

end Fragment

namespace Filter

/-! ## Fields -/

theorem subjects_error {label : Sql.Alias} {field : String} {columns : List String}
    {operator : Operator} {operand : Json} {error : CompileError}
    (failed : subjects label field columns operator operand = .error error) :
    ∃ found, error = .arity field columns.length found := by
  have counted : ∀ items : List Json, checkArity field columns.length items = .error error →
      ∃ found, error = .arity field columns.length found := by
    intro items
    induction items with
    | nil => simp [checkArity]
    | cons item rest ih =>
        simp only [checkArity]
        split_ifs
        · exact ih
        · rintro ⟨⟩
          exact ⟨_, rfl⟩
  unfold subjects at failed
  split at failed
  · cases operand with
    | array items =>
        cases checked : checkArity field columns.length items with
        | error found =>
            simp only [checked, bind, Except.bind] at failed
            cases failed
            exact counted items checked
        | ok done =>
            simp only [checked, bind, Except.bind] at failed
            cases failed
    | _ => cases failed
  · cases failed

theorem readOperand_error {operator : Operator} {operand : Json} {error : CompileError}
    (failed : readOperand operator operand = .error error) : ∃ fault, error = .operand fault := by
  unfold readOperand at failed
  split at failed
  · cases failed
  · cases failed
    exact ⟨_, rfl⟩

theorem applyOperator_error {node : Node} {field : String} {columns : List String}
    {operator : Operator} {operand : Json} {context : Context} {error : CompileError}
    (failed : applyOperator node field columns operator operand context = .error error) :
    error.blame = .request ∨
      ∃ subjects test, ∃ fragment : Fragment, fragment.values = [] ∧
        Fragment.checked (fragment.bindAll
          ((testSubjects node.label field test subjects (context.supply, [])).2.2.map
            fun entry => (entry.1.name, entry.2))) = .error error := by
  cases columns with
  | nil =>
      simp only [applyOperator, List.isEmpty_nil, if_true, Compile.bind_error,
        Compile.throw_error, Compile.throw_ok] at failed
      rcases failed with rfl | ⟨_, _, impossible, _⟩
      · exact .inl rfl
      · exact impossible.elim
  | cons column columns =>
      simp only [applyOperator, List.isEmpty_cons, Bool.false_eq_true, if_false,
        Compile.bind_error, Compile.ofExcept_error, Compile.ofExcept_ok,
        Compile.fromSupply_error, Compile.fromSupply_ok, false_or] at failed
      rcases failed with failed | ⟨subjects, _, ⟨-, rfl⟩, failed⟩
      · obtain ⟨found, rfl⟩ := subjects_error failed
        exact .inl rfl
      rcases failed with failed | ⟨test, _, ⟨-, rfl⟩, _, _, ⟨rfl, rfl⟩, failed⟩
      · obtain ⟨fault, rfl⟩ := readOperand_error failed
        exact .inl rfl
      · exact .inr ⟨subjects, test, _, rfl, failed⟩

theorem applyOperators_error {node : Node} {field : String} {columns : List String}
    {operators : List (String × Json)} {context : Context} {error : CompileError}
    (failed : applyOperators node field columns operators context = .error error) :
    error.blame = .request ∨
      ∃ operator operand start,
        applyOperator node field columns operator operand start = .error error := by
  induction operators generalizing context with
  | nil => exact (Compile.pure_error.mp failed).elim
  | cons entry rest ih =>
      obtain ⟨name, operand⟩ := entry
      cases named : Operator.ofName? name with
      | none =>
          simp only [applyOperators, named, Compile.throw_error] at failed
          exact .inl (failed ▸ rfl)
      | some operator =>
          simp only [applyOperators, named, Compile.bind_error, Compile.pure_error, or_false,
            and_false, exists_false] at failed
          rcases failed with failed | ⟨_, between, -, failed⟩
          · exact .inr ⟨operator, operand, context, failed⟩
          · exact ih failed

theorem leafFilter_error {node : Node} {key : String} {role : FilterRole} {value : Json}
    {context : Context} {error : CompileError}
    (failed : leafFilter node key role value context = .error error) :
    error.blame = .request ∨
      (∃ field columns operator operand start,
        applyOperator node field columns operator operand start = .error error) ∨
      ∃ columns operators fragments after,
        applyOperators node key columns operators context = .ok (fragments, after) ∧
          Fragment.reduce fragments = .error error := by
  cases role with
  | combinator _ => exact .inl (Compile.throw_error.mp failed ▸ rfl)
  | relation _ => exact .inl (Compile.throw_error.mp failed ▸ rfl)
  | suffixedRelation _ => exact .inl (Compile.throw_error.mp failed ▸ rfl)
  | unknown => exact .inl (Compile.throw_error.mp failed ▸ rfl)
  | suffixed stem columns operator => exact .inr (.inl ⟨stem, columns, operator, value, _, failed⟩)
  | field columns =>
      cases value with
      | object operators =>
          simp only [leafFilter, fieldFilter, Compile.bind_error, Compile.reduce_error] at failed
          rcases failed with failed | ⟨fragments, after, applied, failed⟩
          · rcases applyOperators_error failed with blamed | ⟨operator, operand, start, failed⟩
            · exact .inl blamed
            · exact .inr (.inl ⟨key, columns, operator, operand, start, failed⟩)
          · exact .inr (.inr ⟨columns, operators, fragments, after, applied, failed⟩)
      | _ => exact .inr (.inl ⟨key, columns, .eq, _, _, failed⟩)

theorem checkElements_error {node : Node} {combinator : Combinator} {items : List Json}
    {error : CompileError} (failed : checkElements node combinator items = .error error) :
    ∃ fault, error = .filter node.label fault := by
  unfold checkElements at failed
  split at failed
  · cases failed
    exact ⟨_, rfl⟩
  · cases failed

theorem blame_of_checkElements {node : Node} {combinator : Combinator} {items : List Json}
    {error : CompileError} (failed : checkElements node combinator items = .error error) :
    error.blame = .request := by
  obtain ⟨fault, rfl⟩ := checkElements_error failed
  rfl

theorem combine_error {combinator : Combinator} {siblings : List Fragment} {context : Context}
    {error : CompileError} (failed : combine combinator siblings context = .error error) :
    ∃ group others duplicate, ({} : Fragment).hoist siblings = (group, others, duplicate) ∧
      Fragment.checked (group, duplicate) = .error error := by
  rcases hoisted : ({} : Fragment).hoist siblings with ⟨group, others, duplicate⟩
  refine ⟨group, others, duplicate, rfl, ?_⟩
  unfold combine at failed
  split at failed
  · exact (Compile.pure_error.mp failed).elim
  · simp only [hoisted, Compile.bind_error, Compile.ofExcept_error] at failed
    rcases failed with failed | ⟨_, _, -, failed⟩
    · exact failed
    · cases combinator <;> exact (Compile.pure_error.mp failed).elim

end Filter

/-! ## Relations -/

theorem Site.conditions_error {site : Site} {context : Context} {error : CompileError}
    (failed : site.conditions context = .error error) :
    ∃ fault, Link.resolve site.parent.entity site.property site.child.entity = .error fault ∧
      error = .relation site.parent.entity.name site.property.name site.property.reference
        (.unlinked fault) := by
  cases resolved : Link.resolve site.parent.entity site.property site.child.entity with
  | error fault =>
      simp only [conditions, Site.link, resolved, fail, Compile.bind_error, Compile.throw_error,
        Compile.throw_ok, false_and, exists_false, or_false] at failed
      exact ⟨fault, rfl, failed.symm⟩
  | ok link =>
      simp only [conditions, Site.link, resolved, Compile.bind_error, Compile.pure_error,
        Compile.pure_ok, false_or] at failed
      obtain ⟨found, _, ⟨rfl, rfl⟩, failed⟩ := failed
      cases found <;>
        simp only [correlation, Compile.bind_error, Compile.freshAlias_error,
          Compile.pure_error, and_false, exists_false, or_self] at failed

theorem Site.blame_of_conditions {site : Site} {context : Context} {error : CompileError}
    (failed : site.conditions context = .error error) : error.blame = .catalog := by
  obtain ⟨fault, -, rfl⟩ := conditions_error failed
  rfl

/-! ## Runs that fail -/

namespace Filter

inductive Fails (compiler : Compiler) : Node → Part → Context → CompileError → Prop
  | first {node : Node} {key : String} {value : Json} {rest : List (String × Json)}
      {context : Context} {error : CompileError}
      (failed : Fails compiler node (.entry key value) context error) :
      Fails compiler node (.members ((key, value) :: rest)) context error
  | later {node : Node} {key : String} {value : Json} {rest : List (String × Json)}
      {context between : Context} {fragment : Fragment} {error : CompileError}
      (ran : Runs compiler node (.entry key value) context [fragment] between)
      (failed : Fails compiler node (.members rest) between error) :
      Fails compiler node (.members ((key, value) :: rest)) context error
  | element {node : Node} {inner : List (String × Json)} {rest : List Json}
      {context : Context} {error : CompileError}
      (failed : Fails compiler node (.members inner) context error) :
      Fails compiler node (.elements (.object inner :: rest)) context error
  | reduced {node : Node} {inner : List (String × Json)} {rest : List Json}
      {context between : Context} {fragments : List Fragment} {error : CompileError}
      (ran : Runs compiler node (.members inner) context fragments between)
      (failed : Fragment.reduce fragments = .error error) :
      Fails compiler node (.elements (.object inner :: rest)) context error
  | laterElement {node : Node} {inner : List (String × Json)} {rest : List Json}
      {context between : Context} {fragment : Fragment} {error : CompileError}
      (ran : compile compiler node inner context = .ok (fragment, between))
      (failed : Fails compiler node (.elements rest) between error) :
      Fails compiler node (.elements (.object inner :: rest)) context error
  | leaf {node : Node} {key : String} {value : Json} {context : Context} {error : CompileError}
      (failed : leafFilter node key (role (compiler.resolver node.entity) key) value context =
        .error error) :
      Fails compiler node (.entry key value) context error
  | notObject {node : Node} {key : String} {items : List Json} {combinator : Combinator}
      {context : Context} {error : CompileError}
      (role : role (compiler.resolver node.entity) key = .combinator combinator)
      (failed : checkElements node combinator items = .error error) :
      Fails compiler node (.entry key (.array items)) context error
  | combinedList {node : Node} {key : String} {items : List Json} {combinator : Combinator}
      {context : Context} {error : CompileError}
      (role : role (compiler.resolver node.entity) key = .combinator combinator)
      (failed : Fails compiler node (.elements items) context error) :
      Fails compiler node (.entry key (.array items)) context error
  | combinedObject {node : Node} {key : String} {inner : List (String × Json)}
      {combinator : Combinator} {context : Context} {error : CompileError}
      (role : role (compiler.resolver node.entity) key = .combinator combinator)
      (failed : Fails compiler node (.elements [.object inner]) context error) :
      Fails compiler node (.entry key (.object inner)) context error
  | hoisted {node : Node} {key : String} {value : Json} {items : List Json}
      {combinator : Combinator} {context between : Context} {siblings : List Fragment}
      {error : CompileError}
      (role : role (compiler.resolver node.entity) key = .combinator combinator)
      (ran : Runs compiler node (.elements items) context siblings between)
      (failed : combine combinator siblings between = .error error) :
      Fails compiler node (.entry key value) context error
  | unknownTarget {node : Node} {key : String} {inner : List (String × Json)}
      {property : Property} {context : Context} {fault : CatalogError}
      (role : role (compiler.resolver node.entity) key = .relation property)
      (missing : compiler.provider.entity property.typeName = .error fault) :
      Fails compiler node (.entry key (.object inner)) context (.catalog fault)
  | tooDeep {node : Node} {key : String} {inner : List (String × Json)}
      {property : Property} {context : Context}
      (role : role (compiler.resolver node.entity) key = .relation property)
      (deep : compiler.settings.maxDepth < context.depth + 1) :
      Fails compiler node (.entry key (.object inner)) context
        (.tooDeep (context.depth + 1) compiler.settings.maxDepth)
  | related {node : Node} {key : String} {inner : List (String × Json)}
      {property : Property} {entity : Entity} {context : Context} {error : CompileError}
      (role : role (compiler.resolver node.entity) key = .relation property)
      (found : compiler.provider.entity property.typeName = .ok entity)
      (failed : Fails compiler (childOf node entity context) (.elements [.object inner])
        (opened node context) error) :
      Fails compiler node (.entry key (.object inner)) context error
  | uncorrelated {node : Node} {key : String} {inner : List (String × Json)}
      {property : Property} {entity : Entity} {context between : Context} {matched : Fragment}
      {error : CompileError}
      (role : role (compiler.resolver node.entity) key = .relation property)
      (found : compiler.provider.entity property.typeName = .ok entity)
      (ran : compile compiler (childOf node entity context) inner (opened node context) =
        .ok (matched, between))
      (failed : (Site.mk node property (childOf node entity context)).conditions between.leave =
        .error error) :
      Fails compiler node (.entry key (.object inner)) context error
  | rebound {node : Node} {key : String} {inner : List (String × Json)}
      {property : Property} {entity : Entity} {context between : Context}
      {matched fragment : Fragment} {error : CompileError}
      (role : role (compiler.resolver node.entity) key = .relation property)
      (found : compiler.provider.entity property.typeName = .ok entity)
      (ran : compile compiler (childOf node entity context) inner (opened node context) =
        .ok (matched, between))
      (unbound : fragment.values = [])
      (failed : Fragment.checked (fragment.bindAll matched.values) = .error error) :
      Fails compiler node (.entry key (.object inner)) context error

theorem relationFilter_error {compiler : Compiler} {node : Node} {property : Property}
    {inner : Node → Compile Fragment} {context : Context} {error : CompileError}
    (failed : relationFilter compiler node property inner context = .error error) :
    (∃ fault, compiler.provider.entity property.typeName = .error fault ∧
        error = .catalog fault) ∨
      (compiler.settings.maxDepth < context.depth + 1 ∧
        error = .tooDeep (context.depth + 1) compiler.settings.maxDepth) ∨
      ∃ entity, compiler.provider.entity property.typeName = .ok entity ∧
        (inner (childOf node entity context) (opened node context) = .error error ∨
          ∃ matched between,
            inner (childOf node entity context) (opened node context) = .ok (matched, between) ∧
            ((Site.mk node property (childOf node entity context)).conditions between.leave =
                .error error ∨
              ∃ fragment : Fragment, fragment.values = [] ∧
                Fragment.checked (fragment.bindAll matched.values) = .error error)) := by
  simp only [relationFilter, Compile.bind_error, Compile.entity_error, Compile.entity_ok,
    Compile.enter_error, Compile.enter_ok, Compile.freshAlias_error, Compile.leave_error,
    Compile.leave_ok, Compile.ofExcept_error, false_or] at failed
  rcases failed with unknown | ⟨entity, _, ⟨found, rfl⟩, failed⟩
  · exact .inl unknown
  rcases failed with deep | ⟨_, _, ⟨-, rfl⟩, label, _, child, failed⟩
  · exact .inr (.inl deep)
  obtain ⟨rfl, rfl⟩ := Compile.fromSupply_ok.mp child
  refine .inr (.inr ⟨entity, found, ?_⟩)
  rcases failed with failed | ⟨matched, between, ran, _, _, rfl, failed⟩
  · exact .inl failed
  refine .inr ⟨matched, between, ran, ?_⟩
  rcases failed with failed | ⟨correlation, linked, -, filterLabel, _, -, failed⟩
  · exact .inl failed
  · exact .inr ⟨_, rfl, failed⟩

theorem members_element {compiler : Compiler} {node : Node} {inner : List (String × Json)}
    {rest : List Json} {context : Context} {error : CompileError}
    (members : ∀ error, members compiler node inner context = .error error →
      Fails compiler node (.members inner) context error)
    (failed : compile compiler node inner context = .error error) :
    Fails compiler node (.elements (.object inner :: rest)) context error := by
  simp only [compile, Compile.bind_error, Compile.reduce_error] at failed
  rcases failed with failed | ⟨fragments, between, ran, failed⟩
  · exact .element (members error failed)
  · exact .reduced (members_runs ran) failed

mutual

theorem members_fails {compiler : Compiler} {node : Node} {context : Context}
    {error : CompileError} :
    ∀ {list : List (String × Json)}, members compiler node list context = .error error →
      Fails compiler node (.members list) context error
  | [], failed => by
      rw [members] at failed
      exact (Compile.pure_error.mp failed).elim
  | (key, value) :: rest, failed => by
      simp only [members, Compile.bind_error, Compile.pure_error] at failed
      rcases failed with failed | ⟨fragment, between, ran, failed | ⟨_, _, _, impossible⟩⟩
      · exact .first (entry_fails failed)
      · exact .later (entry_runs ran) (members_fails failed)
      · exact impossible.elim

theorem entry_fails {compiler : Compiler} {node : Node} {key : String} {context : Context}
    {error : CompileError} :
    ∀ {value : Json}, entry compiler node key value context = .error error →
      Fails compiler node (.entry key value) context error
  | .object inner, failed => by
      have inside : ∀ {child : Node} {start : Context} {found : CompileError},
          compile compiler child inner start = .error found →
            Fails compiler child (.elements [.object inner]) start found :=
        fun failed => members_element (fun _ => members_fails) failed
      cases role : role (compiler.resolver node.entity) key with
      | combinator combinator =>
          have split : entry compiler node key (.object inner) =
              (compile compiler node inner >>= fun fragment => combine combinator [fragment]) := by
            simp only [entry, role, compile, bind_assoc]
          rw [split, Compile.bind_error] at failed
          rcases failed with failed | ⟨fragment, between, ran, failed⟩
          · exact .combinedObject role (inside failed)
          · obtain ⟨fragments, run, reduced⟩ := compile_ok ran
            exact .hoisted role (.elements run reduced ran .noElements) failed
      | relation property =>
          simp only [entry, role] at failed
          rcases relationFilter_error failed with ⟨fault, missing, rfl⟩ | ⟨deep, rfl⟩ |
            ⟨entity, found, failed | ⟨matched, between, ran, failed | ⟨_, unbound, failed⟩⟩⟩
          · exact .unknownTarget role missing
          · exact .tooDeep role deep
          · exact .related role found (inside failed)
          · exact .uncorrelated role found ran failed
          · exact .rebound role found ran unbound failed
      | _ => exact .leaf (by simpa only [entry, role] using failed)
  | .array items, failed => by
      cases role : role (compiler.resolver node.entity) key with
      | combinator combinator =>
          simp only [entry, role, Compile.bind_error, Compile.ofExcept_error,
            Compile.ofExcept_ok] at failed
          rcases failed with failed | ⟨_, _, ⟨checked, rfl⟩, failed⟩
          · exact .notObject role failed
          have objects := checkElements_ok checked
          rcases failed with failed | ⟨siblings, between, ran, failed⟩
          · exact .combinedList role (elements_fails objects failed)
          · exact .hoisted role (elements_runs objects ran) failed
      | _ => exact .leaf (by simpa only [entry, role] using failed)
  | .null, failed => .leaf failed
  | .bool _, failed => .leaf failed
  | .number _, failed => .leaf failed
  | .string _, failed => .leaf failed

theorem elements_fails {compiler : Compiler} {node : Node} {context : Context}
    {error : CompileError} :
    ∀ {items : List Json}, (∀ item ∈ items, ∃ inner, item = .object inner) →
      elements compiler node items context = .error error →
      Fails compiler node (.elements items) context error
  | [], _, failed => by
      rw [elements] at failed
      exact (Compile.pure_error.mp failed).elim
  | .object inner :: rest, objects, failed => by
      have split : element compiler node (.object inner) = compile compiler node inner := by
        rw [element, compile]
      simp only [elements, split, Compile.bind_error, Compile.pure_error] at failed
      rcases failed with failed | ⟨fragment, between, ran, failed | ⟨_, _, _, impossible⟩⟩
      · exact members_element (fun _ => members_fails) failed
      · exact .laterElement ran (elements_fails
          (fun item member => objects item (List.mem_cons_of_mem _ member)) failed)
      · exact impossible.elim
  | .null :: _, objects, _ => by simpa using objects _ List.mem_cons_self
  | .bool _ :: _, objects, _ => by simpa using objects _ List.mem_cons_self
  | .number _ :: _, objects, _ => by simpa using objects _ List.mem_cons_self
  | .string _ :: _, objects, _ => by simpa using objects _ List.mem_cons_self
  | .array _ :: _, objects, _ => by simpa using objects _ List.mem_cons_self

end

theorem compile_fails {compiler : Compiler} {node : Node} {filter : Members} {context : Context}
    {error : CompileError} (failed : compile compiler node filter context = .error error) :
    Fails compiler node (.elements [.object filter]) context error :=
  members_element (fun _ => members_fails) failed

end Filter

end TreeQuery
