import TreeQuery.Proofs.Operators
import TreeQuery.Proofs.Outlines
import TreeQuery.Proofs.Sample

/-!
# Literals do not reach the statement

A request and its redaction are compiled alike: step by step with the same names, and
to fragments with the same outline.  So two requests with the same redaction have the
same text and bind the same names, or fail in the same way.
-/

namespace TreeQuery

open Compile (Agree agree_pure agree_throw agree_ofExcept agree_fromSupply)
open Fragment (outline)

/-! ## Operators -/

namespace Filter

open Sql (Supply Parameter)

theorem withParameters_eq (label : Sql.Alias) (field : String) {test other : Sql.Test Json}
    (same : test.shape = other.shape) (supply : Supply) :
    withParameters label field test supply = withParameters label field other supply := by
  refine Sql.Test.eq_of_shape ?_ ?_
  · rw [withParameters_shape, withParameters_shape, same]
  · rw [withParameters_slots, withParameters_slots, Sql.Test.slots_length_of_shape same]

theorem testSubjects_eq (label : Sql.Alias) (field : String) {test other : Sql.Test Json}
    (same : test.shape = other.shape) (subjects : List (List Sql.Column)) (supply : Supply)
    {bound found : List (Parameter × Json)} (alike : bound.map (·.1) = found.map (·.1)) :
    (testSubjects label field test subjects (supply, bound)).1 =
        (testSubjects label field other subjects (supply, found)).1 ∧
      (testSubjects label field test subjects (supply, bound)).2.1 =
        (testSubjects label field other subjects (supply, found)).2.1 ∧
      (testSubjects label field test subjects (supply, bound)).2.2.map (·.1) =
        (testSubjects label field other subjects (supply, found)).2.2.map (·.1) := by
  have lengths := Sql.Test.slots_length_of_shape same
  induction subjects generalizing supply bound found with
  | nil => exact ⟨rfl, rfl, alike⟩
  | cons subject rest ih =>
      rw [testSubjects_cons, testSubjects_cons, withParameters_eq label field same, lengths]
      have extended : (bound ++ (supply.upcoming label field other.slots.length).zip
            test.slots).map (·.1) =
          (found ++ (supply.upcoming label field other.slots.length).zip
            other.slots).map (·.1) := by
        simp [alike, List.map_fst_zip, lengths]
      obtain ⟨conditions, after, names⟩ := ih (supply.skip other.slots.length) extended
      exact ⟨congrArg (List.cons _) conditions, after, names⟩

theorem checkArity_redacted (field : String) (columns : Nat) (items : List Json) :
    checkArity field columns (items.map Json.redacted) = checkArity field columns items := by
  induction items with
  | nil => rfl
  | cons item rest ih =>
      cases item with
      | array parts =>
          simp only [List.map_cons, Json.redacted, Json.redactedAll_eq, checkArity,
            List.length_map, ih]
      | _ => simp only [List.map_cons, Json.redacted, checkArity, ih]

theorem subjects_redacted (label : Sql.Alias) (field : String) (columns : List String)
    (operator : Operator) (operand : Json) :
    subjects label field columns operator operand.redacted =
      subjects label field columns operator operand := by
  cases operand with
  | array items =>
      simp only [Json.redacted, Json.redactedAll_eq, subjects, checkArity_redacted]
  | _ => rfl

theorem visible_readOperand {operator : Operator} (other : operator ≠ .isPresent)
    (operand : Json) :
    visible Sql.Test.shape (readOperand operator operand) =
      visible Sql.Test.shape (readOperand operator operand.redacted) := by
  unfold readOperand
  rw [Operator.test_redacted other]
  cases operator.test operand with
  | ok test => exact congrArg Except.ok (Sql.Test.shape_map Json.redacted test).symm
  | error error =>
      simp [visible, Operator.masked, CompileError.redacted, OperandError.redacted,
        Json.redacted_redacted]

theorem agree_applyOperator (node : Node) (field : String) (columns : List String)
    (operator : Operator) (operand : Json) :
    Agree outline (applyOperator node field columns operator operand)
      (applyOperator node field columns operator (redactOperand operator operand)) := by
  unfold redactOperand
  split
  · exact Agree.refl _ _
  · rename_i other
    cases columns with
    | nil => exact fun _ => rfl
    | cons column columns =>
        simp only [applyOperator, List.isEmpty_cons, Bool.false_eq_true, if_false,
          subjects_redacted]
        refine Agree.after _ fun subjects => ?_
        refine (agree_ofExcept (visible_readOperand other operand)).bind fun test masked same => ?_
        -- redaction keeps the number of slots, so both sides draw the same parameters
        have drawn : Agree (fun drawn : List Sql.Condition × List (Parameter × Json) =>
            (drawn.1, drawn.2.map (·.1)))
            (Compile.fromSupply fun supply =>
              let tested := testSubjects node.label field test subjects (supply, [])
              ((tested.1, tested.2.2), tested.2.1))
            (Compile.fromSupply fun supply =>
              let tested := testSubjects node.label field masked subjects (supply, [])
              ((tested.1, tested.2.2), tested.2.1)) := by
          refine agree_fromSupply fun supply => ?_
          obtain ⟨conditions, after, names⟩ :=
            testSubjects_eq node.label field same subjects supply rfl
          exact ⟨Prod.ext conditions names, after⟩
        refine drawn.bind fun tested others alike => ?_
        obtain ⟨conditions, parameters⟩ := Prod.mk.inj alike
        have names : (tested.2.map fun entry => (entry.1.name, entry.2)).map (·.1) =
            (others.2.map fun entry => (entry.1.name, entry.2)).map (·.1) := by
          simpa [Function.comp_def] using congrArg (List.map Parameter.name) parameters
        simp only [conditions]
        obtain ⟨result, duplicate⟩ := Fragment.outline_bindAll rfl names
        exact agree_ofExcept (Fragment.visible_checked result duplicate)

theorem agree_applyOperators (node : Node) (field : String) (columns : List String)
    (operators : List (String × Json)) :
    Agree (List.map outline) (applyOperators node field columns operators)
      (applyOperators node field columns
        (operators.map fun entry => (entry.1, redactNamed entry.1 entry.2))) := by
  induction operators with
  | nil => exact Agree.refl _ _
  | cons entry rest ih =>
      obtain ⟨name, operand⟩ := entry
      cases named : Operator.ofName? name with
      | none =>
          simp only [List.map_cons, applyOperators, named]
          exact Agree.refl _ _
      | some operator =>
          simp only [List.map_cons, applyOperators, named, redactNamed]
          refine (agree_applyOperator node field columns operator operand).bind
            fun fragment redacted same => ?_
          refine ih.bind fun others redactedOthers alike => agree_pure ?_
          exact congrArg₂ List.cons same alike

/-! ## Filters -/

theorem agree_leafFilter (node : Node) (key : String) (role : FilterRole) (value : Json)
    (plain : ∀ columns, role = .field columns → value.asObject? = none) :
    Agree outline (leafFilter node key role value)
      (leafFilter node key role (redactLeaf value role)) := by
  cases role with
  | combinator combinator =>
      refine agree_throw ?_
      simp [CompileError.redacted, FilterFault.redacted, redactLeaf, Json.redacted_redacted]
  | relation property =>
      refine agree_throw ?_
      simp [CompileError.redacted, FilterFault.redacted, redactLeaf, Json.redacted_redacted]
  | field columns =>
      have compared := agree_applyOperator node key columns .eq value
      cases value with
      | object inner => cases plain columns rfl
      | _ => exact compared
  | suffixed stem columns operator => exact agree_applyOperator node stem columns operator value
  | suffixedRelation stem => exact Agree.refl _ _
  | unknown => exact Agree.refl _ _

def nests : FilterRole → Json → Bool
  | .combinator _, .object _ => true
  | .combinator _, .array _ => true
  | .relation _, .object _ => true
  | _, _ => false

theorem nests_of_isScalar {value : Json} (scalar : value.isScalar = true) (role : FilterRole) :
    nests role value = false := by
  cases value <;> cases scalar <;> cases role <;> rfl

theorem nests_redactLeaf (role : FilterRole) (value : Json) :
    nests role (redactLeaf value role) = nests role value := by
  cases role <;> cases value <;> rfl

section Leaves

variable {compiler : Compiler} {node : Node} {key : String} {value : Json}

theorem entry_eq_leafFilter
    (leaf : nests (role (compiler.resolver node.entity) key) value = false) :
    entry compiler node key value =
      leafFilter node key (role (compiler.resolver node.entity) key) value := by
  cases value with
  | object inner =>
      cases role : role (compiler.resolver node.entity) key <;>
        simp_all only [entry, nests, Bool.true_eq_false]
  | array items =>
      cases role : role (compiler.resolver node.entity) key <;>
        simp_all only [entry, nests, Bool.true_eq_false]
  | _ => rfl

theorem redactEntry_eq_redactLeaf {entity : Entity}
    (leaf : nests (role (compiler.resolver entity) key) value = false)
    (plain : ∀ columns, role (compiler.resolver entity) key = .field columns →
      value.asObject? = none) :
    redactEntry compiler entity key value =
      redactLeaf value (role (compiler.resolver entity) key) := by
  cases value with
  | object inner =>
      cases role : role (compiler.resolver entity) key <;>
        simp_all [redactEntry, nests, Json.asObject?]
  | array items =>
      cases role : role (compiler.resolver entity) key <;>
        simp_all [redactEntry, nests]
  | _ => rfl

theorem agree_leaf (leaf : nests (role (compiler.resolver node.entity) key) value = false)
    (plain : ∀ columns, role (compiler.resolver node.entity) key = .field columns →
      value.asObject? = none) :
    Agree outline (entry compiler node key value)
      (entry compiler node key (redactEntry compiler node.entity key value)) := by
  have redacted := (nests_redactLeaf (role (compiler.resolver node.entity) key) value).trans leaf
  rw [redactEntry_eq_redactLeaf leaf plain, entry_eq_leafFilter leaf,
    entry_eq_leafFilter redacted]
  exact agree_leafFilter node key _ value plain

end Leaves

theorem agree_combine (combinator : Combinator) {siblings others : List Fragment}
    (alike : siblings.map outline = others.map outline) :
    Agree outline (combine combinator siblings) (combine combinator others) := by
  have lengths : siblings.isEmpty = others.isEmpty := by
    simpa using congrArg List.isEmpty alike
  have nothing : outline {} = outline {} := rfl
  obtain ⟨group, duplicate, hoisted⟩ := Fragment.outline_hoist nothing alike
  unfold combine
  rw [lengths]
  split
  · exact Agree.refl _ _
  · rcases here : ({} : Fragment).hoist siblings with ⟨values, children, found⟩
    rcases there : ({} : Fragment).hoist others with ⟨result, redacted, repeated⟩
    rw [here, there] at group duplicate hoisted
    -- both sides bind the same names, so they stop at the same duplicate
    cases duplicate
    simp only [here, there]
    cases found with
    | some name => exact fun _ => rfl
    | none =>
        cases hoisted rfl
        have checked : visible outline (Fragment.checked (values, none)) =
            visible outline (Fragment.checked (result, none)) :=
          Fragment.visible_checked group rfl
        refine (agree_ofExcept checked).bind fun first second same => ?_
        obtain ⟨bound, rfl, names⟩ := Fragment.outline_eq_iff.mp same
        cases combinator <;> exact agree_pure (Prod.ext rfl names)

theorem redactElement_asObject? (compiler : Compiler) (entity : Entity) (item : Json) :
    (redactElement compiler entity item).asObject?.isNone = item.asObject?.isNone := by
  cases item <;> rfl

theorem visible_checkElements (compiler : Compiler) (node : Node) (combinator : Combinator)
    (items : List Json) :
    visible id (checkElements node combinator items) =
      visible id (checkElements node combinator (redactAll compiler node.entity items)) := by
  induction items with
  | nil => rfl
  | cons item rest ih =>
      unfold checkElements at ih ⊢
      simp only [redactAll, List.find?_cons, redactElement_asObject?]
      cases item with
      | object inner => simpa [Json.asObject?] using ih
      | _ =>
          simp [Json.asObject?, visible, redactElement, CompileError.redacted,
            FilterFault.redacted, Json.redacted_redacted]

/-- The filter on the related rows may depend on the entity that the property refers to. -/
theorem agree_relationFilter (compiler : Compiler) (node : Node) (property : Property)
    {inner follow : Node → Compile Fragment}
    (same : ∀ child, compiler.provider.entity property.typeName = .ok child.entity →
      Agree outline (inner child) (follow child)) :
    Agree outline (relationFilter compiler node property inner)
      (relationFilter compiler node property follow) := by
  unfold relationFilter
  cases found : compiler.provider.entity property.typeName with
  | error error =>
      simp only [Compile.entity, found]
      exact fun _ => rfl
  | ok entity =>
      simp only [Compile.entity, found, pure_bind]
      refine Agree.after _ fun _ => Agree.after _ fun label => ?_
      refine (same ⟨entity, label⟩ found).bind fun matched redacted alike => ?_
      obtain ⟨values, rfl, names⟩ := Fragment.outline_eq_iff.mp alike
      refine Agree.after _ fun _ => Agree.after _ fun correlation => Agree.after _ fun label => ?_
      simp only [Fragment.lower_withValues]
      obtain ⟨result, duplicate⟩ := Fragment.outline_bindAll rfl names
      exact agree_ofExcept (Fragment.visible_checked result duplicate)

mutual

theorem agree_members (compiler : Compiler) (node : Node) : ∀ list : List (String × Json),
    Agree (List.map outline) (members compiler node list)
      (members compiler node (redact compiler node.entity list))
  | [] => Agree.refl _ _
  | (key, value) :: rest => by
      rw [redact, members, members]
      refine (agree_entry compiler node key value).bind fun fragment redacted same => ?_
      refine (agree_members compiler node rest).bind fun others redactedOthers alike => ?_
      exact agree_pure (congrArg₂ List.cons same alike)

theorem agree_entry (compiler : Compiler) (node : Node) (key : String) : ∀ value : Json,
    Agree outline (entry compiler node key value)
      (entry compiler node key (redactEntry compiler node.entity key value))
  | .object inner => by
      have below := agree_members compiler node inner
      cases role : role (compiler.resolver node.entity) key with
      | combinator combinator =>
          simp only [redactEntry, role, entry]
          refine below.bind fun fragments redacted alike => ?_
          refine (Fragment.agree_reduce alike).bind fun fragment masked same => ?_
          exact agree_combine combinator (congrArg (fun shown => [shown]) same)
      | relation property =>
          cases found : compiler.provider.entity property.typeName with
          | error error =>
              -- the filter of an unknown entity is never read
              simp only [redactEntry, role, found, Json.redacted, entry]
              exact agree_relationFilter compiler node property fun child other => by
                rw [found] at other
                cases other
          | ok entity =>
              simp only [redactEntry, role, found, entry]
              refine agree_relationFilter compiler node property fun child other => ?_
              rw [found] at other
              cases other
              exact (agree_members compiler child inner).bind fun _ _ alike =>
                Fragment.agree_reduce alike
      | field columns =>
          simp only [redactEntry, role, entry, leafFilter, fieldFilter]
          exact (agree_applyOperators node key columns inner).bind fun _ _ alike =>
            Fragment.agree_reduce alike
      | _ => exact agree_leaf (by simp [role, nests]) (by simp [role])
  | .array items => by
      cases role : role (compiler.resolver node.entity) key with
      | combinator combinator =>
          simp only [redactEntry, role, entry]
          refine (agree_ofExcept (visible_checkElements compiler node combinator items)).bind
            fun _ _ _ => ?_
          exact (agree_elements compiler node items).bind fun _ _ alike =>
            agree_combine combinator alike
      | _ => exact agree_leaf (by simp [role, nests]) (by simp [Json.asObject?])
  | .null => agree_leaf (nests_of_isScalar rfl _) fun _ _ => rfl
  | .bool _ => agree_leaf (nests_of_isScalar rfl _) fun _ _ => rfl
  | .number _ => agree_leaf (nests_of_isScalar rfl _) fun _ _ => rfl
  | .string _ => agree_leaf (nests_of_isScalar rfl _) fun _ _ => rfl

theorem agree_elements (compiler : Compiler) (node : Node) : ∀ items : List Json,
    Agree (List.map outline) (elements compiler node items)
      (elements compiler node (redactAll compiler node.entity items))
  | [] => Agree.refl _ _
  | item :: rest => by
      rw [redactAll, elements, elements]
      refine (agree_element compiler node item).bind fun fragment redacted same => ?_
      refine (agree_elements compiler node rest).bind fun others redactedOthers alike => ?_
      exact agree_pure (congrArg₂ List.cons same alike)

theorem agree_element (compiler : Compiler) (node : Node) : ∀ item : Json,
    Agree outline (element compiler node item)
      (element compiler node (redactElement compiler node.entity item))
  | .object inner => by
      rw [redactElement, element, element]
      exact (agree_members compiler node inner).bind fun _ _ alike =>
        Fragment.agree_reduce alike
  | .array _ => Agree.refl _ _
  | .null => Agree.refl _ _
  | .bool _ => Agree.refl _ _
  | .number _ => Agree.refl _ _
  | .string _ => Agree.refl _ _

end

theorem agree_compile (compiler : Compiler) (node : Node) (filter : Members) :
    Agree outline (compile compiler node filter)
      (compile compiler node (redact compiler node.entity filter)) :=
  (agree_members compiler node filter).bind fun _ _ alike => Fragment.agree_reduce alike

end Filter

/-! ## Selections -/

namespace Display

theorem body_withValues (compiler : Compiler) (child : Node) (fragment : Fragment)
    (values : Bindings) :
    body compiler child { fragment with values } = body compiler child fragment := by
  simp only [body, Fragment.lower_withValues]
  rfl

theorem agree_relationField (compiler : Compiler) (node : Node) (key : String)
    (property : Property) {inner follow : Node → Compile Fragment}
    (same : ∀ child, compiler.provider.entity property.typeName = .ok child.entity →
      Agree outline (inner child) (follow child)) :
    Agree outline (relationField compiler node key property inner)
      (relationField compiler node key property follow) := by
  unfold relationField
  cases found : compiler.provider.entity property.typeName with
  | error error =>
      simp only [Compile.entity, found]
      exact fun _ => rfl
  | ok entity =>
      simp only [Compile.entity, found, pure_bind]
      refine Agree.after _ fun _ => Agree.after _ fun label => ?_
      refine (same ⟨entity, label⟩ found).bind fun shown redacted alike => ?_
      obtain ⟨values, rfl, names⟩ := Fragment.outline_eq_iff.mp alike
      simp only [body_withValues]
      refine Agree.after _ fun _ => Agree.after _ fun rendered => ?_
      obtain ⟨result, duplicate⟩ := Fragment.outline_bindAll rfl names
      exact agree_ofExcept (Fragment.visible_checked result duplicate)

theorem agree_arguments (compiler : Compiler) (node : Node) (given : Option Arguments) :
    Agree (List.map outline) (arguments compiler node given)
      (arguments compiler node (given.map (Arguments.redact compiler (some node.entity)))) := by
  cases given with
  | none => exact Agree.refl _ _
  | some given =>
      cases wanted : given.filter with
      | none =>
          simp only [arguments, Option.map_some, Option.getD_some, Arguments.redact, wanted,
            Option.map_none]
          exact Agree.refl _ _
      | some filter =>
          simp only [arguments, Option.map_some, Option.getD_some, Arguments.redact, wanted,
            Filter.redactAt]
          refine (Filter.agree_compile compiler node filter).bind fun fragment redacted same => ?_
          simp only [pure_bind]
          refine agree_pure ?_
          simp [same]

theorem isEmpty_redact (compiler : Compiler) (entity : Option Entity) (selection : Selection) :
    (selection.redact compiler entity).isEmpty = selection.isEmpty := by
  obtain ⟨fields, given⟩ := selection
  cases fields with
  | nil => rfl
  | cons field rest =>
      obtain ⟨key, wanted⟩ := field
      simp [Selection.redact, Selection.redactFields, Selection.isEmpty]

mutual

theorem agree_parts (compiler : Compiler) (node : Node) : ∀ selection : Selection,
    Agree (List.map outline) (parts compiler node selection)
      (parts compiler node (selection.redact compiler (some node.entity)))
  | ⟨selected, given⟩ => by
      have same := isEmpty_redact compiler (some node.entity) ⟨selected, given⟩
      simp only [Selection.redact, Selection.isEmpty] at same
      rw [Selection.redact, parts, parts, same]
      have argued : ∀ {shown redacted : List Fragment},
          shown.map outline = redacted.map outline →
          Agree (List.map outline)
            (do pure (shown ++ (← arguments compiler node given)))
            (do pure (redacted ++ (← arguments compiler node
              (given.map (Arguments.redact compiler (some node.entity)))))) := by
        intro shown redacted alike
        refine (agree_arguments compiler node given).bind fun filtered others more => ?_
        exact agree_pure (by rw [List.map_append, List.map_append, alike, more])
      split
      · exact Agree.after _ fun shown => argued rfl
      · exact (agree_fields compiler node selected).bind fun shown redacted alike => argued alike

theorem agree_fields (compiler : Compiler) (node : Node) : ∀ list : List (String × FieldNode),
    Agree (List.map outline) (fields compiler node list)
      (fields compiler node (Selection.redactFields compiler (some node.entity) list))
  | [] => Agree.refl _ _
  | (key, wanted) :: rest => by
      rw [Selection.redactFields, fields, fields]
      refine (agree_field compiler node key wanted).bind fun fragment redacted same => ?_
      refine (agree_fields compiler node rest).bind fun others redactedOthers alike => ?_
      exact agree_pure (congrArg₂ List.cons same alike)

theorem agree_field (compiler : Compiler) (node : Node) (key : String) : ∀ wanted : FieldNode,
    Agree outline (field compiler node key wanted)
      (field compiler node key (wanted.redact compiler (some node.entity) key))
  | .leaf => Agree.refl _ _
  | .nested selection => by
      cases resolved : (compiler.resolver node.entity).resolve key with
      | none =>
          simp only [FieldNode.redact, field, resolved]
          exact Agree.refl _ _
      | some named =>
          cases named with
          | computed found =>
              simp only [FieldNode.redact, field, resolved, isEmpty_redact]
              exact Agree.refl _ _
          | property property =>
              cases relation : property.isRelation with
              | false =>
                  simp only [FieldNode.redact, field, resolved, relation, isEmpty_redact,
                    Bool.false_eq_true, if_false]
                  exact Agree.refl _ _
              | true =>
                  simp only [FieldNode.redact, field, resolved, relation, if_true]
                  refine agree_relationField compiler node key property fun child found => ?_
                  have below : compiler.related? node.entity key = some child.entity :=
                    Compiler.related?_of_relation resolved relation found
                  simp only [Option.bind_some, below]
                  exact (agree_parts compiler child selection).bind fun _ _ alike =>
                    Fragment.agree_reduce alike

end

end Display

/-! ## Statements -/

theorem Compile.agree_node (compiler : Compiler) (node : Node) (selection : Selection)
    (filter : Option Members) :
    Agree outline (Compile.node compiler node (some selection) filter)
      (Compile.node compiler node (some (selection.redact compiler (some node.entity)))
        (filter.map (Filter.redactAt compiler · (some node.entity)))) := by
  unfold Compile.node
  refine (Display.agree_parts compiler node selection).bind fun shown redacted alike => ?_
  cases filter with
  | none => exact Fragment.agree_reduce (by simp [alike])
  | some filter =>
      simp only [Option.map_some, Filter.redactAt]
      refine (Filter.agree_compile compiler node filter).bind fun fragment masked same => ?_
      exact Fragment.agree_reduce (by simp [alike, same])

namespace Compiler

def shown (statement : Statement) : Sql.Select × List String :=
  (statement.query, statement.bindings.names)

theorem rootSelect_withValues (compiler : Compiler) (node : Node) (fragment : Fragment)
    (values : Bindings) :
    compiler.rootSelect node { fragment with values } = compiler.rootSelect node fragment := by
  simp only [rootSelect, Fragment.lower_withValues]
  rfl

theorem agree_statement (compiler : Compiler) (query : Query) :
    Agree shown (compiler.statement query) (compiler.statement (query.redact compiler)) := by
  cases found : compiler.provider.entity query.entity with
  | error error =>
      simp only [statement, root, Query.redact, Compile.entity, found]
      exact fun _ => rfl
  | ok entity =>
      simp only [statement, root, Query.redact, Compile.entity, found, pure_bind, bind_assoc,
        Except.toOption]
      refine Agree.after _ fun label => ?_
      refine (Compile.agree_node compiler ⟨entity, label⟩ query.selection query.filter).bind
        fun fragment redacted same => ?_
      have finished : ∀ {whole masked : Fragment}, whole.outline = masked.outline →
          Agree shown
            (pure ⟨compiler.rootSelect ⟨entity, label⟩ whole, whole.values⟩)
            (pure ⟨compiler.rootSelect ⟨entity, label⟩ masked, masked.values⟩) := by
        intro whole masked alike
        obtain ⟨values, rfl, names⟩ := Fragment.outline_eq_iff.mp alike
        refine agree_pure ?_
        exact Prod.ext (rootSelect_withValues compiler _ masked values) names
      cases query.pagination with
      | none => exact finished same
      | some pagination =>
          exact (agree_ofExcept (Fragment.visible_merge same rfl)).bind fun _ _ => finished

theorem visible_compile (compiler : Compiler) (query : Query) :
    visible shown (compiler.compile query) =
      visible shown (compiler.compile (query.redact compiler)) := by
  have agreed := agree_statement compiler query {}
  unfold compile
  rw [StateT.run', StateT.run']
  exact visible_bind agreed fun before after same => congrArg Except.ok (Prod.mk.inj same).1

/--
Queries with the same redaction compile to statements with the same text and the same
names, or fail with errors that differ in quoted scalars at most.
-/
theorem compile_of_redact_eq {compiler : Compiler} {query other : Query}
    (same : query.redact compiler = other.redact compiler) :
    (∃ statement result, compiler.compile query = .ok statement ∧
        compiler.compile other = .ok result ∧ statement.sql = result.sql ∧
        statement.bindings.names = result.bindings.names) ∨
      ∃ error fault, compiler.compile query = .error error ∧
        compiler.compile other = .error fault ∧ error.kind = fault.kind ∧
        error.redacted = fault.redacted := by
  have alike : visible shown (compiler.compile query) = visible shown (compiler.compile other) := by
    rw [visible_compile compiler query, visible_compile compiler other, same]
  cases here : compiler.compile query with
  | error error =>
      cases there : compiler.compile other with
      | error fault =>
          rw [here, there] at alike
          simp only [visible, Except.error.injEq] at alike
          have kinds : error.kind = fault.kind := by
            rw [← error.kind_redacted, ← fault.kind_redacted, alike]
          exact .inr ⟨error, fault, rfl, rfl, kinds, alike⟩
      | ok result =>
          rw [here, there] at alike
          cases alike
  | ok statement =>
      cases there : compiler.compile other with
      | error fault =>
          rw [here, there] at alike
          cases alike
      | ok result =>
          rw [here, there] at alike
          simp only [visible, Except.ok.injEq] at alike
          obtain ⟨tree, names⟩ := Prod.mk.inj alike
          exact .inl ⟨statement, result, rfl, rfl, congrArg Sql.Select.render tree, names⟩

end Compiler

namespace Sample

def companions (name battle hidden : Json) : Query :=
  { entity := "Person"
    selection :=
      { fields :=
          [("battles",
              .nested
                { arguments :=
                    some { filter := some [("_not", .object [("name_like", hidden)])] } })] }
    filter :=
      some
        [("_or",
            .array
              [.object [("name", .object [("_ne", name), ("_exists", .bool true)])],
                .object
                  [("battles", .object [("name_in", .array [battle, .null, battle])])]])] }

theorem compile_of_redact_eq_companions :
    ∃ statement result,
      compiler.compile (companions (.string "Frodo") (.string "Bywater") (.string "%'; --")) =
        .ok statement ∧
      compiler.compile (companions (.bool false) (.number (.integer 7)) (.string ":t_e1")) =
        .ok result ∧
      statement.sql = result.sql ∧ statement.bindings.names = result.bindings.names := by
  have same :
      (companions (.string "Frodo") (.string "Bywater") (.string "%'; --")).redact compiler =
        (companions (.bool false) (.number (.integer 7)) (.string ":t_e1")).redact compiler := rfl
  rcases Compiler.compile_of_redact_eq same with done | ⟨error, -, failed, -⟩
  · exact done
  · have succeeds : (compiler.compile
        (companions (.string "Frodo") (.string "Bywater") (.string "%'; --"))).isOk = true := by
      decide +kernel
    simp [failed, Except.isOk, Except.toBool] at succeeds

end Sample

end TreeQuery
