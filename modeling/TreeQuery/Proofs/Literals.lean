import TreeQuery.Proofs.SelectionFailures

/-!
# Literals and their parameters

The literals of a filter are listed in the order in which its keys are compiled.
Compiling it draws one parameter after the other, and the values of the fragments
are those parameters with the literals.  As a parameter's name ends with its number,
no name is drawn twice, and putting the fragments together cannot fail.
-/

namespace TreeQuery

open Sql (Parameter Supply)

/-! ## Names -/

/-- A number is read back from a text in which it stands behind the last underscore. -/
theorem toDigits_behind_underscore (start : List Char) (number : Nat) :
    ((start ++ '_' :: Nat.toDigits 10 number).reverse.takeWhile (· != '_')).reverse =
      Nat.toDigits 10 number := by
  have digits : ∀ c ∈ (Nat.toDigits 10 number).reverse, (c != '_') = true := by
    intro c member
    rw [bne_iff_ne]
    rintro rfl
    exact Nat.underscore_not_in_toDigits (List.mem_reverse.mp member)
  rw [List.reverse_append, List.reverse_cons, List.append_assoc,
    List.takeWhile_append_of_pos digits]
  simp

theorem Sql.Parameter.number_of_name {left right : Parameter} (same : left.name = right.name) :
    left.number = right.number := by
  have split : ∀ parameter : Parameter, parameter.name.toList =
      (parameter.label.parameterStem parameter.field).toList ++
        '_' :: Nat.toDigits 10 parameter.number := by
    intro parameter
    simp [Parameter.name]
  have digits := toDigits_behind_underscore
    (left.label.parameterStem left.field).toList left.number
  rw [← split, same, split, toDigits_behind_underscore] at digits
  have numbers := congrArg (Nat.ofDigitChars 10 · 0) digits
  simpa only [Nat.ofDigitChars_ten_toDigits] using numbers.symm

/-! ## Drawing -/

/--
The values are bound to the parameters with the numbers after `before` up to `after`,
one for each literal, in the order of the literals.
-/
def Draws (before after : Nat) (literals : List (String × Json)) (values : Bindings) : Prop :=
  ∃ drawn : List (Parameter × Json),
    drawn.map (fun entry => entry.1.number) = List.range' (before + 1) drawn.length ∧
    after = before + drawn.length ∧
    drawn.map (fun entry => (entry.1.field, entry.2)) = literals ∧
    values.Perm (drawn.map fun entry => (entry.1.name, entry.2))

namespace Draws

variable {before between after : Nat} {literals others : List (String × Json)}
  {values more : Bindings}

theorem none (before : Nat) : Draws before before [] [] := ⟨[], rfl, rfl, rfl, .refl _⟩

theorem append (first : Draws before between literals values)
    (second : Draws between after others more) :
    Draws before after (literals ++ others) (values ++ more) := by
  obtain ⟨drawn, numbers, rfl, rfl, perm⟩ := first
  obtain ⟨later, following, rfl, rfl, laterPerm⟩ := second
  refine ⟨drawn ++ later, ?_, ?_, by simp, by simpa using perm.append laterPerm⟩
  · rw [List.map_append, numbers, following, List.length_append,
      Nat.add_right_comm before drawn.length 1, List.range'_append_1]
  · rw [List.length_append]
    omega

theorem perm (drawn : Draws before after literals values) (same : more.Perm values) :
    Draws before after literals more := by
  obtain ⟨entries, numbers, count, listed, bound⟩ := drawn
  exact ⟨entries, numbers, count, listed, same.trans bound⟩

theorem nodup (drawn : Draws before after literals values) : values.names.Nodup := by
  obtain ⟨entries, numbers, -, -, bound⟩ := drawn
  have distinct : (entries.map fun entry => entry.1.number).Nodup := by
    rw [numbers]
    exact List.nodup_range'
  have named : (entries.map fun entry => entry.1.name).Nodup := by
    refine List.Nodup.map_on ?_ (List.Nodup.of_map _ distinct)
    intro left listed right alsoListed same
    exact List.inj_on_of_nodup_map distinct listed alsoListed (Parameter.number_of_name same)
  refine ((bound.map (·.1)).nodup_iff).mpr ?_
  simpa [Function.comp_def] using named

end Draws

theorem Site.linkedSupply_parameters (supply : Supply) (stem : String) (link : Link) :
    (linkedSupply supply stem link).parameters = supply.parameters := by
  cases link <;> rfl

namespace Filter

/-! ## Literals -/

def operandLiterals (field : String) (columns : List String) (operator : Operator)
    (operand : Json) : List (String × Json) :=
  match operator.test operand with
  | .ok test => (compared columns operator).flatMap fun _ => test.slots.map (field, ·)
  | .error _ => []

def operatorLiterals (field : String) (columns : List String) (operators : List (String × Json)) :
    List (String × Json) :=
  operators.flatMap fun entry =>
    match Operator.ofName? entry.1 with
    | some operator => operandLiterals field columns operator entry.2
    | none => []

def Entry.literals (compiler : Compiler) (entry : Entry) : List (String × Json) :=
  match role (compiler.resolver entry.entity) entry.key with
  | .field columns =>
      match entry.value with
      | .object operators => operatorLiterals entry.key columns operators
      | value => operandLiterals entry.key columns .eq value
  | .suffixed stem columns operator => operandLiterals stem columns operator entry.value
  | _ => []

/-- All literals of a filter in the order of its keys, each with the field it is compared with. -/
def literals (compiler : Compiler) (entity : Entity) (filter : Members) : List (String × Json) :=
  (entries compiler entity filter).flatMap (Entry.literals compiler)

def Part.literals (compiler : Compiler) (entity : Entity) (part : Part) : List (String × Json) :=
  (part.entries compiler entity).flatMap (Entry.literals compiler)

/-! ## Operators -/

theorem upcoming_zip (label : Sql.Alias) (field : String) (values : List Json) (supply : Supply) :
    ((supply.upcoming label field values.length).zip values).map (fun entry => entry.1.number) =
        List.range' (supply.parameters + 1) values.length ∧
      ((supply.upcoming label field values.length).zip values).map
        (fun entry => (entry.1.field, entry.2)) = values.map (field, ·) := by
  have count : (List.range' (supply.parameters + 1) values.length).length = values.length :=
    List.length_range'
  constructor
  · rw [Supply.upcoming, List.zip_map_left, List.map_map]
    exact List.map_fst_zip (Nat.le_of_eq count)
  · rw [Supply.upcoming, List.zip_map_left, List.map_map]
    calc _ = (((List.range' (supply.parameters + 1) values.length).zip values).map
            Prod.snd).map (field, ·) := by rw [List.map_map]; rfl
      _ = values.map (field, ·) := by rw [List.map_snd_zip (Nat.le_of_eq count.symm)]

theorem testSubjects_draws (label : Sql.Alias) (field : String) (test : Sql.Test Json)
    (subjects : List (List Sql.Column)) (supply : Supply) (bound : List (Parameter × Json)) :
    ∃ drawn : List (Parameter × Json),
      (testSubjects label field test subjects (supply, bound)).2.2 = bound ++ drawn ∧
      drawn.map (fun entry => entry.1.number) =
        List.range' (supply.parameters + 1) drawn.length ∧
      (testSubjects label field test subjects (supply, bound)).2.1.parameters =
        supply.parameters + drawn.length ∧
      drawn.map (fun entry => (entry.1.field, entry.2)) =
        subjects.flatMap fun _ => test.slots.map (field, ·) := by
  induction subjects generalizing supply bound with
  | nil => exact ⟨[], by simp [testSubjects]⟩
  | cons subject rest ih =>
      rw [testSubjects_cons]
      obtain ⟨numbers, listed⟩ := upcoming_zip label field test.slots supply
      have count : ((supply.upcoming label field test.slots.length).zip test.slots).length =
          test.slots.length := by simp
      obtain ⟨later, bound, following, after, others⟩ := ih (supply.skip test.slots.length)
        (bound ++ (supply.upcoming label field test.slots.length).zip test.slots)
      refine ⟨(supply.upcoming label field test.slots.length).zip test.slots ++ later, ?_, ?_, ?_,
        ?_⟩
      · rw [bound, List.append_assoc]
      · rw [List.map_append, numbers, following, List.length_append, count, Supply.skip,
          Nat.add_right_comm, List.range'_append_1]
      · rw [after, List.length_append, count, Supply.skip, Nat.add_assoc]
      · rw [List.map_append, listed, others, List.flatMap_cons]

theorem Applied.draws {node : Node} {field : String} {columns : List String}
    {operator : Operator} {operand : Json} {context after : Context} {fragment : Fragment}
    (applied : Applied node field columns operator operand context fragment after) :
    Draws context.supply.parameters after.supply.parameters
      (operandLiterals field columns operator operand) fragment.values := by
  obtain ⟨-, subjects, test, conditions, supply, bound, values, chosen, accepted, tested, rfl,
    perm, -, rfl⟩ := applied
  obtain ⟨drawn, listed, numbers, count, literals⟩ :=
    testSubjects_draws node.label field test subjects context.supply []
  simp only [tested, List.nil_append] at listed count
  subst listed
  refine ⟨bound, numbers, count, ?_, perm⟩
  rw [literals, operandLiterals, accepted, subjects_ok chosen, List.flatMap_map]

theorem AppliedAll.draws {node : Node} {field : String} {columns : List String}
    {operators : List (String × Json)} {context after : Context} {fragments : List Fragment}
    (applied : AppliedAll node field columns operators context fragments after) :
    Draws context.supply.parameters after.supply.parameters
      (operatorLiterals field columns operators) (fragments.flatMap (·.values)) := by
  induction applied with
  | nil => exact Draws.none _
  | cons named first later ih =>
      rw [operatorLiterals, List.flatMap_cons, named]
      exact first.draws.append ih

/-! ## Filters -/

theorem Combined.values_perm {combinator : Combinator} {siblings : List Fragment}
    {fragment : Fragment} (combined : Combined combinator siblings fragment) :
    fragment.values.Perm (siblings.flatMap (·.values)) := by
  cases combined with
  | none => exact .refl _
  | some nonempty perm distinct => cases combinator <;> exact perm

theorem Part.literals_leaf {compiler : Compiler} {entity : Entity} {key : String} {value : Json}
    (plain : (∃ columns, role (compiler.resolver entity) key = .field columns) ∨
      ∃ stem columns operator,
        role (compiler.resolver entity) key = .suffixed stem columns operator) :
    (Part.entry key value).literals compiler entity =
      Entry.literals compiler ⟨entity, key, value⟩ := by
  have within : entriesWithin compiler entity key value = [] := by
    rcases plain with ⟨columns, role⟩ | ⟨stem, columns, operator, role⟩ <;>
      cases value <;> simp [entriesWithin, role]
  simp [Part.literals, Part.entries, within]

theorem Part.literals_members {compiler : Compiler} {entity : Entity} (key : String) (value : Json)
    (rest : List (String × Json)) :
    (Part.members ((key, value) :: rest)).literals compiler entity =
      (Part.entry key value).literals compiler entity ++
        (Part.members rest).literals compiler entity := by
  simp only [Part.literals, entries_members, List.flatMap_append]

theorem Part.literals_elements {compiler : Compiler} {entity : Entity}
    (inner : List (String × Json)) (rest : List Json) :
    (Part.elements (.object inner :: rest)).literals compiler entity =
      (Part.members inner).literals compiler entity ++
        (Part.elements rest).literals compiler entity := by
  simp only [Part.literals, entries_elements, List.flatMap_append]

theorem Part.literals_list {compiler : Compiler} {entity : Entity} {key : String}
    {combinator : Combinator} (role : role (compiler.resolver entity) key = .combinator combinator)
    (items : List Json) :
    (Part.entry key (.array items)).literals compiler entity =
      (Part.elements items).literals compiler entity := by
  simp [Part.literals, entries_list role, Entry.literals, role]

theorem Part.literals_object {compiler : Compiler} {entity : Entity} {key : String}
    {combinator : Combinator} (role : role (compiler.resolver entity) key = .combinator combinator)
    (inner : List (String × Json)) :
    (Part.entry key (.object inner)).literals compiler entity =
      (Part.elements [.object inner]).literals compiler entity := by
  simp [Part.literals, entries_object role, Entry.literals, role]

theorem Part.literals_related {compiler : Compiler} {entity child : Entity} {key : String}
    {property : Property} (role : role (compiler.resolver entity) key = .relation property)
    (found : compiler.provider.entity property.typeName = .ok child)
    (inner : List (String × Json)) :
    (Part.entry key (.object inner)).literals compiler entity =
      (Part.members inner).literals compiler child := by
  simp [Part.literals, entries_related role found, Entry.literals, role]

theorem Runs.draws {compiler : Compiler} {node : Node} {part : Part} {context after : Context}
    {fragments : List Fragment} (run : Runs compiler node part context fragments after) :
    Draws context.supply.parameters after.supply.parameters
      (part.literals compiler node.entity) (fragments.flatMap (·.values)) := by
  induction run with
  | noMembers => exact Draws.none _
  | members first later firstDraws laterDraws =>
      rw [Part.literals_members]
      simpa using firstDraws.append laterDraws
  | noElements => exact Draws.none _
  | elements first reduced compiled later firstDraws laterDraws =>
      rw [Part.literals_elements]
      exact (firstDraws.perm (Fragment.reduce_values reduced).1).append laterDraws
  | @compared node key value columns _ _ _ role plain applied =>
      have literals : Entry.literals compiler ⟨node.entity, key, value⟩ =
          operandLiterals key columns .eq value := by
        cases value with
        | object operators => cases plain
        | _ => simp only [Entry.literals, role]
      rw [Part.literals_leaf (.inl ⟨_, role⟩), List.flatMap_singleton, literals]
      exact (applyOperator_ok applied).draws
  | @operators node key operators columns _ _ _ _ role applied reduced =>
      have literals : Entry.literals compiler ⟨node.entity, key, .object operators⟩ =
          operatorLiterals key columns operators := by
        simp only [Entry.literals, role]
      rw [Part.literals_leaf (.inl ⟨_, role⟩), List.flatMap_singleton, literals]
      exact (applyOperators_ok applied).draws.perm (Fragment.reduce_values reduced).1
  | @suffixed node key stem value columns operator _ _ _ role applied =>
      have literals : Entry.literals compiler ⟨node.entity, key, value⟩ =
          operandLiterals stem columns operator value := by
        simp only [Entry.literals, role]
      rw [Part.literals_leaf (.inr ⟨_, _, _, role⟩), List.flatMap_singleton, literals]
      exact (applyOperator_ok applied).draws
  | combinedList role elements combined draws =>
      rw [Part.literals_list role, List.flatMap_singleton]
      exact draws.perm combined.values_perm
  | combinedObject role elements combined draws =>
      rw [Part.literals_object role, List.flatMap_singleton]
      exact draws.perm combined.values_perm
  | related role found shallow members reduced correlated labelled perm distinct draws =>
      rw [Part.literals_related role found, List.flatMap_singleton]
      obtain ⟨link, -, -, rfl⟩ := Site.conditions_ok correlated
      obtain ⟨-, rfl⟩ := Compile.freshAlias_ok.mp labelled
      -- aliases are drawn beside the parameters
      have matched := draws.perm (perm.trans (Fragment.reduce_values reduced).1)
      simpa [opened, childOf, Filter.related, Supply.next, Supply.setLast,
        Site.linkedSupply_parameters, Context.leave] using matched

/-! ## No name is bound twice -/

theorem Runs.nodup {compiler : Compiler} {node : Node} {part : Part} {context after : Context}
    {fragments : List Fragment} (run : Runs compiler node part context fragments after) :
    (Fragment.boundNames fragments).Nodup :=
  run.draws.nodup

theorem applyOperator_blame {node : Node} {field : String} {columns : List String}
    {operator : Operator} {operand : Json} {context : Context} {error : CompileError}
    (failed : applyOperator node field columns operator operand context = .error error) :
    error.blame ≠ .naming := by
  rcases applyOperator_error failed with blamed | ⟨subjects, test, fragment, unbound, failed⟩
  · simp [blamed]
  · obtain ⟨drawn, listed, numbers, count, literals⟩ :=
      testSubjects_draws node.label field test subjects context.supply []
    have draws : Draws context.supply.parameters _ _
        (drawn.map fun entry => (entry.1.name, entry.2)) :=
      ⟨drawn, numbers, rfl, rfl, .refl _⟩
    rw [listed, List.nil_append] at failed
    exact (Fragment.checked_of_nodup unbound draws.nodup failed).elim

theorem compile_nodup {compiler : Compiler} {node : Node} {filter : Members}
    {context after : Context} {fragment : Fragment}
    (done : compile compiler node filter context = .ok (fragment, after)) :
    fragment.values.names.Nodup := by
  obtain ⟨fragments, -, reduced⟩ := compile_ok done
  exact (Fragment.reduce_values reduced).2

theorem Fails.blame_ne_naming {compiler : Compiler} {node : Node} {part : Part}
    {context : Context} {error : CompileError}
    (failed : Fails compiler node part context error) : error.blame ≠ .naming := by
  induction failed with
  | first failed ih => exact ih
  | later ran failed ih => exact ih
  | element failed ih => exact ih
  | reduced ran failed =>
      obtain ⟨fragment, reduced⟩ := Fragment.reduce_of_nodup ran.nodup
      cases failed.symm.trans reduced
  | laterElement ran failed ih => exact ih
  | leaf failed =>
      rcases leafFilter_error failed with
        blamed | ⟨_, _, _, _, _, failed⟩ | ⟨_, _, fragments, _, applied, failed⟩
      · simp [blamed]
      · exact applyOperator_blame failed
      · obtain ⟨fragment, reduced⟩ :=
          Fragment.reduce_of_nodup (applyOperators_ok applied).draws.nodup
        cases failed.symm.trans reduced
  | notObject role failed => simp [blame_of_checkElements failed]
  | combinedList role failed ih => exact ih
  | combinedObject role failed ih => exact ih
  | hoisted role ran failed =>
      obtain ⟨group, others, duplicate, hoisted, failed⟩ := combine_error failed
      have none := Fragment.hoist_of_nodup {} ran.nodup
      rw [hoisted] at none
      cases none
      cases failed
  | unknownTarget role missing => simp [CompileError.blame]
  | tooDeep role deep => simp [CompileError.blame]
  | related role found failed ih => exact ih
  | uncorrelated role found ran failed => simp [Site.blame_of_conditions failed]
  | rebound role found ran unbound failed =>
      exact (Fragment.checked_of_nodup unbound (compile_nodup ran) failed).elim

end Filter

end TreeQuery
