import TreeQuery.Proofs.FilterRuns
import TreeQuery.Proofs.Tests

/-!
# Drawing parameters for operators

The parameters of a test are the next ones of the supply, one for each slot, and
each is bound to the literal in its slot.  Nothing else of the supply changes.
-/

namespace TreeQuery

namespace Sql

def Supply.skip (count : Nat) (supply : Supply) : Supply :=
  { supply with parameters := supply.parameters + count }

def Supply.upcoming (label : Alias) (field : String) (count : Nat) (supply : Supply) :
    List Parameter :=
  (List.range' (supply.parameters + 1) count).map (⟨label, field, ·⟩)

@[simp] theorem Supply.upcoming_length (label : Alias) (field : String) (count : Nat)
    (supply : Supply) : (supply.upcoming label field count).length = count := by
  simp [upcoming]

end Sql

namespace Filter

open Sql (Supply Parameter)

theorem fillList_drawParameter (label : Sql.Alias) (field : String) (values : List Json)
    (supply : Supply) (bound : List (Parameter × Json)) :
    Sql.fillList (drawParameter label field) values (supply, bound) =
      (supply.upcoming label field values.length, supply.skip values.length,
        bound ++ (supply.upcoming label field values.length).zip values) := by
  induction values generalizing supply bound with
  | nil => simp [Sql.fillList, Supply.upcoming, Supply.skip]
  | cons value rest ih =>
      simp only [Sql.fillList, drawParameter, Supply.nextParameter, ih]
      simp [Supply.upcoming, Supply.skip, List.range'_succ, Nat.add_assoc,
        Nat.add_comm 1 rest.length]

def withParameters (label : Sql.Alias) (field : String) (test : Sql.Test Json)
    (supply : Supply) : Sql.Test Parameter :=
  (test.fill (drawParameter label field) (supply, [])).1

theorem withParameters_shape (label : Sql.Alias) (field : String) (test : Sql.Test Json)
    (supply : Supply) : (withParameters label field test supply).shape = test.shape :=
  (Sql.Test.fill_eq _ test _).1

theorem withParameters_slots (label : Sql.Alias) (field : String) (test : Sql.Test Json)
    (supply : Supply) :
    (withParameters label field test supply).slots =
      supply.upcoming label field test.slots.length := by
  rw [withParameters, (Sql.Test.fill_eq _ test _).2.1, fillList_drawParameter]

theorem fill_drawParameter (label : Sql.Alias) (field : String) (test : Sql.Test Json)
    (supply : Supply) (bound : List (Parameter × Json)) :
    test.fill (drawParameter label field) (supply, bound) =
      (withParameters label field test supply, supply.skip test.slots.length,
        bound ++ (supply.upcoming label field test.slots.length).zip test.slots) := by
  obtain ⟨shape, slots, after⟩ :=
    Sql.Test.fill_eq (drawParameter label field) test (supply, bound)
  rw [fillList_drawParameter] at slots after
  have filled : (test.fill (drawParameter label field) (supply, bound)).1 =
      withParameters label field test supply :=
    Sql.Test.eq_of_shape (shape.trans (withParameters_shape label field test supply).symm)
      (slots.trans (withParameters_slots label field test supply).symm)
  exact Prod.ext filled after

theorem testSubjects_cons (label : Sql.Alias) (field : String) (test : Sql.Test Json)
    (subject : List Sql.Column) (rest : List (List Sql.Column)) (supply : Supply)
    (bound : List (Parameter × Json)) :
    testSubjects label field test (subject :: rest) (supply, bound) =
      (.test subject (withParameters label field test supply) ::
          (testSubjects label field test rest (supply.skip test.slots.length,
            bound ++ (supply.upcoming label field test.slots.length).zip test.slots)).1,
        (testSubjects label field test rest (supply.skip test.slots.length,
          bound ++ (supply.upcoming label field test.slots.length).zip test.slots)).2) := by
  rw [testSubjects, fill_drawParameter]

def compared (columns : List String) (operator : Operator) : List (List String) :=
  if 1 < columns.length && isMembership operator then [columns] else columns.map ([·])

theorem mem_of_mem_compared {columns names : List String} {operator : Operator} {name : String}
    (chosen : names ∈ compared columns operator) (listed : name ∈ names) : name ∈ columns := by
  unfold compared at chosen
  split at chosen
  · rwa [← List.mem_singleton.mp chosen]
  · obtain ⟨column, member, rfl⟩ := List.mem_map.mp chosen
    rwa [List.mem_singleton.mp listed]

theorem subjects_ok {label : Sql.Alias} {field : String} {columns : List String}
    {operator : Operator} {operand : Json} {subjects : List (List Sql.Column)}
    (listed : Filter.subjects label field columns operator operand = .ok subjects) :
    subjects = (compared columns operator).map label.columns := by
  unfold Filter.subjects at listed
  unfold compared
  split at listed
  · rename_i several
    rw [if_pos several]
    cases operand with
    | array items =>
        simp only [bind, Except.bind] at listed
        split at listed
        · cases listed
        · cases listed
          rfl
    | _ =>
        cases listed
        rfl
  · rename_i single
    rw [if_neg single]
    cases listed
    simp [Sql.Alias.columns]

structure Applied (node : Node) (field : String) (columns : List String)
    (operator : Operator) (operand : Json) (context : Context) (fragment : Fragment)
    (after : Context) : Prop where
  nonempty : columns ≠ []
  tested : ∃ subjects test conditions supply bound values,
    Filter.subjects node.label field columns operator operand = .ok subjects ∧
    operator.test operand = .ok test ∧
    testSubjects node.label field test subjects (context.supply, []) =
      (conditions, supply, bound) ∧
    after = { context with supply } ∧
    values.Perm (bound.map fun entry => (entry.1.name, entry.2)) ∧
    values.names.Nodup ∧ fragment = { conditions, values }

theorem applyOperator_ok {node : Node} {field : String} {columns : List String}
    {operator : Operator} {operand : Json} {context after : Context} {fragment : Fragment}
    (done : applyOperator node field columns operator operand context =
      .ok (fragment, after)) :
    Applied node field columns operator operand context fragment after := by
  cases columns with
  | nil =>
      simp only [applyOperator, List.isEmpty_nil, if_true, Compile.bind_ok,
        Compile.throw_ok] at done
      simp at done
  | cons column columns =>
      simp only [applyOperator, List.isEmpty_cons, Bool.false_eq_true, if_false,
        Compile.bind_ok, Compile.ofExcept_ok, Compile.fromSupply_ok,
        Fragment.checked_bindAll_ok] at done
      obtain ⟨subjects, _, ⟨listed, rfl⟩, test, _, ⟨read, rfl⟩, pair, _, ⟨rfl, rfl⟩,
        ⟨values, bound, rfl⟩, rfl⟩ := done
      obtain ⟨perm, fresh⟩ := Bindings.bindAll_none bound
      have nothing : (Bindings.names []).Nodup := List.nodup_nil
      have accepted : operator.test operand = .ok test := by
        unfold readOperand at read
        split at read
        · rename_i found
          cases read
          exact found
        · cases read
      exact ⟨by simp, subjects, test, _, _, _, values, listed, accepted, rfl, rfl,
        by simpa using perm, Bindings.names_nodup_of_perm nothing fresh perm, rfl⟩

inductive AppliedAll (node : Node) (field : String) (columns : List String) :
    List (String × Json) → Context → List Fragment → Context → Prop
  | nil {context : Context} : AppliedAll node field columns [] context [] context
  | cons {name : String} {operand : Json} {rest : List (String × Json)} {operator : Operator}
      {context between after : Context} {fragment : Fragment} {others : List Fragment}
      (named : Operator.ofName? name = some operator)
      (first : Applied node field columns operator operand context fragment between)
      (later : AppliedAll node field columns rest between others after) :
      AppliedAll node field columns ((name, operand) :: rest) context (fragment :: others) after

theorem applyOperators_ok {node : Node} {field : String} {columns : List String}
    {operators : List (String × Json)} {context after : Context} {fragments : List Fragment}
    (done : applyOperators node field columns operators context = .ok (fragments, after)) :
    AppliedAll node field columns operators context fragments after := by
  induction operators generalizing context fragments with
  | nil =>
      obtain ⟨rfl, rfl⟩ := Compile.pure_ok.mp done
      exact .nil
  | cons entry rest ih =>
      obtain ⟨name, operand⟩ := entry
      cases named : Operator.ofName? name with
      | none =>
          simp only [applyOperators, named, Compile.throw_ok] at done
      | some operator =>
          simp only [applyOperators, named, Compile.bind_ok, Compile.pure_ok] at done
          obtain ⟨fragment, between, first, others, _, later, rfl, rfl⟩ := done
          exact .cons named (applyOperator_ok first) (ih later)

end Filter

end TreeQuery
