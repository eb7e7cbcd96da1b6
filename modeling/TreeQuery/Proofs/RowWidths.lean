import TreeQuery.Proofs.MirroredLinks
import TreeQuery.Proofs.Predicates

/-!
# Elements as wide as the columns

A field with several columns is looked for in a list of rows, and each row has a value for
every column: this is checked before anything is compiled.  For a field with one column
nothing is checked.  An element that is an array is a row there too, of whatever length,
and no column can be compared with it.
-/

namespace TreeQuery

namespace Sql

variable {π ρ : Type}

def Test.elements : Test π → List (Cell π)
  | .member _ cells => cells
  | .memberOrNull _ cells => cells
  | _ => []

/-- The element has one placeholder for each of the columns and is written as they are: a single
one stands alone, and several are a row value. -/
def Cell.Spans (columns : Nat) (cell : Cell Parameter) : Prop :=
  cell.slots.length = columns ∧
    cell.render Parameter.placeholder = rowValue (cell.slots.map Parameter.placeholder)

/-- One value stands for one column, and a row for as many columns as it has values, if several. -/
def Cell.fits (columns : Nat) : Cell π → Bool
  | .one _ => columns == 1
  | .row slots => slots.length == columns && columns != 1

theorem Cell.fits_map (columns : Nat) (f : π → ρ) (cell : Cell π) :
    (cell.map f).fits columns = cell.fits columns := by
  cases cell <;> simp [map, fits]

theorem Cell.render_row_eq_iff (slots : List Parameter) :
    (Cell.row slots).render Parameter.placeholder = rowValue (slots.map Parameter.placeholder) ↔
      slots.length ≠ 1 := by
  match slots with
  | [] => simp [render, rowValue]
  | [slot] =>
      -- the row has its parentheses, the single value has none
      refine iff_of_false (fun same => ?_) (by simp)
      have lengths := congrArg (fun text : String => text.toList.length) same
      simp [render, rowValue] at lengths
      omega
  | first :: second :: rest => simp [render, rowValue]

theorem Cell.spans_iff (columns : Nat) (cell : Cell Parameter) :
    cell.Spans columns ↔ cell.fits columns = true := by
  cases cell with
  | one slot =>
      have alone : (Cell.one slot).render Parameter.placeholder =
          rowValue [slot.placeholder] := rfl
      simpa [Spans, fits, Cell.slots, alone] using eq_comm
  | row slots =>
      simp only [Spans, fits, Cell.slots, render_row_eq_iff, Bool.and_eq_true, beq_iff_eq,
        bne_iff_ne, ne_eq]
      exact and_congr_right fun same => by rw [same]

theorem Test.elements_map (f : π → ρ) (test : Test π) :
    (test.map f).elements = test.elements.map (Cell.map f) := by
  cases test <;> rfl

theorem Test.fits_of_shape {test : Test π} {other : Test ρ} (same : test.shape = other.shape)
    (columns : Nat) :
    test.elements.map (Cell.fits columns) = other.elements.map (Cell.fits columns) := by
  have shapes := congrArg (fun shape : Test Unit => shape.elements.map (Cell.fits columns)) same
  simpa [Test.shape, elements_map, Function.comp_def, Cell.fits_map] using shapes

end Sql

theorem elements_amongCells {π : Type} (negated hasNull : Bool) (cells : List (Sql.Cell π)) :
    (amongCells negated hasNull cells).elements = cells := by
  cases cells <;> cases hasNull <;> rfl

/-! ## Elements of an operand -/

def Json.width : Json → Nat
  | .array parts => parts.length
  | _ => 1

namespace Operator

variable {operator : Operator}

theorem cell_fits {item : Json} {cell : Sql.Cell Json} (read : operator.cell item = .ok cell)
    (columns : Nat) :
    cell.fits columns = true ↔ item.width = columns ∧ (columns = 1 → item.isScalar = true) := by
  unfold Operator.cell at read
  split at read
  · cases read
  · split at read
    · cases read
      simp [Sql.Cell.fits, Json.width, Json.isScalar]
    · cases read
  · rename_i notObject notArray
    have scalar : item.width = 1 ∧ item.isScalar = true := by
      cases item with
      | array parts => exact (notArray parts rfl).elim
      | object members => exact (notObject members rfl).elim
      | _ => exact ⟨rfl, rfl⟩
    cases read
    simpa [Sql.Cell.fits, scalar] using eq_comm

theorem cells_fit {items : List Json} {cells : List (Sql.Cell Json)}
    (read : operator.cells items = .ok cells) (columns : Nat) :
    (cells.map (Sql.Cell.fits columns)).all id = true ↔
      ∀ item ∈ items, item.width = columns ∧ (columns = 1 → item.isScalar = true) := by
  induction items generalizing cells with
  | nil =>
      cases read
      simp
  | cons item rest ih =>
      obtain ⟨cell, first, read⟩ := Except.bind_ok.mp read
      obtain ⟨others, later, result⟩ := Except.bind_ok.mp read
      cases result
      rw [List.map_cons, List.all_cons, Bool.and_eq_true, List.forall_mem_cons]
      exact and_congr (cell_fits first columns) (ih later)

theorem membership_of_test {operand : Json} {test : Sql.Test Json}
    (member : Filter.isMembership operator = true) (read : operator.test operand = .ok test) :
    ∃ negated items, operand = .array items ∧ operator.membership negated items = .ok test := by
  cases operator with
  | isIn =>
      cases operand with
      | array items => exact ⟨false, items, rfl, read⟩
      | _ => cases read
  | notIn =>
      cases operand with
      | array items => exact ⟨true, items, rfl, read⟩
      | _ => cases read
  | _ => cases member

end Operator

/-! ## Compiled lists -/

namespace Filter

theorem checkArity_ok {field : String} {columns : Nat} {items : List Json} :
    checkArity field columns items = .ok () ↔ ∀ item ∈ items, item.width = columns := by
  induction items with
  | nil => simp [checkArity]
  | cons item rest ih =>
      have unfolded : checkArity field columns (item :: rest) =
          if item.width = columns then checkArity field columns rest
          else .error (.arity field columns item.width) := by
        cases item <;> rfl
      rw [unfolded, List.forall_mem_cons, ← ih]
      by_cases same : item.width = columns <;> simp [same]

theorem compared_of_isMembership {columns : List String} {operator : Operator}
    (some : columns ≠ []) (member : isMembership operator = true) :
    compared columns operator = [columns] := by
  match columns with
  | [] => exact (some rfl).elim
  | [column] => simp [compared]
  | first :: second :: rest => simp [compared, member]

theorem width_of_subjects {label : Sql.Alias} {field : String} {columns : List String}
    {operator : Operator} {items : List Json} {subjects : List (List Sql.Column)}
    (several : 1 < columns.length) (member : isMembership operator = true)
    (listed : Filter.subjects label field columns operator (.array items) = .ok subjects) :
    ∀ item ∈ items, item.width = columns.length := by
  have both : (decide (1 < columns.length) && isMembership operator) = true := by
    simp [several, member]
  simp only [Filter.subjects, both, if_true] at listed
  exact checkArity_ok.mp (Except.seq_ok.mp listed).1

/-- The elements of a list are as wide as the columns, unless an array stands for one column. -/
theorem widths_iff {columns : List String} {items : List Json} (some : columns ≠ [])
    (checked : 1 < columns.length → ∀ item ∈ items, item.width = columns.length) :
    (∀ item ∈ nonNull items, item.width = columns.length ∧
        (columns.length = 1 → item.isScalar = true)) ↔
      (columns.length = 1 → ∀ item ∈ items, item.isScalar = true) := by
  constructor
  · intro wide single item listed
    cases null : item.isNull with
    | true =>
        cases item with
        | null => rfl
        | _ => cases null
    | false => exact (wide item (List.mem_filter.mpr ⟨listed, by simp [null]⟩)).2 single
  · intro scalars item listed
    have present := (List.mem_filter.mp listed).1
    have positive := List.length_pos_iff.mpr some
    refine ⟨?_, fun single => scalars single item present⟩
    by_cases single : columns.length = 1
    · have scalar := scalars single item present
      rw [single]
      cases item with
      | array _ | object _ => cases scalar
      | _ => rfl
    · exact checked (by omega) item present

/--
A field that is looked for in a list becomes one condition on its columns.  Every element of
the list is as wide as the columns, if there are several of them; for one column this is so
exactly if no element of the operand is an array.
-/
theorem elements_span_iff {node : Node} {field : String} {columns : List String}
    {operator : Operator} {operand : Json} {context after : Context} {fragment : Fragment}
    (member : isMembership operator = true)
    (done : applyOperator node field columns operator operand context = .ok (fragment, after)) :
    ∃ items test, operand = .array items ∧
      fragment.conditions = [.test (node.label.columns columns) test] ∧
      test.elements.length = (nonNull items).length ∧
      ((∀ element ∈ test.elements, element.Spans columns.length) ↔
        (columns.length = 1 → ∀ item ∈ items, item.isScalar = true)) := by
  obtain ⟨some, subjects, read, conditions, supply, bound, values, listed, accepted, tested,
    -, -, -, rfl⟩ := applyOperator_ok done
  obtain ⟨negated, items, rfl, found⟩ := Operator.membership_of_test member accepted
  obtain ⟨cells, given, rfl⟩ := Operator.membership_ok found
  have whole : subjects = [node.label.columns columns] := by
    rw [subjects_ok listed, compared_of_isMembership some member]
    rfl
  rw [whole, testSubjects_cons] at tested
  cases tested
  have shape := Sql.Test.fits_of_shape
    (withParameters_shape node.label field (amongCells negated (items.any Json.isNull) cells)
      context.supply) columns.length
  rw [elements_amongCells] at shape
  refine ⟨items, _, rfl, rfl, ?_, ?_⟩
  · rw [← Operator.cells_length given]
    simpa using congrArg List.length shape
  · rw [← widths_iff some fun several => width_of_subjects several member listed,
      ← Operator.cells_fit given, ← shape]
    simp [Sql.Cell.spans_iff]

end Filter

namespace Sample

/-- Hosts are looked for by both columns of their key, each element a pair. -/
theorem elements_span_iff_hosts :
    ∃ fragment after,
      Filter.applyOperator ⟨host, root.label⟩ "key" ["realm", "number"] .notIn
        (.array [.array [.string "Rohan", .natural 1], .array [.string "Gondor", .null]]) started =
          .ok (fragment, after) ∧
      ∃ test, fragment.conditions = [.test (root.label.columns ["realm", "number"]) test] ∧
        test.elements.length = 2 ∧ ∀ element ∈ test.elements, element.Spans 2 := by
  obtain ⟨fragment, after, done⟩ : ∃ fragment after,
      Filter.applyOperator ⟨host, root.label⟩ "key" ["realm", "number"] .notIn
        (.array [.array [.string "Rohan", .natural 1], .array [.string "Gondor", .null]]) started =
          .ok (fragment, after) := ⟨_, _, rfl⟩
  obtain ⟨items, test, same, conditions, count, spans⟩ := Filter.elements_span_iff rfl done
  cases same
  exact ⟨fragment, after, done, test, conditions, count, spans.mpr fun single => by cases single⟩

/-- A pair is listed for a field with one column. -/
theorem pair_listed_for_one_column :
    ∃ fragment after test element,
      Filter.applyOperator root "name" ["name"] .isIn
        (.array [.array [.string "Frodo", .string "Sam"]]) started = .ok (fragment, after) ∧
      fragment.conditions = [.test (root.label.columns ["name"]) test] ∧
      fragment.conditions.map Sql.Condition.render =
        ["t_e1.name IN ((:t_e1_name_1, :t_e1_name_2))"] ∧
      element ∈ test.elements ∧ element.slots.length = 2 := by
  refine ⟨_, _, _, _, rfl, rfl, ?_, List.mem_cons_self, rfl⟩
  decide

end Sample

end TreeQuery
