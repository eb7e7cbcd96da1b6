import TreeQuery.Proofs.Requests
import TreeQuery.Proofs.Tests

/-!
# Redaction

Redacting a request puts one fixed scalar in the place of every scalar, other than
null, that is an operand of an operator other than `_exists`.  Two requests with the
same redaction differ in such scalars only.
-/

namespace TreeQuery

/-! ## Values -/

mutual

def Json.redacted : Json → Json
  | .null => .null
  | .bool _ => .bool true
  | .number _ => .bool true
  | .string _ => .bool true
  | .array items => .array (Json.redactedAll items)
  | .object members => .object (Json.redactedMembers members)

def Json.redactedAll : List Json → List Json
  | [] => []
  | item :: rest => item.redacted :: Json.redactedAll rest

def Json.redactedMembers : List (String × Json) → List (String × Json)
  | [] => []
  | (key, value) :: rest => (key, value.redacted) :: Json.redactedMembers rest

end

namespace Json

theorem redactedAll_eq (items : List Json) : redactedAll items = items.map redacted := by
  induction items with
  | nil => rfl
  | cons item rest ih => rw [redactedAll, ih, List.map_cons]

mutual

theorem redacted_redacted : ∀ value : Json, value.redacted.redacted = value.redacted
  | .null => rfl
  | .bool _ => rfl
  | .number _ => rfl
  | .string _ => rfl
  | .array items => by rw [redacted, redacted, redactedAll_redactedAll items]
  | .object members => by rw [redacted, redacted, redactedMembers_redactedMembers members]

theorem redactedAll_redactedAll : ∀ items : List Json,
    redactedAll (redactedAll items) = redactedAll items
  | [] => rfl
  | item :: rest => by
      rw [redactedAll, redactedAll, redacted_redacted item, redactedAll_redactedAll rest]

theorem redactedMembers_redactedMembers : ∀ members : List (String × Json),
    redactedMembers (redactedMembers members) = redactedMembers members
  | [] => rfl
  | (key, value) :: rest => by
      rw [redactedMembers, redactedMembers, redacted_redacted value,
        redactedMembers_redactedMembers rest]

end

@[simp] theorem isNull_redacted (value : Json) : value.redacted.isNull = value.isNull := by
  cases value <;> rfl

@[simp] theorem isScalar_redacted (value : Json) :
    value.redacted.isScalar = value.isScalar := by
  cases value <;> rfl

end Json

/-! ## Operands -/

def OperandError.redacted (error : OperandError) : OperandError :=
  { error with got := error.got.redacted }

namespace Operator

open Sql (Cell Test)

def masked {α β : Type} (mask : α → β) : Except OperandError α → Except OperandError β
  | .ok value => .ok (mask value)
  | .error error => .error error.redacted

variable (operator : Operator)

theorem cell_redacted (item : Json) :
    operator.cell item.redacted = masked (Cell.map Json.redacted) (operator.cell item) := by
  cases item with
  | array parts =>
      have scalars : (parts.map Json.redacted).all Json.isScalar = parts.all Json.isScalar := by
        simp [List.all_map, Function.comp_def]
      simp only [Json.redacted, Json.redactedAll_eq, cell, scalars]
      split
      · rfl
      · simp only [masked, OperandError.redacted, Json.redacted, Json.redactedAll_eq]
  | _ => rfl

theorem cells_redacted (items : List Json) :
    operator.cells (items.map Json.redacted) =
      masked (List.map (Cell.map Json.redacted)) (operator.cells items) := by
  induction items with
  | nil => rfl
  | cons item rest ih =>
      simp only [List.map_cons, cells, cell_redacted, ih]
      cases operator.cell item with
      | error error => rfl
      | ok first => cases operator.cells rest <;> rfl

theorem membership_redacted (negated : Bool) (items : List Json) :
    operator.membership negated (items.map Json.redacted) =
      masked (Test.map Json.redacted) (operator.membership negated items) := by
  have present : (items.map Json.redacted).filter (fun item => !item.isNull) =
      (items.filter fun item => !item.isNull).map Json.redacted := by
    simp [List.filter_map, Function.comp_def]
  have nulls : (items.map Json.redacted).any Json.isNull = items.any Json.isNull := by
    simp [List.any_map, Function.comp_def]
  simp only [membership, present, nulls, List.isEmpty_map, cells_redacted]
  split
  · rfl
  · split
    · rfl
    · cases operator.cells (items.filter fun item => !item.isNull) with
      | error error => rfl
      | ok cells => cases items.any Json.isNull <;> rfl

theorem interval_redacted (items : List Json) (operand : Json) :
    operator.interval (items.map Json.redacted) operand.redacted =
      masked (Test.map Json.redacted) (operator.interval items operand) := by
  match items with
  | [] => rfl
  | [_] => rfl
  | [low, high] =>
      simp only [List.map_cons, List.map_nil, interval, cell_redacted]
      cases operator.cell low with
      | error error => rfl
      | ok first => cases operator.cell high <;> rfl
  | _ :: _ :: _ :: _ => rfl

theorem listed_redacted (operand : Json) :
    operator.listed operand.redacted =
      masked (Test.map Json.redacted) (operator.listed operand) := by
  cases operand with
  | array items =>
      have whole : (Json.array items).redacted = .array (items.map Json.redacted) := by
        rw [Json.redacted, Json.redactedAll_eq]
      have bounds := operator.interval_redacted items (.array items)
      rw [whole] at bounds ⊢
      cases operator with
      | isIn => exact membership_redacted .isIn false items
      | notIn => exact membership_redacted .notIn true items
      | contains =>
          simp only [listed, List.isEmpty_map, cells_redacted]
          split
          · rfl
          · cases cells .contains items <;> rfl
      | _ => exact bounds
  | _ => rfl

variable {operator}

/-- Only `_exists` looks at a scalar; all others see whether it is null. -/
theorem test_redacted (other : operator ≠ .isPresent) (operand : Json) :
    operator.test operand.redacted =
      masked (Test.map Json.redacted) (operator.test operand) := by
  have shapes : operator.shape = .array → operator.test operand = operator.listed operand ∧
      operator.test operand.redacted = operator.listed operand.redacted := by
    intro shape
    cases operator <;> cases shape <;> exact ⟨rfl, rfl⟩
  cases shape : operator.shape with
  | array =>
      obtain ⟨plain, redacted⟩ := shapes shape
      rw [plain, redacted, listed_redacted]
  | flag =>
      cases operator <;> cases shape
      exact (other rfl).elim
  | any => cases operator <;> cases shape <;> cases operand <;> rfl
  | scalar => cases operator <;> cases shape <;> cases operand <;> rfl

end Operator

/-! ## Filters -/

namespace Filter

def redactOperand (operator : Operator) (operand : Json) : Json :=
  if operator = .isPresent then operand else operand.redacted

def redactNamed (name : String) (operand : Json) : Json :=
  match Operator.ofName? name with
  | some operator => redactOperand operator operand
  | none => operand.redacted

def redactLeaf (value : Json) : FilterRole → Json
  | .suffixed _ _ operator => redactOperand operator value
  | _ => value.redacted

mutual

def redact (compiler : Compiler) (entity : Entity) : List (String × Json) → List (String × Json)
  | [] => []
  | (key, value) :: rest =>
      (key, redactEntry compiler entity key value) :: redact compiler entity rest

def redactEntry (compiler : Compiler) (entity : Entity) (key : String) : Json → Json
  | .object inner =>
      match role (compiler.resolver entity) key with
      | .combinator _ => .object (redact compiler entity inner)
      | .relation property =>
          match compiler.provider.entity property.typeName with
          | .ok child => .object (redact compiler child inner)
          | .error _ => (Json.object inner).redacted
      | .field _ => .object (inner.map fun entry => (entry.1, redactNamed entry.1 entry.2))
      | role => redactLeaf (.object inner) role
  | .array items =>
      match role (compiler.resolver entity) key with
      | .combinator _ => .array (redactAll compiler entity items)
      | role => redactLeaf (.array items) role
  | value => redactLeaf value (role (compiler.resolver entity) key)

def redactAll (compiler : Compiler) (entity : Entity) : List Json → List Json
  | [] => []
  | item :: rest => redactElement compiler entity item :: redactAll compiler entity rest

def redactElement (compiler : Compiler) (entity : Entity) : Json → Json
  | .object inner => .object (redact compiler entity inner)
  | item => item.redacted

end

/-- A filter on rows of an unknown entity is never compiled; all its scalars are redacted. -/
def redactAt (compiler : Compiler) (filter : Members) : Option Entity → Members
  | some entity => redact compiler entity filter
  | none => Json.redactedMembers filter

end Filter

/-! ## Selections and queries -/

def Arguments.redact (compiler : Compiler) (entity : Option Entity) (given : Arguments) :
    Arguments :=
  { given with filter := given.filter.map (Filter.redactAt compiler · entity) }

mutual

def Selection.redact (compiler : Compiler) (entity : Option Entity) : Selection → Selection
  | ⟨fields, given⟩ =>
      ⟨Selection.redactFields compiler entity fields,
        given.map (Arguments.redact compiler entity)⟩

def Selection.redactFields (compiler : Compiler) (entity : Option Entity) :
    List (String × FieldNode) → List (String × FieldNode)
  | [] => []
  | (key, wanted) :: rest =>
      (key, FieldNode.redact compiler entity key wanted) ::
        Selection.redactFields compiler entity rest

def FieldNode.redact (compiler : Compiler) (entity : Option Entity) (key : String) :
    FieldNode → FieldNode
  | .leaf => .leaf
  | .nested selection =>
      .nested (selection.redact compiler (entity.bind (compiler.related? · key)))

end

/-- The query with one scalar in the place of all scalars that are compared with a field. -/
def Query.redact (compiler : Compiler) (query : Query) : Query :=
  let entity := (compiler.provider.entity query.entity).toOption
  { query with
    selection := query.selection.redact compiler entity
    filter := query.filter.map (Filter.redactAt compiler · entity) }

/-! ## Errors -/

def FilterFault.redacted : FilterFault → FilterFault
  | .elementNotObject combinator got => .elementNotObject combinator got.redacted
  | .notList combinator got => .notList combinator got.redacted
  | .relationNotObject field got => .relationNotObject field got.redacted
  | fault => fault

def CompileError.redacted : CompileError → CompileError
  | .operand error => .operand error.redacted
  | .filter label fault => .filter label fault.redacted
  | error => error

/-- The kind of an error; an error of the catalog is passed on as it is. -/
inductive CompileError.Kind where
  | catalog (error : CatalogError)
  | unresolvedField
  | unknownOperator
  | operand
  | arity
  | duplicateBinding
  | selection
  | filter
  | pagination
  | relation
  | tooDeep

def CompileError.kind : CompileError → CompileError.Kind
  | .catalog error => .catalog error
  | .unresolvedField _ _ => .unresolvedField
  | .unknownOperator _ _ => .unknownOperator
  | .operand _ => .operand
  | .arity _ _ _ => .arity
  | .duplicateBinding _ => .duplicateBinding
  | .selection _ => .selection
  | .filter _ _ => .filter
  | .pagination _ => .pagination
  | .relation _ _ _ _ => .relation
  | .tooDeep _ _ => .tooDeep

theorem CompileError.kind_redacted (error : CompileError) : error.redacted.kind = error.kind := by
  cases error <;> rfl

end TreeQuery
