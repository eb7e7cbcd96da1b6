import TreeQuery.Json.Basic
import TreeQuery.Sql.Test

/-!
The operators of the filter language.

`Operator.test` reads an operand and gives the predicate on a column, whose slots hold the
literals to be bound.  A literal never becomes part of the text.
-/

namespace TreeQuery

inductive Operator where
  | eq
  | ne
  | gt
  | gte
  | lt
  | lte
  | like
  | ilike
  | re
  | fulltext
  | isIn
  | notIn
  | between
  | contains
  | contained
  | overlap
  | isPresent
  deriving DecidableEq, Repr

inductive OperandShape where
  | scalar
  | any
  | array
  | flag
  deriving DecidableEq, Repr

structure OperandError where
  operator : Operator
  expected : String
  got : Json

namespace Operator

def name : Operator → String
  | .eq => "_eq"
  | .ne => "_ne"
  | .gt => "_gt"
  | .gte => "_gte"
  | .lt => "_lt"
  | .lte => "_lte"
  | .like => "_like"
  | .ilike => "_ilike"
  | .re => "_re"
  | .fulltext => "_fulltext"
  | .isIn => "_in"
  | .notIn => "_nin"
  | .between => "_between"
  | .contains => "_contains"
  | .contained => "_contained"
  | .overlap => "_overlap"
  | .isPresent => "_exists"

def shape : Operator → OperandShape
  | .isIn => .array
  | .notIn => .array
  | .between => .array
  | .contains => .array
  | .contained => .any
  | .overlap => .any
  | .isPresent => .flag
  | _ => .scalar

/-- All operators, those with longer names first and equally long names in alphabetical order. -/
def all : List Operator :=
  [.contained, .contains, .fulltext, .between, .overlap, .isPresent, .ilike, .like, .gte, .lte,
    .notIn, .eq, .gt, .isIn, .lt, .ne, .re]

def ofName? (name : String) : Option Operator := all.find? fun operator => operator.name == name

def stemOf? (ending : String) (text : String) : Option String :=
  let length := text.toList.length - ending.toList.length
  if 0 < length && text.toList.drop length == ending.toList then
    some (String.ofList (text.toList.take length))
  else none

/-- Split a key into a field name and the operator it ends with; the longest ending wins. -/
def splitKey? (key : String) : Option (String × Operator) :=
  all.findSome? fun operator => (stemOf? operator.name key).map (·, operator)

def single (operator : Operator) (operand : Json) : Sql.Test Json :=
  match operator with
  | .ne => .compare .notEqual operand
  | .gt => .compare .greater operand
  | .gte => .compare .greaterOrEqual operand
  | .lt => .compare .less operand
  | .lte => .compare .lessOrEqual operand
  | .like => .compare .like operand
  | .ilike => .compare .caselessLike operand
  | .re => .compare .pattern operand
  | .fulltext => .matchesWords operand
  | .contained => .compare .containedIn operand
  | .overlap => .compare .overlaps operand
  | _ => .compare .equal operand

def cell (operator : Operator) (item : Json) : Except OperandError (Sql.Cell Json) :=
  match item with
  | .object _ => .error ⟨operator, "scalar elements", item⟩
  | .array parts =>
      if parts.all Json.isScalar then .ok (.row parts)
      else .error ⟨operator, "scalar row elements", item⟩
  | _ => .ok (.one item)

def cells (operator : Operator) : List Json → Except OperandError (List (Sql.Cell Json))
  | [] => .ok []
  | item :: rest => do
      let first ← operator.cell item
      let others ← operator.cells rest
      pure (first :: others)

/-- Membership in a list: null elements are tested apart, since no list contains null. -/
def membership (operator : Operator) (negated : Bool) (items : List Json) :
    Except OperandError (Sql.Test Json) :=
  let present := items.filter fun item => !item.isNull
  if items.isEmpty then .ok (.constant negated)
  else if present.isEmpty then .ok (.isNull negated)
  else do
    let cells ← operator.cells present
    pure (if items.any Json.isNull then .memberOrNull negated cells else .member negated cells)

def interval (operator : Operator) (items : List Json) (operand : Json) :
    Except OperandError (Sql.Test Json) :=
  match items with
  | [] => .error ⟨operator, "a non-empty array", operand⟩
  | [low, high] => do
      let low ← operator.cell low
      let high ← operator.cell high
      pure (.between low high)
  | _ => .error ⟨operator, "an array of exactly two bounds", operand⟩

def listed (operator : Operator) (operand : Json) : Except OperandError (Sql.Test Json) :=
  match operand with
  | .array items =>
      match operator with
      | .isIn => operator.membership false items
      | .notIn => operator.membership true items
      | .contains =>
          if items.isEmpty then .ok (.constant true)
          else do pure (.contains (← operator.cells items))
      | _ => operator.interval items operand
  | _ => .error ⟨operator, "an array", operand⟩

/--
The predicate that compares a column with `operand`.  A comparison with null by `_eq` or `_ne`
becomes a null test, because no value equals null.
-/
def test (operator : Operator) (operand : Json) : Except OperandError (Sql.Test Json) :=
  match operator, operand with
  | .eq, .null => .ok (.isNull false)
  | .ne, .null => .ok (.isNull true)
  | _, _ =>
      match operator.shape with
      | .flag =>
          match operand with
          | .bool value => .ok (.isNull value)
          | _ => .error ⟨operator, "a boolean", operand⟩
      | .scalar =>
          if operand.isScalar then .ok (operator.single operand)
          else .error ⟨operator, "a scalar", operand⟩
      | .any =>
          match operand with
          | .object _ => .error ⟨operator, "a scalar or array", operand⟩
          | _ => .ok (operator.single operand)
      | .array => operator.listed operand

end Operator

end TreeQuery
