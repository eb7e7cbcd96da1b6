import TreeQuery.Catalog.Error
import TreeQuery.Catalog.Property
import TreeQuery.Operator
import TreeQuery.Pagination
import TreeQuery.Sql.Alias

/-!
Why a request cannot be compiled.  Each error says what was wrong; `CompileError.message` is the
one place that puts it into words.
-/

namespace TreeQuery

inductive Combinator where
  | or
  | and
  | not
  deriving DecidableEq, Repr

namespace Combinator

def key : Combinator → String
  | .or => "_or"
  | .and => "_and"
  | .not => "_not"

def ofKey? : String → Option Combinator
  | "_or" => some .or
  | "_and" => some .and
  | "_not" => some .not
  | _ => none

end Combinator

inductive SelectionFault where
  | notObject (got : Json)
  | argumentsNotObject
  | filterNotObject (got : Json)
  | fieldNotObject (key : String) (got : Json)
  | noSubfields (key : String)

def argumentsKey : String := "__arguments"

def SelectionFault.message : SelectionFault → String
  | .notObject got => "expected an object, got " ++ got.compact
  | .argumentsNotObject => argumentsKey ++ " must be an object"
  | .filterNotObject got => "filter must be an object, got " ++ got.compact
  | .fieldNotObject key got => "field '" ++ key ++ "' must map to an object, got " ++ got.compact
  | .noSubfields key => "'" ++ key ++ "' is not a relation and takes no sub-fields"

inductive FilterFault where
  | elementNotObject (combinator : Combinator) (got : Json)
  | notList (combinator : Combinator) (got : Json)
  | operatorOnRelation (field : String)
  | noColumns (field : String)
  | relationNotObject (field : String) (got : Json)

def FilterFault.message : FilterFault → String
  | .elementNotObject combinator got =>
      combinator.key ++ " elements must be objects, got " ++ got.compact
  | .notList combinator got => combinator.key ++ " expects a list of filters, got " ++ got.compact
  | .operatorOnRelation field => "operator suffix on relation '" ++ field ++ "'"
  | .noColumns field => "field '" ++ field ++ "' has no backing columns"
  | .relationNotObject field got =>
      "relation '" ++ field ++ "' expects a nested filter object, got " ++ got.compact

inductive RelationFault where
  | notRelation
  | alwaysOwning
  | needsMappedBy
  | unlinked (error : CatalogError)

def RelationFault.message : RelationFault → String
  | .notRelation => "property is not a relation"
  | .alwaysOwning => "a many-to-one relation is always the owning side"
  | .needsMappedBy => "a one-to-many relation needs mappedBy"
  | .unlinked error => error.message

inductive CompileError where
  | catalog (error : CatalogError)
  | unresolvedField (label : Sql.Alias) (key : String)
  | unknownOperator (label : Sql.Alias) (name : String)
  | operand (error : OperandError)
  | arity (field : String) (columns values : Nat)
  | duplicateBinding (name : String)
  | selection (fault : SelectionFault)
  | filter (label : Sql.Alias) (fault : FilterFault)
  | pagination (error : PaginationError)
  | relation (entity field : String) (reference : Reference) (fault : RelationFault)
  | tooDeep (depth limit : Nat)

def OperandError.message (error : OperandError) : String :=
  "Operator '" ++ error.operator.name ++ "' expects " ++ error.expected ++ ", got " ++
    error.got.compact

def CompileError.message : CompileError → String
  | .catalog error => error.message
  | .unresolvedField label key =>
      "Cannot resolve field '" ++ key ++ "' on alias " ++ label.text ++
        " (not a property, case variant or computed field)"
  | .unknownOperator label name =>
      "Unknown filter operator '" ++ name ++ "' on alias " ++ label.text
  | .operand error => error.message
  | .arity field columns values =>
      "Field '" ++ field ++ "' spans " ++ toString columns ++ " columns but the value has " ++
        toString values ++ " element(s)"
  | .duplicateBinding name => "Bound parameter '" ++ name ++ "' is defined twice in one statement"
  | .selection fault => "Invalid field selection: " ++ fault.message
  | .filter label fault => "Invalid filter on alias " ++ label.text ++ ": " ++ fault.message
  | .pagination error => "Invalid pagination: " ++ error.message
  | .relation entity field reference fault =>
      "Relation '" ++ entity ++ "." ++ field ++ "' (" ++ reference.text ++
        ") cannot be rendered: " ++ fault.message
  | .tooDeep depth limit =>
      "Nesting depth " ++ toString depth ++ " exceeds the configured maximum of " ++
        toString limit

end TreeQuery
