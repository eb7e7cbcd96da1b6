import TreeQuery.Bindings
import TreeQuery.Compile.Error
import TreeQuery.Sql.Tree

/-!
Fragments: what one node of a request contributes to its statement.

The filter part of a fragment means that all conditions and existence joins hold, that all of
`allOf` hold, that one of `anyOf` holds if there are any, and that none of `noneOf` holds.  Children
are kept apart, so that alternatives which need different joins are never forced into one.

A fragment holds one group of alternatives; merging in a second group makes it a child in `allOf`.
-/

namespace TreeQuery

structure Fragment where
  /-- The columns read at the node, in ascending order without repetition. -/
  columns : List String := []
  pairs : List (String × Sql.Value) := []
  computed : Bool := false
  /-- Joins that test the existence of related rows. -/
  filterJoins : List Sql.Join := []
  /-- Joins that bring in displayed values. -/
  joins : List Sql.Join := []
  conditions : List Sql.Condition := []
  values : Bindings := []
  limit : Option Nat := none
  offset : Option Nat := none
  order : List SortTerm := []
  allOf : List Fragment := []
  anyOf : List Fragment := []
  noneOf : List Fragment := []

instance : Inhabited Fragment := ⟨{}⟩

def insertName (name : String) : List String → List String
  | [] => [name]
  | other :: rest =>
      if name < other then name :: other :: rest
      else if name = other then other :: rest
      else other :: insertName name rest

def unionNames (names more : List String) : List String :=
  more.foldl (fun union name => insertName name union) names

namespace Fragment

def bindAll (fragment : Fragment) (values : List (String × Json)) : Fragment × Option String :=
  let (values, duplicate) := fragment.values.bindAll values
  ({ fragment with values }, duplicate)

/-- Add the alternatives as a group of their own. -/
def addGroup (fragment : Fragment) (group : List Fragment) : Fragment :=
  if group.isEmpty then fragment
  else if fragment.anyOf.isEmpty then { fragment with anyOf := group }
  else { fragment with allOf := fragment.allOf ++ [{ anyOf := group }] }

def addOwn (fragment other : Fragment) : Fragment :=
  { fragment with
    columns := unionNames fragment.columns other.columns
    pairs := fragment.pairs ++ other.pairs
    computed := fragment.computed || other.computed
    filterJoins := fragment.filterJoins ++ other.filterJoins
    joins := fragment.joins ++ other.joins
    conditions := fragment.conditions ++ other.conditions }

def addRest (fragment other : Fragment) : Fragment :=
  { fragment with
    limit := other.limit <|> fragment.limit
    offset := other.offset <|> fragment.offset
    order := fragment.order ++ other.order
    allOf := fragment.allOf ++ other.allOf
    noneOf := fragment.noneOf ++ other.noneOf }.addGroup other.anyOf

/--
Take in another fragment.  If a name would be bound twice, the result is what has been taken in up
to there, together with that name.
-/
def absorb (fragment other : Fragment) : Fragment × Option String :=
  match (fragment.addOwn other).bindAll other.values with
  | (bound, some name) => (bound, some name)
  | (bound, none) => (bound.addRest other, none)

def checked : Fragment × Option String → Except CompileError Fragment
  | (fragment, none) => .ok fragment
  | (_, some name) => .error (.duplicateBinding name)

def merge (fragment other : Fragment) : Except CompileError Fragment :=
  checked (fragment.absorb other)

def reduce (fragments : List Fragment) : Except CompileError Fragment :=
  fragments.foldlM merge {}

/--
Move the values of children into this fragment, child by child, up to the first name that is bound
already.  The child with that name has lost its values too.
-/
def hoist (fragment : Fragment) : List Fragment → Fragment × List Fragment × Option String
  | [] => (fragment, [], none)
  | child :: rest =>
      let emptied := { child with values := [] }
      match fragment.bindAll child.values with
      | (bound, some name) => (bound, emptied :: rest, some name)
      | (bound, none) =>
          let (result, others, duplicate) := bound.hoist rest
          (result, emptied :: others, duplicate)

def ofPagination (pagination : Pagination) : Fragment :=
  { limit := pagination.limit, offset := pagination.offset, order := pagination.order }

end Fragment

end TreeQuery
