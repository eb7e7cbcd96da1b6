import TreeQuery.Pagination
import TreeQuery.Sql.Alias
import TreeQuery.Text.Blank

/-!
The clauses of a statement as text.

Every complete `SELECT`, every lateral join and every union is written with single spaces between
its parts: runs of blanks collapse wherever they stand, inside quotes too.
-/

namespace TreeQuery.Sql

/-- Operands joined by `word`; each stands in parentheses when there are several. -/
def connected (word whenEmpty : String) : List String → String
  | [] => whenEmpty
  | [operand] => operand
  | operands => (" " ++ word ++ " ").intercalate (operands.map fun operand => "(" ++ operand ++ ")")

def conjunction (operands : List String) : String := connected "AND" "TRUE" operands

def disjunction (operands : List String) : String := connected "OR" "FALSE" operands

def whereClause (conditions : List String) : String :=
  if conditions.isEmpty then "" else "WHERE " ++ conjunction conditions

def slice (limit offset : Option Nat) : String :=
  (limit.elim "" fun count => " LIMIT " ++ toString count) ++
    (offset.elim "" fun count => " OFFSET " ++ toString count)

def orderClause (terms : List (String × Direction)) : String :=
  "ORDER BY " ++ ", ".intercalate (terms.map fun term => term.1 ++ " " ++ term.2.text)

structure SelectText where
  output : String
  source : String
  joins : List String := []
  conditions : List String := []
  order : Option String := none
  limit : Option Nat := none
  offset : Option Nat := none

def SelectText.render (parts : SelectText) : String :=
  let filter := whereClause parts.conditions
  Text.collapse
    ("SELECT " ++ parts.output ++ " FROM " ++ parts.source ++
      String.join (parts.joins.map (" " ++ ·)) ++
      (if filter.isEmpty then "" else " " ++ filter) ++
      (parts.order.elim "" (" " ++ ·)) ++
      slice parts.limit parts.offset)

def lateral (kind subquery : String) (label : Alias) : String :=
  Text.collapse (kind ++ " JOIN LATERAL (" ++ subquery ++ ") AS " ++ label.text ++ " ON TRUE")

def displayJoin (value source : String) (joins conditions : List String) (label : Alias) : String :=
  lateral "LEFT OUTER"
    (SelectText.render { output := value ++ " AS value", source, joins, conditions }) label

/-- The join that keeps a row only if the subquery has one; `LIMIT 1` keeps it from multiplying. -/
def existenceJoin (source : String) (joins conditions : List String) (label : Alias) : String :=
  lateral "INNER"
    (SelectText.render { output := "1 AS matched", source, joins, conditions, limit := some 1 })
    label

def unionAll (queries : List String) : String :=
  Text.collapse (" UNION ALL ".intercalate queries)

def objectCall (pairs : List (String × String)) : String :=
  "json_build_object(" ++
    ", ".intercalate (pairs.map fun pair => literal pair.1 ++ ", " ++ pair.2) ++ ")"

def chunks {α : Type} (size : Nat) (items : List α) : List (List α) :=
  match items with
  | [] => []
  | item :: rest =>
      (item :: rest.take (size - 1)) :: chunks size (rest.drop (size - 1))
termination_by items.length

/--
An object expression.  A call takes a bounded number of arguments, so an object with more than
`size` pairs is put together from several calls (a size of 0 counts as 1).
-/
def objectText (size : Nat) (pairs : List (String × String)) : String :=
  let size := max size 1
  if pairs.length ≤ size then objectCall pairs
  else
    "(" ++ " || ".intercalate ((chunks size pairs).map fun part => objectCall part ++ "::jsonb") ++
      ")::json"

/-- All rows' values as an array; no rows give an empty array. -/
def arrayText (value : String) : String := "coalesce(json_agg(" ++ value ++ "), '[]'::json)"

end TreeQuery.Sql
