import TreeQuery.Sql.Clause
import TreeQuery.Sql.Tree

/-!
The text of a statement tree.  Each constructor has one written form; `Select.render` puts the
forms together in the order of the clauses.
-/

namespace TreeQuery.Sql

def columnTexts (columns : List Column) : List String := columns.map Column.text

def columnsText (columns : List Column) : String := rowValue (columnTexts columns)

def Parameter.placeholder (parameter : Parameter) : String := ":" ++ parameter.name

def Order.render : Order → String
  | .text sql => sql
  | .terms list => orderClause (list.map fun term => (term.1.text, term.2))

def Value.render : Value → String
  | .null => "NULL"
  | .column shown => shown.text
  | .array shown => "json_build_array(" ++ ", ".intercalate (columnTexts shown) ++ ")"
  | .nested label => label.text ++ ".value"
  | .raw size shown => objectText size (shown.map fun part => (part.name, part.text))
  | .text sql => sql

def ObjectExpr.render : ObjectExpr → String
  | .pairs size list => objectText size (list.map fun pair => (pair.1, pair.2.render))
  | .text sql => sql

def position : String := "row_index"

def Output.render : Output → String
  | .columns shown => ", ".intercalate (columnTexts shown)
  | .matched => "1 AS matched"
  | .object value name => value.render ++ " AS " ++ name
  | .numbered value order =>
      value.render ++ " AS value, row_number() OVER (" ++ order.render ++ ") AS " ++ position
  | .collected value => arrayText value.render ++ " AS value"
  | .collectedPage page ordered =>
      arrayText
        (page.text ++ ".value" ++ (if ordered then " ORDER BY " ++ page.column position else "")) ++
        " AS value"

def equation (left right : Column) : String := left.text ++ " = " ++ right.text

def aliased (source : String) (label : Alias) : String := source ++ " AS " ++ label.text

def Hop.render (hop : Hop) : String :=
  SelectText.render
    { output := ", ".intercalate (columnTexts hop.keys)
      source := aliased (tableName hop.table) hop.label
      conditions := hop.pairs.map fun pair => equation pair.1 pair.2 }

def JoinKind.text : JoinKind → String
  | .inner => "INNER"
  | .leftOuter => "LEFT OUTER"

mutual

def Condition.render : Condition → String
  | .text sql => sql
  | .test subject predicate => predicate.render Parameter.placeholder (columnsText subject)
  | .equal left right => equation left right
  | .linked subject hop => columnsText subject ++ " IN (" ++ hop.render ++ ")"
  | .not operand => "NOT (" ++ operand.render ++ ")"
  | .all operands => conjunction (Condition.renderAll operands)
  | .any operands => disjunction (Condition.renderAll operands)
  | .keyIn key queries => columnsText key ++ " IN (" ++ unionAll (Select.renderAll queries) ++ ")"

def Condition.renderAll : List Condition → List String
  | [] => []
  | condition :: rest => condition.render :: Condition.renderAll rest

def Join.render : Join → String
  | .text sql => sql
  | .lateral kind query label => lateral kind.text query.render label

def Join.renderAll : List Join → List String
  | [] => []
  | join :: rest => join.render :: Join.renderAll rest

def Source.render : Source → String
  | .table name label => aliased (tableName name) label
  | .page query label => aliased ("(" ++ query.render ++ ")") label

def Select.render : Select → String
  | ⟨output, source, joins, conditions, order, limit, offset⟩ =>
      SelectText.render
        { output := output.render
          source := source.render
          joins := Join.renderAll joins
          conditions := Condition.renderAll conditions
          order := order.map Order.render
          limit
          offset }

def Select.renderAll : List Select → List String
  | [] => []
  | query :: rest => query.render :: Select.renderAll rest

end

end TreeQuery.Sql
