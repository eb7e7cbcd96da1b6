import TreeQuery.Pagination
import TreeQuery.Sql.Alias
import TreeQuery.Sql.Test

/-!
Statements as trees.

A `Select` says what it returns, where its rows come from, which joins and conditions restrict
them, and how they are ordered and sliced.  Joins hold further selects, and so do conditions that
look a key up in subqueries.  Parts supplied as text by a caller stand in the tree as `text`.
-/

namespace TreeQuery.Sql

inductive Order where
  | terms (terms : List (Column × Direction))
  | text (sql : String)
  deriving DecidableEq, Repr

inductive Value where
  | null
  | column (column : Column)
  | array (columns : List Column)
  | nested (label : Alias)
  | raw (size : Nat) (columns : List Column)
  | text (sql : String)
  deriving DecidableEq, Repr

inductive ObjectExpr where
  | pairs (size : Nat) (pairs : List (String × Value))
  | text (sql : String)
  deriving DecidableEq, Repr

inductive Output where
  | columns (columns : List Column)
  | matched
  | object (object : ObjectExpr) (name : String)
  | numbered (object : ObjectExpr) (order : Order)
  | collected (object : ObjectExpr)
  /-- The values of a page in one array, by position if the page is ordered. -/
  | collectedPage (page : Alias) (ordered : Bool)
  deriving DecidableEq, Repr

/-- A step through a pivot table: the rows where `pairs` are equal give the `keys`. -/
structure Hop where
  table : String
  label : Alias
  keys : List Column
  pairs : List (Column × Column)
  deriving DecidableEq, Repr

/-- What a lateral join does with a row for which the subquery is empty. -/
inductive JoinKind where
  | inner
  | leftOuter
  deriving DecidableEq, Repr

mutual

inductive Condition where
  | text (sql : String)
  | test (subject : List Column) (test : Test Parameter)
  | equal (left right : Column)
  | linked (subject : List Column) (hop : Hop)
  | not (operand : Condition)
  | all (operands : List Condition)
  | any (operands : List Condition)
  /-- The key is among the rows of one of the queries. -/
  | keyIn (key : List Column) (queries : List Select)

inductive Join where
  | text (sql : String)
  | lateral (kind : JoinKind) (query : Select) (label : Alias)

inductive Source where
  | table (name : String) (label : Alias)
  | page (query : Select) (label : Alias)

structure Select where
  output : Output
  source : Source
  joins : List Join := []
  conditions : List Condition := []
  order : Option Order := none
  limit : Option Nat := none
  offset : Option Nat := none

end

end TreeQuery.Sql
