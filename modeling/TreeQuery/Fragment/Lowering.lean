import TreeQuery.Fragment.Basic

/-!
Lowering: the filter part of a fragment as joins and conditions of one select.

A filter is lowered to branches, of which one has to hold.  A single branch puts its joins and
conditions into the select that it restricts.  Several branches become one condition: a disjunction
if none of them needs a join, and otherwise the membership of the row's primary key in the keys that
the branches find.
-/

namespace TreeQuery

/-- One way in which a filter can hold: all joins find a row and all conditions are true. -/
structure Branch where
  joins : List Sql.Join := []
  conditions : List Sql.Condition := []

namespace Branch

def isTrivial (branch : Branch) : Bool := branch.joins.isEmpty && branch.conditions.isEmpty

def isJoinFree (branch : Branch) : Bool := branch.joins.isEmpty

def combine (left right : Branch) : Branch :=
  ⟨left.joins ++ right.joins, left.conditions ++ right.conditions⟩

def product (left right : List Branch) : List Branch :=
  left.flatMap fun first => right.map first.combine

end Branch

structure Scope where
  table : String
  label : Sql.Alias
  keys : List String

namespace Scope

def source (scope : Scope) : Sql.Source := .table scope.table scope.label

def keyColumns (scope : Scope) : List Sql.Column := scope.label.columns scope.keys

def keyQuery (scope : Scope) (branch : Branch) : Sql.Select :=
  { output := .columns scope.keyColumns
    source := scope.source
    joins := branch.joins
    conditions := branch.conditions }

/-- One condition that is true if one of the branches holds. -/
def predicate (scope : Scope) (branches : List Branch) : Sql.Condition :=
  if branches.any Branch.isTrivial then .all []
  else if branches.all Branch.isJoinFree then
    .any (branches.map fun branch => .all branch.conditions)
  else .keyIn scope.keyColumns (branches.map scope.keyQuery)

/-- Alternatives as branches: those that need no join become one condition. -/
def group (scope : Scope) (alternatives : List Branch) : List Branch :=
  if alternatives.any Branch.isTrivial then [{}]
  else if alternatives.all Branch.isJoinFree then
    [{ conditions := [scope.predicate alternatives] }]
  else alternatives

end Scope

namespace Fragment

mutual

def branches (scope : Scope) : Fragment → List Branch
  | ⟨_, _, _, filterJoins, _, conditions, _, _, _, _, allOf, anyOf, noneOf⟩ =>
      let base : Branch := ⟨filterJoins, conditions ++ negations scope noneOf⟩
      let conjoined := conjoin scope [base] allOf
      if anyOf.isEmpty then conjoined
      else Branch.product conjoined (scope.group (alternatives scope anyOf))

def negations (scope : Scope) : List Fragment → List Sql.Condition
  | [] => []
  | fragment :: rest => .not (scope.predicate (branches scope fragment)) :: negations scope rest

def conjoin (scope : Scope) (given : List Branch) : List Fragment → List Branch
  | [] => given
  | fragment :: rest => conjoin scope (Branch.product given (branches scope fragment)) rest

def alternatives (scope : Scope) : List Fragment → List Branch
  | [] => []
  | fragment :: rest => branches scope fragment ++ alternatives scope rest

end

/-- The joins and conditions that restrict the rows of a scope to those for which the filter holds. -/
def lower (scope : Scope) (fragment : Fragment) : Branch :=
  match fragment.branches scope with
  | [branch] => branch
  | branches => { conditions := [scope.predicate branches] }

end Fragment

end TreeQuery
