import Mathlib.Logic.Function.Basic
import TreeQuery.Proofs.Lowering
import TreeQuery.Proofs.Tests

/-!
# What a statement means on the rows of a database

A database has finite tables.  How a column compares with another one and which
tests a list of values passes are left open: any two-valued answers will do.
Taking for the value of a column the row together with the name of the column
gives every interpretation of a test on a row and of an equation between two
rows.

An assignment gives a row to every alias.  A select goes through the rows of its
source, each bound to the alias of the source, and keeps those for which all
joins find something and all conditions are true.
-/

namespace TreeQuery

open Sql

variable {Row Value : Type}

abbrev Assignment (Row : Type) := Alias → Row

structure Database (Row Value : Type) where
  rows : String → List Row
  read : Row → String → Value
  same : Value → Value → Bool
  passes : List Value → Sql.Test Json → Bool
  arrange : Order → List (Assignment Row) → List (Assignment Row)
  /-- Whether a part that was supplied as text is true. -/
  accepts : String → Assignment Row → Bool

/-- The value that is bound to a parameter; one without a value counts as null. -/
def Bindings.valueOf (bindings : Bindings) (parameter : Parameter) : Json :=
  (bindings.get? parameter.name).getD .null

theorem Bindings.map_valueOf {bindings : Bindings} {parameters : List Parameter}
    {literals : List Json} (lengths : parameters.length = literals.length)
    (bound : ∀ entry ∈ parameters.zip literals, bindings.get? entry.1.name = some entry.2) :
    parameters.map bindings.valueOf = literals := by
  have each : ∀ entry ∈ parameters.zip literals, bindings.valueOf entry.1 = entry.2 := by
    intro entry listed
    rw [valueOf, bound entry listed, Option.getD_some]
  calc parameters.map bindings.valueOf
    _ = ((parameters.zip literals).map Prod.fst).map bindings.valueOf := by
        rw [List.map_fst_zip (Nat.le_of_eq lengths)]
    _ = (parameters.zip literals).map Prod.snd := by
        rw [List.map_map]
        exact List.map_congr_left each
    _ = literals := List.map_snd_zip (Nat.le_of_eq lengths.symm)

namespace Database

def value (database : Database Row Value) (assignment : Assignment Row)
    (column : Column) : Value :=
  database.read (assignment column.label) column.name

def values (database : Database Row Value) (assignment : Assignment Row)
    (columns : List Column) : List Value :=
  columns.map (database.value assignment)

def sameAll (database : Database Row Value) (left right : List Value) : Bool :=
  left.isEqv right database.same

/-- A row of the pivot table leads from the parent row to the key of the child row. -/
def leads (database : Database Row Value) (assignment : Assignment Row)
    (subject : List Column) (hop : Hop) : Bool :=
  (database.rows hop.table).any fun row =>
    let inner := Function.update assignment hop.label row
    (hop.pairs.all fun pair =>
        database.same (database.value inner pair.1) (database.value inner pair.2)) &&
      database.sameAll (database.values assignment subject) (database.values inner hop.keys)

def slice (database : Database Row Value) (order : Option Order) (limit offset : Option Nat)
    (rows : List (Assignment Row)) : List (Assignment Row) :=
  let arranged := order.elim rows (database.arrange · rows)
  let rest := arranged.drop (offset.getD 0)
  limit.elim rest rest.take

def returned (database : Database Row Value) (assignment : Assignment Row) :
    Output → Option (List Value)
  | .columns shown => some (database.values assignment shown)
  | _ => none

mutual

def holds (database : Database Row Value) (bindings : Bindings)
    (assignment : Assignment Row) : Condition → Bool
  | .text sql => database.accepts sql assignment
  | .test subject test =>
      database.passes (database.values assignment subject) (test.map bindings.valueOf)
  | .equal left right =>
      database.same (database.value assignment left) (database.value assignment right)
  | .linked subject hop => database.leads assignment subject hop
  | .not operand => !database.holds bindings assignment operand
  | .all operands => database.holdsAll bindings assignment operands
  | .any operands => database.holdsAny bindings assignment operands
  | .keyIn key queries =>
      database.finds bindings assignment (database.values assignment key) queries

def holdsAll (database : Database Row Value) (bindings : Bindings)
    (assignment : Assignment Row) : List Condition → Bool
  | [] => true
  | condition :: rest =>
      database.holds bindings assignment condition &&
        database.holdsAll bindings assignment rest

def holdsAny (database : Database Row Value) (bindings : Bindings)
    (assignment : Assignment Row) : List Condition → Bool
  | [] => false
  | condition :: rest =>
      database.holds bindings assignment condition ||
        database.holdsAny bindings assignment rest

def finds (database : Database Row Value) (bindings : Bindings)
    (assignment : Assignment Row) (key : List Value) : List Select → Bool
  | [] => false
  | query :: rest =>
      ((database.answer bindings assignment query).any fun inner =>
          (database.returned inner query.output).any (database.sameAll key ·)) ||
        database.finds bindings assignment key rest

/-- The join keeps the row; a left outer one keeps every row. -/
def keeps (database : Database Row Value) (bindings : Bindings)
    (assignment : Assignment Row) : Join → Bool
  | .text sql => database.accepts sql assignment
  | .lateral .inner query _ => !(database.answer bindings assignment query).isEmpty
  | .lateral .leftOuter _ _ => true

def keepsAll (database : Database Row Value) (bindings : Bindings)
    (assignment : Assignment Row) : List Join → Bool
  | [] => true
  | join :: rest =>
      database.keeps bindings assignment join && database.keepsAll bindings assignment rest

/-- The assignments for the rows of a source; a page has the rows of its query. -/
def range (database : Database Row Value) (bindings : Bindings)
    (assignment : Assignment Row) : Source → List (Assignment Row)
  | .table name label => (database.rows name).map (Function.update assignment label)
  | .page query _ => database.answer bindings assignment query

def answer (database : Database Row Value) (bindings : Bindings)
    (assignment : Assignment Row) : Select → List (Assignment Row)
  | ⟨_, source, joins, conditions, order, limit, offset⟩ =>
      database.slice order limit offset
        ((database.range bindings assignment source).filter fun inner =>
          database.keepsAll bindings inner joins &&
            database.holdsAll bindings inner conditions)

end

variable (database : Database Row Value) (bindings : Bindings)

def valuation (assignment : Assignment Row) : Valuation :=
  ⟨database.keeps bindings assignment, database.holds bindings assignment⟩

theorem holdsAll_eq (assignment : Assignment Row) (conditions : List Condition) :
    database.holdsAll bindings assignment conditions =
      conditions.all (database.holds bindings assignment) := by
  induction conditions with
  | nil => rfl
  | cons condition rest ih => simp [holdsAll, ih]

theorem keepsAll_eq (assignment : Assignment Row) (joins : List Join) :
    database.keepsAll bindings assignment joins =
      joins.all (database.keeps bindings assignment) := by
  induction joins with
  | nil => rfl
  | cons join rest ih => simp [keepsAll, ih]

def kept (assignment : Assignment Row) (scope : Scope) (branch : Branch) : List Row :=
  (database.rows scope.table).filter fun row =>
    (database.valuation bindings (Function.update assignment scope.label row)).keeps branch

/-- The primary key: no two rows of the table have the same one, and none is null. -/
def Keyed (table : String) (keys : List String) : Prop :=
  ∀ row ∈ database.rows table, ∀ other ∈ database.rows table,
    database.sameAll (keys.map (database.read row)) (keys.map (database.read other)) = true ↔
      row = other

variable {database bindings}

end Database

end TreeQuery
