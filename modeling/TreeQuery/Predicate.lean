import TreeQuery.Operator

/-!
Predicates as text.

`Operator.apply` writes the predicate of an operator on a column that is written already.  Every
slot takes the next name of a supply, and the name is bound to the literal of the slot.
-/

namespace TreeQuery

/-- A predicate, and what its names stand for, in the order of the names. -/
structure Predicate where
  sql : String
  bindings : List (String × Json)

namespace Predicate

def placeholder (name : String) : String := ":" ++ name

def bindNext {σ : Type} (next : σ → String × σ) (value : Json)
    (drawn : σ × List (String × Json)) : String × σ × List (String × Json) :=
  let (name, state) := next drawn.1
  (name, state, drawn.2 ++ [(name, value)])

end Predicate

def Operator.apply {σ : Type} (operator : Operator) (next : σ → String × σ) (column : String)
    (operand : Json) (state : σ) : Except OperandError (Predicate × σ) := do
  let test ← operator.test operand
  let (filled, state, bindings) := test.fill (Predicate.bindNext next) (state, [])
  pure (⟨filled.render Predicate.placeholder column, bindings⟩, state)

end TreeQuery
