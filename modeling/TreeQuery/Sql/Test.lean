import TreeQuery.Sql.Identifier

/-!
Predicates on a column with slots for the values they compare it with.

`Test π` is a predicate whose slots hold values of type `π`: first the literals that are to be
bound, then, after `Test.fill`, the parameters that stand for them.  Slots are filled from left to
right, in the order in which the parameters appear in the text.
-/

namespace TreeQuery.Sql

inductive Comparison where
  | equal
  | notEqual
  | greater
  | greaterOrEqual
  | less
  | lessOrEqual
  | like
  | caselessLike
  | pattern
  | containedIn
  | overlaps
  deriving DecidableEq, Repr

def Comparison.text : Comparison → String
  | .equal => "="
  | .notEqual => "<>"
  | .greater => ">"
  | .greaterOrEqual => ">="
  | .less => "<"
  | .lessOrEqual => "<="
  | .like => "LIKE"
  | .caselessLike => "ILIKE"
  | .pattern => "~"
  | .containedIn => "<@"
  | .overlaps => "&&"

/-- An element of a listed operand: one value, or a row of values. -/
inductive Cell (π : Type) where
  | one (slot : π)
  | row (slots : List π)
  deriving DecidableEq, Repr

inductive Test (π : Type) where
  | constant (value : Bool)
  | isNull (negated : Bool)
  | compare (comparison : Comparison) (slot : π)
  | matchesWords (slot : π)
  | member (negated : Bool) (cells : List (Cell π))
  /-- As `member`, where null is listed too. -/
  | memberOrNull (negated : Bool) (cells : List (Cell π))
  | between (low high : Cell π)
  | contains (cells : List (Cell π))
  deriving DecidableEq, Repr

namespace Cell

variable {π ρ : Type}

def slots : Cell π → List π
  | .one slot => [slot]
  | .row slots => slots

def render (slotText : π → String) : Cell π → String
  | .one slot => slotText slot
  | .row slots => "(" ++ ", ".intercalate (slots.map slotText) ++ ")"

end Cell

namespace Test

variable {π : Type}

def slots : Test π → List π
  | .constant _ => []
  | .isNull _ => []
  | .compare _ slot => [slot]
  | .matchesWords slot => [slot]
  | .member _ cells => cells.flatMap Cell.slots
  | .memberOrNull _ cells => cells.flatMap Cell.slots
  | .between low high => low.slots ++ high.slots
  | .contains cells => cells.flatMap Cell.slots

def nullTest (negated : Bool) (subject : String) : String :=
  subject ++ (if negated then " IS NOT NULL" else " IS NULL")

def membership (negated : Bool) (subject : String) (cells : List String) : String :=
  subject ++ (if negated then " NOT IN (" else " IN (") ++ ", ".intercalate cells ++ ")"

def render (slotText : π → String) (subject : String) : Test π → String
  | .constant true => "TRUE"
  | .constant false => "FALSE"
  | .isNull negated => nullTest negated subject
  | .compare comparison slot => subject ++ " " ++ comparison.text ++ " " ++ slotText slot
  | .matchesWords slot =>
      "to_tsvector(" ++ subject ++ ") @@ plainto_tsquery(" ++ slotText slot ++ ")"
  | .member negated cells => membership negated subject (cells.map (Cell.render slotText))
  | .memberOrNull negated cells =>
      "(" ++ membership negated subject (cells.map (Cell.render slotText)) ++
        (if negated then " AND " else " OR ") ++ nullTest negated subject ++ ")"
  | .between low high =>
      subject ++ " BETWEEN " ++ low.render slotText ++ " AND " ++ high.render slotText
  | .contains cells =>
      subject ++ " @> ARRAY[" ++ ", ".intercalate (cells.map (Cell.render slotText)) ++ "]"

end Test

/-! ## Filling the slots -/

section Fill

variable {π ρ σ : Type}

def fillList (draw : π → σ → ρ × σ) : List π → σ → List ρ × σ
  | [], state => ([], state)
  | value :: rest, state =>
      let (filled, state) := draw value state
      let (others, state) := fillList draw rest state
      (filled :: others, state)

def Cell.fill (draw : π → σ → ρ × σ) : Cell π → σ → Cell ρ × σ
  | .one slot, state =>
      let (filled, state) := draw slot state
      (.one filled, state)
  | .row slots, state =>
      let (filled, state) := fillList draw slots state
      (.row filled, state)

/-- The test with every slot replaced, from left to right, by what `draw` gives for it. -/
def Test.fill (draw : π → σ → ρ × σ) : Test π → σ → Test ρ × σ
  | .constant value, state => (.constant value, state)
  | .isNull negated, state => (.isNull negated, state)
  | .compare comparison slot, state =>
      let (filled, state) := draw slot state
      (.compare comparison filled, state)
  | .matchesWords slot, state =>
      let (filled, state) := draw slot state
      (.matchesWords filled, state)
  | .member negated cells, state =>
      let (filled, state) := fillList (Cell.fill draw) cells state
      (.member negated filled, state)
  | .memberOrNull negated cells, state =>
      let (filled, state) := fillList (Cell.fill draw) cells state
      (.memberOrNull negated filled, state)
  | .between low high, state =>
      let (low, state) := low.fill draw state
      let (high, state) := high.fill draw state
      (.between low high, state)
  | .contains cells, state =>
      let (filled, state) := fillList (Cell.fill draw) cells state
      (.contains filled, state)

end Fill

end TreeQuery.Sql
