import Mathlib.Data.List.Nodup
import TreeQuery.Placeholder
import TreeQuery.Sql.Tree

/-!
# Scopes of a statement

A select declares the aliases of its source and of its joins.  The select itself
may refer to all of them, a lateral join to those before it, and every subquery to
what its surroundings may refer to.  An alias that a surrounding select declares
may be declared again only by a subquery that looks up primary keys of the same
table.  All of this is about aliases as they are written.
-/

namespace TreeQuery.Sql

/-- An alias that a select declares, and the table behind it if it stands for one. -/
structure Declaration where
  name : String
  table : Option String := none
  deriving DecidableEq, Repr

structure Place where
  visible : List String := []
  surrounding : List Declaration := []

/-- Aliases and names of results are written without quotes, so that they have to be plain. -/
def isPlainName (name : String) : Bool := name.toList.all Lexeme.isNameChar

namespace Place

def sees (place : Place) (label : Alias) : Bool := place.visible.contains label.text

def seesAll (place : Place) (columns : List Column) : Bool :=
  columns.all fun column => place.sees column.label

def isNew (place : Place) (name : String) : Bool :=
  place.surrounding.all fun declared => declared.name != name

def inside (place : Place) (declared : List Declaration) (shown : List String) : Place :=
  ⟨shown ++ place.visible, declared ++ place.surrounding⟩

end Place

/-! ## Parts without subqueries -/

def Value.isScoped (place : Place) : Value → Bool
  | .null => true
  | .column shown => place.sees shown.label
  | .array shown => place.seesAll shown
  | .nested label => place.sees label
  | .raw _ shown => place.seesAll shown
  | .text _ => false

def ObjectExpr.isScoped (place : Place) : ObjectExpr → Bool
  | .pairs _ list => list.all fun pair => pair.2.isScoped place
  | .text _ => false

def Order.isScoped (place : Place) : Order → Bool
  | .terms list => place.seesAll (list.map (·.1))
  | .text _ => false

def Output.isScoped (place : Place) : Output → Bool
  | .columns shown => place.seesAll shown
  | .matched => true
  | .object value name => value.isScoped place && isPlainName name
  | .numbered value order => value.isScoped place && order.isScoped place
  | .collected value => value.isScoped place
  | .collectedPage page _ => place.sees page

def Hop.isScoped (place : Place) (hop : Hop) : Bool :=
  let declared : List Declaration := [⟨hop.label.text, some hop.table⟩]
  let inner := place.inside declared [hop.label.text]
  isPlainName hop.label.text && place.isNew hop.label.text && inner.seesAll hop.keys &&
    hop.pairs.all fun pair => inner.sees pair.1.label && inner.sees pair.2.label

/-! ## Selects -/

def Source.declaration : Source → Declaration
  | .table name label => ⟨label.text, some name⟩
  | .page _ label => ⟨label.text, none⟩

def Join.declarations : List Join → List Declaration
  | [] => []
  | .text _ :: rest => Join.declarations rest
  | .lateral _ _ label :: rest => ⟨label.text, none⟩ :: Join.declarations rest

/--
The source is declared again for a lookup of keys: the output is the primary key of
its table, and wherever the alias is declared already it stands for that table.
-/
def Source.renews (isKey : String → List String → Bool) (place : Place) (output : Output) :
    Source → Bool
  | .table name label =>
      match output with
      | .columns shown =>
          isKey name (shown.map Column.name) &&
            shown.all (fun column => column.label.text == label.text) &&
            place.surrounding.all fun declared =>
              declared.name != label.text || declared.table == some name
      | _ => false
  | .page _ _ => false

mutual

def Condition.isScoped (isKey : String → List String → Bool) (place : Place) : Condition → Bool
  | .text _ => false
  | .test subject test =>
      place.seesAll subject && test.slots.all fun parameter => place.sees parameter.label
  | .equal left right => place.sees left.label && place.sees right.label
  | .linked subject hop => place.seesAll subject && hop.isScoped place
  | .not operand => operand.isScoped isKey place
  | .all operands => Condition.areScoped isKey place operands
  | .any operands => Condition.areScoped isKey place operands
  | .keyIn key queries => place.seesAll key && Select.areScoped isKey place queries

def Condition.areScoped (isKey : String → List String → Bool) (place : Place) :
    List Condition → Bool
  | [] => true
  | condition :: rest => condition.isScoped isKey place && Condition.areScoped isKey place rest

/-- Each join sees the joins before it. -/
def Join.areScoped (isKey : String → List String → Bool) (place : Place) : List Join → Bool
  | [] => true
  | .text _ :: _ => false
  | .lateral _ query label :: rest =>
      query.isScoped isKey place &&
        Join.areScoped isKey { place with visible := label.text :: place.visible } rest

def Source.isScoped (isKey : String → List String → Bool) (place : Place) : Source → Bool
  | .table _ _ => true
  | .page query _ => query.isScoped isKey place

def Select.isScoped (isKey : String → List String → Bool) (place : Place) : Select → Bool
  | ⟨output, source, joins, conditions, order, _, _⟩ =>
      let joined := Join.declarations joins
      let declared := source.declaration :: joined
      let names := declared.map Declaration.name
      let whole := place.inside declared names
      names.all isPlainName && decide names.Nodup &&
        (joined.all fun item => place.isNew item.name) &&
        (place.isNew source.declaration.name || source.renews isKey place output) &&
        source.isScoped isKey (place.inside declared []) &&
        Join.areScoped isKey (place.inside declared [source.declaration.name]) joins &&
        output.isScoped whole && Condition.areScoped isKey whole conditions &&
        order.all (Order.isScoped whole)

def Select.areScoped (isKey : String → List String → Bool) (place : Place) : List Select → Bool
  | [] => true
  | query :: rest => query.isScoped isKey place && Select.areScoped isKey place rest

end

theorem Condition.areScoped_eq (isKey : String → List String → Bool) (place : Place)
    (list : List Condition) :
    Condition.areScoped isKey place list = list.all (Condition.isScoped isKey place) := by
  induction list with
  | nil => simp [Condition.areScoped]
  | cons condition rest ih => simp [Condition.areScoped, ih]

theorem Select.areScoped_eq (isKey : String → List String → Bool) (place : Place)
    (list : List Select) :
    Select.areScoped isKey place list = list.all (Select.isScoped isKey place) := by
  induction list with
  | nil => simp [Select.areScoped]
  | cons query rest ih => simp [Select.areScoped, ih]

example :
    (["person", "battle"].map fun table =>
      Select.isScoped (fun _ _ => true) {}
        { output := .matched
          source := .table "person" ⟨.entity, "t", 1⟩
          conditions :=
            [.keyIn [⟨⟨.entity, "t", 1⟩, "id"⟩]
              [{ output := .columns [⟨⟨.entity, "t", 1⟩, "id"⟩]
                 source := .table table ⟨.entity, "t", 1⟩ }]] }) = [true, false] := by
  decide +kernel

end TreeQuery.Sql
