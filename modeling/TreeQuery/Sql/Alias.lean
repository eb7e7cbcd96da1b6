import TreeQuery.Sql.Identifier

/-!
Names for the tables and subqueries of one statement, and for its parameters.

All names of a statement come from one `Supply`, which counts the aliases of each kind and stem
and all parameters.  An alias reads `stem_` followed by the tag of its kind and its index
(`t_e1`); a parameter's name extends the alias of the node it belongs to (`t_e1_name_4`).
-/

namespace TreeQuery.Sql

inductive Alias.Kind where
  | entity
  | subquery
  | filter
  | pivot
  | page
  deriving DecidableEq, Repr

def Alias.Kind.tag : Alias.Kind → String
  | .entity => "e"
  | .subquery => "s"
  | .filter => "f"
  | .pivot => "j"
  | .page => "p"

structure Alias where
  kind : Alias.Kind
  stem : String
  index : Nat
  deriving DecidableEq, Repr

namespace Alias

def text (label : Alias) : String := label.stem ++ "_" ++ label.kind.tag ++ toString label.index

def column (label : Alias) (name : String) : String := qualified label.text name

def isParameterChar (c : Char) : Bool :=
  ('a' ≤ c && c ≤ 'z') || ('A' ≤ c && c ≤ 'Z') || ('0' ≤ c && c ≤ '9')

/-- The field name with an underscore for every character that is no ASCII letter or digit. -/
def plainField (field : String) : String :=
  String.ofList (field.toList.map fun c => if isParameterChar c then c else '_')

def parameterStem (label : Alias) (field : String) : String :=
  label.text ++ "_" ++ plainField field

end Alias

structure Column where
  label : Alias
  name : String
  deriving DecidableEq, Repr

def Column.text (column : Column) : String := column.label.column column.name

def Alias.columns (label : Alias) (names : List String) : List Column := names.map (⟨label, ·⟩)

structure Parameter where
  label : Alias
  field : String
  number : Nat
  deriving DecidableEq, Repr

def Parameter.name (parameter : Parameter) : String :=
  parameter.label.parameterStem parameter.field ++ "_" ++ toString parameter.number

/-- The names handed out so far: the last index of each kind and stem, the number of parameters. -/
structure Supply where
  last : Alias.Kind → String → Nat := fun _ _ => 0
  parameters : Nat := 0

namespace Supply

def setLast (kind : Alias.Kind) (stem : String) (index : Nat) (supply : Supply) : Supply :=
  { supply with
    last := fun otherKind otherStem =>
      if otherKind = kind ∧ otherStem = stem then index else supply.last otherKind otherStem }

/-- The next alias of a kind and stem; indices start at 1 and go up by one. -/
def next (kind : Alias.Kind) (stem : String) (supply : Supply) : Alias × Supply :=
  let index := supply.last kind stem + 1
  (⟨kind, stem, index⟩, supply.setLast kind stem index)

def reset (kind : Alias.Kind) (stem : String) (supply : Supply) : Supply :=
  supply.setLast kind stem 0

/-- Let the next alias of the kind and stem have the given index (index 0 counts as 1). -/
def restartFrom (kind : Alias.Kind) (stem : String) (index : Nat) (supply : Supply) : Supply :=
  supply.setLast kind stem (index - 1)

/-- Begin a statement: the entity aliases of the stem start anew, and the first one is taken. -/
def start (stem : String) (supply : Supply) : Alias × Supply :=
  (supply.reset .entity stem).next .entity stem

def nextParameter (label : Alias) (field : String) (supply : Supply) : Parameter × Supply :=
  let number := supply.parameters + 1
  (⟨label, field, number⟩, { supply with parameters := number })

end Supply

end TreeQuery.Sql
