/-!
Properties: the logical fields of an entity.

A property is backed by columns of its own, or refers to another entity.  A reference is owned by
the side whose table, or whose pivot table, holds the columns; the other side names the owning
property in `mappedBy`.
-/

namespace TreeQuery

/-- How many rows of each side a reference joins; `scalar` is no reference at all. -/
inductive Reference where
  | scalar
  | oneToOne
  | oneToMany
  | manyToOne
  | manyToMany
  deriving DecidableEq, Repr, Inhabited

namespace Reference

def isPlural : Reference → Bool
  | .oneToMany => true
  | .manyToMany => true
  | _ => false

def isRelation : Reference → Bool
  | .scalar => false
  | _ => true

def text : Reference → String
  | .scalar => "scalar"
  | .oneToOne => "1:1"
  | .oneToMany => "1:m"
  | .manyToOne => "m:1"
  | .manyToMany => "m:n"

def longText : Reference → String
  | .scalar => "scalar"
  | .oneToOne => "one_to_one"
  | .oneToMany => "one_to_many"
  | .manyToOne => "many_to_one"
  | .manyToMany => "many_to_many"

def all : List Reference := [.scalar, .oneToOne, .oneToMany, .manyToOne, .manyToMany]

def ofName? (name : String) : Option Reference :=
  all.find? fun reference => reference.text == name || reference.longText == name

end Reference

structure Property where
  name : String
  typeName : String
  reference : Reference := .scalar
  columns : List String := []
  mappedBy : Option String := none
  joinColumns : List String := []
  /-- The columns referred to; none stands for the primary key. -/
  referencedColumns : List String := []
  inverseJoinColumns : List String := []
  pivotTable : Option String := none
  deriving DecidableEq, Repr

namespace Property

def ofColumn (name typeName column : String) : Property := { name, typeName, columns := [column] }

def ofReference (name target : String) (reference : Reference) : Property :=
  { name, typeName := target, reference }

def withMappedBy (owner : String) (property : Property) : Property :=
  { property with mappedBy := some owner }

/-- Set the join columns; for a singular reference they are the backing columns too. -/
def withJoinColumns (columns : List String) (property : Property) : Property :=
  { property with
    joinColumns := columns
    columns := if property.reference.isPlural then property.columns else columns }

def withReferencedColumns (columns : List String) (property : Property) : Property :=
  { property with referencedColumns := columns }

def withPivot (table : String) (join inverse : List String) (property : Property) : Property :=
  { property with pivotTable := some table, joinColumns := join, inverseJoinColumns := inverse }

def isRelation (property : Property) : Bool := property.reference.isRelation

def isOwningSingular (property : Property) : Bool :=
  match property.reference with
  | .manyToOne => true
  | .oneToOne => property.mappedBy.isNone
  | _ => false

end Property

end TreeQuery
