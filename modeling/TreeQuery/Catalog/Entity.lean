import TreeQuery.Catalog.Error
import TreeQuery.Catalog.Property

/-!
Entities: a table, its primary key, and the properties that requests may name.
-/

namespace TreeQuery

structure Entity where
  name : String
  table : String
  primaryKeys : List String
  /-- The properties; no two have the same name. -/
  properties : List Property := []
  deriving DecidableEq, Repr

namespace Entity

def property? (entity : Entity) (name : String) : Option Property :=
  entity.properties.find? fun property => property.name == name

def withProperty (property : Property) (entity : Entity) : Entity :=
  { entity with
    properties := (entity.properties.filter fun other => other.name != property.name) ++ [property] }

def requireProperty (entity : Entity) (name : String) : Except CatalogError Property :=
  match entity.property? name with
  | some property => .ok property
  | none => .error (.unknownProperty entity.name name)

/-- The property that shows a key column: the first one backed by it that is no relation. -/
def keyProperty? (entity : Entity) (column : String) : Option Property :=
  entity.properties.find? fun property => !property.isRelation && property.columns.contains column

/-- The properties that show the primary key, in key order, each of them once. -/
def keyProperties (entity : Entity) : List Property :=
  (entity.primaryKeys.filterMap entity.keyProperty?).foldl
    (fun found property =>
      if found.any fun other => other.name == property.name then found else found ++ [property])
    []

def checkPrimaryKeys (entity : Entity) : Except CatalogError Unit :=
  if entity.primaryKeys.isEmpty then .error (.missingKey entity.name)
  else
    match entity.primaryKeys.find? fun column =>
        !entity.properties.any fun property => property.columns.contains column with
    | some column => .error (.keyWithoutProperty entity.name column)
    | none => .ok ()

end Entity

end TreeQuery
