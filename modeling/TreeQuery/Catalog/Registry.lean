import TreeQuery.Catalog.Link

/-!
Registries: sets of entities that have been checked, and what a compiler may ask of them.

A registry is accepted when its entities have distinct names, all names that will stand in a
statement are identifiers, every key column backs a property, and every relation resolves.
-/

namespace TreeQuery

structure Provider where
  knows : String → Bool
  entity : String → Except CatalogError Entity

def isIdentifierStart (c : Char) : Bool :=
  ('a' ≤ c && c ≤ 'z') || ('A' ≤ c && c ≤ 'Z') || c = '_'

def isIdentifierChar (c : Char) : Bool := isIdentifierStart c || ('0' ≤ c && c ≤ '9')

def isIdentifier : List Char → Bool
  | [] => false
  | c :: rest => isIdentifierStart c && rest.all isIdentifierChar

/-- An identifier, or two of them with a dot between. -/
def isTableIdentifier (name : List Char) : Bool :=
  match name.span (· ≠ '.') with
  | (table, []) => isIdentifier table
  | (schema, _ :: table) => isIdentifier schema && isIdentifier table

structure Registry where
  entities : List Entity

namespace Registry

def find? (registry : Registry) (name : String) : Option Entity :=
  registry.entities.find? fun entity => entity.name == name

def entity (registry : Registry) (name : String) : Except CatalogError Entity :=
  match registry.find? name with
  | some entity => .ok entity
  | none => .error (.unknownEntity name)

def provider (registry : Registry) : Provider where
  knows name := (registry.find? name).isSome
  entity := registry.entity

def checkIdentifier (context name : String) : Except CatalogError Unit :=
  if isIdentifier name.toList then .ok () else .error (.invalidIdentifier name context)

def checkTable (context name : String) : Except CatalogError Unit :=
  if isTableIdentifier name.toList then .ok () else .error (.invalidIdentifier name context)

def namedColumns (property : Property) : List String :=
  property.columns ++ property.joinColumns ++ property.referencedColumns ++
    property.inverseJoinColumns

def checkProperty (registry : Registry) (entity : Entity) (property : Property) :
    Except CatalogError Unit := do
  let context := entity.name ++ "." ++ property.name
  (namedColumns property).forM (checkIdentifier context)
  property.pivotTable.forM (checkTable context)
  if property.isRelation then
    let target ← registry.entity property.typeName
    let _ ← Link.resolve entity property target
  else if property.columns.isEmpty then
    .error (.incomplete entity.name property.name .backingColumns)

def checkEntity (registry : Registry) (entity : Entity) : Except CatalogError Unit := do
  checkTable entity.name entity.table
  entity.primaryKeys.forM (checkIdentifier entity.name)
  entity.checkPrimaryKeys
  entity.properties.forM (checkProperty registry entity)

def firstDuplicate? : List String → List String → Option String
  | _, [] => none
  | seen, name :: rest =>
      if seen.contains name then some name else firstDuplicate? (name :: seen) rest

def ofEntities (entities : List Entity) : Except CatalogError Registry := do
  match firstDuplicate? [] (entities.map (·.name)) with
  | some name => .error (.duplicateEntity name)
  | none =>
      let registry : Registry := ⟨entities⟩
      entities.forM (checkEntity registry)
      pure registry

end Registry

end TreeQuery
