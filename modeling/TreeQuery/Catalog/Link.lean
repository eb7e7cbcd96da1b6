import TreeQuery.Catalog.Entity

/-!
Links: how the rows of two entities meet.

Every relation comes down to equal columns of the two tables, or to a step through a pivot table.
`Link.resolve` checks that the column lists which are compared have the same, non-zero length.
-/

namespace TreeQuery

inductive Link where
  /-- A child row belongs to a parent row when these columns are equal, pair by pair. -/
  | direct (parentColumns childColumns : List String)
  /-- A child row belongs to a parent row when a row of the pivot table leads from one to the other. -/
  | pivot (table : String) (parentColumns pivotParentColumns pivotChildColumns childColumns :
      List String)
  deriving DecidableEq, Repr

namespace Link

/-- The number of columns is the one required, and not zero. -/
def checkCount (entity property : String) (side : ColumnSide) (expected found : Nat) :
    Except CatalogError Unit :=
  if found = 0 ∨ found ≠ expected then .error (.columnCount entity property side expected found)
  else .ok ()

def referenced (property : Property) (target : Entity) : List String :=
  if property.referencedColumns.isEmpty then target.primaryKeys else property.referencedColumns

def owningColumns (owner : Entity) (property : Property) (target : Entity) :
    Except CatalogError (List String × List String) :=
  if property.joinColumns.isEmpty then .error (.incomplete owner.name property.name .joinColumns)
  else do
    let columns := referenced property target
    checkCount owner.name property.name .join columns.length property.joinColumns.length
    pure (property.joinColumns, columns)

def mappedOwner (parent child : Entity) (mappedBy : String) : Except CatalogError Property := do
  let owner ← child.requireProperty mappedBy
  if owner.typeName ≠ parent.name then .error (.incomplete child.name owner.name .backReference)
  else pure owner

def pivotColumns (owner : Entity) (property : Property) (target : Entity) :
    Except CatalogError (String × List String × List String) :=
  match property.pivotTable with
  | none => .error (.incomplete owner.name property.name .pivotTable)
  | some table => do
      checkCount owner.name property.name .pivotJoin owner.primaryKeys.length
        property.joinColumns.length
      checkCount owner.name property.name .pivotInverse target.primaryKeys.length
        property.inverseJoinColumns.length
      pure (table, property.joinColumns, property.inverseJoinColumns)

def owning (parent : Entity) (property : Property) (child : Entity) : Except CatalogError Link := do
  let (join, target) ← owningColumns parent property child
  pure (.direct join target)

def inverse (parent : Entity) (property : Property) (child : Entity) : Except CatalogError Link :=
  match property.mappedBy with
  | none => .error (.incomplete parent.name property.name .mappedBy)
  | some mappedBy => do
      let owner ← mappedOwner parent child mappedBy
      if !owner.isOwningSingular then .error (.incomplete child.name owner.name .owningSingular)
      else
        let (join, target) ← owningColumns child owner parent
        pure (.direct target join)

def throughPivot (parent : Entity) (property : Property) (child : Entity) :
    Except CatalogError Link :=
  match property.mappedBy with
  | none => do
      let (table, join, inverse) ← pivotColumns parent property child
      pure (.pivot table parent.primaryKeys join inverse child.primaryKeys)
  | some mappedBy => do
      let owner ← mappedOwner parent child mappedBy
      if owner.reference ≠ .manyToMany ∨ owner.mappedBy.isSome then
        .error (.incomplete child.name owner.name .owningPlural)
      else
        let (table, join, inverse) ← pivotColumns child owner parent
        pure (.pivot table parent.primaryKeys inverse join child.primaryKeys)

/-- How the rows of `child` meet those of `parent` through a property of `parent`. -/
def resolve (parent : Entity) (property : Property) (child : Entity) : Except CatalogError Link :=
  match property.reference with
  | .scalar => .error (.incomplete parent.name property.name .referenceKind)
  | .manyToOne => owning parent property child
  | .oneToOne =>
      if property.mappedBy.isNone then owning parent property child
      else inverse parent property child
  | .oneToMany => inverse parent property child
  | .manyToMany => throughPivot parent property child

end Link

end TreeQuery
