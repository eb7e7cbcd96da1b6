/-!
What can be wrong with the description of entities.
-/

namespace TreeQuery

inductive MissingPart where
  | backingColumns
  | referenceKind
  | mappedBy
  | backReference
  | owningSingular
  | owningPlural
  | joinColumns
  | pivotTable
  deriving DecidableEq, Repr

def MissingPart.text : MissingPart → String
  | .backingColumns => "backing columns"
  | .referenceKind => "reference kind (property is scalar)"
  | .mappedBy => "mappedBy"
  | .backReference => "reference back to the mapped entity"
  | .owningSingular => "owning many-to-one or one-to-one reference"
  | .owningPlural => "owning many-to-many reference"
  | .joinColumns => "join columns"
  | .pivotTable => "pivot table"

inductive ColumnSide where
  | join
  | pivotJoin
  | pivotInverse
  deriving DecidableEq, Repr

def ColumnSide.text : ColumnSide → String
  | .join => "join columns"
  | .pivotJoin => "pivot join columns"
  | .pivotInverse => "pivot inverse join columns"

inductive CatalogError where
  | unknownEntity (entity : String)
  | unknownProperty (entity property : String)
  | columnCount (entity property : String) (side : ColumnSide) (expected found : Nat)
  | keyWithoutProperty (entity column : String)
  | missingKey (entity : String)
  | incomplete (entity property : String) (part : MissingPart)
  | invalidIdentifier (identifier context : String)
  | duplicateEntity (entity : String)
  | unreadable (path reason : String)
  | unparsable
  deriving DecidableEq, Repr

def CatalogError.message : CatalogError → String
  | .unknownEntity entity => "No entity metadata found for `" ++ entity ++ "`"
  | .unknownProperty entity property => "Property `" ++ entity ++ "." ++ property ++ "` not found"
  | .columnCount entity property side expected found =>
      "Column count mismatch on `" ++ entity ++ "." ++ property ++ "`: " ++ side.text ++
        " declares " ++ toString found ++ " column(s) but " ++ toString expected ++
        " are required"
  | .keyWithoutProperty entity column =>
      "Primary key column `" ++ column ++ "` of `" ++ entity ++ "` does not back any property"
  | .missingKey entity => "Entity `" ++ entity ++ "` declares no primary key columns"
  | .incomplete entity property part =>
      "Relation `" ++ entity ++ "." ++ property ++ "` is missing its " ++ part.text
  | .invalidIdentifier identifier context =>
      "Invalid SQL identifier `" ++ identifier ++ "` in `" ++ context ++ "`"
  | .duplicateEntity entity => "Duplicate entity definition `" ++ entity ++ "`"
  | .unreadable path reason => "Failed to read metadata file: " ++ path ++ ": " ++ reason
  | .unparsable => "Failed to parse metadata"

end TreeQuery
