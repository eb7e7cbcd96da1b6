import TreeQuery.Catalog.Registry
import TreeQuery.Written

/-!
Catalogs: written descriptions of entities.

Unknown fields are passed over, and fields that may be left out have a default.  A scalar property
without columns is backed by the column of its own name; a singular reference without columns is
backed by its join columns.
-/

namespace TreeQuery

variable {ν : Type} [Written ν]

def requiredField {α : Type} (read : ν → Option α) (name : String) (fields : List (String × ν)) :
    Option α :=
  (fields.lookup name).bind read

def defaultedField {α : Type} (default : α) (read : ν → Option α) (name : String)
    (fields : List (String × ν)) : Option α :=
  match fields.lookup name with
  | none => some default
  | some value => read value

def readText (value : ν) : Option String := Written.text? value

def readOptionalText (value : ν) : Option (Option String) :=
  if Written.isAbsent value then some none else (Written.text? value).map some

def readList {α : Type} (read : ν → Option α) (value : ν) : Option (List α) := do
  (← Written.items? value).mapM read

def readReference (value : ν) : Option Reference := do Reference.ofName? (← Written.choice? value)

def propertyFields : List String :=
  ["type", "reference", "column", "columns", "mapped_by", "join_columns", "referenced_columns",
    "inverse_join_columns", "pivot_table"]

def backingColumns (name : String) (reference : Reference) (mappedBy : Option String)
    (given join : List String) : List String :=
  if !given.isEmpty then given
  else
    match reference with
    | .scalar => [name]
    | .manyToOne => if mappedBy.isNone then join else []
    | .oneToOne => if mappedBy.isNone then join else []
    | _ => []

def Property.read (name : String) (value : ν) : Option Property := do
  let fields ← Written.fields? propertyFields value
  let typeName ← requiredField readText "type" fields
  let reference ← defaultedField .scalar readReference "reference" fields
  let column ← defaultedField none readOptionalText "column" fields
  let columns ← defaultedField [] (readList readText) "columns" fields
  let mappedBy ← defaultedField none readOptionalText "mapped_by" fields
  let joinColumns ← defaultedField [] (readList readText) "join_columns" fields
  let referencedColumns ← defaultedField [] (readList readText) "referenced_columns" fields
  let inverseJoinColumns ← defaultedField [] (readList readText) "inverse_join_columns" fields
  let pivotTable ← defaultedField none readOptionalText "pivot_table" fields
  pure
    { name, typeName, reference
      columns := backingColumns name reference mappedBy (column.toList ++ columns) joinColumns
      mappedBy, joinColumns, referencedColumns, inverseJoinColumns, pivotTable }

def entityFields : List String := ["name", "table", "primary_keys", "properties"]

def Entity.read (value : ν) : Option Entity := do
  let fields ← Written.fields? entityFields value
  let name ← requiredField readText "name" fields
  let table ← requiredField readText "table" fields
  let primaryKeys ← requiredField (readList readText) "primary_keys" fields
  let entries ← requiredField Written.entries? "properties" fields
  let properties ← entries.mapM fun entry => Property.read entry.1 entry.2
  pure { name, table, primaryKeys, properties }

structure Catalog where
  name : Option String := none
  entities : List Entity := []

namespace Catalog

def catalogFields : List String := ["name", "entities"]

def read (value : ν) : Option Catalog := do
  let fields ← Written.fields? catalogFields value
  let name ← defaultedField none readOptionalText "name" fields
  let entities ← requiredField (readList Entity.read) "entities" fields
  pure { name, entities }

def ofWritten (value : ν) : Except CatalogError Catalog :=
  match read value with
  | some catalog => .ok catalog
  | none => .error .unparsable

def ofYaml (text : String) : Except CatalogError Catalog :=
  match Yaml.Node.parse? text with
  | some node => ofWritten node
  | none => .error .unparsable

/-- The catalog in a file whose content, or the reason why it cannot be read, is given. -/
def ofFile (path : String) : Except String String → Except CatalogError Catalog
  | .ok text => ofYaml text
  | .error reason => .error (.unreadable path reason)

/-- Serve the entities as they are; the names in `phantom` are known without being described. -/
def unchecked (catalog : Catalog) (phantom : List String) : Provider where
  knows name := (Registry.mk catalog.entities).provider.knows name || phantom.contains name
  entity := (Registry.mk catalog.entities).entity

end Catalog

end TreeQuery
