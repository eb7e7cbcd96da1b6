import TreeQuery.Json.Reader
import TreeQuery.Request

/-!
Sessions: requests compiled, run and decoded.

An executor runs a statement and gives rows.  Each row holds the object of one record, as a value or
as JSON text.  Computed fields are then filled in from the columns that their node returned, and
these columns are taken out.
-/

namespace TreeQuery

inductive RowFault where
  | missingColumn
  | invalidJson
  deriving DecidableEq, Repr

def RowFault.message : RowFault → String
  | .missingColumn => "missing column '" ++ valueColumn ++ "'"
  | .invalidJson => "invalid JSON"

inductive SessionError where
  | missingEntity
  | unknownEntity (name : String)
  | compile (error : CompileError)
  | execution (message : String)
  | invalidRow (index : Nat) (fault : RowFault)

def SessionError.message : SessionError → String
  | .missingEntity => "Query request does not name an entity"
  | .unknownEntity name => "Entity '" ++ name ++ "' is not known to the metadata provider"
  | .compile error => error.message
  | .execution message => message
  | .invalidRow index fault => "Row " ++ toString index ++ ": " ++ fault.message

/-- What runs statements: rows by column name, or a message of failure. -/
structure Executor (m : Type → Type) where
  run : Statement → m (Except String (List Members))

structure Prepared where
  entity : Entity
  selection : Selection
  statement : Statement

namespace Session

def ofCompile {α : Type} : Except CompileError α → Except SessionError α
  | .ok value => .ok value
  | .error error => .error (.compile error)

def lookup (compiler : Compiler) (name : String) : Except SessionError Entity :=
  match compiler.provider.entity name with
  | .ok entity => .ok entity
  | .error error => .error (.compile (.catalog error))

/-- The entity that a request names; an empty name counts as none. -/
def entityName (request : Request) : Except SessionError String :=
  match request.entity with
  | some name => if name.isEmpty then .error .missingEntity else .ok name
  | none => .error .missingEntity

def prepare (compiler : Compiler) (request : Request) : Except SessionError Prepared := do
  let name ← entityName request
  if !compiler.provider.knows name then .error (.unknownEntity name)
  else
    let entity ← lookup compiler name
    let selection ← ofCompile request.selection
    let query : Query :=
      { entity := name, selection, filter := request.filter, pagination := request.pagination }
    pure { entity, selection, statement := ← ofCompile (compiler.compile query) }

/-! ## Decoding -/

def decodeRow (index : Nat) (row : Members) : Except SessionError Json :=
  match row.get? valueColumn with
  | none => .error (.invalidRow index .missingColumn)
  | some (.string text) =>
      match Json.parse text with
      | .ok value => .ok value
      | .error _ => .error (.invalidRow index .invalidJson)
  | some value => .ok value

def decodeRows : Nat → List Members → Except SessionError (List Json)
  | _, [] => .ok []
  | index, row :: rest => do
      let record ← decodeRow index row
      let records ← decodeRows (index + 1) rest
      pure (record :: records)

mutual

def overObjects {ε : Type} (change : Members → Except ε Members) : Json → Except ε Json
  | .object members => do pure (.object (← change members))
  | .array items => do pure (.array (← overItems change items))
  | value => .ok value

def overItems {ε : Type} (change : Members → Except ε Members) : List Json → Except ε (List Json)
  | [] => .ok []
  | item :: rest => do
      let item ← overObjects change item
      let items ← overItems change rest
      pure (item :: items)

end

def rawColumns (members : Members) : Members :=
  match members.get? rawKey with
  | some (.object raw) => raw
  | _ => []

mutual

/-- Fill in the computed fields of a node's object and of the objects below it. -/
def resolveNode (compiler : Compiler) (entity : Entity) :
    Selection → Members → Except SessionError Members
  | ⟨fields, _⟩, members =>
      resolveFields compiler entity (rawColumns members) fields (members.erase rawKey)

def resolveFields (compiler : Compiler) (entity : Entity) (raw : Members) :
    List (String × FieldNode) → Members → Except SessionError Members
  | [], members => .ok members
  | (key, node) :: rest, members => do
      let members ← resolveField compiler entity raw key node members
      resolveFields compiler entity raw rest members

def resolveField (compiler : Compiler) (entity : Entity) (raw : Members) (key : String) :
    FieldNode → Members → Except SessionError Members
  | node, members =>
      match (compiler.resolver entity).resolve key with
      | some (.computed field) => .ok (members.insert key (field.resolve raw))
      | some (.property property) =>
          match node, members.get? key with
          | .nested selection, some value =>
              if property.isRelation then do
                let target ← lookup compiler property.typeName
                let resolved ← overObjects (resolveNode compiler target selection) value
                pure (members.insert key resolved)
              else .ok members
          | _, _ => .ok members
      | none => .ok members

end

def resolve (compiler : Compiler) (prepared : Prepared) (record : Json) :
    Except SessionError Json :=
  overObjects (resolveNode compiler prepared.entity prepared.selection) record

def decode (compiler : Compiler) (prepared : Prepared) (rows : List Members) :
    Except SessionError (List Json) := do
  let records ← decodeRows 0 rows
  if compiler.computed.isEmpty then pure records else records.mapM (resolve compiler prepared)

/-! ## Running -/

variable {m : Type → Type} [Monad m]

def fetch (compiler : Compiler) (executor : Executor m) (request : Request) :
    m (Except SessionError (List Json)) :=
  match prepare compiler request with
  | .error error => pure (.error error)
  | .ok prepared => do
      match ← executor.run prepared.statement with
      | .error message => pure (.error (.execution message))
      | .ok rows => pure (decode compiler prepared rows)

def fetchAll (compiler : Compiler) (executor : Executor m) :
    List Request → m (Except SessionError (List (List Json)))
  | [] => pure (.ok [])
  | request :: rest => do
      match ← fetch compiler executor request with
      | .error error => pure (.error error)
      | .ok records =>
          match ← fetchAll compiler executor rest with
          | .error error => pure (.error error)
          | .ok others => pure (.ok (records :: others))

end Session

end TreeQuery
