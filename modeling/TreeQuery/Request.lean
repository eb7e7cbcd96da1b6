import TreeQuery.Json.Record
import TreeQuery.Selection
import TreeQuery.Statement

/-!
Requests: what a caller sends, as JSON text with the fields `entity`, `fields`, `filter` and
`pagination`.
-/

namespace TreeQuery

structure Request where
  entity : Option String := none
  fields : Json := .null
  filter : Option Members := none
  pagination : Option Pagination := none

namespace Request

/-- A part of a pagination that is read as a whole before it is looked at. -/
def readOrderField (pagination : Pagination) : Json.FieldReader Pagination := fun room text => do
  let (value, rest) ← Json.readAny room text
  match readOrder value with
  | .ok order => pure ({ pagination with order }, rest)
  | .error _ => .error .mismatched

def paginationReader : Json.RecordReader Pagination where
  names := Pagination.parts
  read name pagination := fun room text =>
    match name with
    | "limit" => do
        let (limit, rest) ← Json.readOptional Json.readNatural room text
        pure ({ pagination with limit }, rest)
    | "offset" => do
        let (offset, rest) ← Json.readOptional Json.readNatural room text
        pure ({ pagination with offset }, rest)
    | _ => readOrderField pagination room text

def reader : Json.RecordReader Request where
  names := ["entity", "fields", "filter", "pagination"]
  read name request := fun room text =>
    match name with
    | "entity" => do
        let (entity, rest) ← Json.readOptional Json.readText room text
        pure ({ request with entity }, rest)
    | "fields" => do
        let (fields, rest) ← Json.readAny room text
        pure ({ request with fields }, rest)
    | "filter" => do
        let (filter, rest) ← Json.readOptional Json.readObject room text
        pure ({ request with filter }, rest)
    | _ => do
        let (pagination, rest) ← Json.readOptional (paginationReader.run {}) room text
        pure ({ request with pagination }, rest)

def parse (text : String) : Except Json.Fault Request := do
  let (request, rest) ← reader.run {} Json.maxDepth text.toList
  Json.expectEnd rest
  pure request

def selection (request : Request) : Except CompileError Selection :=
  match request.fields with
  | .null => .ok {}
  | fields => Selection.ofJson fields

end Request

end TreeQuery
