import TreeQuery.Json.Printer
import TreeQuery.Text.Visible

/-!
Ordering and slicing of rows, as a request asks for them.
-/

namespace TreeQuery

inductive Direction where
  | ascending
  | descending
  deriving DecidableEq, Repr

def Direction.text : Direction → String
  | .ascending => "asc"
  | .descending => "desc"

def Direction.ofName? : String → Option Direction
  | "ASC" => some .ascending
  | "asc" => some .ascending
  | "DESC" => some .descending
  | "desc" => some .descending
  | _ => none

structure SortTerm where
  field : String
  direction : Direction
  deriving DecidableEq, Repr

structure Pagination where
  limit : Option Nat := none
  offset : Option Nat := none
  order : List SortTerm := []
  deriving DecidableEq, Repr

def Pagination.isEmpty (pagination : Pagination) : Bool :=
  pagination.limit.isNone && pagination.offset.isNone && pagination.order.isEmpty

/-! ## Reading -/

inductive PaginationError where
  | wrongKind (expected : String) (got : Json)
  | negative (value : Int)
  | notSingleMember
  | unknownDirection (name : String)
  | notTerms
  | tooManyParts (count : Nat)

def quotedChar (c : Char) : List Char :=
  if c = '"' then ['\\', '"']
  else if c = '\\' then ['\\', '\\']
  else if c = '\n' then ['\\', 'n']
  else if c = '\r' then ['\\', 'r']
  else if c = '\t' then ['\\', 't']
  else if c.toNat = 0 then ['\\', '0']
  else if Text.isVisible c then [c]
  else ['\\', 'u', '{'] ++ Nat.toDigits 16 c.toNat ++ ['}']

def describe : Json → String
  | .null => "null"
  | .bool true => "boolean `true`"
  | .bool false => "boolean `false`"
  | .number (.integer value) => "integer `" ++ toString value ++ "`"
  | .number (.float value) => "floating point `" ++ (Number.float value).render ++ "`"
  | .string text =>
      "string " ++ String.ofList ('"' :: (text.toList.flatMap quotedChar ++ ['"']))
  | .array _ => "sequence"
  | .object _ => "map"

def PaginationError.message : PaginationError → String
  | .wrongKind expected got => "invalid type: " ++ describe got ++ ", expected " ++ expected
  | .negative value => "invalid value: integer `" ++ toString value ++ "`, expected u64"
  | .notSingleMember => "invalid value: map, expected map with a single key"
  | .unknownDirection name =>
      "unknown variant `" ++ name ++ "`, expected one of `ASC`, `asc`, `DESC`, `desc`"
  | .notTerms => "data did not match any variant of untagged enum Terms"
  | .tooManyParts count =>
      "invalid length " ++ toString count ++ ", expected fewer elements in array"

/-- A count of rows; null means that none is given. -/
def readCount : Json → Except PaginationError (Option Nat)
  | .null => .ok none
  | .number (.integer value) => if value < 0 then .error (.negative value) else .ok (some value.toNat)
  | other => .error (.wrongKind "u64" other)

def readDirectionName (name : String) : Except PaginationError Direction :=
  match Direction.ofName? name with
  | some direction => .ok direction
  | none => .error (.unknownDirection name)

/-- A direction: its name, or an object whose only member is that name with the value null. -/
def Direction.ofJson : Json → Except PaginationError Direction
  | .string name => readDirectionName name
  | .object [(name, value)] => do
      let direction ← readDirectionName name
      if value.isNull then pure direction else .error (.wrongKind "unit" value)
  | .object _ => .error .notSingleMember
  | other => .error (.wrongKind "string or map" other)

def readTerms : Members → Except PaginationError (List SortTerm)
  | [] => .ok []
  | (field, direction) :: rest => do
      let direction ← Direction.ofJson direction
      let terms ← readTerms rest
      pure (⟨field, direction⟩ :: terms)

def readOrder : Json → Except PaginationError (List SortTerm)
  | .null => .ok []
  | .object members => readTerms members
  | .array items =>
      match items.mapM Json.asObject? with
      | some objects => readTerms objects.flatten
      | none => .error .notTerms
  | _ => .error .notTerms

def Pagination.set (pagination : Pagination) (name : String) (value : Json) :
    Except PaginationError Pagination :=
  match name with
  | "limit" => do pure { pagination with limit := ← readCount value }
  | "offset" => do pure { pagination with offset := ← readCount value }
  | "orderBy" => do pure { pagination with order := ← readOrder value }
  | _ => .ok pagination

def Pagination.parts : List String := ["limit", "offset", "orderBy"]

/-- Read the parts in the order in which they are written; the first failure decides. -/
def Pagination.ofJson : Json → Except PaginationError Pagination
  | .object members =>
      members.foldlM (fun pagination member => pagination.set member.1 member.2) {}
  | .array items => do
      let pagination ←
        (Pagination.parts.zip items).foldlM
          (fun pagination part => pagination.set part.1 part.2) {}
      if Pagination.parts.length < items.length then .error (.tooManyParts items.length)
      else pure pagination
  | other => .error (.wrongKind "struct Pagination" other)

end TreeQuery
