import TreeQuery.Compile.Error

/-!
Selections: which fields a request wants, as a tree.

A field is wanted as it is, or, if it is a relation, with a selection of its own.  Every selection
may carry arguments that filter, order and slice the rows it is about.
-/

namespace TreeQuery

structure Arguments where
  filter : Option Members := none
  pagination : Option Pagination := none

mutual

inductive FieldNode where
  | leaf
  | nested (selection : Selection)

structure Selection where
  fields : List (String × FieldNode) := []
  arguments : Option Arguments := none

end

namespace Selection

def isEmpty (selection : Selection) : Bool := selection.fields.isEmpty

def withField (name : String) (node : FieldNode) (selection : Selection) : Selection :=
  { selection with fields := selection.fields ++ [(name, node)] }

def withFilter (filter : Members) (selection : Selection) : Selection :=
  { selection with
    arguments := some { selection.arguments.getD {} with filter := some filter } }

def withPagination (pagination : Pagination) (selection : Selection) : Selection :=
  { selection with
    arguments := some { selection.arguments.getD {} with pagination := some pagination } }

end Selection

/-! ## Reading -/

def readFilter : Json → Except CompileError (Option Members)
  | .null => .ok none
  | .object members => .ok (some members)
  | other => .error (.selection (.filterNotObject other))

def readPagination : Json → Except CompileError (Option Pagination)
  | .null => .ok none
  | value =>
      match Pagination.ofJson value with
      | .ok pagination => .ok (some pagination)
      | .error error => .error (.pagination error)

def Arguments.ofJson : Json → Except CompileError Arguments
  | .object members => do
      let filter ← readFilter ((Members.get? members "filter").getD .null)
      let pagination ← readPagination ((Members.get? members "pagination").getD .null)
      pure { filter, pagination }
  | _ => .error (.selection .argumentsNotObject)

mutual

def Selection.ofMembers : List (String × Json) → Except CompileError Selection
  | [] => .ok {}
  | (key, value) :: rest =>
      if key = argumentsKey then do
        let arguments ← Arguments.ofJson value
        let selection ← Selection.ofMembers rest
        pure { selection with arguments := some arguments }
      else do
        let node ← FieldNode.ofJson key value
        let selection ← Selection.ofMembers rest
        pure { selection with fields := (key, node) :: selection.fields }

/-- What is wanted of a field: null, true and an empty object want it as it is. -/
def FieldNode.ofJson (key : String) : Json → Except CompileError FieldNode
  | .null => .ok .leaf
  | .bool true => .ok .leaf
  | .object [] => .ok .leaf
  | .object members => do pure (.nested (← Selection.ofMembers members))
  | other => .error (.selection (.fieldNotObject key other))

end

def Selection.ofJson : Json → Except CompileError Selection
  | .object members => Selection.ofMembers members
  | other => .error (.selection (.notObject other))

end TreeQuery
