import TreeQuery.Compile.Filter
import TreeQuery.Selection

/-!
Selections: the object that a node returns.

A scalar shows its column, or an array of its columns.  A computed field shows a null, to be
replaced later, and makes the node return its columns.  A relation shows what a join brings in.  A
selection without fields shows the primary key.
-/

namespace TreeQuery

namespace Display

/-- A field with one column shows it; any other number of columns is an array. -/
def scalarValue (label : Sql.Alias) : List String → Sql.Value
  | [column] => .column ⟨label, column⟩
  | columns => .array (label.columns columns)

def scalarField (node : Node) (key : String) (columns : List String) : Fragment :=
  { columns := unionNames [] columns, pairs := [(key, scalarValue node.label columns)] }

def computedField (key : String) (columns : List String) : Fragment :=
  { columns := unionNames [] columns, pairs := [(key, .null)], computed := true }

/-- The object of a node; with computed fields, the columns that were read stand under `rawKey`. -/
def object (settings : Settings) (fragment : Fragment) (label : Sql.Alias) : Sql.ObjectExpr :=
  .pairs settings.chunkSize
    (fragment.pairs ++
      if fragment.computed then
        [(rawKey, .raw settings.chunkSize (label.columns fragment.columns))]
      else [])

def sortColumns {α : Type} (columns? : String → Option (List α)) (order : List SortTerm) :
    List (α × Direction) :=
  order.flatMap fun term => ((columns? term.field).getD []).map (·, term.direction)

/-- The ordering of a node's rows; fields that are unknown or relations are passed over. -/
def orderOf (compiler : Compiler) (node : Node) (order : List SortTerm) : Option Sql.Order :=
  let resolver := compiler.resolver node.entity
  match sortColumns (fun field => (resolver.scalarColumns? field).map node.label.columns) order with
  | [] => none
  | terms => some (.terms terms)

def body (compiler : Compiler) (child : Node) (fragment : Fragment) : Body :=
  let lowered := fragment.lower (Filter.scope child)
  { object := object compiler.settings fragment child.label
    joins := lowered.joins ++ fragment.joins
    conditions := lowered.conditions
    order := orderOf compiler child fragment.order
    limit := fragment.limit
    offset := fragment.offset }

def relationField (compiler : Compiler) (node : Node) (key : String) (property : Property)
    (inner : Node → Compile Fragment) : Compile Fragment := do
  let entity ← Compile.entity compiler property.typeName
  Compile.enter compiler.settings.maxDepth
  let child : Node := ⟨entity, ← Compile.freshAlias .entity node.label.stem⟩
  let shown ← inner child
  Compile.leave
  let site : Site := ⟨node, property, child⟩
  let rendered ← site.render compiler.settings (body compiler child shown)
  let fragment : Fragment := { joins := [rendered.join], pairs := [(key, rendered.value)] }
  Compile.ofExcept (Fragment.checked (fragment.bindAll shown.values))

def keyFields (node : Node) : List Fragment :=
  node.entity.keyProperties.map fun property => scalarField node property.name property.columns

def arguments (compiler : Compiler) (node : Node) (arguments : Option Arguments) :
    Compile (List Fragment) := do
  let given := arguments.getD {}
  let filtered ←
    match given.filter with
    | some filter => do pure [← Filter.compile compiler node filter]
    | none => pure []
  pure (filtered ++ (given.pagination.map Fragment.ofPagination).toList)

mutual

def parts (compiler : Compiler) (node : Node) : Selection → Compile (List Fragment)
  | ⟨selected, given⟩ => do
      let shown ←
        if selected.isEmpty then pure (keyFields node) else fields compiler node selected
      pure (shown ++ (← arguments compiler node given))

def fields (compiler : Compiler) (node : Node) :
    List (String × FieldNode) → Compile (List Fragment)
  | [] => pure []
  | (key, wanted) :: rest => do
      let fragment ← field compiler node key wanted
      let others ← fields compiler node rest
      pure (fragment :: others)

def field (compiler : Compiler) (node : Node) (key : String) : FieldNode → Compile Fragment
  | .leaf =>
      match (compiler.resolver node.entity).resolve key with
      | none => throw (.unresolvedField node.label key)
      | some (.computed found) => pure (computedField key found.columns)
      | some (.property property) =>
          if property.isRelation then
            relationField compiler node key property fun child =>
              Compile.reduce (keyFields child)
          else pure (scalarField node key property.columns)
  | .nested selection =>
      match (compiler.resolver node.entity).resolve key with
      | none => throw (.unresolvedField node.label key)
      | some (.computed found) =>
          if selection.isEmpty then pure (computedField key found.columns)
          else throw (.selection (.noSubfields key))
      | some (.property property) =>
          if property.isRelation then
            relationField compiler node key property fun child => do
              Compile.reduce (← parts compiler child selection)
          else if selection.isEmpty then pure (scalarField node key property.columns)
          else throw (.selection (.noSubfields key))

end

end Display

def Compile.node (compiler : Compiler) (node : Node) (selection : Option Selection)
    (filter : Option Members) : Compile Fragment := do
  let shown ←
    match selection with
    | some selection => Display.parts compiler node selection
    | none => pure []
  let filtered ←
    match filter with
    | some filter => do pure [← Filter.compile compiler node filter]
    | none => pure []
  Compile.reduce (shown ++ filtered)

end TreeQuery
