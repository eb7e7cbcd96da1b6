import TreeQuery.Compile.Display
import TreeQuery.Sql.Render

/-!
Statements: what a request is compiled to.

The statement returns one row with the column `val` for each row of the root entity, and names a
parameter for each literal of the request.
-/

namespace TreeQuery

structure Query where
  entity : String
  selection : Selection := {}
  filter : Option Members := none
  pagination : Option Pagination := none

structure Statement where
  query : Sql.Select
  bindings : Bindings

def Statement.sql (statement : Statement) : String := statement.query.render

def valueColumn : String := "val"

namespace Compiler

def rootSelect (compiler : Compiler) (node : Node) (fragment : Fragment) : Sql.Select :=
  let lowered := fragment.lower (Filter.scope node)
  { output := .object (Display.object compiler.settings fragment node.label) valueColumn
    source := (Filter.scope node).source
    joins := lowered.joins ++ fragment.joins
    conditions := lowered.conditions
    order := Display.orderOf compiler node fragment.order
    limit := fragment.limit
    offset := fragment.offset }

def root (compiler : Compiler) (entity : String) (selection : Option Selection)
    (filter : Option Members) : Compile (Node × Fragment) := do
  let entity ← Compile.entity compiler entity
  let label ← Compile.fromSupply (Sql.Supply.start compiler.settings.stem)
  let node : Node := ⟨entity, label⟩
  pure (node, ← Compile.node compiler node selection filter)

def statement (compiler : Compiler) (query : Query) : Compile Statement := do
  let (node, fragment) ← compiler.root query.entity (some query.selection) query.filter
  let fragment ←
    match query.pagination with
    | some pagination => Compile.ofExcept (fragment.merge (Fragment.ofPagination pagination))
    | none => pure fragment
  pure { query := compiler.rootSelect node fragment, bindings := fragment.values }

def compile (compiler : Compiler) (query : Query) : Except CompileError Statement :=
  (compiler.statement query).run' {}

end Compiler

end TreeQuery
