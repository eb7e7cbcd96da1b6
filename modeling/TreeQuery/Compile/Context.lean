import TreeQuery.Catalog.Registry
import TreeQuery.Compile.Error
import TreeQuery.Fragment.Basic
import TreeQuery.Resolver
import TreeQuery.Settings

/-!
What a compilation works with.

`Compiler` is given and stays the same; `Context` holds the names handed out so far and how many
relations are open, and changes as the request is walked.
-/

namespace TreeQuery

structure Compiler where
  provider : Provider
  settings : Settings := {}
  computed : ComputedFields := {}

structure Node where
  entity : Entity
  label : Sql.Alias

def Compiler.resolver (compiler : Compiler) (entity : Entity) : Resolver :=
  ⟨entity, compiler.settings.caseFallback, compiler.computed⟩

structure Context where
  supply : Sql.Supply := {}
  depth : Nat := 0

namespace Context

/-- Open a relation.  It counts as open even when it is one too many. -/
def enter (limit : Nat) (context : Context) : Except CompileError Unit × Context :=
  let depth := context.depth + 1
  (if limit < depth then .error (.tooDeep depth limit) else .ok (), { context with depth })

def leave (context : Context) : Context := { context with depth := context.depth - 1 }

end Context

abbrev Compile (α : Type) := StateT Context (Except CompileError) α

namespace Compile

def ofExcept {α : Type} : Except CompileError α → Compile α
  | .ok value => pure value
  | .error error => throw error

def enter (limit : Nat) : Compile Unit := fun context =>
  match context.enter limit with
  | (.ok (), context) => .ok ((), context)
  | (.error error, _) => .error error

def leave : Compile Unit := modify Context.leave

def fromSupply {α : Type} (draw : Sql.Supply → α × Sql.Supply) : Compile α :=
  modifyGet fun context =>
    let (value, supply) := draw context.supply
    (value, { context with supply })

def freshAlias (kind : Sql.Alias.Kind) (stem : String) : Compile Sql.Alias :=
  fromSupply (Sql.Supply.next kind stem)

def entity (compiler : Compiler) (name : String) : Compile Entity :=
  match compiler.provider.entity name with
  | .ok entity => pure entity
  | .error error => throw (.catalog error)

def reduce (fragments : List Fragment) : Compile Fragment := ofExcept (Fragment.reduce fragments)

end Compile

end TreeQuery
