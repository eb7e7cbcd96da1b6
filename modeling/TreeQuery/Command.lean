import TreeQuery.Environment
import TreeQuery.Json.Printer
import TreeQuery.Placeholder
import TreeQuery.Request

/-!
The command: compile a request from files and print the statement.

Everything that the command reads is given to it: the environment, the files and the arguments.  Its
outcome is an exit status, what it prints, and the error it reports.
-/

namespace TreeQuery.Command

structure Invocation where
  catalog : String
  request : String
  settings : Option String := none
  positional : Bool := false
  deriving DecidableEq, Repr

structure Given where
  catalog : Option String := none
  request : Option String := none
  settings : Option String := none
  positional : Bool := false

def splitOption (argument : String) : String × Option String :=
  match argument.toList.span (· ≠ '=') with
  | (name, '=' :: value) => (String.ofList name, some (String.ofList value))
  | _ => (argument, none)

def Given.set (given : Given) (name value : String) : Option Given :=
  match name with
  | "--metadata" => if given.catalog.isSome then none else some { given with catalog := value }
  | "--request" => if given.request.isSome then none else some { given with request := value }
  | "--config" => if given.settings.isSome then none else some { given with settings := value }
  | _ => none

def readArguments (given : Given) : List String → Option Given
  | [] => some given
  | "--positional" :: rest =>
      if given.positional then none else readArguments { given with positional := true } rest
  | argument :: rest =>
      match splitOption argument with
      | (name, some value) => do readArguments (← given.set name value) rest
      | (name, none) =>
          match rest with
          | value :: rest => do readArguments (← given.set name value) rest
          | [] => none

def Invocation.ofArguments? (arguments : List String) : Option Invocation := do
  let given ← readArguments {} arguments
  pure
    { catalog := ← given.catalog, request := ← given.request
      settings := given.settings, positional := given.positional }

/-- The content of a file, or the reason why it cannot be read. -/
abbrev Files := String → Except String String

structure Outcome where
  status : Nat
  output : String := ""
  error : Option String := none
  deriving DecidableEq, Repr

def reporting {ε α : Type} (message : ε → String) : Except ε α → Except String α
  | .ok value => .ok value
  | .error error => .error (message error)

def readSettings (environment : Environment) (files : Files) :
    Option String → Except String Settings
  | some path => reporting (fun _ => "loading config " ++ path) (Settings.ofFile (files path))
  | none =>
      reporting (fun _ => "reading NESTQL_* environment") (Settings.ofEnvironment environment)

def readRegistry (files : Files) (path : String) : Except String Registry :=
  reporting (fun _ => "loading metadata " ++ path) do
    Registry.ofEntities (← Catalog.ofFile path (files path)).entities

def readRequest (files : Files) (path : String) : Except String Request := do
  let text ← reporting (fun _ => "reading request " ++ path) (files path)
  reporting (fun _ => "parsing request") (Request.parse text)

def present (positional : Bool) (statement : Statement) : Except String Json :=
  if positional then do
    let numbered ←
      reporting PlaceholderError.message (Positional.ofNamed statement.sql statement.bindings)
    pure (.object [("sql", .string numbered.sql), ("values", .array numbered.values)])
  else .ok (.object [("sql", .string statement.sql), ("bindings", .object statement.bindings)])

def work (environment : Environment) (files : Files) (invocation : Invocation) :
    Except String Json := do
  let settings ← readSettings environment files invocation.settings
  let registry ← readRegistry files invocation.catalog
  let request ← readRequest files invocation.request
  match request.entity with
  | none => .error "request does not name an entity"
  | some entity =>
      let selection ← reporting CompileError.message request.selection
      let compiler : Compiler := { provider := registry.provider, settings }
      let query : Query :=
        { entity, selection, filter := request.filter, pagination := request.pagination }
      let statement ← reporting CompileError.message (compiler.compile query)
      present invocation.positional statement

def variablesFile : String := ".env"

def run (environment : Environment) (files : Files) (arguments : List String) : Outcome :=
  match Invocation.ofArguments? arguments with
  | none => { status := 2, error := some "error: the arguments are not understood" }
  | some invocation =>
      let environment :=
        match files variablesFile with
        | .ok text => environment.takeFile text
        | .error _ => environment
      match work environment files invocation with
      | .ok value => { status := 0, output := value.pretty ++ "\n" }
      | .error message => { status := 1, error := some ("Error: " ++ message) }

end TreeQuery.Command
