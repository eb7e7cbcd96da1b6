import TreeQuery.Command

/-!
The command line: reads files and the environment, runs the command and prints its outcome.
-/

namespace TreeQuery.CommandLine

def variableNames : List String :=
  ["NESTQL_ALIAS_PREFIX", "NESTQL_MAX_NESTING_DEPTH", "NESTQL_JSON_CHUNK_SIZE",
    "NESTQL_CASE_FALLBACK"]

def readEnvironment : IO Environment := do
  let found ← variableNames.mapM fun name => do
    pure ((← IO.getEnv name).map fun value => (name, value))
  pure (found.filterMap id)

def readContent (path : String) : IO (Except String String) := do
  try
    pure (.ok (← IO.FS.readFile path))
  catch error =>
    pure (.error (toString error))

/-- Read a file from here or from one of the directories above, the nearest first. -/
def readNearest (path : String) : Nat → IO (Except String String)
  | 0 => readContent path
  | levels + 1 => do
      match ← readContent path with
      | .ok text => pure (.ok text)
      | .error _ => readNearest ("../" ++ path) levels

end TreeQuery.CommandLine

open TreeQuery TreeQuery.CommandLine

def main (arguments : List String) : IO UInt32 := do
  let environment ← readEnvironment
  let paths :=
    match Command.Invocation.ofArguments? arguments with
    | some invocation => invocation.catalog :: invocation.request :: invocation.settings.toList
    | none => []
  let given ← paths.mapM fun path => do pure (path, ← readContent path)
  let contents := given ++ [(Command.variablesFile, ← readNearest Command.variablesFile 64)]
  let files : Command.Files := fun path => (contents.lookup path).getD (.error "not read")
  let outcome := Command.run environment files arguments
  IO.print outcome.output
  outcome.error.forM fun message => IO.eprintln message
  pure outcome.status.toUInt32
