import TreeQuery.Json.Basic

/-!
Bindings: the values of a statement's parameters, by name.

The names are in ascending order and no name occurs twice.
-/

namespace TreeQuery

abbrev Bindings := List (String × Json)

namespace Bindings

def names (bindings : Bindings) : List String := bindings.map (·.1)

def get? (bindings : Bindings) (name : String) : Option Json := bindings.lookup name

def has (bindings : Bindings) (name : String) : Bool := bindings.any fun entry => entry.1 == name

def insert (name : String) (value : Json) : Bindings → Bindings
  | [] => [(name, value)]
  | (other, bound) :: rest =>
      if name < other then (name, value) :: (other, bound) :: rest
      else (other, bound) :: insert name value rest

/-- Bind one name after the other, up to the first that is bound already; that name is returned. -/
def bindAll (bindings : Bindings) : List (String × Json) → Bindings × Option String
  | [] => (bindings, none)
  | (name, value) :: rest =>
      if bindings.has name then (bindings, some name)
      else bindAll (bindings.insert name value) rest

end Bindings

end TreeQuery
