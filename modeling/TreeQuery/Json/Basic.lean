/-!
JSON values.  The members of an object are kept in the order in which they were written, because
that order decides the order of everything compiled from them.
-/

namespace TreeQuery

/-- A number: an integer from `-2 ^ 63` to `2 ^ 64 - 1`, or a binary float. -/
inductive Number where
  | integer (value : Int)
  | float (value : Float)
  deriving Inhabited

inductive Json where
  | null
  | bool (value : Bool)
  | number (value : Number)
  | string (text : String)
  | array (items : List Json)
  | object (members : List (String × Json))
  deriving Inhabited

/-- The members of an object in order; a name occurs at most once. -/
abbrev Members := List (String × Json)

namespace Members

def get? (members : Members) (name : String) : Option Json := members.lookup name

/-- Give `name` a value: in its place if it is a member already, at the end otherwise. -/
def insert (name : String) (value : Json) : Members → Members
  | [] => [(name, value)]
  | (other, old) :: rest =>
      if other = name then (name, value) :: rest else (other, old) :: insert name value rest

def erase (name : String) : Members → Members
  | [] => []
  | (other, value) :: rest =>
      if other = name then rest else (other, value) :: erase name rest

def ofList (written : List (String × Json)) : Members :=
  written.foldl (fun members member => members.insert member.1 member.2) []

end Members

namespace Json

def natural (n : Nat) : Json := .number (.integer n)

def isNull : Json → Bool
  | .null => true
  | _ => false

def isScalar : Json → Bool
  | .array _ => false
  | .object _ => false
  | _ => true

def asObject? : Json → Option Members
  | .object members => some members
  | _ => none

end Json

end TreeQuery
