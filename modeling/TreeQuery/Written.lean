import TreeQuery.Json.Basic
import TreeQuery.Yaml.Node

/-!
Written values: what a reader of records asks of a document, whatever language it is written in.

JSON says which kind a value has; YAML has texts only, and what is asked for decides how a text is
read.
-/

namespace TreeQuery

class Written (ν : Type) where
  text? : ν → Option String
  isAbsent : ν → Bool
  items? : ν → Option (List ν)
  /-- The fields of a record whose fields have these names, in this order. -/
  fields? : List String → ν → Option (List (String × ν))
  entries? : ν → Option (List (String × ν))
  /-- The name of an alternative. -/
  choice? : ν → Option String
  natural? : ν → Option Nat
  flag? : ν → Option Bool

/-! ## JSON -/

namespace Json

def text? : Json → Option String
  | .string text => some text
  | _ => none

def items? : Json → Option (List Json)
  | .array items => some items
  | _ => none

/-- A record is an object, or an array of its first fields. -/
def fields? (names : List String) : Json → Option (List (String × Json))
  | .object members => some members
  | .array items => if items.length ≤ names.length then some (names.zip items) else none
  | _ => none

/-- An alternative is its name, or an object with that name as its only key and the value null. -/
def choice? : Json → Option String
  | .string name => some name
  | .object [(name, .null)] => some name
  | _ => none

def natural? : Json → Option Nat
  | .number (.integer value) => if 0 ≤ value then some value.toNat else none
  | _ => none

def flag? : Json → Option Bool
  | .bool value => some value
  | _ => none

instance : Written Json where
  text? := text?
  isAbsent := isNull
  items? := items?
  fields? := fields?
  entries? := asObject?
  choice? := choice?
  natural? := natural?
  flag? := flag?

end Json

/-! ## YAML -/

namespace Yaml

def digits? (base : Nat) (digits : List Char) : Option Nat :=
  if digits.isEmpty then none
  else
    digits.foldlM
      (fun value c => do
        let digit ← Text.hexDigit? c
        if digit < base then some (value * base + digit) else none)
      0

/-- A number: decimal without leading zeros, or with `0x`, `0o` or `0b`; a plus sign may precede. -/
def naturalText? (text : List Char) : Option Nat :=
  let unsigned :=
    match text with
    | '+' :: rest => rest
    | _ => text
  match unsigned with
  | '0' :: 'x' :: rest => digits? 16 rest
  | '0' :: 'o' :: rest => digits? 8 rest
  | '0' :: 'b' :: rest => digits? 2 rest
  | '0' :: _ :: _ => none
  | _ => digits? 10 unsigned

namespace Node

def text? : Node → Option String
  | .scalar text _ => some text
  | _ => none

def isLeftOut : Node → Bool
  | .scalar text plain => plain && text.isEmpty
  | _ => false

def isAbsent : Node → Bool
  | .scalar text plain => plain && (text.isEmpty || text == "~" || text == "null")
  | _ => false

def items? (node : Node) : Option (List Node) :=
  match node with
  | .sequence items => some items
  | _ => if node.isLeftOut then some [] else none

def pairs? (node : Node) : Option (List (String × Node)) :=
  match node with
  | .mapping pairs => pairs.mapM fun pair => pair.1.text?.map (·, pair.2)
  | _ => if node.isLeftOut then some [] else none

/-- The fields of a record; none of the named ones may be given twice. -/
def fields? (names : List String) (node : Node) : Option (List (String × Node)) := do
  let pairs ← node.pairs?
  if names.all fun name => (pairs.filter fun pair => pair.1 == name).length ≤ 1 then some pairs
  else none

def entries? (node : Node) : Option (List (String × Node)) := do
  let pairs ← node.pairs?
  pure
    ((pairs.map (·.1)).eraseDups.filterMap fun name =>
      (pairs.reverse.lookup name).map (name, ·))

def natural? : Node → Option Nat
  | .scalar text true => naturalText? text.toList
  | _ => none

def flag? : Node → Option Bool
  | .scalar "true" true => some true
  | .scalar "false" true => some false
  | _ => none

instance : Written Node where
  text? := text?
  isAbsent := isAbsent
  items? := items?
  fields? := fields?
  entries? := entries?
  choice? := text?
  natural? := natural?
  flag? := flag?

end Node

end Yaml

end TreeQuery
