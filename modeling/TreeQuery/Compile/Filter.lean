import TreeQuery.Compile.Relation
import TreeQuery.Fragment.Lowering

/-!
Filters: objects whose keys name fields, relations and combinators.

A field is compared with a value, or by each operator of an object; the operator may also stand at
the end of the key.  A relation holds a filter on the related rows and demands that one of them
matches.  Every literal becomes a parameter.
-/

namespace TreeQuery

inductive FilterRole where
  | combinator (combinator : Combinator)
  | relation (property : Property)
  | field (columns : List String)
  | suffixed (stem : String) (columns : List String) (operator : Operator)
  | suffixedRelation (stem : String)
  | unknown

namespace Filter

def fieldRole : Field → FilterRole
  | .property property =>
      if property.isRelation then .relation property else .field property.columns
  | .computed field => .field field.columns

def suffixedRole (resolver : Resolver) (key : String) : FilterRole :=
  match Operator.splitKey? key with
  | none => .unknown
  | some (stem, operator) =>
      match resolver.resolve stem with
      | none => .unknown
      | some field =>
          if field.isRelation then .suffixedRelation stem
          else .suffixed stem field.columns operator

/-- A combinator wins over a field, and a field over a field with an operator. -/
def role (resolver : Resolver) (key : String) : FilterRole :=
  match Combinator.ofKey? key with
  | some combinator => .combinator combinator
  | none =>
      match resolver.resolve key with
      | some field => fieldRole field
      | none => suffixedRole resolver key

/-! ## Fields -/

abbrev Drawn := Sql.Supply × List (Sql.Parameter × Json)

def drawParameter (label : Sql.Alias) (field : String) (value : Json) (drawn : Drawn) :
    Sql.Parameter × Drawn :=
  let (parameter, supply) := drawn.1.nextParameter label field
  (parameter, supply, drawn.2 ++ [(parameter, value)])

def testSubjects (label : Sql.Alias) (field : String) (test : Sql.Test Json) :
    List (List Sql.Column) → Drawn → List Sql.Condition × Drawn
  | [], drawn => ([], drawn)
  | subject :: rest, drawn =>
      let (filled, drawn) := test.fill (drawParameter label field) drawn
      let (conditions, drawn) := testSubjects label field test rest drawn
      (.test subject filled :: conditions, drawn)

def checkArity (field : String) (columns : Nat) : List Json → Except CompileError Unit
  | [] => .ok ()
  | item :: rest =>
      let found :=
        match item with
        | .array parts => parts.length
        | _ => 1
      if found = columns then checkArity field columns rest
      else .error (.arity field columns found)

def isMembership : Operator → Bool
  | .isIn => true
  | .notIn => true
  | _ => false

/-- What an operator is applied to: the columns as one row for membership, each alone otherwise. -/
def subjects (label : Sql.Alias) (field : String) (columns : List String) (operator : Operator)
    (operand : Json) : Except CompileError (List (List Sql.Column)) :=
  if 1 < columns.length && isMembership operator then do
    match operand with
    | .array items => checkArity field columns.length items
    | _ => pure ()
    pure [label.columns columns]
  else .ok ((label.columns columns).map ([·]))

def readOperand (operator : Operator) (operand : Json) : Except CompileError (Sql.Test Json) :=
  match operator.test operand with
  | .ok test => .ok test
  | .error error => .error (.operand error)

def applyOperator (node : Node) (field : String) (columns : List String) (operator : Operator)
    (operand : Json) : Compile Fragment := do
  if columns.isEmpty then throw (.filter node.label (.noColumns field))
  let subjects ← Compile.ofExcept (subjects node.label field columns operator operand)
  let test ← Compile.ofExcept (readOperand operator operand)
  let (conditions, bound) ←
    Compile.fromSupply fun supply =>
      let (conditions, supply, bound) := testSubjects node.label field test subjects (supply, [])
      ((conditions, bound), supply)
  let fragment : Fragment := { conditions }
  Compile.ofExcept
    (Fragment.checked (fragment.bindAll (bound.map fun entry => (entry.1.name, entry.2))))

def applyOperators (node : Node) (field : String) (columns : List String) :
    List (String × Json) → Compile (List Fragment)
  | [] => pure []
  | (name, operand) :: rest =>
      match Operator.ofName? name with
      | none => throw (.unknownOperator node.label name)
      | some operator => do
          let fragment ← applyOperator node field columns operator operand
          let others ← applyOperators node field columns rest
          pure (fragment :: others)

def fieldFilter (node : Node) (field : String) (columns : List String) (value : Json) :
    Compile Fragment :=
  match value with
  | .object operators => do
      Compile.reduce (← applyOperators node field columns operators)
  | _ => applyOperator node field columns .eq value

def leafFilter (node : Node) (key : String) (role : FilterRole) (value : Json) :
    Compile Fragment :=
  match role with
  | .combinator combinator => throw (.filter node.label (.notList combinator value))
  | .relation property => throw (.filter node.label (.relationNotObject property.name value))
  | .field columns => fieldFilter node key columns value
  | .suffixed stem columns operator => applyOperator node stem columns operator value
  | .suffixedRelation stem => throw (.filter node.label (.operatorOnRelation stem))
  | .unknown => throw (.unresolvedField node.label key)

/-! ## Combinators and relations -/

/-- The combined filters; none at all demand nothing. -/
def combine (combinator : Combinator) (siblings : List Fragment) : Compile Fragment :=
  if siblings.isEmpty then pure {}
  else do
    let empty : Fragment := {}
    let (group, siblings, duplicate) := empty.hoist siblings
    let group ← Compile.ofExcept (Fragment.checked (group, duplicate))
    match combinator with
    | .or => pure { group with anyOf := siblings }
    | .and => pure { group with allOf := siblings }
    | .not => pure { group with noneOf := [{ anyOf := siblings }] }

def checkElements (node : Node) (combinator : Combinator) (items : List Json) :
    Except CompileError Unit :=
  match items.find? fun item => item.asObject?.isNone with
  | some item => .error (.filter node.label (.elementNotObject combinator item))
  | none => .ok ()

def scope (node : Node) : Scope := ⟨node.entity.table, node.label, node.entity.primaryKeys⟩

def existence (site : Site) (correlation : List Sql.Condition) (lowered : Branch)
    (label : Sql.Alias) : Sql.Join :=
  .lateral .inner
    { output := .matched
      source := site.source
      joins := lowered.joins
      conditions := correlation ++ lowered.conditions
      limit := some 1 }
    label

/-- A related row matches the filter that `inner` compiles for it. -/
def relationFilter (compiler : Compiler) (node : Node) (property : Property)
    (inner : Node → Compile Fragment) : Compile Fragment := do
  let entity ← Compile.entity compiler property.typeName
  Compile.enter compiler.settings.maxDepth
  let child : Node := ⟨entity, ← Compile.freshAlias .entity node.label.stem⟩
  let matched ← inner child
  Compile.leave
  let site : Site := ⟨node, property, child⟩
  let correlation ← site.conditions
  let label ← Compile.freshAlias .filter node.label.stem
  let fragment : Fragment :=
    { filterJoins := [existence site correlation (matched.lower (scope child)) label] }
  Compile.ofExcept (Fragment.checked (fragment.bindAll matched.values))

mutual

def members (compiler : Compiler) (node : Node) : List (String × Json) → Compile (List Fragment)
  | [] => pure []
  | (key, value) :: rest => do
      let fragment ← entry compiler node key value
      let others ← members compiler node rest
      pure (fragment :: others)

def entry (compiler : Compiler) (node : Node) (key : String) : Json → Compile Fragment
  | .object inner =>
      match role (compiler.resolver node.entity) key with
      | .combinator combinator => do
          let fragment ← Compile.reduce (← members compiler node inner)
          combine combinator [fragment]
      | .relation property =>
          relationFilter compiler node property fun child => do
            Compile.reduce (← members compiler child inner)
      | role => leafFilter node key role (.object inner)
  | .array items =>
      match role (compiler.resolver node.entity) key with
      | .combinator combinator => do
          Compile.ofExcept (checkElements node combinator items)
          combine combinator (← elements compiler node items)
      | role => leafFilter node key role (.array items)
  | value => leafFilter node key (role (compiler.resolver node.entity) key) value

def elements (compiler : Compiler) (node : Node) : List Json → Compile (List Fragment)
  | [] => pure []
  | item :: rest => do
      let fragment ← element compiler node item
      let others ← elements compiler node rest
      pure (fragment :: others)

def element (compiler : Compiler) (node : Node) : Json → Compile Fragment
  | .object inner => do Compile.reduce (← members compiler node inner)
  | _ => pure {}

end

def compile (compiler : Compiler) (node : Node) (filter : Members) : Compile Fragment := do
  Compile.reduce (← members compiler node filter)

end Filter

end TreeQuery
