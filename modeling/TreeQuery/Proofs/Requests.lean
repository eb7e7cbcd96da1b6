import TreeQuery.Statement

/-!
# What a request contains

A request is walked as it is compiled: a relation leads from an entity to the one
it refers to, a combinator stays where it is.  The walk finds every key of the
filters, every node of the selection and the computed fields that are named.

A tally says of a filter whether it demands anything, whether it binds a literal,
and whether it binds one in vain: beside an alternative that demands nothing.
-/

namespace TreeQuery

def Resolver.computedField? (resolver : Resolver) (key : String) : Option ComputedField :=
  match resolver.resolve key with
  | some (.computed field) => some field
  | _ => none

/-! ## Relations -/

namespace Compiler

def related? (compiler : Compiler) (entity : Entity) (key : String) : Option Entity :=
  match (compiler.resolver entity).resolve key with
  | some (.property property) =>
      if property.isRelation then (compiler.provider.entity property.typeName).toOption else none
  | _ => none

variable {compiler : Compiler} {entity : Entity} {key : String}

theorem related?_of_computed {found : ComputedField}
    (resolved : (compiler.resolver entity).resolve key = some (.computed found)) :
    compiler.related? entity key = none := by
  simp [related?, resolved]

theorem related?_of_scalar {property : Property}
    (resolved : (compiler.resolver entity).resolve key = some (.property property))
    (scalar : property.isRelation = false) : compiler.related? entity key = none := by
  simp [related?, resolved, scalar]

theorem related?_of_relation {property : Property} {child : Entity}
    (resolved : (compiler.resolver entity).resolve key = some (.property property))
    (relation : property.isRelation = true)
    (found : compiler.provider.entity property.typeName = .ok child) :
    compiler.related? entity key = some child := by
  simp [related?, resolved, relation, found, Except.toOption]

end Compiler

namespace Filter

/-! ## Keys -/

structure Entry where
  entity : Entity
  key : String
  value : Json

mutual

def entries (compiler : Compiler) (entity : Entity) : List (String × Json) → List Entry
  | [] => []
  | (key, value) :: rest =>
      ⟨entity, key, value⟩ ::
        (entriesWithin compiler entity key value ++ entries compiler entity rest)

def entriesWithin (compiler : Compiler) (entity : Entity) (key : String) : Json → List Entry
  | .object inner =>
      match role (compiler.resolver entity) key with
      | .combinator _ => entries compiler entity inner
      | .relation property =>
          match compiler.provider.entity property.typeName with
          | .ok child => entries compiler child inner
          | .error _ => []
      | _ => []
  | .array items =>
      match role (compiler.resolver entity) key with
      | .combinator _ => entriesOfAll compiler entity items
      | _ => []
  | _ => []

def entriesOfAll (compiler : Compiler) (entity : Entity) : List Json → List Entry
  | [] => []
  | item :: rest => entriesOf compiler entity item ++ entriesOfAll compiler entity rest

def entriesOf (compiler : Compiler) (entity : Entity) : Json → List Entry
  | .object inner => entries compiler entity inner
  | _ => []

end

def computedField? (resolver : Resolver) (key : String) : Option ComputedField :=
  match Combinator.ofKey? key with
  | some _ => none
  | none =>
      match resolver.resolve key with
      | some (.computed field) => some field
      | some (.property _) => none
      | none => (Operator.splitKey? key).bind fun split => resolver.computedField? split.1

def computedFields (compiler : Compiler) (entity : Entity) (filter : Members) :
    List ComputedField :=
  (entries compiler entity filter).filterMap fun entry =>
    computedField? (compiler.resolver entry.entity) entry.key

/-- The elements of a list behind `_or` and `_not`, each with its entity. -/
def Entry.alternatives (compiler : Compiler) (entry : Entry) : List (Entity × Members) :=
  match role (compiler.resolver entry.entity) entry.key, entry.value with
  | .combinator .and, _ => []
  | .combinator _, .array items => (items.filterMap Json.asObject?).map (entry.entity, ·)
  | _, _ => []

theorem Entry.mem_alternatives {compiler : Compiler} {entity : Entity} {key : String}
    {combinator : Combinator} {items : List Json} {inner : Members}
    (role : role (compiler.resolver entity) key = .combinator combinator)
    (other : combinator ≠ .and) (listed : .object inner ∈ items) :
    (entity, inner) ∈ Entry.alternatives compiler ⟨entity, key, .array items⟩ := by
  have object : inner ∈ items.filterMap Json.asObject? :=
    List.mem_filterMap.mpr ⟨.object inner, listed, rfl⟩
  cases combinator with
  | and => exact (other rfl).elim
  | or | not => simpa [Entry.alternatives, role] using object

def alternatives (compiler : Compiler) (entity : Entity) (filter : Members) :
    List (Entity × Members) :=
  (entries compiler entity filter).flatMap (Entry.alternatives compiler)

/-! ## Tallies -/

structure Tally where
  vacuous : Bool := false
  binds : Bool := false
  /-- A literal is bound that no part of the statement compares with. -/
  wastes : Bool := false
  deriving DecidableEq

def Tally.all (tallies : List Tally) : Tally where
  vacuous := tallies.all Tally.vacuous
  binds := tallies.any Tally.binds
  wastes := tallies.any Tally.wastes

/-- Alternatives are dropped as soon as one of them demands nothing. -/
def Tally.combined (combinator : Combinator) (tallies : List Tally) : Tally :=
  if tallies.isEmpty then { vacuous := true }
  else
    match combinator with
    | .and => Tally.all tallies
    | combinator =>
        { vacuous := combinator = .or && tallies.any Tally.vacuous
          binds := tallies.any Tally.binds
          wastes :=
            tallies.any Tally.wastes ||
              tallies.any Tally.vacuous && tallies.any Tally.binds }

def bindsOperand (operator : Operator) (operand : Json) : Bool :=
  match operator.test operand with
  | .ok test => !test.slots.isEmpty
  | .error _ => false

def tallyOperators (operators : List (String × Json)) : Tally where
  vacuous := operators.isEmpty
  binds := operators.any fun entry => (Operator.ofName? entry.1).any (bindsOperand · entry.2)

def tallyLeaf (value : Json) : FilterRole → Tally
  | .field _ => { binds := bindsOperand .eq value }
  | .suffixed _ _ operator => { binds := bindsOperand operator value }
  | _ => {}

mutual

def tallies (compiler : Compiler) (entity : Entity) : List (String × Json) → List Tally
  | [] => []
  | (key, value) :: rest =>
      tallyEntry compiler entity key value :: tallies compiler entity rest

def tallyEntry (compiler : Compiler) (entity : Entity) (key : String) : Json → Tally
  | .object inner =>
      match role (compiler.resolver entity) key with
      | .combinator combinator =>
          Tally.combined combinator [Tally.all (tallies compiler entity inner)]
      | .relation property =>
          match compiler.provider.entity property.typeName with
          | .ok child => { Tally.all (tallies compiler child inner) with vacuous := false }
          | .error _ => {}
      | .field _ => tallyOperators inner
      | role => tallyLeaf (.object inner) role
  | .array items =>
      match role (compiler.resolver entity) key with
      | .combinator combinator => Tally.combined combinator (talliesOfAll compiler entity items)
      | role => tallyLeaf (.array items) role
  | value => tallyLeaf value (role (compiler.resolver entity) key)

def talliesOfAll (compiler : Compiler) (entity : Entity) : List Json → List Tally
  | [] => []
  | item :: rest => tallyOf compiler entity item :: talliesOfAll compiler entity rest

def tallyOf (compiler : Compiler) (entity : Entity) : Json → Tally
  | .object inner => Tally.all (tallies compiler entity inner)
  | _ => {}

end

def tally (compiler : Compiler) (entity : Entity) (filter : Members) : Tally :=
  Tally.all (tallies compiler entity filter)

/-! ## Parts -/

inductive Part where
  | members (members : List (String × Json))
  | entry (key : String) (value : Json)
  | elements (items : List Json)

namespace Part

def entries (compiler : Compiler) (entity : Entity) : Part → List Entry
  | .members list => Filter.entries compiler entity list
  | .entry key value => ⟨entity, key, value⟩ :: entriesWithin compiler entity key value
  | .elements items => entriesOfAll compiler entity items

def tallies (compiler : Compiler) (entity : Entity) : Part → List Tally
  | .members list => Filter.tallies compiler entity list
  | .entry key value => [tallyEntry compiler entity key value]
  | .elements items => talliesOfAll compiler entity items

variable {compiler : Compiler} {entity : Entity} {key : String}

theorem entries_members (value : Json) (rest : List (String × Json)) :
    (members ((key, value) :: rest)).entries compiler entity =
      (entry key value).entries compiler entity ++ (members rest).entries compiler entity := by
  simp only [entries, Filter.entries, List.cons_append]

theorem entries_elements (inner : List (String × Json)) (rest : List Json) :
    (elements (.object inner :: rest)).entries compiler entity =
      (members inner).entries compiler entity ++ (elements rest).entries compiler entity := by
  simp only [entries, entriesOfAll, entriesOf]

theorem entries_list {combinator : Combinator}
    (role : role (compiler.resolver entity) key = .combinator combinator) (items : List Json) :
    (entry key (.array items)).entries compiler entity =
      ⟨entity, key, .array items⟩ :: (elements items).entries compiler entity := by
  simp only [entries, entriesWithin, role]

theorem entries_object {combinator : Combinator}
    (role : role (compiler.resolver entity) key = .combinator combinator)
    (inner : List (String × Json)) :
    (entry key (.object inner)).entries compiler entity =
      ⟨entity, key, .object inner⟩ ::
        (elements [.object inner]).entries compiler entity := by
  simp only [entries, entriesWithin, role, entriesOfAll, entriesOf, List.append_nil]

theorem entries_related {property : Property} {child : Entity}
    (role : role (compiler.resolver entity) key = .relation property)
    (found : compiler.provider.entity property.typeName = .ok child)
    (inner : List (String × Json)) :
    (entry key (.object inner)).entries compiler entity =
      ⟨entity, key, .object inner⟩ :: (members inner).entries compiler child := by
  simp only [entries, entriesWithin, role, found]

end Part

end Filter

/-! ## Selections and queries -/

def Arguments.computedFields (compiler : Compiler) (entity : Entity) (given : Arguments) :
    List ComputedField :=
  given.filter.toList.flatMap (Filter.computedFields compiler entity) ++
    ((given.pagination.map Pagination.order).getD []).filterMap fun term =>
      (compiler.resolver entity).computedField? term.field

namespace Selection

mutual

def nodes (compiler : Compiler) (entity : Entity) : Selection → List (Entity × Selection)
  | ⟨fields, arguments⟩ => (entity, ⟨fields, arguments⟩) :: fieldNodes compiler entity fields

def fieldNodes (compiler : Compiler) (entity : Entity) :
    List (String × FieldNode) → List (Entity × Selection)
  | [] => []
  | (key, wanted) :: rest =>
      nodesOf compiler entity key wanted ++ fieldNodes compiler entity rest

def nodesOf (compiler : Compiler) (entity : Entity) (key : String) :
    FieldNode → List (Entity × Selection)
  | .leaf => []
  | .nested selection =>
      match compiler.related? entity key with
      | some child => nodes compiler child selection
      | none => []

end

def filter? (selection : Selection) : Option Members :=
  selection.arguments.bind Arguments.filter

theorem filter?_eq (selection : Selection) :
    selection.filter? = (selection.arguments.getD {}).filter := by
  unfold filter?
  cases selection.arguments <;> rfl

def computedFields (compiler : Compiler) (node : Entity × Selection) : List ComputedField :=
  (node.2.fields.filterMap fun field => (compiler.resolver node.1).computedField? field.1) ++
    (node.2.arguments.getD {}).computedFields compiler node.1

end Selection

namespace Query

def nodes (compiler : Compiler) (query : Query) : List (Entity × Selection) :=
  match compiler.provider.entity query.entity with
  | .ok entity => query.selection.nodes compiler entity
  | .error _ => []

def filters (compiler : Compiler) (query : Query) : List (Entity × Members) :=
  (match compiler.provider.entity query.entity with
    | .ok entity => query.filter.toList.map (entity, ·)
    | .error _ => []) ++
    (query.nodes compiler).flatMap fun node => node.2.filter?.toList.map (node.1, ·)

def computedFields (compiler : Compiler) (query : Query) : List ComputedField :=
  match compiler.provider.entity query.entity with
  | .ok entity =>
      Arguments.computedFields compiler entity ⟨query.filter, query.pagination⟩ ++
        (query.selection.nodes compiler entity).flatMap (Selection.computedFields compiler)
  | .error _ => []

def alternatives (compiler : Compiler) (query : Query) : List (Entity × Members) :=
  (query.filters compiler).flatMap fun filter =>
    Filter.alternatives compiler filter.1 filter.2

/-- Whether the query binds a literal in vain. -/
def wastes (compiler : Compiler) (query : Query) : Bool :=
  (query.filters compiler).any fun filter => (Filter.tally compiler filter.1 filter.2).wastes

end Query

end TreeQuery
