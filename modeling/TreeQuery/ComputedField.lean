import TreeQuery.Json.Basic

/-!
Computed fields: fields whose value is worked out from columns after the rows have been read.

A node with computed fields also returns its columns under the key `rawKey`, for the resolvers of
these fields to read.
-/

namespace TreeQuery

/-- The hidden key under which a node returns the columns that its computed fields need. -/
def rawKey : String := "__raw"

structure ComputedField where
  name : String
  columns : List String
  resolve : Members → Json

/-- Computed fields by entity; of two with the same entity and name the later counts. -/
structure ComputedFields where
  fields : List (String × ComputedField) := []

namespace ComputedFields

def register (entity : String) (field : ComputedField) (registry : ComputedFields) :
    ComputedFields :=
  ⟨(entity, field) :: registry.fields⟩

def get? (registry : ComputedFields) (entity name : String) : Option ComputedField :=
  (registry.fields.find? fun entry => entry.1 == entity && entry.2.name == name).map (·.2)

def hasFields (registry : ComputedFields) (entity : String) : Bool :=
  registry.fields.any fun entry => entry.1 == entity

def isEmpty (registry : ComputedFields) : Bool := registry.fields.isEmpty

end ComputedFields

end TreeQuery
