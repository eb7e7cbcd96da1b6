import TreeQuery.Catalog.Entity
import TreeQuery.ComputedField
import TreeQuery.Text.LetterCase

/-!
What a key of a request names: a property of the entity, spelled exactly or with its first letter
in the other case, or a computed field.  A property hides a computed field.
-/

namespace TreeQuery

inductive Field where
  | property (property : Property)
  | computed (field : ComputedField)

namespace Field

def name : Field → String
  | .property found => found.name
  | .computed found => found.name

def columns : Field → List String
  | .property found => found.columns
  | .computed found => found.columns

def isRelation : Field → Bool
  | .property found => found.isRelation
  | .computed _ => false

end Field

structure Resolver where
  entity : Entity
  caseFallback : Bool
  computed : ComputedFields

namespace Resolver

def otherCase? (resolver : Resolver) (key : String) : Option Property :=
  if resolver.caseFallback then (Text.toggleFirst? key).bind resolver.entity.property? else none

def resolve (resolver : Resolver) (key : String) : Option Field :=
  (resolver.entity.property? key).map Field.property <|>
    (resolver.otherCase? key).map Field.property <|>
    (resolver.computed.get? resolver.entity.name key).map Field.computed

def scalarColumns? (resolver : Resolver) (key : String) : Option (List String) :=
  (resolver.resolve key).bind fun field => if field.isRelation then none else some field.columns

end Resolver

end TreeQuery
