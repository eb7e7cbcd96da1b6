import TreeQuery.Statement

/-!
# A small catalog

People who may belong to a fellowship and may have fought in battles: one
singular, one plural and one pivot relation.  The witnesses of general theorems
are about requests on this catalog.
-/

namespace TreeQuery.Sample

def person : Entity :=
  { name := "Person"
    table := "person"
    primaryKeys := ["id"]
    properties :=
      [.ofColumn "id" "int" "id", .ofColumn "name" "text" "name",
        (Property.ofReference "fellowship" "Fellowship" .manyToOne).withJoinColumns
          ["fellowship_id"],
        (Property.ofReference "battles" "Battle" .manyToMany).withPivot "warrior"
          ["person_id"] ["battle_id"]] }

def fellowship : Entity :=
  { name := "Fellowship"
    table := "fellowship"
    primaryKeys := ["id"]
    properties :=
      [.ofColumn "id" "int" "id", .ofColumn "name" "text" "name",
        (Property.ofReference "members" "Person" .oneToMany).withMappedBy "fellowship"] }

def battle : Entity :=
  { name := "Battle"
    table := "battle"
    primaryKeys := ["id"]
    properties := [.ofColumn "id" "int" "id", .ofColumn "name" "text" "name"] }

def registry : Registry := ⟨[person, fellowship, battle]⟩

theorem registry_accepted :
    Registry.ofEntities [person, fellowship, battle] = .ok registry := by
  rfl

def compiler : Compiler := { provider := registry.provider }

def root : Node := ⟨person, ⟨.entity, "t", 1⟩⟩

def started : Context := { supply := (Sql.Supply.start "t" {}).2 }

theorem exists_ok {α : Type} {outcome : Except CompileError α}
    (succeeds : outcome.isOk = true) : ∃ value, outcome = .ok value := by
  cases outcome with
  | ok value => exact ⟨value, rfl⟩
  | error error => cases succeeds

theorem exists_statement {compiler : Compiler} {query : Query}
    (succeeds : (compiler.compile query).isOk = true) :
    ∃ statement, compiler.compile query = .ok statement :=
  exists_ok succeeds

end TreeQuery.Sample
