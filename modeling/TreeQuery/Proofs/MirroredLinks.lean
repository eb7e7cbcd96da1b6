import TreeQuery.Catalog.Link

/-!
# Both sides of a relation

The side that is mapped by a relation first looks for the property that holds its columns
and checks that this property refers back and is of the right kind.  From there on both
sides take the columns, their defaults and the checks of their number from the owner, by
the same `owningColumns` or `pivotColumns`.  So they give one link, read from the one side
and from the other, and they fail for the same reasons.
-/

namespace TreeQuery

/--
The inverse property is mapped by a property that the owner declares and that refers to
the target; both are of one kind, singular or through a pivot table.
-/
structure Sides (owner : Entity) (owning : Property) (target : Entity) (inverse : Property) :
    Prop where
  declared : owner.property? owning.name = some owning
  refers : owning.typeName = target.name
  mapped : inverse.mappedBy = some owning.name
  kinds :
    owning.isOwningSingular = true ∧
        (inverse.reference = .oneToMany ∨ inverse.reference = .oneToOne) ∨
      owning.reference = .manyToMany ∧ owning.mappedBy = none ∧ inverse.reference = .manyToMany

namespace Link

def mirror : Link → Link
  | .direct parentColumns childColumns => .direct childColumns parentColumns
  | .pivot table parentColumns pivotParentColumns pivotChildColumns childColumns =>
      .pivot table childColumns pivotChildColumns pivotParentColumns parentColumns

variable {owner target : Entity} {owning inverse : Property}

theorem mappedOwner_of_declared (declared : owner.property? owning.name = some owning)
    (refers : owning.typeName = target.name) :
    mappedOwner target owner owning.name = .ok owning := by
  have required : owner.requireProperty owning.name = .ok owning := by
    simp [Entity.requireProperty, declared]
  simp [mappedOwner, required, refers, bind, Except.bind, pure, Except.pure]

/-! ## References to one row -/

theorem resolve_of_isOwningSingular (owns : owning.isOwningSingular = true) :
    resolve owner owning target = Link.owning owner owning target := by
  unfold Property.isOwningSingular at owns
  unfold resolve
  cases reference : owning.reference with
  | manyToOne => rfl
  | oneToOne =>
      rw [reference] at owns
      simp [owns]
  | scalar | oneToMany | manyToMany =>
      rw [reference] at owns
      cases owns

theorem resolve_of_mapped {owner : String} (mapped : inverse.mappedBy = some owner)
    (kind : inverse.reference = .oneToMany ∨ inverse.reference = .oneToOne)
    (parent child : Entity) :
    resolve parent inverse child = Link.inverse parent inverse child := by
  rcases kind with reference | reference <;> simp [resolve, reference, mapped]

theorem inverse_eq_mirror (declared : owner.property? owning.name = some owning)
    (refers : owning.typeName = target.name) (mapped : inverse.mappedBy = some owning.name)
    (owns : owning.isOwningSingular = true) :
    Link.inverse target inverse owner = (Link.owning owner owning target).map mirror := by
  have found := mappedOwner_of_declared declared refers
  unfold Link.inverse Link.owning
  simp only [mapped, found, owns, bind, Except.bind, Bool.not_true, Bool.false_eq_true, if_false]
  cases owningColumns owner owning target with
  | error error => rfl
  | ok columns => rfl

/-! ## References through a pivot table -/

theorem throughPivot_eq_mirror (declared : owner.property? owning.name = some owning)
    (refers : owning.typeName = target.name) (mapped : inverse.mappedBy = some owning.name)
    (plural : owning.reference = .manyToMany) (unmapped : owning.mappedBy = none) :
    throughPivot target inverse owner = (throughPivot owner owning target).map mirror := by
  have found := mappedOwner_of_declared declared refers
  unfold throughPivot
  simp only [mapped, unmapped, found, plural, bind, Except.bind, Option.isSome_none, ne_eq,
    not_true_eq_false, Bool.false_eq_true, or_self, if_false]
  cases pivotColumns owner owning target with
  | error error => rfl
  | ok columns => rfl

/-! ## Both kinds -/

theorem resolve_eq_mirror (sides : Sides owner owning target inverse) :
    resolve target inverse owner = (resolve owner owning target).map mirror := by
  obtain ⟨declared, refers, mapped, kinds⟩ := sides
  rcases kinds with ⟨owns, kind⟩ | ⟨plural, unmapped, kind⟩
  · rw [resolve_of_mapped mapped kind, resolve_of_isOwningSingular owns]
    exact inverse_eq_mirror declared refers mapped owns
  · have through : ∀ (parent child : Entity) (property : Property),
        property.reference = .manyToMany →
          resolve parent property child = throughPivot parent property child := by
      intro parent child property reference
      simp [resolve, reference]
    rw [through _ _ _ kind, through _ _ _ plural]
    exact throughPivot_eq_mirror declared refers mapped plural unmapped

/--
The inverse side of a relation resolves exactly if the owning side does, and then to the
same link with the columns of parent and child exchanged.
-/
theorem sides_resolve_alike (sides : Sides owner owning target inverse) :
    ((∃ link, resolve target inverse owner = .ok link) ↔
        ∃ link, resolve owner owning target = .ok link) ∧
      ∀ link, resolve owner owning target = .ok link →
        resolve target inverse owner = .ok link.mirror := by
  have same := resolve_eq_mirror sides
  cases resolved : resolve owner owning target with
  | error error =>
      rw [resolved] at same
      simp [same, Except.map]
  | ok link =>
      rw [resolved] at same
      simp [same, Except.map]

end Link

namespace Sample

def host : Entity :=
  { name := "Host"
    table := "host"
    primaryKeys := ["realm", "number"]
    properties :=
      [.ofColumn "realm" "text" "realm", .ofColumn "number" "int" "number",
        (Property.ofReference "allies" "Host" .manyToMany).withPivot "alliance"
          ["realm", "number"] ["ally_realm", "ally_number"],
        (Property.ofReference "alliedBy" "Host" .manyToMany).withMappedBy "allies"] }

theorem sides_resolve_alike_alliance :
    ∃ allies alliedBy, host.property? "allies" = some allies ∧
      host.property? "alliedBy" = some alliedBy ∧ Sides host allies host alliedBy ∧
      Link.resolve host alliedBy host =
        .ok (.pivot "alliance" ["realm", "number"] ["ally_realm", "ally_number"]
          ["realm", "number"] ["realm", "number"]) := by
  refine ⟨_, _, rfl, rfl, ?_⟩
  have sides : Sides host
      ((Property.ofReference "allies" "Host" .manyToMany).withPivot "alliance"
        ["realm", "number"] ["ally_realm", "ally_number"]) host
      ((Property.ofReference "alliedBy" "Host" .manyToMany).withMappedBy "allies") :=
    ⟨rfl, rfl, rfl, .inr ⟨rfl, rfl, rfl⟩⟩
  exact ⟨sides, (Link.sides_resolve_alike sides).2 _ rfl⟩

end Sample

end TreeQuery
