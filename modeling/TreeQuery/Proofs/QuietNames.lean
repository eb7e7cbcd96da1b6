import Mathlib.Data.List.TakeDrop
import TreeQuery.Proofs.Registry
import TreeQuery.Proofs.Requests
import TreeQuery.Proofs.Scanning

/-!
# Names without quotes and colons

The names of an accepted registry are identifiers, so they hold no quote and no
colon.  The same is true of the columns by which two entities of the registry are
linked, and of the columns behind every key that names a property.
-/

namespace TreeQuery

theorem isQuiet_of_identifierChars {name : String}
    (each : ∀ c ∈ name.toList, isIdentifierChar c = true ∨ c = '.') : isQuiet name = true := by
  refine List.all_eq_true.mpr fun c member => ?_
  rcases each c member with identifier | rfl
  · have quote : c ≠ '\'' := by
      rintro rfl
      exact absurd identifier (by decide)
    have colon : c ≠ ':' := by
      rintro rfl
      exact absurd identifier (by decide)
    simp [quote, colon]
  · decide

theorem identifierChars {text : List Char} (identifier : isIdentifier text = true) :
    ∀ c ∈ text, isIdentifierChar c = true := by
  cases text with
  | nil => simp
  | cons first rest =>
      obtain ⟨start, others⟩ := (Bool.and_eq_true _ _).mp identifier
      intro c member
      rcases List.mem_cons.mp member with rfl | later
      · simp [isIdentifierChar, start]
      · exact List.all_eq_true.mp others c later

theorem isQuiet_of_isIdentifier {name : String} (identifier : isIdentifier name.toList = true) :
    isQuiet name = true :=
  isQuiet_of_identifierChars fun c member => .inl (identifierChars identifier c member)

theorem isQuiet_of_isTableIdentifier {name : String}
    (identifier : isTableIdentifier name.toList = true) : isQuiet name = true := by
  refine isQuiet_of_identifierChars fun c member => ?_
  unfold isTableIdentifier at identifier
  rw [List.span_eq_takeWhile_dropWhile] at identifier
  have whole := List.takeWhile_append_dropWhile (p := fun c => decide (c ≠ '.')) (l := name.toList)
  rw [← whole, List.mem_append] at member
  cases rest : name.toList.dropWhile (fun c => decide (c ≠ '.')) with
  | nil =>
      simp only [rest] at identifier
      rcases member with before | after
      · exact .inl (identifierChars identifier c before)
      · rw [rest] at after
        simp at after
  | cons dot table =>
      simp only [rest, Bool.and_eq_true] at identifier
      rcases member with before | after
      · exact .inl (identifierChars identifier.1 c before)
      · rw [rest] at after
        rcases List.mem_cons.mp after with rfl | later
        · have stopped := List.head?_dropWhile_not (fun c => decide (c ≠ '.')) name.toList
          rw [rest] at stopped
          exact .inr (by simpa using stopped)
        · exact .inl (identifierChars identifier.2 c later)

/-! ## Entities and links -/

def Property.isQuiet (property : Property) : Bool :=
  (Registry.namedColumns property).all TreeQuery.isQuiet &&
    property.pivotTable.all TreeQuery.isQuiet

def Entity.isQuiet (entity : Entity) : Bool :=
  TreeQuery.isQuiet entity.table && entity.primaryKeys.all TreeQuery.isQuiet &&
    entity.properties.all Property.isQuiet

def ComputedField.isQuiet (field : ComputedField) : Bool := field.columns.all TreeQuery.isQuiet

theorem Property.isQuiet_iff {property : Property} :
    property.isQuiet = true ↔
      property.columns.all TreeQuery.isQuiet = true ∧
      property.joinColumns.all TreeQuery.isQuiet = true ∧
      property.referencedColumns.all TreeQuery.isQuiet = true ∧
      property.inverseJoinColumns.all TreeQuery.isQuiet = true ∧
      ∀ table ∈ property.pivotTable, TreeQuery.isQuiet table = true := by
  simp only [Property.isQuiet, Registry.namedColumns, List.all_append, Bool.and_eq_true,
    and_assoc]
  cases property.pivotTable <;> simp

theorem Entity.isQuiet_iff {entity : Entity} :
    entity.isQuiet = true ↔
      TreeQuery.isQuiet entity.table = true ∧
      entity.primaryKeys.all TreeQuery.isQuiet = true ∧
      ∀ property ∈ entity.properties, property.isQuiet = true := by
  simp only [Entity.isQuiet, Bool.and_eq_true, List.all_eq_true, and_assoc]

namespace Registry

theorem isQuiet_of_checkProperty {registry : Registry} {entity : Entity} {property : Property}
    (checked : checkProperty registry entity property = .ok ()) : property.isQuiet = true := by
  obtain ⟨columns, pivot⟩ := identifiers_of_checkProperty checked
  refine (Bool.and_eq_true _ _).mpr ⟨List.all_eq_true.mpr fun column member => ?_, ?_⟩
  · exact isQuiet_of_isIdentifier (columns column member)
  · cases table : property.pivotTable with
    | none => rfl
    | some name => exact isQuiet_of_isTableIdentifier (pivot name table)

theorem isQuiet_of_accepted {entities : List Entity} {registry : Registry}
    (accepted : ofEntities entities = .ok registry) {name : String} {entity : Entity}
    (found : registry.entity name = .ok entity) : entity.isQuiet = true := by
  obtain ⟨rfl, checked⟩ := ofEntities_ok accepted
  obtain ⟨table, keys, -, properties⟩ :=
    checkEntity_ok.mp (checked entity (mem_of_entity found))
  refine Entity.isQuiet_iff.mpr ⟨isQuiet_of_isTableIdentifier table, ?_, ?_⟩
  · exact List.all_eq_true.mpr fun column member => isQuiet_of_isIdentifier (keys column member)
  · exact fun property member => isQuiet_of_checkProperty (properties property member)

end Registry

def Link.isQuiet : Link → Bool
  | .direct parentColumns childColumns =>
      parentColumns.all TreeQuery.isQuiet && childColumns.all TreeQuery.isQuiet
  | .pivot table parentColumns pivotParentColumns pivotChildColumns childColumns =>
      TreeQuery.isQuiet table && parentColumns.all TreeQuery.isQuiet &&
        pivotParentColumns.all TreeQuery.isQuiet && pivotChildColumns.all TreeQuery.isQuiet &&
        childColumns.all TreeQuery.isQuiet

namespace Link

variable {parent child : Entity} {property : Property} {link : Link}

theorem owningColumns_isQuiet {owner target : Entity} {columns : List String × List String}
    (quiet : property.isQuiet = true) (targetQuiet : target.isQuiet = true)
    (found : owningColumns owner property target = .ok columns) :
    columns.1.all TreeQuery.isQuiet = true ∧ columns.2.all TreeQuery.isQuiet = true := by
  obtain ⟨-, join, referenced, -⟩ := Property.isQuiet_iff.mp quiet
  obtain ⟨-, keys, -⟩ := Entity.isQuiet_iff.mp targetQuiet
  unfold owningColumns at found
  split at found
  · cases found
  · simp only [Except.seq_ok] at found
    obtain ⟨-, result⟩ := found
    cases result
    refine ⟨join, ?_⟩
    simp only [Link.referenced]
    split
    · exact keys
    · exact referenced

theorem pivotColumns_isQuiet {owner target : Entity}
    {columns : String × List String × List String} (quiet : property.isQuiet = true)
    (found : pivotColumns owner property target = .ok columns) :
    TreeQuery.isQuiet columns.1 = true ∧ columns.2.1.all TreeQuery.isQuiet = true ∧
      columns.2.2.all TreeQuery.isQuiet = true := by
  obtain ⟨-, join, -, inverse, pivot⟩ := Property.isQuiet_iff.mp quiet
  unfold pivotColumns at found
  split at found
  · cases found
  · rename_i table given
    simp only [Except.seq_ok] at found
    obtain ⟨-, -, result⟩ := found
    cases result
    exact ⟨pivot table given, join, inverse⟩

theorem mappedOwner_isQuiet {mappedBy : String} {owner : Property}
    (quiet : child.isQuiet = true) (found : mappedOwner parent child mappedBy = .ok owner) :
    owner.isQuiet = true := by
  simp only [mappedOwner, Except.bind_ok] at found
  obtain ⟨property, required, result⟩ := found
  split at result
  · cases result
  · cases result
    unfold Entity.requireProperty at required
    split at required
    · rename_i listed
      cases required
      exact (Entity.isQuiet_iff.mp quiet).2.2 _ (List.mem_of_find?_eq_some listed)
    · cases required

theorem owning_isQuiet (quiet : property.isQuiet = true) (childQuiet : child.isQuiet = true)
    (found : owning parent property child = .ok link) : link.isQuiet = true := by
  simp only [owning, Except.bind_ok] at found
  obtain ⟨columns, given, result⟩ := found
  cases result
  have both := owningColumns_isQuiet quiet childQuiet given
  simp [Link.isQuiet, both]

theorem inverse_isQuiet (parentQuiet : parent.isQuiet = true) (childQuiet : child.isQuiet = true)
    (found : inverse parent property child = .ok link) : link.isQuiet = true := by
  unfold inverse at found
  split at found
  · cases found
  · simp only [Except.bind_ok] at found
    obtain ⟨owner, mapped, found⟩ := found
    split at found
    · cases found
    · obtain ⟨columns, given, result⟩ := Except.bind_ok.mp found
      cases result
      -- the columns are those of the property on the other side
      have both := owningColumns_isQuiet (mappedOwner_isQuiet childQuiet mapped) parentQuiet given
      simp [Link.isQuiet, both]

theorem throughPivot_isQuiet (parentQuiet : parent.isQuiet = true)
    (quiet : property.isQuiet = true) (childQuiet : child.isQuiet = true)
    (found : throughPivot parent property child = .ok link) : link.isQuiet = true := by
  obtain ⟨-, parentKeys, -⟩ := Entity.isQuiet_iff.mp parentQuiet
  obtain ⟨-, childKeys, -⟩ := Entity.isQuiet_iff.mp childQuiet
  unfold throughPivot at found
  split at found
  · obtain ⟨columns, given, result⟩ := Except.bind_ok.mp found
    cases result
    have all := pivotColumns_isQuiet quiet given
    simp [Link.isQuiet, all, parentKeys, childKeys]
  · simp only [Except.bind_ok] at found
    obtain ⟨owner, mapped, found⟩ := found
    split at found
    · cases found
    · obtain ⟨columns, given, result⟩ := Except.bind_ok.mp found
      cases result
      have all := pivotColumns_isQuiet (mappedOwner_isQuiet childQuiet mapped) given
      simp [Link.isQuiet, all, parentKeys, childKeys]

theorem resolve_isQuiet (parentQuiet : parent.isQuiet = true) (quiet : property.isQuiet = true)
    (childQuiet : child.isQuiet = true)
    (resolved : Link.resolve parent property child = .ok link) : link.isQuiet = true := by
  unfold Link.resolve at resolved
  split at resolved
  · cases resolved
  · exact owning_isQuiet quiet childQuiet resolved
  · split at resolved
    · exact owning_isQuiet quiet childQuiet resolved
    · exact inverse_isQuiet parentQuiet childQuiet resolved
  · exact inverse_isQuiet parentQuiet childQuiet resolved
  · exact throughPivot_isQuiet parentQuiet quiet childQuiet resolved

end Link

/-! ## Keys -/

namespace Resolver

variable {resolver : Resolver} {key : String}

theorem mem_of_resolve {property : Property}
    (resolved : resolver.resolve key = some (.property property)) :
    property ∈ resolver.entity.properties := by
  have listed : ∀ {name found}, resolver.entity.property? name = some found →
      found ∈ resolver.entity.properties := fun h => List.mem_of_find?_eq_some h
  unfold resolve at resolved
  cases exact : resolver.entity.property? key with
  | some found =>
      simp only [exact, Option.map_some, HOrElse.hOrElse, OrElse.orElse,
        Option.orElse, Option.some.injEq, Field.property.injEq] at resolved
      exact resolved ▸ listed exact
  | none =>
      cases toggled : resolver.otherCase? key with
      | some found =>
          simp only [exact, toggled, Option.map_some, Option.map_none, HOrElse.hOrElse,
            OrElse.orElse, Option.orElse, Option.some.injEq, Field.property.injEq] at resolved
          unfold otherCase? at toggled
          split at toggled
          · obtain ⟨other, -, found⟩ := Option.bind_eq_some_iff.mp toggled
            exact resolved ▸ listed found
          · cases toggled
      | none =>
          simp only [exact, toggled, Option.map_none, HOrElse.hOrElse, OrElse.orElse,
            Option.orElse, Option.map_eq_some_iff] at resolved
          obtain ⟨field, -, other⟩ := resolved
          cases other

theorem isQuiet_columns {field : Field} (resolved : resolver.resolve key = some field)
    (quiet : resolver.entity.isQuiet = true)
    (computed : ∀ found ∈ resolver.computedField? key, found.isQuiet = true) :
    field.columns.all isQuiet = true := by
  cases field with
  | property property =>
      have listed := (Entity.isQuiet_iff.mp quiet).2.2 property (mem_of_resolve resolved)
      exact (Property.isQuiet_iff.mp listed).1
  | computed found => exact computed found (by simp [computedField?, resolved])

end Resolver

namespace Filter

variable {resolver : Resolver} {key : String}

theorem role_cases (resolver : Resolver) (key : String) :
    (∃ field, resolver.resolve key = some field ∧ role resolver key = fieldRole field ∧
      computedField? resolver key = resolver.computedField? key) ∨
    (∃ stem field operator, resolver.resolve stem = some field ∧
      role resolver key = .suffixed stem field.columns operator ∧
      computedField? resolver key = resolver.computedField? stem) ∨
    (∃ combinator, role resolver key = .combinator combinator) ∨
    (∃ stem, role resolver key = .suffixedRelation stem) ∨ role resolver key = .unknown := by
  cases combined : Combinator.ofKey? key with
  | some combinator => exact .inr (.inr (.inl ⟨combinator, by simp [role, combined]⟩))
  | none =>
      cases resolved : resolver.resolve key with
      | some field =>
          refine .inl ⟨field, rfl, by simp [role, combined, resolved], ?_⟩
          cases field <;> simp [computedField?, combined, resolved, Resolver.computedField?]
      | none =>
          have suffix : role resolver key = suffixedRole resolver key := by
            simp [role, combined, resolved]
          rw [suffix]
          unfold suffixedRole
          cases split : Operator.splitKey? key with
          | none => exact .inr (.inr (.inr (.inr rfl)))
          | some parts =>
              cases named : resolver.resolve parts.1 with
              | none => exact .inr (.inr (.inr (.inr (by simp only [named]))))
              | some field =>
                  cases related : field.isRelation with
                  | true =>
                      exact .inr (.inr (.inr (.inl
                        ⟨parts.1, by simp only [named, related, if_true]⟩)))
                  | false =>
                      refine .inr (.inl ⟨parts.1, field, parts.2, named, ?_, ?_⟩)
                      · simp only [named, related, Bool.false_eq_true, if_false]
                      · simp [computedField?, combined, resolved, split]

theorem isQuiet_of_role_field {columns : List String}
    (named : role resolver key = .field columns) (quiet : resolver.entity.isQuiet = true)
    (computed : ∀ found ∈ computedField? resolver key, found.isQuiet = true) :
    columns.all isQuiet = true := by
  rcases role_cases resolver key with ⟨field, resolved, h, same⟩ | ⟨_, _, _, _, h, -⟩ |
    ⟨_, h⟩ | ⟨_, h⟩ | h <;> rw [h] at named
  · have all := Resolver.isQuiet_columns resolved quiet (same ▸ computed)
    cases field with
    | property property =>
        simp only [fieldRole] at named
        split at named
        · cases named
        · cases named
          exact all
    | computed found =>
        cases named
        exact all
  all_goals cases named

theorem isQuiet_of_role_suffixed {stem : String} {columns : List String} {operator : Operator}
    (named : role resolver key = .suffixed stem columns operator)
    (quiet : resolver.entity.isQuiet = true)
    (computed : ∀ found ∈ computedField? resolver key, found.isQuiet = true) :
    columns.all isQuiet = true := by
  rcases role_cases resolver key with ⟨field, -, h, -⟩ | ⟨_, _, _, resolved, h, same⟩ |
    ⟨_, h⟩ | ⟨_, h⟩ | h <;> rw [h] at named
  · cases field with
    | property property =>
        simp only [fieldRole] at named
        split at named <;> cases named
    | computed found => cases named
  · cases named
    exact Resolver.isQuiet_columns resolved quiet (same ▸ computed)
  all_goals cases named

theorem resolve_of_role_relation {property : Property}
    (named : role resolver key = .relation property) :
    resolver.resolve key = some (.property property) ∧ property.isRelation = true := by
  rcases role_cases resolver key with ⟨field, resolved, h, -⟩ | ⟨_, _, _, _, h, -⟩ |
    ⟨_, h⟩ | ⟨_, h⟩ | h <;> rw [h] at named
  · cases field with
    | property found =>
        simp only [fieldRole] at named
        split at named
        · rename_i relation
          cases named
          exact ⟨resolved, relation⟩
        · cases named
    | computed found => cases named
  all_goals cases named

theorem mem_of_role_relation {property : Property}
    (named : role resolver key = .relation property) :
    property ∈ resolver.entity.properties :=
  Resolver.mem_of_resolve (resolve_of_role_relation named).1

end Filter

end TreeQuery
