import Mathlib.Computability.Language
import Mathlib.Data.List.TakeWhile
import TreeQuery.Proofs.Registry
import TreeQuery.Proofs.Sample

/-!
# Catalogs that are accepted

A registry goes through its entities and their properties and stops at the first
fault.  What it accepts is said here without an order: names follow a regular
expression, keys and scalars are backed by columns, and relations lead to entities of
the catalog.  So it does not matter in which order entities and properties come.
-/

namespace TreeQuery

open scoped Computability

/-! ## Names -/

def oneOf (accepts : Char → Bool) : Language Char := {word | ∃ c, accepts c = true ∧ word = [c]}

/-- `[A-Za-z_][A-Za-z0-9_]*` -/
def identifierPattern : Language Char :=
  oneOf (fun c => c.isAlpha || c == '_') * (oneOf fun c => c.isAlphanum || c == '_')∗

def tablePattern : Language Char :=
  identifierPattern + identifierPattern * oneOf (· == '.') * identifierPattern

theorem mem_oneOf {accepts : Char → Bool} {word : List Char} :
    word ∈ oneOf accepts ↔ ∃ c, accepts c = true ∧ word = [c] := Iff.rfl

theorem mem_kstar_oneOf {accepts : Char → Bool} {word : List Char} :
    word ∈ (oneOf accepts)∗ ↔ ∀ c ∈ word, accepts c = true := by
  rw [Language.mem_kstar]
  constructor
  · rintro ⟨parts, rfl, each⟩ c member
    obtain ⟨part, listed, inside⟩ := List.mem_flatten.mp member
    obtain ⟨only, accepted, rfl⟩ := mem_oneOf.mp (each part listed)
    rwa [List.mem_singleton.mp inside]
  · intro each
    have whole : (word.map ([·])).flatten = word := by
      rw [← List.flatMap_def, List.flatMap_singleton']
    refine ⟨word.map ([·]), whole.symm, fun part listed => ?_⟩
    obtain ⟨c, member, rfl⟩ := List.mem_map.mp listed
    exact mem_oneOf.mpr ⟨c, each c member, rfl⟩

theorem isIdentifierStart_eq (c : Char) : isIdentifierStart c = (c.isAlpha || c == '_') := by
  have upper : c.isUpper = ('A' ≤ c && c ≤ 'Z') := Bool.decide_and _ _
  have lower : c.isLower = ('a' ≤ c && c ≤ 'z') := rfl
  have alpha : c.isAlpha = (c.isUpper || c.isLower) := rfl
  rw [alpha, upper, lower, isIdentifierStart, Bool.or_comm ('A' ≤ c && c ≤ 'Z'),
    Bool.beq_eq_decide_eq]

theorem isIdentifierChar_eq (c : Char) : isIdentifierChar c = (c.isAlphanum || c == '_') := by
  have digit : c.isDigit = ('0' ≤ c && c ≤ '9') := rfl
  have alphanum : c.isAlphanum = (c.isAlpha || c.isDigit) := rfl
  rw [isIdentifierChar, isIdentifierStart_eq, alphanum, digit, Bool.or_right_comm]

theorem isIdentifier_iff {name : List Char} :
    isIdentifier name = true ↔ name ∈ identifierPattern := by
  rw [identifierPattern, Language.mem_mul]
  constructor
  · intro identifier
    cases name with
    | nil => cases identifier
    | cons c rest =>
        obtain ⟨start, others⟩ := (Bool.and_eq_true _ _).mp identifier
        rw [isIdentifierStart_eq] at start
        refine ⟨[c], mem_oneOf.mpr ⟨c, start, rfl⟩, rest, mem_kstar_oneOf.mpr ?_, rfl⟩
        intro other member
        rw [← isIdentifierChar_eq]
        exact List.all_eq_true.mp others other member
  · rintro ⟨_, ⟨c, start, rfl⟩, rest, others, rfl⟩
    rw [mem_kstar_oneOf] at others
    refine (Bool.and_eq_true _ _).mpr ⟨(isIdentifierStart_eq c).trans start, ?_⟩
    exact List.all_eq_true.mpr fun other member =>
      (isIdentifierChar_eq other).trans (others other member)

theorem ne_dot_of_isIdentifier {name : List Char} (identifier : isIdentifier name = true) :
    ∀ c ∈ name, (c ≠ '.' : Bool) = true := by
  have other : ∀ c, isIdentifierChar c = true → c ≠ '.' := by
    rintro c accepted rfl
    exact absurd accepted (by decide)
  cases name with
  | nil => cases identifier
  | cons c rest =>
      obtain ⟨start, later⟩ := (Bool.and_eq_true _ _).mp identifier
      intro d member
      rw [decide_eq_true_eq]
      rcases List.mem_cons.mp member with rfl | inside
      · exact other d (by simp [isIdentifierChar, start])
      · exact other d (List.all_eq_true.mp later d inside)

theorem isTableIdentifier_iff {name : List Char} :
    isTableIdentifier name = true ↔ name ∈ tablePattern := by
  simp only [tablePattern, Language.mem_add, Language.mem_mul, ← isIdentifier_iff, mem_oneOf]
  constructor
  · intro table
    have whole : name.takeWhile (· ≠ '.') ++ name.dropWhile (· ≠ '.') = name :=
      List.takeWhile_append_dropWhile
    simp only [isTableIdentifier, List.span_eq_takeWhile_dropWhile] at table
    cases rest : name.dropWhile (· ≠ '.') with
    | nil =>
        rw [rest] at table
        rw [rest, List.append_nil] at whole
        exact .inl (whole ▸ table)
    | cons dot after =>
        rw [rest] at table whole
        obtain ⟨first, second⟩ := (Bool.and_eq_true _ _).mp table
        have stop := List.head?_dropWhile_not (· ≠ '.') name
        rw [rest] at stop
        obtain rfl : dot = '.' := by simpa using stop
        refine .inr ⟨_, ⟨_, first, ['.'], ⟨'.', rfl, rfl⟩, rfl⟩, after, second, ?_⟩
        rw [List.append_assoc, List.singleton_append, whole]
  · rintro (table | ⟨_, ⟨schema, first, _, ⟨dot, isDot, rfl⟩, rfl⟩, table, second, rfl⟩)
    · have all := ne_dot_of_isIdentifier table
      simp only [isTableIdentifier, List.span_eq_takeWhile_dropWhile,
        List.takeWhile_eq_self_iff.mpr all, List.dropWhile_eq_nil_iff.mpr all, table]
    · have all := ne_dot_of_isIdentifier first
      obtain rfl : dot = '.' := by simpa using isDot
      have taken : (schema ++ ['.'] ++ table).takeWhile (· ≠ '.') = schema := by
        rw [List.append_assoc, List.takeWhile_append_of_pos all]
        simp
      have dropped : (schema ++ ['.'] ++ table).dropWhile (· ≠ '.') = '.' :: table := by
        rw [List.append_assoc, List.dropWhile_append_of_pos all]
        simp
      simp only [isTableIdentifier, List.span_eq_takeWhile_dropWhile, taken, dropped, first, second,
        Bool.and_self]

/-! ## Consistency -/

structure Property.Consistent (entities : List Entity) (entity : Entity) (property : Property) :
    Prop where
  columns : ∀ column, column ∈ property.columns ∨ column ∈ property.joinColumns ∨
    column ∈ property.referencedColumns ∨ column ∈ property.inverseJoinColumns →
      column.toList ∈ identifierPattern
  pivot : ∀ table ∈ property.pivotTable, table.toList ∈ tablePattern
  backed : property.reference = .scalar → property.columns ≠ []
  linked : property.reference ≠ .scalar → ∃ target ∈ entities, target.name = property.typeName ∧
    ∃ link, Link.resolve entity property target = .ok link

structure Entity.Consistent (entities : List Entity) (entity : Entity) : Prop where
  table : entity.table.toList ∈ tablePattern
  keyed : entity.primaryKeys ≠ []
  keys : ∀ column ∈ entity.primaryKeys, column.toList ∈ identifierPattern ∧
    ∃ property ∈ entity.properties, column ∈ property.columns
  properties : ∀ property ∈ entity.properties, property.Consistent entities entity

/-- The entities have different names, and each fits to the others. -/
structure Consistent (entities : List Entity) : Prop where
  distinct : (entities.map (·.name)).Nodup
  each : ∀ entity ∈ entities, entity.Consistent entities

theorem Property.isRelation_iff {property : Property} :
    property.isRelation = true ↔ property.reference ≠ .scalar := by
  unfold isRelation
  cases property.reference <;> simp [Reference.isRelation]

theorem Entity.checkPrimaryKeys_ok {entity : Entity} :
    entity.checkPrimaryKeys = .ok () ↔ entity.primaryKeys ≠ [] ∧
      ∀ column ∈ entity.primaryKeys, ∃ property ∈ entity.properties, column ∈ property.columns := by
  unfold checkPrimaryKeys
  by_cases keyed : entity.primaryKeys = []
  · simp [keyed]
  · simp only [List.isEmpty_iff, keyed, if_false, not_false_eq_true, true_and, ne_eq]
    split
    · rename_i column missing
      have unbacked := List.find?_some missing
      simp only [Bool.not_eq_true', List.any_eq_false, List.contains_eq_mem,
        decide_eq_true_eq] at unbacked
      simp only [reduceCtorEq, false_iff]
      intro backed
      obtain ⟨property, listed, backs⟩ := backed column (List.mem_of_find?_eq_some missing)
      exact unbacked property listed backs
    · rename_i none
      simpa using List.find?_eq_none.mp none

namespace Registry

variable {entities : List Entity}

theorem checkProperty_ok (distinct : (entities.map (·.name)).Nodup) {entity : Entity}
    {property : Property} :
    checkProperty ⟨entities⟩ entity property = .ok () ↔ property.Consistent entities entity := by
  have columns : (∀ column ∈ namedColumns property, isIdentifier column.toList = true) ↔
      ∀ column, column ∈ property.columns ∨ column ∈ property.joinColumns ∨
        column ∈ property.referencedColumns ∨ column ∈ property.inverseJoinColumns →
          column.toList ∈ identifierPattern := by
    simp only [namedColumns, List.mem_append, or_assoc, isIdentifier_iff]
  have pivot : (property.pivotTable.forM (checkTable (entity.name ++ "." ++ property.name)) :
      Except CatalogError Unit) = .ok () ↔ ∀ table ∈ property.pivotTable,
        table.toList ∈ tablePattern := by
    cases property.pivotTable with
    | none => simp [Option.forM, pure, Except.pure]
    | some table => simp [Option.forM, checkTable_ok, isTableIdentifier_iff]
  simp only [checkProperty, Except.seq_ok, forM_ok, checkIdentifier_ok, columns, pivot]
  by_cases relation : property.isRelation
  · have referring := Property.isRelation_iff.mp relation
    simp only [relation, if_true, Except.bind_ok, entity_ok distinct]
    constructor
    · rintro ⟨columns, pivot, target, ⟨listed, named⟩, link, resolved, -⟩
      exact ⟨columns, pivot, fun scalar => absurd scalar referring,
        fun _ => ⟨target, listed, named, link, resolved⟩⟩
    · rintro ⟨columns, pivot, -, linked⟩
      obtain ⟨target, listed, named, link, resolved⟩ := linked referring
      exact ⟨columns, pivot, target, ⟨listed, named⟩, link, resolved, rfl⟩
  · have scalar : property.reference = .scalar := by
      simpa using mt Property.isRelation_iff.mpr relation
    have backed : (if property.columns.isEmpty = true then
        Except.error (.incomplete entity.name property.name .backingColumns)
        else pure () : Except CatalogError Unit) = .ok () ↔ property.columns ≠ [] := by
      cases property.columns <;> simp [pure, Except.pure]
    simp only [relation, if_false, Bool.false_eq_true, backed]
    constructor
    · rintro ⟨columns, pivot, backed⟩
      exact ⟨columns, pivot, fun _ => backed, fun other => absurd scalar other⟩
    · rintro ⟨columns, pivot, backed, -⟩
      exact ⟨columns, pivot, backed scalar⟩

theorem checkEntity_iff (distinct : (entities.map (·.name)).Nodup) {entity : Entity} :
    checkEntity ⟨entities⟩ entity = .ok () ↔ entity.Consistent entities := by
  simp only [checkEntity_ok, isTableIdentifier_iff, isIdentifier_iff, Entity.checkPrimaryKeys_ok,
    checkProperty_ok distinct]
  constructor
  · rintro ⟨table, named, ⟨keyed, backed⟩, properties⟩
    exact ⟨table, keyed, fun column listed => ⟨named column listed, backed column listed⟩,
      properties⟩
  · rintro ⟨table, keyed, keys, properties⟩
    exact ⟨table, fun column listed => (keys column listed).1,
      ⟨keyed, fun column listed => (keys column listed).2⟩, properties⟩

/-- The checks pass exactly for consistent catalogs, and the entities are kept as they are. -/
theorem ofEntities_ok_iff {registry : Registry} :
    ofEntities entities = .ok registry ↔ registry = ⟨entities⟩ ∧ Consistent entities := by
  constructor
  · intro accepted
    have distinct := ofEntities_nodup accepted
    obtain ⟨rfl, checked⟩ := ofEntities_ok accepted
    exact ⟨rfl, distinct,
      fun entity listed => (checkEntity_iff distinct).mp (checked entity listed)⟩
  · rintro ⟨rfl, distinct, each⟩
    have unrepeated : firstDuplicate? [] (entities.map (·.name)) = none :=
      firstDuplicate?_eq_none.mpr ⟨distinct, by simp⟩
    have checked : entities.forM (checkEntity ⟨entities⟩) = .ok () :=
      forM_ok.mpr fun entity listed => (checkEntity_iff distinct).mpr (each entity listed)
    simp only [ofEntities, unrepeated]
    exact Except.seq_ok.mpr ⟨checked, rfl⟩

end Registry

/-! ## Order -/

structure Entity.Rearranged (entity other : Entity) : Prop where
  name : other.name = entity.name
  table : other.table = entity.table
  primaryKeys : other.primaryKeys = entity.primaryKeys
  properties : entity.properties.Perm other.properties

/-- The same entities in another order, each with its properties in another order. -/
def Reordered (entities others : List Entity) : Prop :=
  ∃ arranged, entities.Perm arranged ∧ List.Forall₂ Entity.Rearranged arranged others

def Entity.NamesOnce (entity : Entity) : Prop := (entity.properties.map (·.name)).Nodup

theorem Entity.Rearranged.symm {entity other : Entity} (rearranged : entity.Rearranged other) :
    other.Rearranged entity :=
  ⟨rearranged.name.symm, rearranged.table.symm, rearranged.primaryKeys.symm,
    rearranged.properties.symm⟩

theorem Entity.Rearranged.namesOnce {entity other : Entity} (rearranged : entity.Rearranged other)
    (once : entity.NamesOnce) : other.NamesOnce :=
  (rearranged.properties.map _).nodup_iff.mp once

theorem Entity.mem_of_property? {entity : Entity} {name : String} {property : Property}
    (once : entity.NamesOnce) :
    entity.property? name = some property ↔ property ∈ entity.properties ∧ property.name = name :=
  find?_named_iff once

theorem Entity.Rearranged.property? {entity other : Entity} (rearranged : entity.Rearranged other)
    (once : entity.NamesOnce) (name : String) : other.property? name = entity.property? name := by
  refine Option.ext fun property => ?_
  rw [mem_of_property? once, mem_of_property? (rearranged.namesOnce once),
    rearranged.properties.mem_iff]

theorem Link.resolve_rearranged {parent child otherParent otherChild : Entity}
    (parents : parent.Rearranged otherParent) (children : child.Rearranged otherChild)
    (once : child.NamesOnce) (property : Property) :
    resolve otherParent property otherChild = resolve parent property child := by
  simp only [resolve, owning, inverse, throughPivot, owningColumns, pivotColumns, mappedOwner,
    referenced, Entity.requireProperty, children.property? once, parents.name,
    parents.primaryKeys, children.name, children.primaryKeys]

def Carries (entities others : List Entity) : Prop :=
  ∀ entity ∈ entities, ∃ other ∈ others, entity.Rearranged other

section Carries

variable {entities others : List Entity} (carries : Carries entities others)
  (once : ∀ entity ∈ entities, entity.NamesOnce)

include carries once

theorem Property.Consistent.carry {entity other : Entity} {property : Property}
    (consistent : property.Consistent entities entity) (rearranged : entity.Rearranged other) :
    property.Consistent others other where
  columns := consistent.columns
  pivot := consistent.pivot
  backed := consistent.backed
  linked referring := by
    obtain ⟨target, listed, named, link, resolved⟩ := consistent.linked referring
    obtain ⟨moved, present, children⟩ := carries target listed
    refine ⟨moved, present, children.name.trans named, link, ?_⟩
    rw [Link.resolve_rearranged rearranged children (once target listed), resolved]

theorem Entity.Consistent.carry {entity other : Entity}
    (consistent : entity.Consistent entities) (rearranged : entity.Rearranged other) :
    other.Consistent others where
  table := rearranged.table ▸ consistent.table
  keyed := rearranged.primaryKeys ▸ consistent.keyed
  keys column listed := by
    rw [rearranged.primaryKeys] at listed
    obtain ⟨named, property, declared, backs⟩ := consistent.keys column listed
    exact ⟨named, property, rearranged.properties.mem_iff.mp declared, backs⟩
  properties property listed :=
    (consistent.properties property (rearranged.properties.mem_iff.mpr listed)).carry carries once
      rearranged

theorem Consistent.carry (back : Carries others entities)
    (names : (entities.map (·.name)).Perm (others.map (·.name)))
    (consistent : Consistent entities) : Consistent others where
  distinct := names.nodup_iff.mp consistent.distinct
  each other listed := by
    obtain ⟨entity, present, rearranged⟩ := back other listed
    exact (consistent.each entity present).carry carries once rearranged.symm

end Carries

namespace Reordered

variable {entities others : List Entity}

theorem carries (reordered : Reordered entities others) : Carries entities others := by
  obtain ⟨arranged, perm, rearranged⟩ := reordered
  intro entity listed
  obtain ⟨index, bound, rfl⟩ := List.mem_iff_getElem.mp (perm.mem_iff.mp listed)
  have same := rearranged.length_eq
  exact ⟨others[index], List.getElem_mem _, rearranged.get bound (same ▸ bound)⟩

theorem carries_back (reordered : Reordered entities others) : Carries others entities := by
  obtain ⟨arranged, perm, rearranged⟩ := reordered
  intro other listed
  obtain ⟨index, bound, rfl⟩ := List.mem_iff_getElem.mp listed
  have same := rearranged.length_eq
  exact ⟨arranged[index], perm.mem_iff.mpr (List.getElem_mem _),
    (rearranged.get (same ▸ bound) bound).symm⟩

theorem names (reordered : Reordered entities others) :
    (entities.map (·.name)).Perm (others.map (·.name)) := by
  obtain ⟨arranged, perm, rearranged⟩ := reordered
  have same : arranged.map (·.name) = others.map (·.name) := by
    clear perm
    induction rearranged with
    | nil => rfl
    | cons first rest ih => rw [List.map_cons, List.map_cons, first.name, ih]
  exact same ▸ perm.map _

/-- Consistency does not depend on the order of entities and properties. -/
theorem consistent_iff (reordered : Reordered entities others)
    (once : ∀ entity ∈ entities, entity.NamesOnce) : Consistent others ↔ Consistent entities := by
  have onceToo : ∀ other ∈ others, other.NamesOnce := by
    intro other listed
    obtain ⟨entity, present, rearranged⟩ := reordered.carries_back other listed
    exact rearranged.symm.namesOnce (once entity present)
  exact ⟨.carry reordered.carries_back onceToo reordered.carries reordered.names.symm,
    .carry reordered.carries once reordered.carries_back reordered.names⟩

end Reordered

/--
A registry accepts exactly the consistent catalogs and keeps their entities.  As the names of
an entity's properties are different, no order of entities or properties matters.
-/
theorem Registry.accepts_iff_consistent (entities : List Entity) :
    (∀ registry, ofEntities entities = .ok registry ↔
      registry = ⟨entities⟩ ∧ Consistent entities) ∧
    ∀ others, (∀ entity ∈ entities, entity.NamesOnce) → Reordered entities others →
      ((∃ registry, ofEntities others = .ok registry) ↔
        ∃ registry, ofEntities entities = .ok registry) := by
  have accepted : ∀ list, (∃ registry, ofEntities list = .ok registry) ↔ Consistent list := by
    intro list
    simp only [ofEntities_ok_iff, exists_eq_left]
  refine ⟨fun registry => ofEntities_ok_iff, fun others once reordered => ?_⟩
  rw [accepted, accepted]
  exact reordered.consistent_iff once

namespace Sample

def turned (entity : Entity) : Entity := { entity with properties := entity.properties.reverse }

theorem accepts_iff_consistent_turned :
    Consistent [person, fellowship, battle] ∧
      Reordered [person, fellowship, battle] [turned battle, turned person, turned fellowship] ∧
      ∃ registry, Registry.ofEntities [turned battle, turned person, turned fellowship] =
        .ok registry := by
  obtain ⟨accepts, ordered⟩ := Registry.accepts_iff_consistent [person, fellowship, battle]
  have turning : ∀ entity : Entity, entity.Rearranged (turned entity) := fun entity =>
    ⟨rfl, rfl, rfl, (List.reverse_perm _).symm⟩
  have reordered : Reordered [person, fellowship, battle]
      [turned battle, turned person, turned fellowship] :=
    ⟨[battle, person, fellowship], by decide,
      .cons (turning _) (.cons (turning _) (.cons (turning _) .nil))⟩
  have once : ∀ entity ∈ [person, fellowship, battle], entity.NamesOnce := by
    unfold Entity.NamesOnce
    decide
  exact ⟨((accepts registry).mp registry_accepted).2, reordered,
    (ordered _ once reordered).mpr ⟨registry, registry_accepted⟩⟩

end Sample

end TreeQuery
