import Mathlib.Data.List.Nodup
import TreeQuery.Catalog.Registry

/-!
# Accepted registries

What the checks of a registry establish about its entities.
-/

namespace TreeQuery

theorem Except.bind_ok {ε α β : Type} {first : Except ε α} {next : α → Except ε β}
    {result : β} :
    (first >>= next) = .ok result ↔ ∃ value, first = .ok value ∧ next value = .ok result := by
  cases first with
  | error error => simp [bind, Except.bind]
  | ok value => simp [bind, Except.bind]

theorem Except.seq_ok {ε β : Type} {first : Except ε Unit} {next : Except ε β} {result : β} :
    (first >>= fun _ => next) = .ok result ↔ first = .ok () ∧ next = .ok result := by
  cases first with
  | error error => simp [bind, Except.bind]
  | ok value => simp [bind, Except.bind]

theorem forM_ok {ε α : Type} {check : α → Except ε Unit} {items : List α} :
    items.forM check = .ok () ↔ ∀ item ∈ items, check item = .ok () := by
  induction items with
  | nil => simp [List.forM, pure, Except.pure]
  | cons item rest ih =>
      simp only [List.forM, Except.seq_ok, ih, List.forall_mem_cons]

theorem find?_named_iff {α : Type} {nameOf : α → String} {items : List α}
    (distinct : (items.map nameOf).Nodup) {name : String} {item : α} :
    items.find? (fun other => nameOf other == name) = some item ↔
      item ∈ items ∧ nameOf item = name := by
  constructor
  · intro found
    exact ⟨List.mem_of_find?_eq_some found, by simpa using List.find?_some found⟩
  · rintro ⟨listed, rfl⟩
    cases found : items.find? fun other => nameOf other == nameOf item with
    | none => simpa using List.find?_eq_none.mp found item listed
    | some other =>
        have named : nameOf other = nameOf item := by simpa using List.find?_some found
        rw [List.inj_on_of_nodup_map distinct (List.mem_of_find?_eq_some found) listed named]

namespace Registry

theorem entity_ok_iff_find? {registry : Registry} {name : String} {entity : Entity} :
    registry.entity name = .ok entity ↔ registry.find? name = some entity := by
  unfold Registry.entity
  cases registry.find? name <;> simp

theorem entity_ok {entities : List Entity} (distinct : (entities.map (·.name)).Nodup)
    {name : String} {target : Entity} :
    (Registry.mk entities).entity name = .ok target ↔ target ∈ entities ∧ target.name = name :=
  entity_ok_iff_find?.trans (find?_named_iff distinct)

theorem mem_of_entity {registry : Registry} {name : String} {entity : Entity}
    (found : registry.entity name = .ok entity) : entity ∈ registry.entities :=
  List.mem_of_find?_eq_some (entity_ok_iff_find?.mp found)

theorem firstDuplicate?_eq_none {seen names : List String} :
    firstDuplicate? seen names = none ↔ names.Nodup ∧ ∀ name ∈ names, name ∉ seen := by
  induction names generalizing seen with
  | nil => simp [firstDuplicate?]
  | cons name rest ih =>
      by_cases known : name ∈ seen
      · simp [firstDuplicate?, known]
      · simp only [firstDuplicate?, List.contains_eq_mem, known, decide_false, Bool.false_eq_true,
          if_false, ih, List.nodup_cons, List.forall_mem_cons, not_false_eq_true, true_and]
        constructor
        · rintro ⟨distinct, unseen⟩
          exact ⟨⟨fun again => unseen name again List.mem_cons_self, distinct⟩,
            fun other later => mt (List.mem_cons_of_mem name) (unseen other later)⟩
        · rintro ⟨⟨once, distinct⟩, unseen⟩
          refine ⟨distinct, fun other later listed => ?_⟩
          rcases List.mem_cons.mp listed with rfl | before
          · exact once later
          · exact unseen other later before

theorem ofEntities_nodup {entities : List Entity} {registry : Registry}
    (accepted : ofEntities entities = .ok registry) : (entities.map (·.name)).Nodup := by
  unfold ofEntities at accepted
  split at accepted
  · cases accepted
  · rename_i distinct
    exact (firstDuplicate?_eq_none.mp distinct).1

theorem ofEntities_ok {entities : List Entity} {registry : Registry}
    (accepted : ofEntities entities = .ok registry) :
    registry = ⟨entities⟩ ∧ ∀ entity ∈ entities, checkEntity ⟨entities⟩ entity = .ok () := by
  unfold ofEntities at accepted
  split at accepted
  · cases accepted
  · obtain ⟨_, checked, result⟩ := Except.bind_ok.mp accepted
    cases result
    exact ⟨rfl, forM_ok.mp checked⟩

theorem entity_of_mem {entities : List Entity} {registry : Registry} {entity : Entity}
    (accepted : ofEntities entities = .ok registry) (listed : entity ∈ entities) :
    registry.entity entity.name = .ok entity := by
  obtain ⟨rfl, -⟩ := ofEntities_ok accepted
  exact (entity_ok (ofEntities_nodup accepted)).mpr ⟨listed, rfl⟩

theorem checkIdentifier_ok {context name : String} :
    checkIdentifier context name = .ok () ↔ isIdentifier name.toList = true := by
  unfold checkIdentifier
  split <;> simp_all

theorem checkTable_ok {context name : String} :
    checkTable context name = .ok () ↔ isTableIdentifier name.toList = true := by
  unfold checkTable
  split <;> simp_all

theorem checkEntity_ok {registry : Registry} {entity : Entity} :
    checkEntity registry entity = .ok () ↔
      isTableIdentifier entity.table.toList = true ∧
      (∀ column ∈ entity.primaryKeys, isIdentifier column.toList = true) ∧
      entity.checkPrimaryKeys = .ok () ∧
      ∀ property ∈ entity.properties, checkProperty registry entity property = .ok () := by
  simp only [checkEntity, Except.seq_ok, forM_ok, checkTable_ok, checkIdentifier_ok]

theorem identifiers_of_checkProperty {registry : Registry} {entity : Entity} {property : Property}
    (checked : checkProperty registry entity property = .ok ()) :
    (∀ column ∈ namedColumns property, isIdentifier column.toList = true) ∧
      ∀ table ∈ property.pivotTable, isTableIdentifier table.toList = true := by
  simp only [checkProperty, Except.seq_ok, forM_ok, checkIdentifier_ok] at checked
  obtain ⟨columns, pivot, -⟩ := checked
  refine ⟨columns, fun table given => ?_⟩
  rw [Option.mem_def.mp given] at pivot
  exact checkTable_ok.mp pivot

end Registry

end TreeQuery
