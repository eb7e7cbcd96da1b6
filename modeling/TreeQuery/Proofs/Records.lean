import Mathlib.Data.List.Basic
import TreeQuery.Proofs.FragmentSides
import TreeQuery.Session

/-!
# Records that a statement returns

A record is checked against the tree of its statement: an object has the keys of the
pairs that build it, a nested key holds what the joined subquery gives, which is an
object or null, or an array of objects, and the hidden key holds the columns.  All
other values are arbitrary, and so is the order of the keys.
-/

namespace TreeQuery

/-! ## Members -/

namespace Members

def names (members : Members) : List String := members.map (·.1)

variable {name other : String} {value : Json}

theorem get?_insert_self (members : Members) : (members.insert name value).get? name = some value := by
  induction members with
  | nil => simp [insert, get?]
  | cons member rest ih =>
      obtain ⟨first, old⟩ := member
      by_cases same : first = name
      · simp [insert, get?, same]
      · have apart : (name == first) = false := by simpa using Ne.symm same
        simpa [insert, same, get?, List.lookup_cons, apart] using ih

theorem get?_insert_ne (apart : other ≠ name) (members : Members) :
    (members.insert name value).get? other = members.get? other := by
  have different : (other == name) = false := by simpa using apart
  induction members with
  | nil => simp [insert, get?, List.lookup_cons, different]
  | cons member rest ih =>
      obtain ⟨first, old⟩ := member
      by_cases same : first = name
      · simp [insert, get?, List.lookup_cons, same, different]
      · simp only [get?] at ih
        simp [insert, same, get?, List.lookup_cons, ih]

theorem names_insert {members : Members} (present : name ∈ members.names) :
    (members.insert name value).names = members.names := by
  induction members with
  | nil => cases present
  | cons member rest ih =>
      obtain ⟨first, old⟩ := member
      by_cases same : first = name
      · simp [insert, names, same]
      · have later : name ∈ names rest := by
          simpa [names, Ne.symm same] using present
        simpa [insert, same, names] using ih later

theorem get?_erase_ne (apart : other ≠ name) (members : Members) :
    (members.erase name).get? other = members.get? other := by
  have different : (other == name) = false := by simpa using apart
  induction members with
  | nil => rfl
  | cons member rest ih =>
      obtain ⟨first, old⟩ := member
      by_cases same : first = name
      · simp [erase, get?, List.lookup_cons, same, different]
      · simp only [get?] at ih
        simp [erase, same, get?, List.lookup_cons, ih]

theorem names_erase {members : Members} (distinct : members.names.Nodup) :
    (members.erase name).names = members.names.filter (· ≠ name) := by
  induction members with
  | nil => rfl
  | cons member rest ih =>
      obtain ⟨first, old⟩ := member
      obtain ⟨absent, later⟩ := List.nodup_cons.mp distinct
      by_cases same : first = name
      · subst same
        have kept : (names rest).filter (· ≠ first) = names rest :=
          List.filter_eq_self.mpr fun other listed => by
            simpa using ne_of_mem_of_not_mem listed absent
        simpa [erase, names] using kept.symm
      · have rest := ih later
        simp only [names] at rest
        simp [erase, same, names, rest]

theorem insert_eq_self {members : Members} (found : members.get? name = some value) :
    members.insert name value = members := by
  induction members with
  | nil => simp [get?] at found
  | cons member rest ih =>
      obtain ⟨first, old⟩ := member
      by_cases same : first = name
      · have kept : old = value := by simpa [get?, same] using found
        simp [insert, same, kept]
      · have different : (name == first) = false := by simpa using Ne.symm same
        have later : get? rest name = some value := by
          simpa [get?, List.lookup_cons, different] using found
        simp [insert, same, ih later]

theorem mem_names_of_get? {members : Members} (found : members.get? name = some value) :
    name ∈ members.names := by
  induction members with
  | nil => simp [get?] at found
  | cons member rest ih =>
      obtain ⟨first, old⟩ := member
      by_cases same : name = first
      · simp [names, same]
      · have different : (name == first) = false := by simpa using same
        exact List.mem_cons_of_mem _ (ih (by simpa [get?, List.lookup_cons, different] using found))

end Members

/-! ## Shapes -/

def sameNames (names expected : List String) : Bool :=
  decide (names.Nodup ∧ names ⊆ expected ∧ expected ⊆ names)

namespace Sql

def Value.admits (gives : Alias → Json → Bool) : Value → Json → Bool
  | .nested label, value => gives label value
  | .raw _ columns, .object members => sameNames (Members.names members) (columns.map Column.name)
  | .raw _ _, _ => false
  | _, _ => true

def ObjectExpr.admits (gives : Alias → Json → Bool) : ObjectExpr → Json → Bool
  | .pairs _ list, .object members =>
      sameNames (Members.names members) (list.map (·.1)) &&
        list.all fun pair => (Members.get? members pair.1).any (pair.2.admits gives)
  | _, _ => false

def isArrayOf (admits : Json → Bool) : Json → Bool
  | .array items => items.all admits
  | _ => false

mutual

/-- Whether the subquery under an alias can give a value; only left outer joins give any. -/
def Join.gives : List Join → Alias → Json → Bool
  | [], _, _ => false
  | .lateral .leftOuter query own :: rest, label, value =>
      if own = label then query.gives value else Join.gives rest label value
  | .lateral .inner _ _ :: rest, label, value => Join.gives rest label value
  | .text _ :: rest, label, value => Join.gives rest label value

def Select.returns : Select → Json → Bool
  | ⟨.object object _, _, joins, _, _, _, _⟩, value => object.admits (Join.gives joins) value
  | ⟨.numbered object _, _, joins, _, _, _, _⟩, value => object.admits (Join.gives joins) value
  | _, _ => false

def Source.returns : Source → Json → Bool
  | .page query _, value => query.returns value
  | .table _ _, _ => false

/-- Whether the value can be that of a subquery: an object or null, or an array of objects. -/
def Select.gives : Select → Json → Bool
  | ⟨.object object _, _, joins, _, _, _, _⟩, value =>
      value.isNull || object.admits (Join.gives joins) value
  | ⟨.collected object, _, joins, _, _, _, _⟩, value =>
      isArrayOf (object.admits (Join.gives joins)) value
  | ⟨.collectedPage _ _, source, _, _, _, _, _⟩, value => isArrayOf source.returns value
  | _, _ => false

end

/-! ## What the joins of a select give -/

def Join.label? : Join → Option Alias
  | .text _ => none
  | .lateral _ _ label => some label

def Join.labels (joins : List Join) : List Alias := joins.filterMap Join.label?

theorem Join.gives_append {tests joins : List Join}
    (inner : ∀ join ∈ tests, join.HasKind .inner) :
    Join.gives (tests ++ joins) = Join.gives joins := by
  funext label value
  induction tests with
  | nil => rfl
  | cons test rest ih =>
      obtain ⟨⟨query, own, rfl⟩, later⟩ := List.forall_mem_cons.mp inner
      rw [List.cons_append, Join.gives, ih later]

theorem Join.gives_of_mem {joins : List Join} {query : Select} {label : Alias}
    (distinct : (Join.labels joins).Nodup) (listed : .lateral .leftOuter query label ∈ joins) :
    Join.gives joins label = query.gives := by
  funext value
  induction joins with
  | nil => cases listed
  | cons join rest ih =>
      rcases List.mem_cons.mp listed with rfl | later
      · rw [Join.gives, if_pos rfl]
      · have labelled : label ∈ Join.labels rest :=
          List.mem_filterMap.mpr ⟨_, later, rfl⟩
        cases join with
        | text sql => rw [Join.gives, ih distinct later]
        | lateral kind other own =>
            obtain ⟨absent, apart⟩ : own ∉ Join.labels rest ∧ (Join.labels rest).Nodup := by
              simpa [Join.labels, Join.label?] using distinct
            have different : own ≠ label := fun same => absent (same ▸ labelled)
            cases kind with
            | inner => rw [Join.gives, ih apart later]
            | leftOuter => rw [Join.gives, if_neg different, ih apart later]

end Sql

inductive Json.Holds (property : Members → Prop) : Json → Prop
  | null : Holds property .null
  | object {members : Members} (held : property members) : Holds property (.object members)
  | array {items : List Members} (held : ∀ members ∈ items, property members) :
      Holds property (.array (items.map .object))

namespace Sql

theorem ObjectExpr.exists_of_admits {gives : Alias → Json → Bool} {object : ObjectExpr}
    {value : Json} (admitted : object.admits gives value = true) :
    ∃ members : Members, value = .object members := by
  cases object <;> cases value <;> first | exact ⟨_, rfl⟩ | simp [ObjectExpr.admits] at admitted

theorem holds_of_isArrayOf {object : ObjectExpr} {gives : Alias → Json → Bool} {value : Json}
    (array : isArrayOf (object.admits gives) value = true) :
    value.Holds fun members => object.admits gives (.object members) = true := by
  cases value with
  | array items =>
      have admitted : ∀ item ∈ items, object.admits gives item = true := by
        simpa [isArrayOf] using array
      obtain ⟨objects, rfl⟩ : ∃ objects : List Members, items = objects.map .object := by
        clear array
        induction items with
        | nil => exact ⟨[], rfl⟩
        | cons item rest ih =>
            obtain ⟨first, later⟩ := List.forall_mem_cons.mp admitted
            obtain ⟨members, rfl⟩ := ObjectExpr.exists_of_admits first
            obtain ⟨objects, rfl⟩ := ih later
            exact ⟨members :: objects, rfl⟩
      exact .array fun members listed => admitted _ (List.mem_map_of_mem listed)
  | _ => simp [isArrayOf] at array

end Sql

namespace Site

theorem Brought.gives {stem : String} {site : Site} {body : Body}
    {correlation : List Sql.Condition} {supply after : Sql.Supply} {rendered : Rendered}
    (brought : Brought stem site body correlation supply rendered after) :
    ∃ query, rendered.join = .lateral .leftOuter query rendered.label ∧
      ∀ value, query.gives value = true →
        value.Holds fun members =>
          body.object.admits (Sql.Join.gives body.joins) (.object members) = true := by
  cases brought with
  | singular limit =>
      refine ⟨_, rfl, fun value given => ?_⟩
      rcases Bool.or_eq_true _ _ ▸ given with null | admitted
      · cases value <;> first | exact .null | cases null
      · obtain ⟨members, rfl⟩ := Sql.ObjectExpr.exists_of_admits admitted
        exact .object admitted
  | collected => exact ⟨_, rfl, fun value given => Sql.holds_of_isArrayOf given⟩
  | paged =>
      refine ⟨_, rfl, fun value given => Sql.holds_of_isArrayOf ?_⟩
      have rows : (site.pageRows body correlation).returns =
          body.object.admits (Sql.Join.gives body.joins) := by
        funext row
        unfold pageRows pageOutput
        cases body.order <;> rfl
      rw [← rows]
      exact given

end Site

end TreeQuery
