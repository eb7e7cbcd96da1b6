import TreeQuery.Proofs.AscendingNames
import TreeQuery.Proofs.FragmentSides
import TreeQuery.Proofs.Noninterference

/-!
# The notations of a filter agree

An operator may stand in an object behind the key of a field or at the end of the key, and
a value without an operator is compared for equality.  No name of an operator ends another
one, so a key with an operator at its end is split where it was put together.  Reducing a
second time changes nothing, so the object and the keys that spell it out compile to the
same fragment, with the same names handed out, or fail with the same error.
-/

namespace TreeQuery

/-! ## Names of operators at the end of keys -/

namespace Operator

theorem mem_all (operator : Operator) : operator ∈ all := by
  cases operator <;> decide

theorem ofName?_name (operator : Operator) : ofName? operator.name = some operator := by
  cases operator <;> decide

/-- No name of an operator ends another one. -/
theorem eq_of_suffix {operator other : Operator}
    (ends : operator.name.toList <:+ other.name.toList) : operator = other := by
  have apart : ∀ left ∈ all, ∀ right ∈ all,
      left.name.toList <:+ right.name.toList → left = right := by decide
  exact apart operator operator.mem_all other other.mem_all ends

theorem stemOf?_eq_some {ending text stem : String} :
    stemOf? ending text = some stem ↔ stem ≠ "" ∧ text = stem ++ ending := by
  simp only [stemOf?]
  constructor
  · intro split
    split at split
    · rename_i ends
      simp only [Bool.and_eq_true, decide_eq_true_eq, beq_iff_eq] at ends
      obtain ⟨positive, last⟩ := ends
      cases split
      refine ⟨fun empty => ?_, String.toList_injective ?_⟩
      · have none := congrArg (·.toList.length) empty
        simp at none
        omega
      · have parts := List.take_append_drop (text.toList.length - ending.toList.length) text.toList
        rw [last] at parts
        rw [String.toList_append, String.toList_ofList, parts]
    · cases split
  · rintro ⟨nonempty, rfl⟩
    have positive : 0 < stem.toList.length := by
      rw [List.length_pos_iff]
      simpa using nonempty
    simp [positive]

theorem splitKey?_append {key : String} (nonempty : key ≠ "") (operator : Operator) :
    splitKey? (key ++ operator.name) = some (key, operator) := by
  have only : ∀ other : Operator,
      (stemOf? other.name (key ++ operator.name)).map (·, other) =
        if other = operator then some (key, operator) else none := by
    intro other
    split
    · rename_i same
      rw [same, stemOf?_eq_some.mpr ⟨nonempty, rfl⟩, Option.map_some]
    · rename_i different
      rw [Option.map_eq_none_iff, Option.eq_none_iff_forall_ne_some]
      intro stem split
      -- both names end the key, so the shorter one ends the longer one
      have whole := congrArg String.toList (stemOf?_eq_some.mp split).2
      rw [String.toList_append, String.toList_append] at whole
      have left : operator.name.toList <:+ key.toList ++ operator.name.toList :=
        List.suffix_append _ _
      have right : other.name.toList <:+ key.toList ++ operator.name.toList :=
        whole ▸ List.suffix_append _ _
      rcases List.suffix_or_suffix_of_suffix left right with ends | ends
      · exact different (eq_of_suffix ends).symm
      · exact different (eq_of_suffix ends)
  simp only [splitKey?, only]
  cases operator <;> rfl

end Operator

namespace Combinator

theorem ofKey?_eq_none {key : String} (free : ∀ combinator : Combinator, key ≠ combinator.key) :
    ofKey? key = none := by
  unfold ofKey?
  split
  · exact absurd rfl (free .or)
  · exact absurd rfl (free .and)
  · exact absurd rfl (free .not)
  · rfl

theorem append_name_ne_key (stem : String) (operator : Operator) (combinator : Combinator) :
    stem ++ operator.name ≠ combinator.key := by
  intro same
  have apart : ∀ operator ∈ Operator.all, ¬ operator.name.toList <:+ combinator.key.toList := by
    cases combinator <;> decide
  refine apart operator operator.mem_all ?_
  rw [← same, String.toList_append]
  exact List.suffix_append _ _

end Combinator

/-! ## Reducing twice -/

namespace Fragment

theorem reduce_singleton {fragment : Fragment} (unread : fragment.columns = [])
    (ascending : fragment.values.Ascending) : reduce [fragment] = .ok fragment := by
  have ordered : Bindings.Ascending ([] ++ fragment.values) := by simpa using ascending
  have bound : Bindings.bindAll [] fragment.values = (fragment.values, none) := by
    simpa using Bindings.bindAll_of_ascending ordered
  have merged : merge {} fragment = .ok fragment := by
    refine merge_ok.mpr ⟨fragment.values, bound, ?_⟩
    cases fragment
    simp only at unread
    subst unread
    unfold addRest addGroup
    split <;> simp_all [addOwn, unionNames]
  simp [reduce, merged]

theorem Demands.unread {fragment : Fragment} (demands : fragment.Demands) :
    fragment.columns = [] := by
  have shown := demands.hidden
  simp only [display, mk.injEq] at shown
  exact shown.1

end Fragment

namespace Compile

theorem reduce_reduce {fragments : List Fragment} {context : Context}
    (unread : ∀ result, Fragment.reduce fragments = .ok result → result.columns = []) :
    (reduce fragments >>= fun fragment => reduce [fragment]) context =
      reduce fragments context := by
  cases reduced : Fragment.reduce fragments with
  | error error =>
      simp only [reduce, reduced]
      rfl
  | ok result =>
      have again := Fragment.reduce_singleton (unread result reduced)
        (Fragment.reduce_ascending reduced)
      simp only [reduce, reduced, ofExcept, pure_bind, again]

end Compile

namespace Filter

/-! ## Roles -/

section Roles

variable {resolver : Resolver} {key : String} {field : Field}

theorem role_of_resolve (free : ∀ combinator : Combinator, key ≠ combinator.key)
    (resolved : resolver.resolve key = some field) (plain : field.isRelation = false) :
    role resolver key = .field field.columns := by
  simp only [role, Combinator.ofKey?_eq_none free, resolved]
  cases field with
  | property property =>
      have single : property.isRelation = false := plain
      simp [fieldRole, single, Field.columns]
  | computed found => rfl

theorem role_of_split {stem : String} {operator : Operator}
    (free : Combinator.ofKey? key = none) (hidden : resolver.resolve key = none)
    (split : Operator.splitKey? key = some (stem, operator))
    (resolved : resolver.resolve stem = some field) (plain : field.isRelation = false) :
    role resolver key = .suffixed stem field.columns operator := by
  have unnamed : role resolver key = suffixedRole resolver key := by
    simp only [role, free, hidden]
  rw [unnamed]
  unfold suffixedRole
  simp only [split, resolved, plain, Bool.false_eq_true, if_false]

theorem role_append (nonempty : key ≠ "") (resolved : resolver.resolve key = some field)
    (plain : field.isRelation = false) {operator : Operator}
    (hidden : resolver.resolve (key ++ operator.name) = none) :
    role resolver (key ++ operator.name) = .suffixed key field.columns operator :=
  role_of_split (Combinator.ofKey?_eq_none (Combinator.append_name_ne_key key operator)) hidden
    (Operator.splitKey?_append nonempty operator) resolved plain

end Roles

/-! ## Entries -/

section Entries

variable {compiler : Compiler} {node : Node} {key : String} {columns : List String}

theorem entry_of_role {known : FilterRole} {value : Json}
    (named : role (compiler.resolver node.entity) key = known) (leaf : nests known value = false) :
    entry compiler node key value = leafFilter node key known value := by
  subst named
  exact entry_eq_leafFilter leaf

theorem entry_of_field (named : role (compiler.resolver node.entity) key = .field columns)
    (value : Json) : entry compiler node key value = fieldFilter node key columns value :=
  entry_of_role named rfl

theorem entry_of_suffixed {stem : String} {operator : Operator}
    (named : role (compiler.resolver node.entity) key = .suffixed stem columns operator)
    (value : Json) :
    entry compiler node key value = applyOperator node stem columns operator value :=
  entry_of_role named rfl

theorem members_suffixed {operators : List (Operator × Json)}
    (named : ∀ entry ∈ operators, role (compiler.resolver node.entity) (key ++ entry.1.name) =
      .suffixed key columns entry.1) :
    members compiler node (operators.map fun entry => (key ++ entry.1.name, entry.2)) =
      applyOperators node key columns
        (operators.map fun entry => (entry.1.name, entry.2)) := by
  induction operators with
  | nil => rfl
  | cons entry rest ih =>
      obtain ⟨first, later⟩ := List.forall_mem_cons.mp named
      simp only [List.map_cons, members, applyOperators, Operator.ofName?_name,
        entry_of_suffixed first, ih later]

/-- The reduction of the operators is not changed by the reduction of the whole filter. -/
theorem compile_operators (named : role (compiler.resolver node.entity) key = .field columns)
    (operators : List (String × Json)) (context : Context) :
    compile compiler node [(key, .object operators)] context =
      (applyOperators node key columns operators >>= Compile.reduce) context := by
  simp only [compile, members, entry_of_field named, fieldFilter, bind_assoc, pure_bind]
  refine Compile.bind_eq_of_ok fun fragments between applied => ?_
  have demands := (applyOperators_ok applied).demands
  exact Compile.reduce_reduce fun result reduced => (Fragment.Demands.reduce demands reduced).unread

theorem compile_compared (named : role (compiler.resolver node.entity) key = .field columns)
    {value : Json} (plain : value.asObject? = none) (context : Context) :
    compile compiler node [(key, value)] context =
      (applyOperators node key columns [(Operator.eq.name, value)] >>= Compile.reduce)
        context := by
  have compared : fieldFilter node key columns value =
      applyOperator node key columns .eq value := by
    cases value with
    | object inner => simp [Json.asObject?] at plain
    | _ => rfl
  simp only [compile, members, entry_of_field named, compared, applyOperators,
    Operator.ofName?_name, bind_assoc, pure_bind]

end Entries

/-- An object of operators is compiled as the keys that spell it out, and a value without an
operator as the value that the field equals. -/
theorem compile_notations {compiler : Compiler} {node : Node} {key : String} {field : Field}
    (nonempty : key ≠ "") (free : ∀ combinator : Combinator, key ≠ combinator.key)
    (resolved : (compiler.resolver node.entity).resolve key = some field)
    (plain : field.isRelation = false) (context : Context) :
    (∀ operators : List (Operator × Json),
      (∀ entry ∈ operators,
        (compiler.resolver node.entity).resolve (key ++ entry.1.name) = none) →
      compile compiler node
          [(key, .object (operators.map fun entry => (entry.1.name, entry.2)))] context =
        compile compiler node
          (operators.map fun entry => (key ++ entry.1.name, entry.2)) context) ∧
    ∀ value : Json, value.asObject? = none →
      compile compiler node [(key, value)] context =
        compile compiler node [(key, .object [(Operator.eq.name, value)])] context := by
  have named := role_of_resolve free resolved plain
  refine ⟨fun operators hidden => ?_, fun value notObject => ?_⟩
  · have suffixed : ∀ entry ∈ operators,
        role (compiler.resolver node.entity) (key ++ entry.1.name) =
          .suffixed key field.columns entry.1 :=
      fun entry listed => role_append nonempty resolved plain (hidden entry listed)
    rw [compile_operators named, ← members_suffixed suffixed]
    rfl
  · rw [compile_compared named notObject, compile_operators named]

end Filter

/-- Names from a bound on and in a list, and an operand that both notations refuse. -/
theorem Sample.compile_notations_name :
    (Filter.compile compiler root
        [("name", .object [("_gte", .string "A"), ("_in", .array [.string "Sam", .null])])]
        started).isOk = true ∧
    Filter.compile compiler root
        [("name", .object [("_gte", .string "A"), ("_in", .array [.string "Sam", .null])])]
        started =
      Filter.compile compiler root
        [("name_gte", .string "A"), ("name_in", .array [.string "Sam", .null])] started ∧
    Filter.compile compiler root [("name", .array [])] started =
      Filter.compile compiler root [("name", .object [("_eq", .array [])])] started := by
  have resolved : (compiler.resolver root.entity).resolve "name" =
      some (.property (.ofColumn "name" "text" "name")) := rfl
  have free : ∀ combinator : Combinator, "name" ≠ combinator.key := by
    intro combinator
    cases combinator <;> decide
  have hidden : ∀ entry ∈ [(Operator.gte, Json.string "A"),
      (.isIn, .array [.string "Sam", .null])],
      (compiler.resolver root.entity).resolve ("name" ++ entry.1.name) = none := by
    simp only [List.forall_mem_cons]
    exact ⟨rfl, rfl, nofun⟩
  obtain ⟨spelled, compared⟩ :=
    Filter.compile_notations (by decide) free resolved rfl started
  have keys : "name" ++ Operator.gte.name = "name_gte" ∧
      "name" ++ Operator.isIn.name = "name_in" := by decide
  have both := spelled _ hidden
  simp only [List.map_cons, List.map_nil, keys] at both
  exact ⟨by decide +kernel, both, compared (.array []) rfl⟩

end TreeQuery
