import TreeQuery.Proofs.Database
import TreeQuery.Proofs.Literals
import TreeQuery.Proofs.UnknownConditions

/-!
# Membership in a list that may hold nulls

A column is compared with the elements of a list.  Comparing with null, or with a column
that is null, is neither true nor false, so null elements are tested apart and never
bound.  What `_in` becomes is true exactly when the value of the column occurs in the
list, null among them, and what `_nin` becomes is always its negation.
-/

namespace TreeQuery

open Sql (Parameter Supply)

/-! ## Predicates about one column -/

inductive ListPredicate where
  | constant (value : Bool)
  | isNull
  | isNotNull
  | isIn (parameters : List Parameter)
  | isNotIn (parameters : List Parameter)
  | or (left right : ListPredicate)
  | and (left right : ListPredicate)

namespace ListPredicate

def text (column : String) : ListPredicate → String
  | .constant true => "TRUE"
  | .constant false => "FALSE"
  | .isNull => column ++ " IS NULL"
  | .isNotNull => column ++ " IS NOT NULL"
  | .isIn parameters =>
      column ++ " IN (" ++ ", ".intercalate (parameters.map Parameter.placeholder) ++ ")"
  | .isNotIn parameters =>
      column ++ " NOT IN (" ++ ", ".intercalate (parameters.map Parameter.placeholder) ++ ")"
  | .or left right => "(" ++ left.text column ++ " OR " ++ right.text column ++ ")"
  | .and left right => "(" ++ left.text column ++ " AND " ++ right.text column ++ ")"

def parameters : ListPredicate → List Parameter
  | .isIn parameters => parameters
  | .isNotIn parameters => parameters
  | .or left right => left.parameters ++ right.parameters
  | .and left right => left.parameters ++ right.parameters
  | _ => []

end ListPredicate

namespace Truth

theorem or_assoc (first second third : Truth) :
    (first.or second).or third = first.or (second.or third) := by
  cases first <;> cases second <;> cases third <;> rfl

theorem any_nil : any [] = .no := rfl

theorem no_or (truth : Truth) : Truth.no.or truth = truth := by
  cases truth <;> rfl

theorem or_no (truth : Truth) : truth.or .no = truth := by
  cases truth <;> rfl

theorem not_or (left right : Truth) : (left.or right).not = left.not.and right.not := by
  cases left <;> cases right <;> rfl

end Truth

section Meaning

variable {Value : Type} (same : Value → Json → Bool) (value : Option Value)

def equals (literal : Json) : Truth :=
  match value with
  | none => .unknown
  | some value => if literal.isNull then .unknown else .ofBool (same value literal)

def ListPredicate.truth (valueOf : Parameter → Json) : ListPredicate → Truth
  | .constant value => .ofBool value
  | .isNull => .ofBool value.isNone
  | .isNotNull => .ofBool value.isSome
  | .isIn parameters => .any (parameters.map fun parameter => equals same value (valueOf parameter))
  | .isNotIn parameters =>
      (Truth.any (parameters.map fun parameter => equals same value (valueOf parameter))).not
  | .or left right => (left.truth valueOf).or (right.truth valueOf)
  | .and left right => (left.truth valueOf).and (right.truth valueOf)

/-- The value of the column is an element of the list; null is an element like others. -/
def Occurs (items : List Json) : Prop :=
  ∃ item ∈ items,
    match value with
    | none => item.isNull = true
    | some value => item.isNull = false ∧ same value item = true

def elementTruth (item : Json) : Truth :=
  if item.isNull then .ofBool value.isNone else equals same value item

def nonNull (items : List Json) : List Json := items.filter fun item => !item.isNull

theorem elementTruth_eq_yes {item : Json} :
    elementTruth same value item = .yes ↔
      match value with
      | none => item.isNull = true
      | some value => item.isNull = false ∧ same value item = true := by
  cases value with
  | none => cases null : item.isNull <;> simp [elementTruth, equals, null, Truth.ofBool]
  | some value =>
      cases null : item.isNull <;> cases equal : same value item <;>
        simp [elementTruth, equals, null, equal, Truth.ofBool]

theorem any_elementTruth_eq_yes {items : List Json} :
    Truth.any (items.map (elementTruth same value)) = .yes ↔ Occurs same value items := by
  rw [Truth.any_eq_yes, List.mem_map]
  exact exists_congr fun item => and_congr_right fun _ => elementTruth_eq_yes same value

/-- All null elements together are one null test beside the other elements. -/
theorem any_elementTruth_eq (items : List Json) :
    Truth.any (items.map (elementTruth same value)) =
      (Truth.any ((nonNull items).map (equals same value))).or
        (if items.any Json.isNull then .ofBool value.isNone else .no) := by
  induction items with
  | nil => rfl
  | cons item rest ih =>
      have step : Truth.any ((item :: rest).map (elementTruth same value)) =
          (elementTruth same value item).or
            (Truth.any (rest.map (elementTruth same value))) := rfl
      rw [step, ih]
      cases null : item.isNull with
      | true =>
          have dropped : nonNull (item :: rest) = nonNull rest := by simp [nonNull, null]
          have tested : elementTruth same value item = .ofBool value.isNone := by
            simp [elementTruth, null]
          rw [dropped, tested, List.any_cons, null, Bool.true_or, if_pos rfl]
          -- the null test is idempotent, so it does not matter whether the rest has one
          generalize Truth.any _ = others
          generalize Truth.ofBool value.isNone = test
          cases rest.any Json.isNull <;> cases others <;> cases test <;> rfl
      | false =>
          have kept : nonNull (item :: rest) = item :: nonNull rest := by simp [nonNull, null]
          have compared : elementTruth same value item = equals same value item := by
            simp [elementTruth, null]
          rw [kept, compared, List.any_cons, null, Bool.false_or]
          exact (Truth.or_assoc _ _ _).symm

/-! ## The predicate for a list -/

namespace ListPredicate

def nullTest (negated : Bool) : ListPredicate := if negated then .isNotNull else .isNull

def member (negated : Bool) (parameters : List Parameter) : ListPredicate :=
  if negated then .isNotIn parameters else .isIn parameters

def ofList (negated hasNull : Bool) (parameters : List Parameter) : ListPredicate :=
  match parameters, hasNull with
  | [], false => .constant negated
  | [], true => nullTest negated
  | parameters, false => member negated parameters
  | parameters, true =>
      if negated then .and (member negated parameters) (nullTest negated)
      else .or (member negated parameters) (nullTest negated)

theorem parameters_ofList (negated hasNull : Bool) (parameters : List Parameter) :
    (ofList negated hasNull parameters).parameters = parameters := by
  cases parameters <;> cases hasNull <;> cases negated <;>
    simp [ofList, nullTest, member, ListPredicate.parameters]

theorem truth_nullTest (negated : Bool) (valueOf : Parameter → Json) :
    (nullTest negated).truth same value valueOf =
      if negated then (Truth.ofBool value.isNone).not else .ofBool value.isNone := by
  cases negated <;> cases value <;> rfl

theorem truth_member (negated : Bool) (parameters : List Parameter)
    (valueOf : Parameter → Json) :
    (member negated parameters).truth same value valueOf =
      let listed := Truth.any ((parameters.map valueOf).map (equals same value))
      if negated then listed.not else listed := by
  cases negated <;> simp [member, truth, Function.comp_def]

theorem truth_ofList (negated hasNull : Bool) (parameters : List Parameter)
    (valueOf : Parameter → Json) :
    (ofList negated hasNull parameters).truth same value valueOf =
      let listed := (Truth.any ((parameters.map valueOf).map (equals same value))).or
        (if hasNull then .ofBool value.isNone else .no)
      if negated then listed.not else listed := by
  unfold ofList
  split
  · cases negated <;> rfl
  · simp only [truth_nullTest, List.map_nil, Truth.any_nil, Truth.no_or, if_true]
  · simp only [truth_member, Bool.false_eq_true, if_false, Truth.or_no]
  · cases negated <;>
      simp [truth, truth_member, truth_nullTest, Truth.not_or]

theorem truth_of_listed (negated : Bool) {items : List Json} {parameters : List Parameter}
    {valueOf : Parameter → Json} (listed : parameters.map valueOf = nonNull items) :
    (ofList negated (items.any Json.isNull) parameters).truth same value valueOf =
      let elements := Truth.any (items.map (elementTruth same value))
      if negated then elements.not else elements := by
  rw [truth_ofList, listed, any_elementTruth_eq]

end ListPredicate

end Meaning

/-! ## Tests for scalar lists -/

section Tests

variable {π ρ : Type}

def listTest (negated hasNull : Bool) (slots : List π) : Sql.Test π :=
  match slots, hasNull with
  | [], false => .constant negated
  | [], true => .isNull negated
  | slots, false => .member negated (slots.map .one)
  | slots, true => .memberOrNull negated (slots.map .one)

theorem slots_listTest (negated hasNull : Bool) (slots : List π) :
    (listTest negated hasNull slots).slots = slots := by
  have ones : ∀ slots : List π, (slots.map Sql.Cell.one).flatMap Sql.Cell.slots = slots := by
    intro slots
    induction slots with
    | nil => rfl
    | cons slot rest ih => simpa [Sql.Cell.slots] using ih
  unfold listTest
  split
  · rfl
  · rfl
  · exact ones _
  · exact ones _

theorem map_listTest (negated hasNull : Bool) (slots : List π) (f : π → ρ) :
    (listTest negated hasNull slots).map f = listTest negated hasNull (slots.map f) := by
  cases slots <;> cases hasNull <;> simp [listTest, Sql.Test.map, Sql.Cell.map]

theorem render_listTest (negated hasNull : Bool) (parameters : List Parameter)
    (column : String) :
    (listTest negated hasNull parameters).render Parameter.placeholder column =
      (ListPredicate.ofList negated hasNull parameters).text column := by
  have cells : ∀ parameters : List Parameter,
      (parameters.map Sql.Cell.one).map (Sql.Cell.render Parameter.placeholder) =
        parameters.map Parameter.placeholder := by
    intro parameters
    rw [List.map_map]
    rfl
  have member : ∀ parameters : List Parameter,
      Sql.Test.membership negated column
          ((parameters.map Sql.Cell.one).map (Sql.Cell.render Parameter.placeholder)) =
        (ListPredicate.member negated parameters).text column := by
    intro parameters
    rw [cells]
    cases negated <;> rfl
  cases parameters with
  | nil => cases hasNull <;> cases negated <;> rfl
  | cons parameter rest =>
      cases hasNull with
      | false => exact member (parameter :: rest)
      | true =>
          change "(" ++ Sql.Test.membership negated column _ ++
            (if negated then " AND " else " OR ") ++ Sql.Test.nullTest negated column ++ ")" = _
          rw [member]
          cases negated <;> rfl

theorem Operator.cells_of_scalars (operator : Operator) {items : List Json}
    (scalars : ∀ item ∈ items, item.isScalar = true) :
    operator.cells items = .ok (items.map .one) := by
  induction items with
  | nil => rfl
  | cons item rest ih =>
      obtain ⟨scalar, others⟩ := List.forall_mem_cons.mp scalars
      have first : operator.cell item = .ok (.one item) := by
        cases item <;> cases scalar <;> rfl
      simp only [cells, first, ih others]
      rfl

theorem Operator.membership_of_scalars (operator : Operator) (negated : Bool) {items : List Json}
    (scalars : ∀ item ∈ items, item.isScalar = true) :
    operator.membership negated items =
      .ok (listTest negated (items.any Json.isNull) (nonNull items)) := by
  cases items with
  | nil => rfl
  | cons item rest =>
      have cells := operator.cells_of_scalars fun other (listed : other ∈ nonNull (item :: rest)) =>
        scalars other (List.mem_filter.mp listed).1
      have unfolded : operator.membership negated (item :: rest) =
          if (nonNull (item :: rest)).isEmpty then .ok (.isNull negated)
          else (operator.cells (nonNull (item :: rest))).bind fun cells =>
            .ok (if (item :: rest).any Json.isNull then .memberOrNull negated cells
              else .member negated cells) := rfl
      rw [unfolded, cells]
      cases remaining : nonNull (item :: rest) with
      | nil =>
          -- every element is null, and there is one
          have null : item.isNull = true := by
            simpa using List.filter_eq_nil_iff.mp remaining item List.mem_cons_self
          simp [listTest, null]
      | cons first others =>
          cases (item :: rest).any Json.isNull <;> rfl

end Tests

theorem Bindings.bindAll_of_nodup {entries : List (String × Json)}
    (distinct : (Bindings.names entries).Nodup) :
    ∃ values, Bindings.bindAll [] entries = (values, none) ∧ values.Perm entries ∧
      values.names.Nodup := by
  have fresh : Bindings.Fresh [] entries :=
    Bindings.fresh_of_nodup (by simpa [Bindings.names] using distinct)
  obtain ⟨values, bound⟩ := Bindings.bindAll_of_fresh fresh
  have perm : values.Perm entries := by simpa using (Bindings.bindAll_none bound).1
  exact ⟨values, bound, perm, (perm.map Prod.fst).nodup_iff.mpr distinct⟩

namespace Filter

theorem upcoming_names_nodup (label : Sql.Alias) (field : String) (literals : List Json)
    (supply : Supply) :
    (Bindings.names (((supply.upcoming label field literals.length).zip literals).map
      fun entry => (entry.1.name, entry.2))).Nodup := by
  obtain ⟨numbers, -⟩ := upcoming_zip label field literals supply
  have draws : Draws supply.parameters _ _
      (((supply.upcoming label field literals.length).zip literals).map
        fun entry => (entry.1.name, entry.2)) :=
    ⟨_, by simpa using numbers, rfl, rfl, .refl _⟩
  exact draws.nodup

theorem applyOperator_single {operator : Operator} {operand : Json} {test : Sql.Test Json}
    (read : operator.test operand = .ok test) (node : Node) (field column : String)
    (context : Context) :
    ∃ values, applyOperator node field [column] operator operand context =
        .ok ({ conditions := [.test (node.label.columns [column])
                (withParameters node.label field test context.supply)], values },
          { context with supply := context.supply.skip test.slots.length }) ∧
      values.Perm (((context.supply.upcoming node.label field test.slots.length).zip
        test.slots).map fun entry => (entry.1.name, entry.2)) ∧
      values.names.Nodup := by
  have subjects : Filter.subjects node.label field [column] operator operand =
      .ok [node.label.columns [column]] := rfl
  have accepted : readOperand operator operand = .ok test := by
    rw [readOperand, read]
  have tested : testSubjects node.label field test [node.label.columns [column]]
      (context.supply, []) =
      ([.test (node.label.columns [column]) (withParameters node.label field test context.supply)],
        context.supply.skip test.slots.length,
        (context.supply.upcoming node.label field test.slots.length).zip test.slots) := by
    rw [testSubjects_cons]
    rfl
  obtain ⟨values, bound, perm, distinct⟩ := Bindings.bindAll_of_nodup
    (upcoming_names_nodup node.label field test.slots context.supply)
  refine ⟨values, ?_, perm, distinct⟩
  simp only [applyOperator, List.isEmpty_cons, Bool.false_eq_true, if_false, Compile.bind_ok,
    Compile.ofExcept_ok, Compile.fromSupply_ok, Fragment.checked_bindAll_ok]
  exact ⟨_, _, ⟨subjects, rfl⟩, test, _, ⟨accepted, rfl⟩, _, _, ⟨rfl, rfl⟩,
    ⟨values, by simpa only [tested] using bound, by simp only [tested]⟩, by simp only [tested]⟩

end Filter

/-- On one column the operator with a list becomes the predicate.  Its parameters are the
next ones, and they are bound to the elements that are not null. -/
structure ListFilter (node : Node) (field column : String) (operator : Operator)
    (items : List Json) (context : Context) (predicate : ListPredicate) (values : Bindings) :
    Prop where
  compiled : ∃ condition : Sql.Condition,
    Filter.applyOperator node field [column] operator (.array items) context =
      .ok ({ conditions := [condition], values },
        { context with supply := context.supply.skip (nonNull items).length }) ∧
    condition.render = predicate.text (node.label.column column)
  drawn : predicate.parameters =
    context.supply.upcoming node.label field (nonNull items).length
  bound : values.Perm ((predicate.parameters.zip (nonNull items)).map
    fun entry => (entry.1.name, entry.2))
  listed : predicate.parameters.map values.valueOf = nonNull items

theorem withParameters_listTest (label : Sql.Alias) (field : String) (negated hasNull : Bool)
    (literals : List Json) (supply : Supply) :
    Filter.withParameters label field (listTest negated hasNull literals) supply =
      listTest negated hasNull (supply.upcoming label field literals.length) := by
  -- the shape of a list's test depends on the length of the list only
  refine Sql.Test.eq_of_shape ?_ ?_
  · rw [Filter.withParameters_shape, Sql.Test.shape, Sql.Test.shape, map_listTest, map_listTest]
    congr 1
    apply List.ext_getElem <;> simp
  · rw [Filter.withParameters_slots, slots_listTest, slots_listTest]

def listOperator (negated : Bool) : Operator := if negated then .notIn else .isIn

theorem listFilter_ofList {items : List Json} (scalars : ∀ item ∈ items, item.isScalar = true)
    (node : Node) (field column : String) (negated : Bool) (context : Context) :
    ∃ values, ListFilter node field column (listOperator negated) items context
      (.ofList negated (items.any Json.isNull)
        (context.supply.upcoming node.label field (nonNull items).length)) values := by
  have read : (listOperator negated).test (.array items) =
      .ok (listTest negated (items.any Json.isNull) (nonNull items)) := by
    cases negated
    · exact Operator.membership_of_scalars .isIn false scalars
    · exact Operator.membership_of_scalars .notIn true scalars
  obtain ⟨values, compiled, bound, distinct⟩ :=
    Filter.applyOperator_single read node field column context
  rw [slots_listTest] at compiled bound
  rw [withParameters_listTest] at compiled
  have drawn := ListPredicate.parameters_ofList negated (items.any Json.isNull)
    (context.supply.upcoming node.label field (nonNull items).length)
  refine ⟨values, ⟨_, compiled, ?_⟩, drawn, by rwa [drawn], ?_⟩
  · rw [Sql.Condition.render, ← render_listTest]
    rfl
  · rw [drawn]
    refine Bindings.map_valueOf (by simp) fun entry listed => Bindings.get?_of_mem distinct ?_
    exact bound.mem_iff.mpr (List.mem_map.mpr ⟨entry, listed, rfl⟩)

/-- What `_in` becomes is true exactly for the values that occur in the list, and what `_nin`
becomes is its negation, wherever the two are compiled. -/
theorem exists_membership {items : List Json} (scalars : ∀ item ∈ items, item.isScalar = true)
    (node : Node) (field column : String) (context other : Context) :
    ∃ chosen excluded values others,
      ListFilter node field column .isIn items context chosen values ∧
      ListFilter node field column .notIn items other excluded others ∧
      ∀ {Value : Type} (same : Value → Json → Bool) (value : Option Value),
        (chosen.truth same value values.valueOf = .yes ↔ Occurs same value items) ∧
        excluded.truth same value others.valueOf =
          (chosen.truth same value values.valueOf).not := by
  obtain ⟨values, isIn⟩ := listFilter_ofList scalars node field column false context
  obtain ⟨others, notIn⟩ := listFilter_ofList scalars node field column true other
  refine ⟨_, _, values, others, isIn, notIn, fun same value => ?_⟩
  have listed := isIn.listed
  have alsoListed := notIn.listed
  rw [ListPredicate.parameters_ofList] at listed alsoListed
  rw [ListPredicate.truth_of_listed same value false listed,
    ListPredicate.truth_of_listed same value true alsoListed]
  exact ⟨any_elementTruth_eq_yes same value, rfl⟩

/-- Null and a name that is listed twice: a column that is null is in the list. -/
theorem Sample.exists_membership_names :
    (∀ item ∈ [Json.null, .string "Sam", .string "Sam"], item.isScalar = true) ∧
    ∃ chosen excluded values others,
      ListFilter root "name" "name" .isIn [.null, .string "Sam", .string "Sam"] started
        chosen values ∧
      ListFilter root "name" "name" .notIn [.null, .string "Sam", .string "Sam"] started
        excluded others ∧
      ∀ same : String → Json → Bool,
        chosen.truth same none values.valueOf = .yes ∧
        excluded.truth same none others.valueOf = .no := by
  have scalars : ∀ item ∈ [Json.null, .string "Sam", .string "Sam"], item.isScalar = true := by
    simp [Json.isScalar]
  obtain ⟨chosen, excluded, values, others, isIn, notIn, truth⟩ :=
    exists_membership scalars root "name" "name" started started
  refine ⟨scalars, chosen, excluded, values, others, isIn, notIn, fun same => ?_⟩
  obtain ⟨occurs, negation⟩ := truth same none
  have found : chosen.truth same none values.valueOf = .yes :=
    occurs.mpr ⟨.null, List.mem_cons_self, rfl⟩
  exact ⟨found, by rw [negation, found]; rfl⟩

end TreeQuery
