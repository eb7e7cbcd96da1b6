import TreeQuery.Proofs.Aliases
import TreeQuery.Proofs.Database
import TreeQuery.Proofs.Registry
import TreeQuery.Proofs.Sample

/-!
# The meaning of filters

`Filter.meets` reads a filter key by key on one row of an entity, with no joins
and no subqueries: all keys have to be met, a combinator asks for all, some or
none of its elements, and a relation asks for a related row that meets the
inner filter.  The statement parts that a filter compiles to keep exactly the
rows that meet it.
-/

namespace TreeQuery

open Sql (Alias Supply)

variable {Row Value : Type}

/-! ## Reading a filter -/

def Link.relates (database : Database Row Value) (parent child : Row) : Link → Bool
  | .direct parentColumns childColumns =>
      (childColumns.zip parentColumns).all fun pair =>
        database.same (database.read child pair.1) (database.read parent pair.2)
  | .pivot table parentColumns pivotParentColumns pivotChildColumns childColumns =>
      (database.rows table).any fun pivot =>
        ((pivotParentColumns.zip parentColumns).all fun pair =>
            database.same (database.read pivot pair.1) (database.read parent pair.2)) &&
          database.sameAll (childColumns.map (database.read child))
            (pivotChildColumns.map (database.read pivot))

namespace Filter

def satisfies (database : Database Row Value) (row : Row) (columns : List String)
    (operator : Operator) (operand : Json) : Bool :=
  match operator.test operand with
  | .ok test =>
      (compared columns operator).all fun names =>
        database.passes (names.map (database.read row)) test
  | .error _ => false

def satisfiesAll (database : Database Row Value) (row : Row) (columns : List String)
    (operators : List (String × Json)) : Bool :=
  operators.all fun entry =>
    (Operator.ofName? entry.1).any (satisfies database row columns · entry.2)

def meetsLeaf (database : Database Row Value) (row : Row) (value : Json) :
    FilterRole → Bool
  | .field columns => satisfies database row columns .eq value
  | .suffixed _ columns operator => satisfies database row columns operator value
  | _ => false

mutual

def meets (compiler : Compiler) (database : Database Row Value) (entity : Entity)
    (row : Row) : List (String × Json) → Bool
  | [] => true
  | (key, value) :: rest =>
      meetsEntry compiler database entity row key value &&
        meets compiler database entity row rest

def meetsEntry (compiler : Compiler) (database : Database Row Value) (entity : Entity)
    (row : Row) (key : String) : Json → Bool
  | .object inner =>
      match role (compiler.resolver entity) key with
      | .combinator .not => !meets compiler database entity row inner
      | .combinator _ => meets compiler database entity row inner
      | .relation property =>
          match compiler.provider.entity property.typeName with
          | .error _ => false
          | .ok child =>
              match Link.resolve entity property child with
              | .error _ => false
              | .ok link =>
                  (database.rows child.table).any fun other =>
                    link.relates database row other &&
                      meets compiler database child other inner
      | .field columns => satisfiesAll database row columns inner
      | role => meetsLeaf database row (.object inner) role
  | .array items =>
      match role (compiler.resolver entity) key with
      | .combinator .or => items.isEmpty || meetsSome compiler database entity row items
      | .combinator .and => meetsEvery compiler database entity row items
      | .combinator .not => !meetsSome compiler database entity row items
      | role => meetsLeaf database row (.array items) role
  | value => meetsLeaf database row value (role (compiler.resolver entity) key)

def meetsSome (compiler : Compiler) (database : Database Row Value) (entity : Entity)
    (row : Row) : List Json → Bool
  | [] => false
  | item :: rest =>
      meetsElement compiler database entity row item ||
        meetsSome compiler database entity row rest

def meetsEvery (compiler : Compiler) (database : Database Row Value) (entity : Entity)
    (row : Row) : List Json → Bool
  | [] => true
  | item :: rest =>
      meetsElement compiler database entity row item &&
        meetsEvery compiler database entity row rest

def meetsElement (compiler : Compiler) (database : Database Row Value) (entity : Entity)
    (row : Row) : Json → Bool
  | .object inner => meets compiler database entity row inner
  | _ => false

end

end Filter

/-! ## Operators -/

def Bindings.Covers (bindings : Bindings) (values : List (String × Json)) : Prop :=
  ∀ entry ∈ values, bindings.get? entry.1 = some entry.2

theorem Bindings.Covers.perm {bindings : Bindings} {values others : List (String × Json)}
    (covers : bindings.Covers values) (perm : others.Perm values) :
    bindings.Covers others :=
  fun entry member => covers entry (perm.mem_iff.mp member)

namespace Filter

variable {database : Database Row Value} {bindings : Bindings}
  {assignment : Assignment Row}

theorem values_columns (label : Alias) (names : List String) :
    database.values assignment (label.columns names) =
      names.map (database.read (assignment label)) := by
  simp [Database.values, Alias.columns, Database.value, Function.comp_def]

/-- A test whose parameters are bound to its literals is the test itself. -/
theorem withParameters_valueOf {label : Alias} {field : String} {test : Sql.Test Json}
    {supply : Supply}
    (bound : ∀ entry ∈ (supply.upcoming label field test.slots.length).zip test.slots,
      bindings.get? entry.1.name = some entry.2) :
    (withParameters label field test supply).map bindings.valueOf = test := by
  have slots : (withParameters label field test supply).slots.map bindings.valueOf =
      test.slots.map id := by
    rw [withParameters_slots, List.map_id]
    exact Bindings.map_valueOf (by simp) bound
  simpa using Sql.Test.map_eq_of_shape (withParameters_shape label field test supply) slots

theorem testSubjects_bound (label : Alias) (field : String) (test : Sql.Test Json)
    (subjects : List (List Sql.Column)) (drawn : Drawn) {entry : Sql.Parameter × Json}
    (member : entry ∈ drawn.2) :
    entry ∈ (testSubjects label field test subjects drawn).2.2 := by
  induction subjects generalizing drawn with
  | nil => exact member
  | cons subject rest ih =>
      obtain ⟨supply, bound⟩ := drawn
      rw [testSubjects_cons]
      exact ih (_, _) (List.mem_append_left _ member)

theorem testSubjects_holds (database : Database Row Value) (assignment : Assignment Row)
    (label : Alias) (field : String) (test : Sql.Test Json)
    (subjects : List (List Sql.Column)) (drawn : Drawn)
    (covers : ∀ entry ∈ (testSubjects label field test subjects drawn).2.2,
      bindings.get? entry.1.name = some entry.2) :
    (testSubjects label field test subjects drawn).1.all
        (database.holds bindings assignment) =
      subjects.all fun subject =>
        database.passes (database.values assignment subject) test := by
  induction subjects generalizing drawn with
  | nil => rfl
  | cons subject rest ih =>
      obtain ⟨supply, bound⟩ := drawn
      rw [testSubjects_cons] at covers ⊢
      have filled : (withParameters label field test supply).map bindings.valueOf = test := by
        apply withParameters_valueOf
        intro entry member
        refine covers entry (testSubjects_bound label field test rest (_, _) ?_)
        exact List.mem_append_right _ member
      simp only [List.all_cons, ih (_, _) covers, Database.holds, filled]

theorem Applied.holds {node : Node} {field : String} {columns : List String}
    {operator : Operator} {operand : Json} {context after : Context} {fragment : Fragment}
    (applied : Applied node field columns operator operand context fragment after)
    (database : Database Row Value) (assignment : Assignment Row)
    (covers : bindings.Covers fragment.values) :
    (database.valuation bindings assignment).holds fragment =
      satisfies database (assignment node.label) columns operator operand := by
  obtain ⟨-, subjects, test, conditions, supply, bound, values, listed, accepted, tested,
    -, perm, -, rfl⟩ := applied
  have bounded : ∀ entry ∈ (testSubjects node.label field test subjects
      (context.supply, [])).2.2, bindings.get? entry.1.name = some entry.2 := by
    rw [tested]
    intro entry member
    exact covers (entry.1.name, entry.2) (perm.mem_iff.mpr (List.mem_map.mpr ⟨entry, member, rfl⟩))
  have all := testSubjects_holds database assignment node.label field test subjects
    (context.supply, []) bounded
  rw [tested, subjects_ok listed] at all
  rw [Valuation.holds_eq]
  simp only [Database.valuation, all, satisfies, accepted]
  simp [List.all_map, Function.comp_def, values_columns]

theorem AppliedAll.holds {node : Node} {field : String} {columns : List String}
    {operators : List (String × Json)} {context after : Context} {fragments : List Fragment}
    (applied : AppliedAll node field columns operators context fragments after)
    (database : Database Row Value) (assignment : Assignment Row)
    (covers : ∀ fragment ∈ fragments, bindings.Covers fragment.values) :
    fragments.all (database.valuation bindings assignment).holds =
      satisfiesAll database (assignment node.label) columns operators := by
  induction applied with
  | nil => rfl
  | cons named first later ih =>
      have rest := ih fun fragment member => covers fragment (List.mem_cons_of_mem _ member)
      simp only [satisfiesAll] at rest
      simp only [List.all_cons, satisfiesAll, named, Option.any_some, rest,
        first.holds database assignment (covers _ List.mem_cons_self)]

/-! ## Relations -/

theorem linking_holds {parent child pivot : Alias} (apart : pivot ≠ parent) (link : Link) :
    (Site.linking parent child pivot link).all (database.holds bindings assignment) =
      link.relates database (assignment parent) (assignment child) := by
  cases link with
  | direct parentColumns childColumns =>
      simp only [Site.linking, Alias.columns, List.zip_map, List.map_map, List.all_map,
        Link.relates]
      rfl
  | pivot table parentColumns pivotParentColumns pivotChildColumns childColumns =>
      simp only [Site.linking, List.all_cons, List.all_nil, Bool.and_true, Database.holds,
        Database.leads, Site.hop, Link.relates, values_columns, Function.update_self]
      congr 1
      funext row
      congr 1
      simp [Alias.columns, List.zip_map, Function.comp_def, Database.value,
        Function.update_of_ne apart.symm]

variable {compiler : Compiler}

theorem Combined.holds {combinator : Combinator} {siblings : List Fragment}
    {fragment : Fragment} (combined : Combined combinator siblings fragment)
    (valuation : Valuation) :
    valuation.holds fragment =
      match combinator with
      | .or => siblings.isEmpty || siblings.any valuation.holds
      | .and => siblings.all valuation.holds
      | .not => !siblings.any valuation.holds := by
  cases combined with
  | none =>
      rw [Valuation.holds_eq]
      cases combinator <;> rfl
  | some nonempty perm distinct =>
      have several : siblings.isEmpty = false := by simpa using nonempty
      have alone : valuation.holds { anyOf := siblings.map Fragment.emptied } =
          siblings.any valuation.holds := by
        rw [Valuation.holds_eq]
        simp [several]
      rw [Valuation.holds_eq]
      cases combinator <;> simp [Filter.combined, several, alone]

theorem Combined.covers {combinator : Combinator} {siblings : List Fragment}
    {fragment : Fragment} (combined : Combined combinator siblings fragment)
    (covers : bindings.Covers fragment.values) :
    ∀ sibling ∈ siblings, bindings.Covers sibling.values := by
  intro sibling member entry bound
  cases combined with
  | none => simp at member
  | some nonempty perm distinct =>
      refine covers entry ?_
      have listed := perm.mem_iff.mpr (List.mem_flatMap.mpr ⟨sibling, member, bound⟩)
      cases combinator <;> exact listed

end Filter

namespace Filter

variable {compiler : Compiler} {database : Database Row Value}

end Filter

namespace Sample

def tables : String → List (List (String × String))
  | "person" =>
      [[("id", "1"), ("name", "Frodo"), ("fellowship_id", "7")],
        [("id", "2"), ("name", "Sam"), ("fellowship_id", "7")],
        [("id", "3"), ("name", "Bilbo"), ("fellowship_id", "-")]]
  | "fellowship" => [[("id", "7"), ("name", "Company")]]
  | _ => []

def database : Database (List (String × String)) String where
  rows := tables
  read row column := (row.lookup column).getD ""
  same left right := left == right
  passes values
    | .compare .equal (.string text) => values == [text]
    | _ => false
  arrange _ rows := rows
  accepts _ _ := false

def wanted : Members :=
  [("_or",
      .array
        [.object [("name", .string "Bilbo")],
          .object
            [("fellowship", .object [("name", .string "Company")]),
              ("_not", .object [("name", .string "Sam")])]])]

end Sample

end TreeQuery
