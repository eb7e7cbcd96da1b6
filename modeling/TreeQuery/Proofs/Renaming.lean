import TreeQuery.Proofs.Outlines
import TreeQuery.Proofs.Pieces

/-!
# Other stems

`restem` puts another stem in front of every name that a compilation draws: the
aliases, the parameters and the bound names.  Names are drawn without a stem and
given one afterwards, so nothing that is done with fragments may depend on it.
-/

namespace TreeQuery

/-! ## Trees -/

namespace Sql

def Alias.restem (stem : String) (label : Alias) : Alias := { label with stem }

def Column.restem (stem : String) (column : Column) : Column :=
  { column with label := column.label.restem stem }

def Parameter.restem (stem : String) (parameter : Parameter) : Parameter :=
  { parameter with label := parameter.label.restem stem }

def Order.restem (stem : String) : Order → Order
  | .terms list => .terms (list.map fun term => (term.1.restem stem, term.2))
  | .text sql => .text sql

def Value.restem (stem : String) : Value → Value
  | .null => .null
  | .column shown => .column (shown.restem stem)
  | .array shown => .array (shown.map (Column.restem stem))
  | .nested label => .nested (label.restem stem)
  | .raw size shown => .raw size (shown.map (Column.restem stem))
  | .text sql => .text sql

def ObjectExpr.restem (stem : String) : ObjectExpr → ObjectExpr
  | .pairs size list => .pairs size (list.map fun pair => (pair.1, pair.2.restem stem))
  | .text sql => .text sql

def Output.restem (stem : String) : Output → Output
  | .columns shown => .columns (shown.map (Column.restem stem))
  | .matched => .matched
  | .object value name => .object (value.restem stem) name
  | .numbered value order => .numbered (value.restem stem) (order.restem stem)
  | .collected value => .collected (value.restem stem)
  | .collectedPage page ordered => .collectedPage (page.restem stem) ordered

def Hop.restem (stem : String) (hop : Hop) : Hop :=
  { table := hop.table
    label := hop.label.restem stem
    keys := hop.keys.map (Column.restem stem)
    pairs := hop.pairs.map fun pair => (pair.1.restem stem, pair.2.restem stem) }

mutual

def Condition.restem (stem : String) : Condition → Condition
  | .text sql => .text sql
  | .test subject predicate =>
      .test (subject.map (Column.restem stem)) (predicate.map (Parameter.restem stem))
  | .equal left right => .equal (left.restem stem) (right.restem stem)
  | .linked subject hop => .linked (subject.map (Column.restem stem)) (hop.restem stem)
  | .not operand => .not (operand.restem stem)
  | .all operands => .all (Condition.restemAll stem operands)
  | .any operands => .any (Condition.restemAll stem operands)
  | .keyIn key queries => .keyIn (key.map (Column.restem stem)) (Select.restemAll stem queries)

def Condition.restemAll (stem : String) : List Condition → List Condition
  | [] => []
  | condition :: rest => condition.restem stem :: Condition.restemAll stem rest

def Join.restem (stem : String) : Join → Join
  | .text sql => .text sql
  | .lateral kind query label => .lateral kind (query.restem stem) (label.restem stem)

def Join.restemAll (stem : String) : List Join → List Join
  | [] => []
  | join :: rest => join.restem stem :: Join.restemAll stem rest

def Source.restem (stem : String) : Source → Source
  | .table name label => .table name (label.restem stem)
  | .page query label => .page (query.restem stem) (label.restem stem)

def Select.restem (stem : String) : Select → Select
  | ⟨output, source, joins, conditions, order, limit, offset⟩ =>
      { output := output.restem stem
        source := source.restem stem
        joins := Join.restemAll stem joins
        conditions := Condition.restemAll stem conditions
        order := order.map (Order.restem stem)
        limit
        offset }

def Select.restemAll (stem : String) : List Select → List Select
  | [] => []
  | query :: rest => query.restem stem :: Select.restemAll stem rest

end

theorem Condition.restemAll_eq (stem : String) (list : List Condition) :
    Condition.restemAll stem list = list.map (Condition.restem stem) := by
  induction list with
  | nil => rfl
  | cons condition rest ih => rw [Condition.restemAll, ih, List.map_cons]

theorem Join.restemAll_eq (stem : String) (list : List Join) :
    Join.restemAll stem list = list.map (Join.restem stem) := by
  induction list with
  | nil => rfl
  | cons join rest ih => rw [Join.restemAll, ih, List.map_cons]

theorem Select.restemAll_eq (stem : String) (list : List Select) :
    Select.restemAll stem list = list.map (Select.restem stem) := by
  induction list with
  | nil => rfl
  | cons query rest ih => rw [Select.restemAll, ih, List.map_cons]

@[simp] theorem Alias.restem_stem (stem : String) (label : Alias) :
    (label.restem stem).stem = stem := rfl

theorem Alias.restem_columns (stem : String) (label : Alias) (names : List String) :
    (label.columns names).map (Column.restem stem) = (label.restem stem).columns names := by
  simp [Alias.columns, Column.restem]

theorem Parameter.restem_name {parameter : Parameter} (bare : parameter.label.stem = "")
    (stem : String) : (parameter.restem stem).name = stem ++ parameter.name := by
  simp only [Parameter.name, Alias.parameterStem, Alias.text, Parameter.restem, Alias.restem, bare,
    String.empty_append, String.append_assoc]

end Sql

/-! ## Supplies and contexts -/

namespace Sql.Supply

def restem (stem : String) (supply : Supply) : Supply :=
  { last := fun kind other => if other = stem then supply.last kind "" else 0
    parameters := supply.parameters }

theorem restem_setLast (stem : String) (kind : Alias.Kind) (index : Nat) (supply : Supply) :
    (supply.restem stem).setLast kind stem index = (supply.setLast kind "" index).restem stem := by
  have last : ∀ (other : Alias.Kind) (name : String),
      (if other = kind ∧ name = stem then index
        else if name = stem then supply.last other "" else 0) =
      if name = stem then (if other = kind then index else supply.last other "") else 0 := by
    intro other name
    by_cases same : name = stem <;> by_cases alike : other = kind <;> simp [same, alike]
  simp [restem, setLast, last]

theorem restem_next (stem : String) (kind : Alias.Kind) (supply : Supply) :
    (supply.restem stem).next kind stem =
      ((supply.next kind "").1.restem stem, (supply.next kind "").2.restem stem) := by
  simp only [next, restem_setLast]
  simp [restem, Alias.restem]

theorem restem_start (stem : String) (supply : Supply) :
    start stem (supply.restem stem) =
      ((start "" supply).1.restem stem, (start "" supply).2.restem stem) := by
  rw [start, start, reset, restem_setLast, restem_next, reset]

end Sql.Supply

def Context.restem (stem : String) (context : Context) : Context :=
  { context with supply := context.supply.restem stem }

theorem Context.restem_empty (stem : String) : restem stem {} = {} := by
  simp [restem, Sql.Supply.restem]

def Node.restem (stem : String) (node : Node) : Node :=
  { node with label := node.label.restem stem }

@[simp] theorem Node.restem_entity (stem : String) (node : Node) :
    (node.restem stem).entity = node.entity := rfl

/-! ## Bindings -/

namespace Bindings

def restem (stem : String) (bindings : Bindings) : Bindings :=
  bindings.map fun entry => (stem ++ entry.1, entry.2)

@[simp] theorem restem_cons (stem : String) (entry : String × Json) (rest : Bindings) :
    restem stem (entry :: rest) = (stem ++ entry.1, entry.2) :: restem stem rest := rfl

theorem names_restem (stem : String) (bindings : Bindings) :
    (bindings.restem stem).names = bindings.names.map (stem ++ ·) := by
  simp [names, restem]

theorem has_restem (stem : String) (bindings : Bindings) (name : String) :
    (bindings.restem stem).has (stem ++ name) = bindings.has name := by
  rw [Bool.eq_iff_iff, has_iff, has_iff, names_restem]
  simp

theorem get?_restem (stem : String) (bindings : Bindings) (name : String) :
    (bindings.restem stem).get? (stem ++ name) = bindings.get? name := by
  unfold get?
  induction bindings with
  | nil => rfl
  | cons entry rest ih =>
      obtain ⟨other, value⟩ := entry
      by_cases here : name = other
      · simp [here]
      · have apart : (name == other) = false := by simpa using here
        have moved : (stem ++ name == stem ++ other) = false := by simpa using here
        rw [restem_cons, List.lookup_cons, List.lookup_cons, apart, moved]
        exact ih

/-- A stem in front of both names does not change their order. -/
theorem stem_append_lt (stem : String) (left right : String) :
    stem ++ left < stem ++ right ↔ left < right := by
  simp only [String.lt_iff, String.toList_append]
  induction stem.toList with
  | nil => rfl
  | cons c rest ih => simpa [List.cons_lt_cons_iff] using ih

theorem insert_restem (stem : String) (bindings : Bindings) (name : String) (value : Json) :
    (bindings.restem stem).insert (stem ++ name) value =
      (bindings.insert name value).restem stem := by
  induction bindings with
  | nil => rfl
  | cons entry rest ih =>
      simp only [restem_cons, insert, stem_append_lt]
      split
      · rfl
      · rw [ih, restem_cons]

theorem bindAll_restem (stem : String) (bindings : Bindings) (entries : List (String × Json)) :
    (bindings.restem stem).bindAll (restem stem entries) =
      ((bindings.bindAll entries).1.restem stem,
        (bindings.bindAll entries).2.map (stem ++ ·)) := by
  induction entries generalizing bindings with
  | nil => rfl
  | cons entry rest ih =>
      rw [restem_cons, bindAll, bindAll, has_restem]
      split
      · rfl
      · rw [insert_restem]
        exact ih _

end Bindings

/-! ## Fragments -/

namespace Fragment

mutual

def restem (stem : String) : Fragment → Fragment
  | ⟨columns, pairs, computed, filterJoins, joins, conditions, values, limit, offset, order, allOf,
      anyOf, noneOf⟩ =>
      { columns
        pairs := pairs.map fun pair => (pair.1, pair.2.restem stem)
        computed
        filterJoins := filterJoins.map (Sql.Join.restem stem)
        joins := joins.map (Sql.Join.restem stem)
        conditions := conditions.map (Sql.Condition.restem stem)
        values := values.restem stem
        limit
        offset
        order
        allOf := restemAll stem allOf
        anyOf := restemAll stem anyOf
        noneOf := restemAll stem noneOf }

def restemAll (stem : String) : List Fragment → List Fragment
  | [] => []
  | fragment :: rest => restem stem fragment :: restemAll stem rest

end

theorem restemAll_eq (stem : String) (fragments : List Fragment) :
    restemAll stem fragments = fragments.map (restem stem) := by
  induction fragments with
  | nil => rfl
  | cons fragment rest ih => rw [restemAll, ih, List.map_cons]

theorem restem_eq (stem : String) (fragment : Fragment) :
    fragment.restem stem =
      { columns := fragment.columns
        pairs := fragment.pairs.map fun pair => (pair.1, pair.2.restem stem)
        computed := fragment.computed
        filterJoins := fragment.filterJoins.map (Sql.Join.restem stem)
        joins := fragment.joins.map (Sql.Join.restem stem)
        conditions := fragment.conditions.map (Sql.Condition.restem stem)
        values := fragment.values.restem stem
        limit := fragment.limit
        offset := fragment.offset
        order := fragment.order
        allOf := fragment.allOf.map (restem stem)
        anyOf := fragment.anyOf.map (restem stem)
        noneOf := fragment.noneOf.map (restem stem) } := by
  cases fragment
  simp only [restem, restemAll_eq]

section Fields

variable (stem : String) (fragment : Fragment)

@[simp] theorem restem_values : (fragment.restem stem).values = fragment.values.restem stem := by
  rw [restem_eq]

@[simp] theorem restem_joins :
    (fragment.restem stem).joins = fragment.joins.map (Sql.Join.restem stem) := by
  rw [restem_eq]

@[simp] theorem restem_order : (fragment.restem stem).order = fragment.order := by
  rw [restem_eq]

@[simp] theorem restem_limit : (fragment.restem stem).limit = fragment.limit := by
  rw [restem_eq]

@[simp] theorem restem_offset : (fragment.restem stem).offset = fragment.offset := by
  rw [restem_eq]

end Fields

@[simp] theorem restem_empty (stem : String) : restem stem {} = {} := by
  simp [restem_eq, Bindings.restem]

theorem addOwn_restem (stem : String) (fragment other : Fragment) :
    (fragment.restem stem).addOwn (other.restem stem) =
      (fragment.addOwn other).restem stem := by
  simp [addOwn, restem_eq]

theorem addGroup_restem (stem : String) (fragment : Fragment) (group : List Fragment) :
    (fragment.restem stem).addGroup (group.map (restem stem)) =
      (fragment.addGroup group).restem stem := by
  by_cases none : group = []
  · simp [addGroup, none]
  · by_cases first : fragment.anyOf = [] <;>
      simp [addGroup, none, first, restem_eq, Bindings.restem]

theorem addRest_restem (stem : String) (fragment other : Fragment) :
    (fragment.restem stem).addRest (other.restem stem) =
      (fragment.addRest other).restem stem := by
  unfold addRest
  rw [← addGroup_restem]
  simp [restem_eq]

theorem bindAll_restem (stem : String) (fragment : Fragment) (entries : List (String × Json)) :
    (fragment.restem stem).bindAll (Bindings.restem stem entries) =
      ((fragment.bindAll entries).1.restem stem,
        (fragment.bindAll entries).2.map (stem ++ ·)) := by
  simp [bindAll, restem_eq, Bindings.bindAll_restem]

theorem hoist_restem (stem : String) (fragment : Fragment) (children : List Fragment) :
    (fragment.restem stem).hoist (children.map (restem stem)) =
      ((fragment.hoist children).1.restem stem,
        (fragment.hoist children).2.1.map (restem stem),
        (fragment.hoist children).2.2.map (stem ++ ·)) := by
  induction children generalizing fragment with
  | nil => rfl
  | cons child rest ih =>
      have emptied : { child.restem stem with values := [] } =
          restem stem { child with values := [] } := by
        simp [restem_eq, Bindings.restem]
      rw [List.map_cons, hoist, hoist, restem_values, bindAll_restem, emptied]
      rcases bound : fragment.bindAll child.values with ⟨result, duplicate⟩
      cases duplicate with
      | some name => rfl
      | none => simp only [Option.map_none, ih, List.map_cons]

end Fragment

/-! ## Lowering -/

namespace Branch

def restem (stem : String) (branch : Branch) : Branch :=
  ⟨branch.joins.map (Sql.Join.restem stem), branch.conditions.map (Sql.Condition.restem stem)⟩

@[simp] theorem isTrivial_restem (stem : String) (branch : Branch) :
    (branch.restem stem).isTrivial = branch.isTrivial := by
  simp [restem, isTrivial]

@[simp] theorem isJoinFree_restem (stem : String) (branch : Branch) :
    (branch.restem stem).isJoinFree = branch.isJoinFree := by
  simp [restem, isJoinFree]

theorem product_restem (stem : String) (left right : List Branch) :
    product (left.map (restem stem)) (right.map (restem stem)) =
      (product left right).map (restem stem) := by
  simp [product, List.map_flatMap, List.flatMap_map, restem, combine, Function.comp_def]

end Branch

namespace Scope

def restem (stem : String) (scope : Scope) : Scope :=
  { scope with label := scope.label.restem stem }

theorem predicate_restem (stem : String) (scope : Scope) (branches : List Branch) :
    (scope.restem stem).predicate (branches.map (Branch.restem stem)) =
      (scope.predicate branches).restem stem := by
  have keyQuery : ∀ branch : Branch, (scope.restem stem).keyQuery (branch.restem stem) =
      (scope.keyQuery branch).restem stem := by
    intro branch
    simp [Scope.keyQuery, Scope.source, Scope.keyColumns, restem, Branch.restem,
      Sql.Select.restem, Sql.Output.restem, Sql.Source.restem, Sql.Join.restemAll_eq,
      Sql.Condition.restemAll_eq, Sql.Alias.restem_columns]
  unfold predicate
  simp only [List.any_map, List.all_map, Function.comp_def, Branch.isTrivial_restem,
    Branch.isJoinFree_restem, List.map_map, keyQuery]
  split
  · simp [Sql.Condition.restem, Sql.Condition.restemAll_eq]
  · split
    · simp [Sql.Condition.restem, Sql.Condition.restemAll_eq, Branch.restem]
    · simp [Sql.Condition.restem, Sql.Select.restemAll_eq, Scope.keyColumns, restem,
        Sql.Alias.restem_columns]

theorem group_restem (stem : String) (scope : Scope) (branches : List Branch) :
    (scope.restem stem).group (branches.map (Branch.restem stem)) =
      (scope.group branches).map (Branch.restem stem) := by
  unfold group
  rw [predicate_restem]
  simp only [List.any_map, List.all_map, Function.comp_def, Branch.isTrivial_restem,
    Branch.isJoinFree_restem]
  split
  · rfl
  · split <;> rfl

end Scope

namespace Fragment

mutual

theorem branches_restem (stem : String) (scope : Scope) : ∀ fragment : Fragment,
    (fragment.restem stem).branches (scope.restem stem) =
      (fragment.branches scope).map (Branch.restem stem)
  | ⟨_, _, _, filterJoins, _, conditions, _, _, _, _, allOf, anyOf, noneOf⟩ => by
      have base : Branch.mk (filterJoins.map (Sql.Join.restem stem))
          (conditions.map (Sql.Condition.restem stem) ++
            (negations scope noneOf).map (Sql.Condition.restem stem)) =
          Branch.restem stem ⟨filterJoins, conditions ++ negations scope noneOf⟩ := by
        simp [Branch.restem]
      rw [restem, branches, branches]
      simp only [negations_restem stem scope noneOf, base]
      have conjoined := conjoin_restem stem scope
        [Branch.mk filterJoins (conditions ++ negations scope noneOf)] allOf
      rw [List.map_singleton] at conjoined
      rw [conjoined, alternatives_restem stem scope anyOf, Scope.group_restem,
        Branch.product_restem, restemAll_eq, List.isEmpty_map]
      split <;> rfl

theorem negations_restem (stem : String) (scope : Scope) : ∀ fragments : List Fragment,
    negations (scope.restem stem) (restemAll stem fragments) =
      (negations scope fragments).map (Sql.Condition.restem stem)
  | [] => rfl
  | fragment :: rest => by
      rw [restemAll, negations, negations, branches_restem stem scope fragment,
        negations_restem stem scope rest, Scope.predicate_restem, List.map_cons,
        Sql.Condition.restem]

theorem conjoin_restem (stem : String) (scope : Scope) (given : List Branch) :
    ∀ fragments : List Fragment,
      conjoin (scope.restem stem) (given.map (Branch.restem stem)) (restemAll stem fragments) =
        (conjoin scope given fragments).map (Branch.restem stem)
  | [] => rfl
  | fragment :: rest => by
      rw [restemAll, conjoin, conjoin, branches_restem stem scope fragment,
        Branch.product_restem]
      exact conjoin_restem stem scope _ rest

theorem alternatives_restem (stem : String) (scope : Scope) : ∀ fragments : List Fragment,
    alternatives (scope.restem stem) (restemAll stem fragments) =
      (alternatives scope fragments).map (Branch.restem stem)
  | [] => rfl
  | fragment :: rest => by
      rw [restemAll, alternatives, alternatives, branches_restem stem scope fragment,
        alternatives_restem stem scope rest, List.map_append]

end

theorem lower_restem (stem : String) (scope : Scope) (fragment : Fragment) :
    (fragment.restem stem).lower (scope.restem stem) =
      (fragment.lower scope).restem stem := by
  unfold lower
  rw [branches_restem]
  have several : ∀ branches : List Branch,
      ({ conditions := [(scope.restem stem).predicate (branches.map (Branch.restem stem))] } :
        Branch) = Branch.restem stem { conditions := [scope.predicate branches] } := by
    intro branches
    rw [Scope.predicate_restem]
    rfl
  match fragment.branches scope with
  | [] => exact several []
  | [branch] => rfl
  | first :: second :: rest => exact several (first :: second :: rest)

end Fragment

/-! ## Outcomes -/

def CompileError.restem (stem : String) : CompileError → CompileError
  | .unresolvedField label key => .unresolvedField (label.restem stem) key
  | .unknownOperator label name => .unknownOperator (label.restem stem) name
  | .filter label fault => .filter (label.restem stem) fault
  | .duplicateBinding name => .duplicateBinding (stem ++ name)
  | error => error

def moved {α : Type} (stem : String) (act : α → α) :
    Except CompileError α → Except CompileError α
  | .ok value => .ok (act value)
  | .error error => .error (error.restem stem)

theorem moved_bind {α β : Type} {stem : String} {act : α → α} {final : β → β}
    {first : Except CompileError α} {next follow : α → Except CompileError β}
    (later : ∀ value, follow (act value) = moved stem final (next value)) :
    moved stem act first >>= follow = moved stem final (first >>= next) := by
  cases first with
  | error error => rfl
  | ok value => exact later value

namespace Fragment

theorem checked_restem (stem : String) (result : Fragment × Option String) :
    checked (result.1.restem stem, result.2.map (stem ++ ·)) =
      moved stem (restem stem) (checked result) := by
  obtain ⟨fragment, duplicate⟩ := result
  cases duplicate <;> rfl

theorem merge_restem (stem : String) (fragment other : Fragment) :
    (fragment.restem stem).merge (other.restem stem) =
      moved stem (restem stem) (fragment.merge other) := by
  rw [merge_eq, merge_eq, restem_values, addOwn_restem, bindAll_restem, checked_restem]
  refine moved_bind fun bound => ?_
  rw [addRest_restem]
  rfl

theorem reduce_restem (stem : String) (fragments : List Fragment) :
    reduce (fragments.map (restem stem)) = moved stem (restem stem) (reduce fragments) := by
  have folded : ∀ start : Fragment,
      (fragments.map (restem stem)).foldlM merge (start.restem stem) =
        moved stem (restem stem) (fragments.foldlM merge start) := by
    induction fragments with
    | nil => exact fun _ => rfl
    | cons fragment rest ih =>
        intro start
        rw [List.map_cons, List.foldlM_cons, List.foldlM_cons, merge_restem]
        exact moved_bind ih
  have whole := folded {}
  rwa [restem_empty] at whole

end Fragment

end TreeQuery
