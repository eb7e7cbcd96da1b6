import TreeQuery.Proofs.Blanks
import TreeQuery.Proofs.FragmentParts
import TreeQuery.Proofs.Operators
import TreeQuery.Proofs.Relations
import TreeQuery.Proofs.SelectionRuns

/-!
# The sides of a fragment

A fragment shows something, demands something of a row, and slices and orders rows.
Merging keeps the three sides apart.  Fields only show, a filter only demands, and
a page only slices.
-/

namespace TreeQuery

/-- Inner joins test that a row exists, left outer joins bring in a value. -/
def Sql.Join.HasKind (kind : Sql.JoinKind) (join : Sql.Join) : Prop :=
  ∃ query label, join = .lateral kind query label

def Sql.Condition.Written (condition : Sql.Condition) : Prop :=
  Text.isWritten condition.render = true

namespace Fragment

def display (fragment : Fragment) : Fragment :=
  { columns := fragment.columns, pairs := fragment.pairs, computed := fragment.computed,
    joins := fragment.joins }

def demand (fragment : Fragment) : Fragment :=
  { filterJoins := fragment.filterJoins, conditions := fragment.conditions,
    allOf := fragment.allOf, anyOf := fragment.anyOf, noneOf := fragment.noneOf }

def slicing (fragment : Fragment) : Fragment :=
  { limit := fragment.limit, offset := fragment.offset, order := fragment.order }

theorem lower_demand (scope : Scope) (fragment : Fragment) :
    fragment.demand.lower scope = fragment.lower scope := by
  cases fragment
  simp only [demand, lower, branches]

theorem lower_empty (scope : Scope) : lower scope {} = {} := by
  simp [lower, branches, conjoin, negations]

/-! ## Merging -/

section Merge

variable {fragment other result : Fragment}

theorem merge_display (merged : fragment.merge other = .ok result) (hidden : other.display = {}) :
    result.display = fragment.display := by
  obtain ⟨-, -, -, -, rfl⟩ := merge_fields merged
  simp only [display, mk.injEq] at hidden
  obtain ⟨columns, pairs, computed, -, joins, -⟩ := hidden
  simp [display, columns, pairs, computed, joins, unionNames]

theorem merge_demand_left (merged : fragment.merge other = .ok result)
    (undemanding : fragment.demand = {}) : result.demand = other.demand := by
  obtain ⟨values, -, rfl⟩ := merge_ok.mp merged
  simp only [demand, mk.injEq] at undemanding
  obtain ⟨-, -, -, filterJoins, -, conditions, -, -, -, -, allOf, anyOf, noneOf⟩ := undemanding
  by_cases alternatives : other.anyOf = []
  · simp [addRest, addGroup, addOwn, demand, filterJoins, conditions, allOf, anyOf, noneOf,
      alternatives]
  · simp [addRest, addGroup, addOwn, demand, filterJoins, conditions, allOf, anyOf, noneOf,
      alternatives]

theorem merge_demand_right (merged : fragment.merge other = .ok result)
    (undemanding : other.demand = {}) : result.demand = fragment.demand := by
  obtain ⟨values, -, rfl⟩ := merge_ok.mp merged
  simp only [demand, mk.injEq] at undemanding
  obtain ⟨-, -, -, filterJoins, -, conditions, -, -, -, -, allOf, anyOf, noneOf⟩ := undemanding
  simp [addRest, addGroup, addOwn, demand, filterJoins, conditions, allOf, anyOf, noneOf]

theorem merge_slicing (merged : fragment.merge other = .ok result) :
    result.slicing =
      { limit := other.limit <|> fragment.limit, offset := other.offset <|> fragment.offset,
        order := fragment.order ++ other.order } := by
  obtain ⟨-, -, -, -, rfl⟩ := merge_fields merged
  rfl

theorem merge_slicing_left (merged : fragment.merge other = .ok result)
    (unsliced : fragment.slicing = {}) : result.slicing = other.slicing := by
  simp only [slicing, mk.injEq] at unsliced
  obtain ⟨-, -, -, -, -, -, -, limit, offset, order, -⟩ := unsliced
  rw [merge_slicing merged, slicing, limit, offset, order]
  simp

theorem merge_slicing_right (merged : fragment.merge other = .ok result)
    (unsliced : other.slicing = {}) : result.slicing = fragment.slicing := by
  simp only [slicing, mk.injEq] at unsliced
  obtain ⟨-, -, -, -, -, -, -, limit, offset, order, -⟩ := unsliced
  rw [merge_slicing merged, slicing, limit, offset, order]
  simp

end Merge

theorem reduce_append_ok {fragments others : List Fragment} {result : Fragment}
    (reduced : reduce (fragments ++ others) = .ok result) :
    ∃ fragment, reduce fragments = .ok fragment ∧
      others.foldlM merge fragment = .ok result := by
  unfold reduce at reduced ⊢
  rw [List.foldlM_append] at reduced
  cases before : List.foldlM merge {} fragments with
  | error error =>
      rw [before] at reduced
      cases reduced
  | ok fragment =>
      rw [before] at reduced
      exact ⟨fragment, rfl, reduced⟩

theorem reduce_side {side : Fragment → Fragment}
    (kept : ∀ {fragment other result : Fragment}, fragment.merge other = .ok result →
      side other = {} → side result = side fragment)
    (empty : side {} = {}) {fragments : List Fragment} {result : Fragment}
    (reduced : reduce fragments = .ok result) (each : ∀ fragment ∈ fragments, side fragment = {}) :
    side result = {} := by
  refine reduce_induction (motive := fun fragments result =>
    (∀ fragment ∈ fragments, side fragment = {}) → side result = {}) (fun _ => empty) ?_ reduced each
  intro fragments fragment other result before merged each
  obtain ⟨earlier, last⟩ := List.forall_mem_append.mp each
  rw [kept merged (last other (List.mem_singleton_self other)), before earlier]

structure Shows (fragment : Fragment) : Prop where
  undemanding : fragment.demand = {}
  unsliced : fragment.slicing = {}

theorem Shows.reduce {fragments : List Fragment} {result : Fragment}
    (shows : ∀ fragment ∈ fragments, fragment.Shows) (reduced : reduce fragments = .ok result) :
    result.Shows where
  undemanding := reduce_side merge_demand_right rfl reduced fun fragment listed =>
    (shows fragment listed).undemanding
  unsliced := reduce_side merge_slicing_right rfl reduced fun fragment listed =>
    (shows fragment listed).unsliced

structure Demands (fragment : Fragment) : Prop where
  hidden : fragment.display = {}
  unsliced : fragment.slicing = {}
  tests : fragment.Each (Sql.Join.HasKind .inner) Sql.Condition.Written

theorem Each.reduce {join : Sql.Join → Prop} {condition : Sql.Condition → Prop}
    {fragments : List Fragment} {result : Fragment}
    (each : ∀ fragment ∈ fragments, fragment.Each join condition)
    (reduced : reduce fragments = .ok result) : result.Each join condition := by
  refine reduce_induction (motive := fun fragments result =>
    (∀ fragment ∈ fragments, fragment.Each join condition) → result.Each join condition)
    (fun _ => each_empty) ?_ reduced each
  intro fragments fragment other result before merged each
  obtain ⟨earlier, last⟩ := List.forall_mem_append.mp each
  exact (before earlier).merge (last other (List.mem_singleton_self other)) merged

theorem Demands.reduce {fragments : List Fragment} {result : Fragment}
    (demands : ∀ fragment ∈ fragments, fragment.Demands)
    (reduced : reduce fragments = .ok result) : result.Demands where
  hidden := reduce_side merge_display rfl reduced fun fragment listed =>
    (demands fragment listed).hidden
  unsliced := reduce_side merge_slicing_right rfl reduced fun fragment listed =>
    (demands fragment listed).unsliced
  tests := .reduce (fun fragment listed => (demands fragment listed).tests) reduced

theorem Each.lowered {fragment : Fragment}
    (each : fragment.Each (Sql.Join.HasKind .inner) Sql.Condition.Written) (scope : Scope) :
    (fragment.lower scope).Each (Sql.Join.HasKind .inner) Sql.Condition.Written := by
  have rendered : ∀ {operands : List Sql.Condition}, (∀ operand ∈ operands, operand.Written) →
      ∀ text ∈ Sql.Condition.renderAll operands, Text.isWritten text = true := by
    intro operands written
    rw [Sql.Condition.renderAll_eq]
    exact List.forall_mem_map.mpr written
  have passes : scope.Passes (Sql.Join.HasKind .inner) Sql.Condition.Written := by
    refine ⟨fun _ => ?_, fun operands => ?_, fun operands => ?_, fun _ => ?_⟩
    · simp [Sql.Condition.Written, Sql.Condition.render,
        show Text.isWritten "NOT (" = true by decide]
    · exact Sql.isWritten_connected _ (by decide) (rendered operands)
    · exact Sql.isWritten_connected _ (by decide) (rendered operands)
    · simp [Sql.Condition.Written, Sql.Condition.render,
        show Text.isWritten " IN (" = true by decide]
  exact passes.lower each

end Fragment

/-! ## Filters -/

namespace Filter

theorem written_testSubjects (label : Sql.Alias) (field : String) (test : Sql.Test Json)
    (subjects : List (List Sql.Column)) (supply : Sql.Supply)
    (bound : List (Sql.Parameter × Json)) :
    ∀ condition ∈ (testSubjects label field test subjects (supply, bound)).1,
      condition.Written := by
  induction subjects generalizing supply bound with
  | nil => simp [testSubjects]
  | cons subject rest ih =>
      rw [testSubjects_cons]
      refine List.forall_mem_cons.mpr ⟨?_, ih _ _⟩
      rw [Sql.Condition.Written, Sql.Condition.render]
      exact Sql.Test.isWritten_render _ _ _

theorem Applied.demands {node : Node} {field : String} {columns : List String}
    {operator : Operator} {operand : Json} {context after : Context} {fragment : Fragment}
    (applied : Applied node field columns operator operand context fragment after) :
    fragment.Demands := by
  obtain ⟨-, subjects, test, conditions, _, _, _, -, -, tested, -, -, -, rfl⟩ := applied
  have written := written_testSubjects node.label field test subjects context.supply []
  rw [tested] at written
  exact ⟨rfl, rfl, Fragment.each_iff.mpr (by simpa using written)⟩

theorem AppliedAll.demands {node : Node} {field : String} {columns : List String}
    {operators : List (String × Json)} {context after : Context} {fragments : List Fragment}
    (applied : AppliedAll node field columns operators context fragments after) :
    ∀ fragment ∈ fragments, fragment.Demands := by
  induction applied with
  | nil => simp
  | cons named first later ih => exact List.forall_mem_cons.mpr ⟨first.demands, ih⟩

theorem Combined.demands {combinator : Combinator} {siblings : List Fragment}
    {fragment : Fragment} (combined : Combined combinator siblings fragment)
    (demands : ∀ sibling ∈ siblings, sibling.Demands) : fragment.Demands := by
  have tests := combined.each fun sibling listed => (demands sibling listed).tests
  cases combined with
  | none => exact ⟨rfl, rfl, tests⟩
  | some nonempty perm distinct => cases combinator <;> exact ⟨rfl, rfl, tests⟩

theorem Runs.demands {compiler : Compiler} {node : Node} {part : Part} {context after : Context}
    {fragments : List Fragment} (run : Runs compiler node part context fragments after) :
    ∀ fragment ∈ fragments, fragment.Demands := by
  induction run with
  | noMembers => simp
  | members first later firstDemands laterDemands =>
      exact List.forall_mem_cons.mpr ⟨firstDemands _ (List.mem_singleton_self _), laterDemands⟩
  | noElements => simp
  | elements first reduced compiled later firstDemands laterDemands =>
      exact List.forall_mem_cons.mpr ⟨.reduce firstDemands reduced, laterDemands⟩
  | compared role plain done =>
      exact List.forall_mem_singleton.mpr (applyOperator_ok done).demands
  | operators role done reduced =>
      exact List.forall_mem_singleton.mpr (.reduce (applyOperators_ok done).demands reduced)
  | suffixed role done => exact List.forall_mem_singleton.mpr (applyOperator_ok done).demands
  | combinedList role elements combined demands =>
      exact List.forall_mem_singleton.mpr (combined.demands demands)
  | combinedObject role elements combined demands =>
      exact List.forall_mem_singleton.mpr (combined.demands demands)
  | related =>
      refine List.forall_mem_singleton.mpr ⟨rfl, rfl, Fragment.each_iff.mpr ?_⟩
      simp [Filter.related, existence, Sql.Join.HasKind]

theorem compile_demands {compiler : Compiler} {node : Node} {filter : Members}
    {context after : Context} {fragment : Fragment}
    (compiled : compile compiler node filter context = .ok (fragment, after)) :
    fragment.Demands := by
  obtain ⟨fragments, run, reduced⟩ := compile_ok compiled
  exact .reduce run.demands reduced

end Filter

/-! ## Selections -/

namespace Display

def Part.isBare : Part → Prop
  | .selection whole => whole.arguments = none
  | _ => True

theorem Argued.tests {compiler : Compiler} {node : Node} {given : Arguments}
    {context after : Context} {fragments : List Fragment}
    (argued : Argued compiler node given context fragments after) :
    ∀ fragment ∈ fragments, fragment.display = {} ∧
      fragment.Each (Sql.Join.HasKind .inner) Sql.Condition.Written := by
  have sliced : ∀ fragment ∈ (given.pagination.map Fragment.ofPagination).toList,
      fragment.display = {} ∧ fragment.Each (Sql.Join.HasKind .inner) Sql.Condition.Written := by
    intro fragment member
    obtain ⟨pagination, -, rfl⟩ := Option.map_eq_some_iff.mp (Option.mem_toList.mp member)
    exact ⟨rfl, Fragment.each_iff.mpr (by simp [Fragment.ofPagination])⟩
  cases argued with
  | unfiltered unfiltered => exact sliced
  | filtered filtered compiled =>
      have demands := Filter.compile_demands compiled
      exact List.forall_mem_cons.mpr ⟨⟨demands.hidden, demands.tests⟩, sliced⟩

theorem Runs.shows {compiler : Compiler} {node : Node} {part : Part} {context after : Context}
    {fragments : List Fragment} (run : Runs compiler node part context fragments after) :
    part.isBare → ∀ fragment ∈ fragments, fragment.Shows := by
  induction run with
  | @keys node given _ _ _ argued =>
      rintro rfl
      have keys : ∀ fragment ∈ keyFields node, fragment.Shows := by
        intro fragment listed
        obtain ⟨property, -, rfl⟩ := List.mem_map.mp listed
        exact ⟨rfl, rfl⟩
      cases argued with
      | unfiltered => simpa using keys
      | filtered filtered => cases filtered
  | selected nonempty ran argued shows =>
      rintro rfl
      cases argued with
      | unfiltered => simpa using shows trivial
      | filtered filtered => cases filtered
  | noFields => simp
  | fields first later firstShows laterShows =>
      intro _
      exact List.forall_mem_cons.mpr
        ⟨firstShows trivial _ (List.mem_singleton_self _), laterShows trivial⟩
  | computed | scalar | related => exact fun _ => List.forall_mem_singleton.mpr ⟨rfl, rfl⟩

/-- What is displayed is brought in by joins that keep all rows. -/
theorem Runs.brings {compiler : Compiler} {node : Node} {part : Part} {context after : Context}
    {fragments : List Fragment} (run : Runs compiler node part context fragments after) :
    ∀ fragment ∈ fragments, ∀ join ∈ fragment.joins, join.HasKind .leftOuter := by
  have argued_brings : ∀ {node given context fragments after},
      Argued compiler node given context fragments after →
        ∀ fragment ∈ fragments, ∀ join ∈ fragment.joins, join.HasKind .leftOuter := by
    intro _ _ _ _ _ argued fragment listed
    have hidden := (argued.tests fragment listed).1
    have unjoined : fragment.joins = [] := congrArg Fragment.joins hidden
    simp [unjoined]
  induction run with
  | @keys node _ _ _ _ argued =>
      refine List.forall_mem_append.mpr ⟨fun fragment listed => ?_, argued_brings argued⟩
      obtain ⟨property, -, rfl⟩ := List.mem_map.mp listed
      simp [scalarField]
  | selected nonempty ran argued brings =>
      exact List.forall_mem_append.mpr ⟨brings, argued_brings argued⟩
  | noFields => simp
  | fields first later firstBrings laterBrings =>
      exact List.forall_mem_cons.mpr ⟨firstBrings _ (List.mem_singleton_self _), laterBrings⟩
  | computed => simp [computedField]
  | scalar => simp [scalarField]
  | related resolved relation found shallow inner reduced brought =>
      obtain ⟨link, supply, -, joined, -⟩ := Site.render_ok brought
      refine List.forall_mem_singleton.mpr (List.forall_mem_singleton.mpr ?_)
      cases joined <;> exact ⟨_, _, rfl⟩

end Display

end TreeQuery
