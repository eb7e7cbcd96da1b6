import TreeQuery.Proofs.FragmentSides
import TreeQuery.Proofs.Pieces

/-!
# Compiled statements are regular

Whatever holds of tests, links and the joins that look for related rows, and passes
from the parts of a condition to the whole, holds of everything that a filter is
compiled to.  In particular nothing is supplied as text, and rows are ordered by at
least one column, so that the text of a statement is that of its pieces.
-/

namespace TreeQuery

/-! ## Properties of compiled filters -/

namespace Filter

structure Kept (join : Sql.Join → Prop) (condition : Sql.Condition → Prop) : Prop where
  passes : ∀ scope : Scope, scope.Passes join condition
  test : ∀ subject test, condition (.test subject test)
  linking : ∀ (parent child pivot : Sql.Alias) (link : Link),
    ∀ part ∈ Site.linking parent child pivot link, condition part
  existence : ∀ {site : Site} {correlation : List Sql.Condition} {lowered : Branch}
    {label : Sql.Alias}, (∀ part ∈ correlation, condition part) →
    lowered.Each join condition → join (existence site correlation lowered label)

variable {join : Sql.Join → Prop} {condition : Sql.Condition → Prop}

theorem Kept.testSubjects (kept : Kept join condition) (label : Sql.Alias) (field : String)
    (test : Sql.Test Json) (subjects : List (List Sql.Column)) (drawn : Drawn) :
    ∀ part ∈ (testSubjects label field test subjects drawn).1, condition part := by
  induction subjects generalizing drawn with
  | nil => simp [Filter.testSubjects]
  | cons subject rest ih =>
      obtain ⟨supply, bound⟩ := drawn
      rw [testSubjects_cons]
      exact List.forall_mem_cons.mpr ⟨kept.test _ _, ih _⟩

theorem Applied.each (kept : Kept join condition) {node : Node} {field : String}
    {columns : List String} {operator : Operator} {operand : Json} {context after : Context}
    {fragment : Fragment}
    (applied : Applied node field columns operator operand context fragment after) :
    fragment.Each join condition := by
  obtain ⟨-, subjects, test, conditions, _, _, _, -, -, tested, -, -, -, rfl⟩ := applied
  have each := kept.testSubjects node.label field test subjects (context.supply, [])
  rw [tested] at each
  exact Fragment.each_iff.mpr (by simpa using each)

theorem AppliedAll.each (kept : Kept join condition) {node : Node} {field : String}
    {columns : List String} {operators : List (String × Json)} {context after : Context}
    {fragments : List Fragment}
    (applied : AppliedAll node field columns operators context fragments after) :
    ∀ fragment ∈ fragments, fragment.Each join condition := by
  induction applied with
  | nil => simp
  | cons named first later ih => exact List.forall_mem_cons.mpr ⟨first.each kept, ih⟩

theorem Runs.each (kept : Kept join condition) {compiler : Compiler} {node : Node} {part : Part}
    {context after : Context} {fragments : List Fragment}
    (run : Runs compiler node part context fragments after) :
    ∀ fragment ∈ fragments, fragment.Each join condition := by
  induction run with
  | noMembers | noElements => simp
  | members first later firstEach laterEach =>
      exact List.forall_mem_cons.mpr ⟨firstEach _ (List.mem_singleton_self _), laterEach⟩
  | elements first reduced compiled later firstEach laterEach =>
      exact List.forall_mem_cons.mpr ⟨.reduce firstEach reduced, laterEach⟩
  | compared role plain done =>
      exact List.forall_mem_singleton.mpr ((applyOperator_ok done).each kept)
  | operators role done reduced =>
      exact List.forall_mem_singleton.mpr (.reduce ((applyOperators_ok done).each kept) reduced)
  | suffixed role done =>
      exact List.forall_mem_singleton.mpr ((applyOperator_ok done).each kept)
  | combinedList role elements combined each =>
      exact List.forall_mem_singleton.mpr (combined.each each)
  | combinedObject role elements combined each =>
      exact List.forall_mem_singleton.mpr (combined.each each)
  | related role found shallow members reduced correlated labelled perm distinct each =>
      obtain ⟨link, -, rfl, -⟩ := Site.conditions_ok correlated
      have lowered := fun scope => (kept.passes scope).lower (Fragment.Each.reduce each reduced)
      refine List.forall_mem_singleton.mpr (Fragment.each_iff.mpr ?_)
      simpa [Filter.related] using kept.existence (kept.linking _ _ _ link) (lowered _)

theorem compile_each (kept : Kept join condition) {compiler : Compiler} {node : Node}
    {filter : Members} {context after : Context} {fragment : Fragment}
    (compiled : compile compiler node filter context = .ok (fragment, after)) :
    fragment.Each join condition := by
  obtain ⟨fragments, run, reduced⟩ := compile_ok compiled
  exact .reduce (run.each kept) reduced

end Filter

theorem Display.Argued.each {join : Sql.Join → Prop} {condition : Sql.Condition → Prop}
    (kept : Filter.Kept join condition) {compiler : Compiler} {node : Node} {given : Arguments}
    {context after : Context} {fragments : List Fragment}
    (argued : Argued compiler node given context fragments after) :
    ∀ fragment ∈ fragments, fragment.Each join condition := by
  have sliced : ∀ fragment ∈ (given.pagination.map Fragment.ofPagination).toList,
      fragment.Each join condition := by
    intro fragment member
    obtain ⟨pagination, -, rfl⟩ := Option.map_eq_some_iff.mp (Option.mem_toList.mp member)
    exact Fragment.each_iff.mpr (by simp [Fragment.ofPagination])
  cases argued with
  | unfiltered unfiltered => exact sliced
  | filtered filtered compiled =>
      exact List.forall_mem_cons.mpr ⟨Filter.compile_each kept compiled, sliced⟩

theorem Display.Runs.each {join : Sql.Join → Prop} {condition : Sql.Condition → Prop}
    (kept : Filter.Kept join condition) {compiler : Compiler} {node : Node} {part : Part}
    {context after : Context} {fragments : List Fragment}
    (run : Runs compiler node part context fragments after) :
    ∀ fragment ∈ fragments, fragment.Each join condition := by
  induction run with
  | @keys node _ _ _ _ argued =>
      refine List.forall_mem_append.mpr ⟨fun fragment listed => ?_, argued.each kept⟩
      obtain ⟨property, -, rfl⟩ := List.mem_map.mp listed
      exact Fragment.each_iff.mpr (by simp [scalarField])
  | selected nonempty ran argued each =>
      exact List.forall_mem_append.mpr ⟨each, argued.each kept⟩
  | noFields => simp
  | fields first later firstEach laterEach =>
      exact List.forall_mem_cons.mpr ⟨firstEach _ (List.mem_singleton_self _), laterEach⟩
  | computed =>
      exact List.forall_mem_singleton.mpr (Fragment.each_iff.mpr (by simp [computedField]))
  | scalar => exact List.forall_mem_singleton.mpr (Fragment.each_iff.mpr (by simp [scalarField]))
  | related =>
      exact List.forall_mem_singleton.mpr (Fragment.each_iff.mpr (by simp [relating]))

/-! ## Regular parts -/

namespace Sql

theorem areRegular_joins {joins : List Join} (each : ∀ join ∈ joins, join.isRegular = true) :
    Join.areRegular joins = true := by
  rw [Join.areRegular_eq]
  exact List.all_eq_true.mpr each

theorem areRegular_conditions {conditions : List Condition}
    (each : ∀ condition ∈ conditions, condition.isRegular = true) :
    Condition.areRegular conditions = true := by
  rw [Condition.areRegular_eq]
  exact List.all_eq_true.mpr each

end Sql

theorem Site.isRegular_linking (parent child pivot : Sql.Alias) (link : Link) :
    ∀ part ∈ linking parent child pivot link, part.isRegular = true := by
  intro part listed
  cases link with
  | direct parentColumns childColumns =>
      obtain ⟨pair, -, rfl⟩ := List.mem_map.mp listed
      rw [Sql.Condition.isRegular]
  | pivot table parentColumns pivotParentColumns pivotChildColumns childColumns =>
      rw [List.mem_singleton.mp listed, Sql.Condition.isRegular]

structure Body.Regular (body : Body) : Prop where
  object : body.object.isRegular = true
  joins : ∀ join ∈ body.joins, join.isRegular = true
  conditions : ∀ condition ∈ body.conditions, condition.isRegular = true
  order : body.order.all Sql.Order.isRegular = true

theorem Site.Brought.isRegular {stem : String} {site : Site} {body : Body}
    {correlation : List Sql.Condition} {supply after : Sql.Supply} {rendered : Rendered}
    (brought : Brought stem site body correlation supply rendered after) (regular : body.Regular)
    (correlated : ∀ condition ∈ correlation, condition.isRegular = true) :
    rendered.join.isRegular = true := by
  have joins := Sql.areRegular_joins regular.joins
  have conditions := Sql.areRegular_conditions
    (List.forall_mem_append.mpr ⟨correlated, regular.conditions⟩)
  cases brought with
  | singular | collected =>
      simp [display, Site.source, Sql.Join.isRegular, Sql.Select.isRegular, Sql.Output.isRegular,
        Sql.Source.isRegular, regular.object, joins, conditions, regular.order]
  | paged =>
      have page : (pageOutput body).isRegular = true := by
        have order := regular.order
        cases given : body.order <;>
          simp_all [pageOutput, Sql.Output.isRegular, regular.object]
      have rows : (pageRows site body correlation).isRegular = true := by
        simp only [pageRows, Sql.Select.isRegular, Site.source, Sql.Source.isRegular, page, joins,
          conditions, regular.order, Bool.and_true]
      simp [display, Sql.Join.isRegular, Sql.Select.isRegular, Sql.Output.isRegular,
        Sql.Source.isRegular, Sql.Join.areRegular, Sql.Condition.areRegular, rows]

theorem Filter.kept_isRegular :
    Kept (fun join => join.isRegular = true) (fun condition => condition.isRegular = true) where
  passes scope := by
    refine ⟨fun operand => ?_, fun operands => ?_, fun operands => ?_, fun {branches} each => ?_⟩
    · rwa [Sql.Condition.isRegular]
    · rw [Sql.Condition.isRegular]
      exact Sql.areRegular_conditions operands
    · rw [Sql.Condition.isRegular]
      exact Sql.areRegular_conditions operands
    · rw [Sql.Condition.isRegular, Sql.Select.areRegular_eq]
      refine List.all_eq_true.mpr (List.forall_mem_map.mpr fun branch listed => ?_)
      obtain ⟨joins, conditions⟩ := each branch listed
      simp [Scope.keyQuery, Scope.source, Sql.Select.isRegular, Sql.Output.isRegular,
        Sql.Source.isRegular, Sql.areRegular_joins joins, Sql.areRegular_conditions conditions]
  test subject test := by rw [Sql.Condition.isRegular]
  linking := Site.isRegular_linking
  existence correlated lowered := by
    have conditions := Sql.areRegular_conditions
      (List.forall_mem_append.mpr ⟨correlated, lowered.2⟩)
    simp [existence, Site.source, Sql.Join.isRegular, Sql.Select.isRegular, Sql.Output.isRegular,
      Sql.Source.isRegular, Sql.areRegular_joins lowered.1, conditions]

/-! ## Regular selections -/

namespace Fragment

structure Regular (fragment : Fragment) : Prop where
  shown : ∀ pair ∈ fragment.pairs, pair.2.isRegular = true
  brought : ∀ join ∈ fragment.joins, join.isRegular = true
  tested : fragment.Each (fun join => join.isRegular = true)
    (fun condition => condition.isRegular = true)

theorem Regular.reduce {fragments : List Fragment} {result : Fragment}
    (each : ∀ fragment ∈ fragments, fragment.Regular)
    (reduced : Fragment.reduce fragments = .ok result) : result.Regular := by
  refine reduce_induction (motive := fun fragments result =>
    (∀ fragment ∈ fragments, fragment.Regular) → result.Regular)
    (fun _ => ⟨by simp, by simp, each_empty⟩) ?_ reduced each
  intro fragments fragment other result before merged each
  obtain ⟨earlier, last⟩ := List.forall_mem_append.mp each
  have first := before earlier
  have second := last other (List.mem_singleton_self other)
  obtain ⟨joins, pairs, -, -⟩ := merge_shown merged
  refine ⟨?_, ?_, first.tested.merge second.tested merged⟩
  · rw [pairs]
    exact List.forall_mem_append.mpr ⟨first.shown, second.shown⟩
  · rw [joins]
    exact List.forall_mem_append.mpr ⟨first.brought, second.brought⟩

end Fragment

namespace Display

theorem object_isRegular (settings : Settings) {fragment : Fragment} (regular : fragment.Regular)
    (label : Sql.Alias) : (object settings fragment label).isRegular = true := by
  refine List.all_eq_true.mpr (List.forall_mem_append.mpr ⟨regular.shown, fun pair listed => ?_⟩)
  split at listed
  · rw [List.mem_singleton.mp listed]
    rfl
  · cases listed

theorem orderOf_isRegular (compiler : Compiler) (node : Node) (order : List SortTerm) :
    (orderOf compiler node order).all Sql.Order.isRegular = true := by
  unfold orderOf
  simp only
  split
  · rfl
  · rename_i nonempty
    simpa [Sql.Order.isRegular] using nonempty

theorem body_regular (compiler : Compiler) (child : Node) {shown : Fragment}
    (regular : shown.Regular) : (body compiler child shown).Regular := by
  obtain ⟨joins, conditions⟩ :=
    (Filter.kept_isRegular.passes (Filter.scope child)).lower regular.tested
  exact ⟨object_isRegular _ regular _, List.forall_mem_append.mpr ⟨joins, regular.brought⟩,
    conditions, orderOf_isRegular _ _ _⟩

theorem scalarField_regular (node : Node) (key : String) (columns : List String) :
    (scalarField node key columns).Regular := by
  have value : (scalarValue node.label columns).isRegular = true := by
    unfold scalarValue
    split <;> rfl
  exact ⟨List.forall_mem_singleton.mpr value, by simp [scalarField],
    Fragment.each_iff.mpr (by simp [scalarField])⟩

theorem Argued.regular {compiler : Compiler} {node : Node} {given : Arguments}
    {context after : Context} {fragments : List Fragment}
    (argued : Argued compiler node given context fragments after) :
    ∀ fragment ∈ fragments, fragment.Regular := by
  intro fragment listed
  have hidden := (argued.tests fragment listed).1
  have pairs : fragment.pairs = [] := congrArg Fragment.pairs hidden
  have joins : fragment.joins = [] := congrArg Fragment.joins hidden
  exact ⟨by simp [pairs], by simp [joins], argued.each Filter.kept_isRegular fragment listed⟩

theorem Runs.regular {compiler : Compiler} {node : Node} {part : Part} {context after : Context}
    {fragments : List Fragment} (run : Runs compiler node part context fragments after) :
    ∀ fragment ∈ fragments, fragment.Regular := by
  induction run with
  | @keys node _ _ _ _ argued =>
      refine List.forall_mem_append.mpr ⟨fun fragment listed => ?_, argued.regular⟩
      obtain ⟨property, -, rfl⟩ := List.mem_map.mp listed
      exact scalarField_regular _ _ _
  | selected nonempty ran argued regular =>
      exact List.forall_mem_append.mpr ⟨regular, argued.regular⟩
  | noFields => simp
  | fields first later firstRegular laterRegular =>
      exact List.forall_mem_cons.mpr ⟨firstRegular _ (List.mem_singleton_self _), laterRegular⟩
  | computed =>
      exact List.forall_mem_singleton.mpr ⟨List.forall_mem_singleton.mpr rfl,
        by simp [computedField], Fragment.each_iff.mpr (by simp [computedField])⟩
  | scalar => exact List.forall_mem_singleton.mpr (scalarField_regular _ _ _)
  | related resolved relation found shallow inner reduced brought perm distinct regular =>
      obtain ⟨link, supply, -, joined, -⟩ := Site.render_ok brought
      have join := joined.isRegular (body_regular _ _ (.reduce regular reduced))
        (Site.isRegular_linking _ _ _ link)
      exact List.forall_mem_singleton.mpr ⟨List.forall_mem_singleton.mpr rfl,
        List.forall_mem_singleton.mpr join, Fragment.each_iff.mpr (by simp [relating])⟩

end Display

namespace Compiler

theorem compile_isRegular {compiler : Compiler} {query : Query} {statement : Statement}
    (compiled : compiler.compile query = .ok statement) : statement.query.isRegular = true := by
  obtain ⟨entity, shown, argued, fragment, between, after, -, run, given, reduced, rfl⟩ :=
    compile_ok compiled
  have each := List.forall_mem_append.mpr ⟨run.regular, given.regular⟩
  obtain ⟨object, joins, conditions, order⟩ :=
    Display.body_regular compiler (compiler.rootNode entity) (.reduce each reduced)
  simp only [Display.body] at object joins conditions order
  simp only [rootSelect, Scope.source, Sql.Select.isRegular, Sql.Output.isRegular,
    Sql.Source.isRegular, object, Sql.areRegular_joins joins,
    Sql.areRegular_conditions conditions, order, Bool.and_true]

theorem sql_eq_collapse {compiler : Compiler} {query : Query} {statement : Statement}
    (compiled : compiler.compile query = .ok statement) :
    statement.sql = Text.collapse (Sql.written statement.query.pieces) :=
  (Sql.Select.complete _ (compile_isRegular compiled)).collapsed

end Compiler

end TreeQuery
