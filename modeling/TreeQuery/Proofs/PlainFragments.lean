import TreeQuery.Proofs.FragmentParts
import TreeQuery.Proofs.QuietNames
import TreeQuery.Proofs.Relations

/-!
# Plain fragments

Where the entities of a provider are quiet, a filter compiles to fragments whose
joins and conditions are plain.  The aliases keep the stem of the root, and a key
that names a property leads to quiet columns; only computed fields have to be looked
at one by one.
-/

namespace TreeQuery

namespace Sql.Alias

theorem isPlain_columns {label : Alias} (plain : label.isPlain = true) {names : List String}
    (quiet : names.all isQuiet = true) : (label.columns names).all Column.isPlain = true := by
  refine List.all_eq_true.mpr fun column member => ?_
  obtain ⟨name, listed, rfl⟩ := List.mem_map.mp member
  simp [Column.isPlain, plain, List.all_eq_true.mp quiet name listed]

end Sql.Alias

/-! ## Nodes and links -/

def Node.isPlain (node : Node) : Bool := node.label.isPlain && node.entity.isQuiet

theorem Node.isPlain_iff {node : Node} :
    node.isPlain = true ↔ node.label.isPlain = true ∧ node.entity.isQuiet = true :=
  Bool.and_eq_true_iff

def Compiler.Quiet (compiler : Compiler) : Prop :=
  ∀ {name entity}, compiler.provider.entity name = .ok entity → entity.isQuiet = true

theorem Filter.isPlain_childOf {node : Node} (plain : node.isPlain = true) {entity : Entity}
    (quiet : entity.isQuiet = true) (context : Context) :
    (childOf node entity context).isPlain = true :=
  Node.isPlain_iff.mpr ⟨(Node.isPlain_iff.mp plain).1, quiet⟩

theorem Filter.isPlain_source {node : Node} (plain : node.isPlain = true) :
    (scope node).source.isPlain = true := by
  obtain ⟨label, entity⟩ := Node.isPlain_iff.mp plain
  simp [Scope.source, scope, Sql.Source.isPlain, label, (Entity.isQuiet_iff.mp entity).1]

theorem Site.isPlain_source {site : Site} (plain : site.child.isPlain = true) :
    site.source.isPlain = true := Filter.isPlain_source plain

theorem Site.isPlain_linking {parent child pivot : Sql.Alias} {link : Link}
    (parentPlain : parent.isPlain = true) (childPlain : child.isPlain = true)
    (pivotPlain : pivot.isPlain = true) (quiet : link.isQuiet = true) :
    ∀ condition ∈ linking parent child pivot link, condition.isPlain = true := by
  intro condition member
  cases link with
  | direct parentColumns childColumns =>
      simp only [Link.isQuiet, Bool.and_eq_true] at quiet
      obtain ⟨pair, zipped, rfl⟩ := List.mem_map.mp member
      obtain ⟨left, right⟩ := List.of_mem_zip zipped
      have first := List.all_eq_true.mp (Sql.Alias.isPlain_columns childPlain quiet.2) _ left
      have second := List.all_eq_true.mp (Sql.Alias.isPlain_columns parentPlain quiet.1) _ right
      simp [Sql.Condition.isPlain, first, second]
  | pivot table parentColumns pivotParentColumns pivotChildColumns childColumns =>
      simp only [Link.isQuiet, Bool.and_eq_true, and_assoc] at quiet
      obtain ⟨table, parentQuiet, pivotParentQuiet, pivotChildQuiet, childQuiet⟩ := quiet
      have pairs : ∀ pair ∈ (pivot.columns pivotParentColumns).zip (parent.columns parentColumns),
          pair.1.isPlain = true ∧ pair.2.isPlain = true := by
        intro pair zipped
        obtain ⟨left, right⟩ := List.of_mem_zip zipped
        exact ⟨List.all_eq_true.mp (Sql.Alias.isPlain_columns pivotPlain pivotParentQuiet) _ left,
          List.all_eq_true.mp (Sql.Alias.isPlain_columns parentPlain parentQuiet) _ right⟩
      rw [List.mem_singleton.mp member]
      simp only [Sql.Condition.isPlain, Sql.Hop.isPlain, hop, Bool.and_eq_true,
        List.all_eq_true (p := fun pair : Sql.Column × Sql.Column => _)]
      exact ⟨Sql.Alias.isPlain_columns childPlain childQuiet,
        ⟨⟨table, pivotPlain⟩, Sql.Alias.isPlain_columns pivotPlain pivotChildQuiet⟩, pairs⟩

theorem Site.isPlain_linked {parent child : Node} {property : Property} {link : Link}
    (parentPlain : parent.isPlain = true) (childPlain : child.isPlain = true)
    (listed : property ∈ parent.entity.properties)
    (resolved : Link.resolve parent.entity property child.entity = .ok link)
    (supply : Sql.Supply) :
    ∀ condition ∈ linking parent.label child.label
      (supply.next .pivot child.label.stem).1 link, condition.isPlain = true := by
  obtain ⟨parentLabel, parentQuiet⟩ := Node.isPlain_iff.mp parentPlain
  obtain ⟨childLabel, childQuiet⟩ := Node.isPlain_iff.mp childPlain
  have quiet := (Entity.isQuiet_iff.mp parentQuiet).2.2 _ listed
  exact isPlain_linking parentLabel childLabel childLabel
    (Link.resolve_isQuiet parentQuiet quiet childQuiet resolved)

/-! ## Lowering -/

theorem Scope.passes_isPlain {node : Node} (plain : node.isPlain = true) :
    (Filter.scope node).Passes (·.isPlain = true) (·.isPlain = true) where
  not := by
    intro operand each
    rwa [Sql.Condition.isPlain]
  all := by
    intro operands each
    rw [Sql.Condition.isPlain, Sql.Condition.arePlain_eq]
    exact List.all_eq_true.mpr each
  any := by
    intro operands each
    rw [Sql.Condition.isPlain, Sql.Condition.arePlain_eq]
    exact List.all_eq_true.mpr each
  keyIn := by
    intro branches each
    obtain ⟨label, entity⟩ := Node.isPlain_iff.mp plain
    obtain ⟨-, keys, -⟩ := Entity.isQuiet_iff.mp entity
    have columns : (Filter.scope node).keyColumns.all Sql.Column.isPlain = true :=
      Sql.Alias.isPlain_columns label keys
    have source := Filter.isPlain_source plain
    rw [Sql.Condition.isPlain, Sql.Select.arePlain_eq, columns, Bool.true_and]
    refine List.all_eq_true.mpr fun query member => ?_
    obtain ⟨branch, listed, rfl⟩ := List.mem_map.mp member
    obtain ⟨joins, conditions⟩ := each branch listed
    simp only [Scope.keyQuery, Sql.Select.isPlain, Sql.Output.isPlain, columns, source,
      Sql.Join.arePlain_eq, Sql.Condition.arePlain_eq, List.all_eq_true.mpr joins,
      List.all_eq_true.mpr conditions]
    rfl

/-! ## Fragments -/

namespace Fragment

/-- What a fragment puts into the text is plain; its ordering is read by the resolver. -/
structure Plain (resolver : Resolver) (fragment : Fragment) : Prop where
  columns : ∀ name ∈ fragment.columns, isQuiet name = true
  pairs : ∀ pair ∈ fragment.pairs, pair.2.isPlain = true
  joins : ∀ join ∈ fragment.joins, join.isPlain = true
  filter : fragment.Each (·.isPlain = true) (·.isPlain = true)
  order : ∀ term ∈ fragment.order, ∀ found ∈ resolver.computedField? term.field,
    found.isQuiet = true

variable {resolver : Resolver}

theorem Plain.merge {fragment other result : Fragment} (first : fragment.Plain resolver)
    (second : other.Plain resolver) (merged : fragment.merge other = .ok result) :
    result.Plain resolver := by
  obtain ⟨joins, pairs, columns, order⟩ := merge_shown merged
  refine ⟨fun name member => ?_, ?_, ?_, first.filter.merge second.filter merged, ?_⟩
  · rw [columns] at member
    exact (mem_unionNames.mp member).elim (first.columns name) (second.columns name)
  · rw [pairs]
    exact List.forall_mem_append.mpr ⟨first.pairs, second.pairs⟩
  · rw [joins]
    exact List.forall_mem_append.mpr ⟨first.joins, second.joins⟩
  · rw [order]
    exact List.forall_mem_append.mpr ⟨first.order, second.order⟩

theorem Plain.reduce {fragments : List Fragment} {result : Fragment}
    (each : ∀ fragment ∈ fragments, fragment.Plain resolver)
    (reduced : Fragment.reduce fragments = .ok result) : result.Plain resolver := by
  refine reduce_induction (motive := fun fragments result =>
    (∀ fragment ∈ fragments, fragment.Plain resolver) → result.Plain resolver)
    (fun _ => ?_) ?_ reduced each
  · exact ⟨by simp, by simp, by simp, each_empty, by simp⟩
  · intro fragments fragment other result before merged each
    obtain ⟨earlier, last⟩ := List.forall_mem_append.mp each
    exact (before earlier).merge (last other List.mem_cons_self) merged

theorem plain_of_each {fragment : Fragment} (columns : fragment.columns = [])
    (pairs : fragment.pairs = []) (joins : fragment.joins = []) (order : fragment.order = [])
    (each : fragment.Each (·.isPlain = true) (·.isPlain = true)) : fragment.Plain resolver :=
  ⟨by simp [columns], by simp [pairs], by simp [joins], each, by simp [order]⟩

end Fragment

/-! ## Filters -/

namespace Filter

open Fragment (Plain)

theorem isPlain_testSubjects {label : Sql.Alias} (plain : label.isPlain = true) (field : String)
    (test : Sql.Test Json) {subjects : List (List Sql.Column)}
    (each : ∀ subject ∈ subjects, subject.all Sql.Column.isPlain = true) (drawn : Drawn) :
    ∀ condition ∈ (testSubjects label field test subjects drawn).1,
      condition.isPlain = true := by
  induction subjects generalizing drawn with
  | nil => simp [testSubjects]
  | cons subject rest ih =>
      obtain ⟨first, later⟩ := List.forall_mem_cons.mp each
      obtain ⟨supply, bound⟩ := drawn
      rw [testSubjects_cons]
      refine List.forall_mem_cons.mpr ⟨?_, ih later _⟩
      rw [Sql.Condition.isPlain, first, withParameters_slots, Bool.true_and]
      refine List.all_eq_true.mpr fun parameter member => ?_
      obtain ⟨number, -, rfl⟩ := List.mem_map.mp member
      exact plain

theorem Applied.plain {node : Node} {field : String} {columns : List String}
    {operator : Operator} {operand : Json} {context after : Context} {fragment : Fragment}
    {resolver : Resolver} (label : node.label.isPlain = true)
    (quiet : columns.all isQuiet = true)
    (applied : Applied node field columns operator operand context fragment after) :
    fragment.Plain resolver := by
  obtain ⟨-, subjects, test, conditions, supply, bound, values, listed, -, tested, -, -, -,
    rfl⟩ := applied
  have each : ∀ subject ∈ subjects, subject.all Sql.Column.isPlain = true := by
    intro subject member
    rw [subjects_ok listed] at member
    obtain ⟨names, chosen, rfl⟩ := List.mem_map.mp member
    refine Sql.Alias.isPlain_columns label (List.all_eq_true.mpr fun name listed => ?_)
    exact List.all_eq_true.mp quiet name (mem_of_mem_compared chosen listed)
  have plain := isPlain_testSubjects label field test each (context.supply, [])
  rw [tested] at plain
  refine Fragment.plain_of_each rfl rfl rfl rfl (Fragment.each_iff.mpr ⟨?_, plain, ?_⟩) <;> simp

theorem AppliedAll.plain {node : Node} {field : String} {columns : List String}
    {operators : List (String × Json)} {context after : Context} {fragments : List Fragment}
    {resolver : Resolver} (label : node.label.isPlain = true)
    (quiet : columns.all isQuiet = true)
    (applied : AppliedAll node field columns operators context fragments after) :
    ∀ fragment ∈ fragments, fragment.Plain resolver := by
  induction applied with
  | nil => simp
  | cons named first later ih => exact List.forall_mem_cons.mpr ⟨first.plain label quiet, ih⟩

theorem Combined.plain {combinator : Combinator} {siblings : List Fragment} {fragment : Fragment}
    {resolver : Resolver} (each : ∀ sibling ∈ siblings, sibling.Plain resolver)
    (combined : Combined combinator siblings fragment) : fragment.Plain resolver := by
  have filter := combined.each fun sibling listed => (each sibling listed).filter
  cases combined with
  | none => exact Fragment.plain_of_each rfl rfl rfl rfl filter
  | some nonempty perm distinct =>
      cases combinator <;> exact Fragment.plain_of_each rfl rfl rfl rfl filter

def Part.Quiet (compiler : Compiler) (entity : Entity) (part : Part) : Prop :=
  ∀ entry ∈ part.entries compiler entity,
    ∀ found ∈ computedField? (compiler.resolver entry.entity) entry.key, found.isQuiet = true

theorem Part.Quiet.named {compiler : Compiler} {entity : Entity} {key : String} {value : Json}
    (quiet : (Part.entry key value).Quiet compiler entity) :
    ∀ found ∈ computedField? (compiler.resolver entity) key, found.isQuiet = true :=
  quiet ⟨entity, key, value⟩ List.mem_cons_self

theorem plain_related {resolver child : Resolver} {site : Site} {matched : Fragment}
    {correlation : List Sql.Condition} {label : Sql.Alias} {values : Bindings}
    (source : site.child.isPlain = true) (named : label.isPlain = true)
    (linked : ∀ condition ∈ correlation, condition.isPlain = true)
    (plain : matched.Plain child) :
    (related site correlation matched label values).Plain resolver := by
  obtain ⟨joins, conditions⟩ := (Scope.passes_isPlain source).lower plain.filter
  have restricted := List.forall_mem_append.mpr ⟨linked, conditions⟩
  have join : (existence site correlation (matched.lower (scope site.child)) label).isPlain =
      true := by
    simp only [existence, Sql.Join.isPlain, Sql.Select.isPlain, Sql.Output.isPlain,
      Site.isPlain_source source, Sql.Join.arePlain_eq, Sql.Condition.arePlain_eq,
      List.all_eq_true.mpr joins, List.all_eq_true.mpr restricted, named]
    rfl
  refine Fragment.plain_of_each rfl rfl rfl rfl (Fragment.each_iff.mpr ?_)
  simpa [related] using join

theorem Runs.plain {compiler : Compiler} (registered : compiler.Quiet) {node : Node} {part : Part}
    {context after : Context} {fragments : List Fragment}
    (run : Runs compiler node part context fragments after) :
    node.isPlain = true → part.Quiet compiler node.entity →
      ∀ fragment ∈ fragments, fragment.Plain (compiler.resolver node.entity) := by
  induction run with
  | noMembers => simp
  | members first later firstPlain laterPlain =>
      intro plain quiet
      rw [Part.Quiet, Part.entries_members] at quiet
      obtain ⟨here, there⟩ := List.forall_mem_append.mp quiet
      exact List.forall_mem_append.mpr ⟨firstPlain plain here, laterPlain plain there⟩
  | noElements => simp
  | elements first reduced compiled later firstPlain laterPlain =>
      intro plain quiet
      rw [Part.Quiet, Part.entries_elements] at quiet
      obtain ⟨here, there⟩ := List.forall_mem_append.mp quiet
      exact List.forall_mem_cons.mpr
        ⟨Plain.reduce (firstPlain plain here) reduced, laterPlain plain there⟩
  | compared role simple applied =>
      intro plain quiet
      obtain ⟨label, entity⟩ := Node.isPlain_iff.mp plain
      have columns := isQuiet_of_role_field role entity quiet.named
      simpa using (applyOperator_ok applied).plain label columns
  | operators role applied reduced =>
      intro plain quiet
      obtain ⟨label, entity⟩ := Node.isPlain_iff.mp plain
      have columns := isQuiet_of_role_field role entity quiet.named
      simpa using Plain.reduce ((applyOperators_ok applied).plain label columns) reduced
  | suffixed role applied =>
      intro plain quiet
      obtain ⟨label, entity⟩ := Node.isPlain_iff.mp plain
      have columns := isQuiet_of_role_suffixed role entity quiet.named
      simpa using (applyOperator_ok applied).plain label columns
  | combinedList role elements combined siblings =>
      intro plain quiet
      rw [Part.Quiet, Part.entries_list role] at quiet
      simpa using combined.plain (siblings plain (List.forall_mem_cons.mp quiet).2)
  | combinedObject role elements combined siblings =>
      intro plain quiet
      rw [Part.Quiet, Part.entries_object role] at quiet
      simpa using combined.plain (siblings plain (List.forall_mem_cons.mp quiet).2)
  | @related node _ _ _ _ context _ _ _ _ _ _ _ _ role found _ _ reduced correlated labelled
      _ _ inner =>
      intro plain quiet
      rw [Part.Quiet, Part.entries_related role found] at quiet
      -- the child's alias has the stem of the parent's
      have child := isPlain_childOf plain (registered found) context
      have matched := Plain.reduce (inner child (List.forall_mem_cons.mp quiet).2) reduced
      obtain ⟨link, resolved, rfl, -⟩ := Site.conditions_ok correlated
      obtain ⟨rfl, -⟩ := Compile.freshAlias_ok.mp labelled
      have linked := Site.isPlain_linked plain child (mem_of_role_relation role) resolved
      refine List.forall_mem_singleton.mpr ?_
      exact plain_related child (Node.isPlain_iff.mp plain).1 (linked _) matched

theorem compile_plain {compiler : Compiler} (registered : compiler.Quiet) {node : Node}
    (plain : node.isPlain = true) {filter : Members} {context after : Context}
    {fragment : Fragment}
    (quiet : ∀ found ∈ computedFields compiler node.entity filter, found.isQuiet = true)
    (compiled : compile compiler node filter context = .ok (fragment, after)) :
    fragment.Plain (compiler.resolver node.entity) := by
  obtain ⟨fragments, run, reduced⟩ := compile_ok compiled
  refine Plain.reduce (run.plain registered plain fun entry member found named => ?_) reduced
  exact quiet found (List.mem_filterMap.mpr ⟨entry, member, named⟩)

end Filter

end TreeQuery
