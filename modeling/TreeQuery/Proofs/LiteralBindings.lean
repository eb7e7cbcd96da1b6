import TreeQuery.Proofs.Literals
import TreeQuery.Proofs.Relations
import TreeQuery.Proofs.Sample

/-!
# Every literal is bound once

A query draws one parameter for each of its literals, in the order in which its
selections and filters are compiled, and its statement binds each of them to that
literal.  The values of a combinator's alternatives move up to the combinator, so
no fragment inside another one keeps values of its own.
-/

namespace TreeQuery

open Sql (Parameter Supply)

/-! ## Literals of selections -/

namespace Selection

mutual

/-- The literals of a selection: those below its fields come before those of its own filter. -/
def literals (compiler : Compiler) (entity : Entity) : Selection → List (String × Json)
  | ⟨fields, arguments⟩ =>
      fieldLiterals compiler entity fields ++
        (arguments.getD {}).filter.toList.flatMap (Filter.literals compiler entity)

def fieldLiterals (compiler : Compiler) (entity : Entity) :
    List (String × FieldNode) → List (String × Json)
  | [] => []
  | (key, wanted) :: rest =>
      literalsOf compiler entity key wanted ++ fieldLiterals compiler entity rest

def literalsOf (compiler : Compiler) (entity : Entity) (key : String) :
    FieldNode → List (String × Json)
  | .leaf => []
  | .nested selection =>
      match compiler.related? entity key with
      | some child => literals compiler child selection
      | none => []

end

end Selection

def Query.literals (compiler : Compiler) (query : Query) : List (String × Json) :=
  match compiler.provider.entity query.entity with
  | .ok entity =>
      query.selection.literals compiler entity ++
        query.filter.toList.flatMap (Filter.literals compiler entity)
  | .error _ => []

theorem Site.Displayed.draws_nothing {stem : String} {site : Site} {body : Body}
    {context after : Context} {rendered : Rendered}
    (displayed : site.Displayed stem body context rendered after) :
    after.supply.parameters = context.supply.parameters := by
  obtain ⟨link, supply, -, brought, rfl⟩ := displayed
  cases brought <;> exact linkedSupply_parameters _ _ link

namespace Display

open TreeQuery.Filter (childOf opened)

variable {compiler : Compiler} {node : Node} {context after : Context}
  {fragments : List Fragment}

def Part.literals (compiler : Compiler) (entity : Entity) : Part → List (String × Json)
  | .selection whole => whole.literals compiler entity
  | .fields list => Selection.fieldLiterals compiler entity list
  | .field key wanted => Selection.literalsOf compiler entity key wanted

theorem Argued.draws {given : Arguments}
    (argued : Argued compiler node given context fragments after) :
    Draws context.supply.parameters after.supply.parameters
      (given.filter.toList.flatMap (Filter.literals compiler node.entity))
      (fragments.flatMap (·.values)) := by
  have sliced : ((given.pagination.map Fragment.ofPagination).toList.flatMap (·.values)) = [] := by
    cases given.pagination <;> rfl
  cases argued with
  | unfiltered unfiltered =>
      rw [unfiltered, sliced]
      exact Draws.none _
  | @filtered filter _ _ fragment filtered compiled =>
      obtain ⟨fragments, run, reduced⟩ := Filter.compile_ok compiled
      have drawn := run.draws.perm (Fragment.reduce_values reduced).1
      rw [List.flatMap_cons, sliced, List.append_nil, filtered, Option.toList_some,
        List.flatMap_singleton]
      exact drawn

theorem keyFields_values (node : Node) : (keyFields node).flatMap (·.values) = [] := by
  simp [keyFields, scalarField]

theorem Runs.draws {part : Part} (run : Runs compiler node part context fragments after) :
    Draws context.supply.parameters after.supply.parameters
      (part.literals compiler node.entity) (fragments.flatMap (·.values)) := by
  induction run with
  | keys argued =>
      rw [List.flatMap_append, keyFields_values, Part.literals, Selection.literals]
      simpa [Selection.fieldLiterals] using argued.draws
  | selected nonempty ran argued draws =>
      rw [List.flatMap_append, Part.literals, Selection.literals]
      exact draws.append argued.draws
  | noFields => exact Draws.none _
  | fields first later firstDraws laterDraws =>
      rw [Part.literals, Selection.fieldLiterals]
      rw [List.flatMap_singleton] at firstDraws
      exact firstDraws.append laterDraws
  | @computed node key wanted _ found resolved plain =>
      have silent : (Part.field key wanted).literals compiler node.entity = [] := by
        cases wanted <;>
          simp [Part.literals, Selection.literalsOf, Compiler.related?_of_computed resolved]
      rw [silent]
      exact Draws.none _
  | @scalar node key wanted _ property resolved scalar plain =>
      have silent : (Part.field key wanted).literals compiler node.entity = [] := by
        cases wanted <;>
          simp [Part.literals, Selection.literalsOf, Compiler.related?_of_scalar resolved scalar]
      rw [silent]
      exact Draws.none _
  | @related node key wanted property entity context _ _ _ _ _ _ resolved relation found shallow
      inner reduced brought perm distinct draws =>
      have below : (Part.field key wanted).literals compiler node.entity =
          (Part.selection wanted.selection).literals compiler entity := by
        cases wanted with
        | leaf => rfl
        | nested selection =>
            simp [Part.literals, Selection.literalsOf, FieldNode.selection,
              Compiler.related?_of_relation resolved relation found]
      rw [below, (Site.render_ok brought).draws_nothing]
      rw [List.flatMap_singleton]
      exact draws.perm (perm.trans (Fragment.reduce_values reduced).1)

theorem Fails.blame_ne_naming {part : Part} {error : CompileError}
    (failed : Fails compiler node part context error) : error.blame ≠ .naming := by
  induction failed with
  | fields failed ih => exact ih
  | filter filtered failed => exact failed.blame_ne_naming
  | first failed ih => exact ih
  | later ran failed ih => exact ih
  | unresolved => simp [CompileError.blame]
  | noSubfields => simp [CompileError.blame]
  | unknownTarget resolved relation missing => simp [CompileError.blame]
  | tooDeep deep => simp [CompileError.blame]
  | related resolved relation found failed ih => exact ih
  | reduced ran failed =>
      obtain ⟨fragment, reduced⟩ := Fragment.reduce_of_nodup ran.draws.nodup
      cases failed.symm.trans reduced
  | unrendered resolved relation found failed => simp [Site.blame_of_render failed]
  | rebound ran reduced unbound failed =>
      have distinct := (Fragment.reduce_values reduced).2
      exact (Fragment.checked_of_nodup unbound distinct failed).elim

end Display

/-! ## Fragments inside fragments -/

namespace Fragment

mutual

def descendants : Fragment → List Fragment
  | ⟨_, _, _, _, _, _, _, _, _, _, allOf, anyOf, noneOf⟩ =>
      family allOf ++ family anyOf ++ family noneOf

def family : List Fragment → List Fragment
  | [] => []
  | fragment :: rest => fragment :: (descendants fragment ++ family rest)

end

def Hoisted (fragment : Fragment) : Prop := ∀ child ∈ fragment.descendants, child.values = []

theorem family_hoisted {fragments : List Fragment} :
    (∀ child ∈ family fragments, child.values = []) ↔
      ∀ fragment ∈ fragments, fragment.values = [] ∧ fragment.Hoisted := by
  induction fragments with
  | nil => simp [family]
  | cons fragment rest ih =>
      simp only [family, List.forall_mem_cons, List.forall_mem_append, ih, Hoisted, and_assoc]

theorem hoisted_iff {fragment : Fragment} :
    fragment.Hoisted ↔
      (∀ child ∈ fragment.allOf, child.values = [] ∧ child.Hoisted) ∧
      (∀ child ∈ fragment.anyOf, child.values = [] ∧ child.Hoisted) ∧
      ∀ child ∈ fragment.noneOf, child.values = [] ∧ child.Hoisted := by
  cases fragment
  simp only [Hoisted, descendants, List.forall_mem_append, family_hoisted, and_assoc]

theorem hoisted_of_childless {fragment : Fragment} (allOf : fragment.allOf = [])
    (anyOf : fragment.anyOf = []) (noneOf : fragment.noneOf = []) : fragment.Hoisted := by
  rw [hoisted_iff, allOf, anyOf, noneOf]
  simp

theorem hoisted_emptied {fragment : Fragment} : fragment.emptied.Hoisted ↔ fragment.Hoisted := by
  rw [hoisted_iff, hoisted_iff]
  rfl

theorem Hoisted.addGroup {fragment : Fragment} {group : List Fragment} (own : fragment.Hoisted)
    (children : ∀ child ∈ group, child.values = [] ∧ child.Hoisted) :
    (fragment.addGroup group).Hoisted := by
  obtain ⟨allOf, anyOf, noneOf⟩ := hoisted_iff.mp own
  have alone : Hoisted { anyOf := group } := by
    rw [hoisted_iff]
    simpa using children
  unfold Fragment.addGroup
  split
  · exact own
  · split
    · exact hoisted_iff.mpr ⟨allOf, children, noneOf⟩
    · refine hoisted_iff.mpr ⟨?_, anyOf, noneOf⟩
      intro child member
      rcases List.mem_append.mp member with before | last
      · exact allOf child before
      · rw [List.mem_singleton.mp last]
        exact ⟨rfl, alone⟩

theorem Hoisted.merge {fragment other result : Fragment} (first : fragment.Hoisted)
    (second : other.Hoisted) (merged : fragment.merge other = .ok result) : result.Hoisted := by
  obtain ⟨values, -, rfl⟩ := merge_ok.mp merged
  obtain ⟨allOf, anyOf, noneOf⟩ := hoisted_iff.mp first
  obtain ⟨otherAllOf, otherAnyOf, otherNoneOf⟩ := hoisted_iff.mp second
  refine Hoisted.addGroup (hoisted_iff.mpr ⟨?_, anyOf, ?_⟩) otherAnyOf
  · exact List.forall_mem_append.mpr ⟨allOf, otherAllOf⟩
  · exact List.forall_mem_append.mpr ⟨noneOf, otherNoneOf⟩

theorem hoisted_reduce {fragments : List Fragment} {result : Fragment}
    (each : ∀ fragment ∈ fragments, fragment.Hoisted) (reduced : reduce fragments = .ok result) :
    result.Hoisted := by
  refine reduce_induction (motive := fun fragments result =>
    (∀ fragment ∈ fragments, fragment.Hoisted) → result.Hoisted) ?_ ?_ reduced each
  · exact fun _ => hoisted_of_childless rfl rfl rfl
  · intro fragments fragment other result before merged each
    rw [List.forall_mem_append] at each
    exact (before each.1).merge (each.2 other (List.mem_singleton.mpr rfl)) merged

end Fragment

open Fragment (Hoisted)

theorem Filter.Combined.hoisted {combinator : Combinator} {siblings : List Fragment}
    {fragment : Fragment} (combined : Combined combinator siblings fragment)
    (each : ∀ sibling ∈ siblings, sibling.Hoisted) : fragment.Hoisted := by
  have children : ∀ child ∈ siblings.map Fragment.emptied, child.values = [] ∧ child.Hoisted := by
    intro child member
    obtain ⟨sibling, listed, rfl⟩ := List.mem_map.mp member
    exact ⟨rfl, Fragment.hoisted_emptied.mpr (each sibling listed)⟩
  cases combined with
  | none => exact Fragment.hoisted_of_childless rfl rfl rfl
  | some nonempty perm distinct =>
      rw [Fragment.hoisted_iff]
      cases combinator with
      | or => simpa [combined] using children
      | and => simpa [combined] using children
      | not =>
          -- the alternatives stand one level further down
          have group : Hoisted { anyOf := siblings.map Fragment.emptied } := by
            rw [Fragment.hoisted_iff]
            simpa using children
          simpa [combined] using group

theorem Filter.Applied.hoisted {node : Node} {field : String} {columns : List String}
    {operator : Operator} {operand : Json} {context after : Context} {fragment : Fragment}
    (applied : Applied node field columns operator operand context fragment after) :
    fragment.Hoisted := by
  obtain ⟨-, _, _, _, _, _, _, -, -, -, -, -, -, rfl⟩ := applied
  exact Fragment.hoisted_of_childless rfl rfl rfl

theorem Filter.AppliedAll.hoisted {node : Node} {field : String} {columns : List String}
    {operators : List (String × Json)} {context after : Context} {fragments : List Fragment}
    (applied : AppliedAll node field columns operators context fragments after) :
    ∀ fragment ∈ fragments, fragment.Hoisted := by
  induction applied with
  | nil => simp
  | cons named first later ih => exact List.forall_mem_cons.mpr ⟨first.hoisted, ih⟩

theorem Filter.Runs.hoisted {compiler : Compiler} {node : Node} {part : Part}
    {context after : Context} {fragments : List Fragment}
    (run : Runs compiler node part context fragments after) :
    ∀ fragment ∈ fragments, fragment.Hoisted := by
  induction run with
  | noMembers => simp
  | members first later firstHoisted laterHoisted =>
      exact List.forall_mem_cons.mpr ⟨by simpa using firstHoisted, laterHoisted⟩
  | noElements => simp
  | elements first reduced compiled later firstHoisted laterHoisted =>
      exact List.forall_mem_cons.mpr ⟨Fragment.hoisted_reduce firstHoisted reduced, laterHoisted⟩
  | compared role plain applied => simpa using (applyOperator_ok applied).hoisted
  | operators role applied reduced =>
      simpa using Fragment.hoisted_reduce (applyOperators_ok applied).hoisted reduced
  | suffixed role applied => simpa using (applyOperator_ok applied).hoisted
  | combinedList role elements combined hoisted => simpa using combined.hoisted hoisted
  | combinedObject role elements combined hoisted => simpa using combined.hoisted hoisted
  | related role found shallow members reduced correlated labelled perm distinct hoisted =>
      simpa using Fragment.hoisted_of_childless rfl rfl rfl

theorem Display.Argued.hoisted {compiler : Compiler} {node : Node} {given : Arguments}
    {context after : Context} {fragments : List Fragment}
    (argued : Argued compiler node given context fragments after) :
    ∀ fragment ∈ fragments, fragment.Hoisted := by
  have sliced : ∀ fragment ∈ (given.pagination.map Fragment.ofPagination).toList,
      fragment.Hoisted := by
    cases given.pagination with
    | none => simp
    | some pagination => simpa using Fragment.hoisted_of_childless rfl rfl rfl
  cases argued with
  | unfiltered unfiltered => exact sliced
  | filtered filtered compiled =>
      obtain ⟨fragments, run, reduced⟩ := Filter.compile_ok compiled
      exact List.forall_mem_cons.mpr ⟨Fragment.hoisted_reduce run.hoisted reduced, sliced⟩

theorem Display.Runs.hoisted {compiler : Compiler} {node : Node} {part : Part}
    {context after : Context} {fragments : List Fragment}
    (run : Runs compiler node part context fragments after) :
    ∀ fragment ∈ fragments, fragment.Hoisted := by
  induction run with
  | @keys node _ _ _ _ argued =>
      refine List.forall_mem_append.mpr ⟨fun fragment member => ?_, argued.hoisted⟩
      obtain ⟨property, -, rfl⟩ := List.mem_map.mp member
      exact Fragment.hoisted_of_childless rfl rfl rfl
  | selected nonempty ran argued hoisted =>
      exact List.forall_mem_append.mpr ⟨hoisted, argued.hoisted⟩
  | noFields => simp
  | fields first later firstHoisted laterHoisted =>
      exact List.forall_mem_cons.mpr ⟨by simpa using firstHoisted, laterHoisted⟩
  | computed resolved plain => simpa using Fragment.hoisted_of_childless rfl rfl rfl
  | scalar resolved scalar plain => simpa using Fragment.hoisted_of_childless rfl rfl rfl
  | related resolved relation found shallow inner reduced brought perm distinct hoisted =>
      simpa using Fragment.hoisted_of_childless rfl rfl rfl

theorem Compile.node_hoisted {compiler : Compiler} {node : Node} {selection : Option Selection}
    {filter : Option Members} {context after : Context} {fragment : Fragment}
    (done : Compile.node compiler node selection filter context = .ok (fragment, after)) :
    fragment.Hoisted := by
  cases selection with
  | some selection =>
      obtain ⟨shown, filtered, between, run, argued, reduced⟩ := Compiler.node_ok done
      have each := List.forall_mem_append.mpr ⟨run.hoisted, argued.hoisted⟩
      exact Fragment.hoisted_reduce each reduced
  | none =>
      cases filter with
      | none =>
          simp only [Compile.node, Compile.bind_ok, Compile.pure_ok, Compile.reduce_ok] at done
          obtain ⟨_, _, ⟨rfl, rfl⟩, _, _, ⟨rfl, rfl⟩, reduced, -⟩ := done
          exact Fragment.hoisted_reduce (by simp) reduced
      | some filter =>
          simp only [Compile.node, Compile.bind_ok, Compile.pure_ok, Compile.reduce_ok] at done
          obtain ⟨_, _, ⟨rfl, rfl⟩, _, _, compiled, _, _, ⟨rfl, rfl⟩, reduced, -⟩ := done
          have argued : Display.Argued compiler node { filter := some filter } _ _ _ :=
            .filtered rfl compiled
          exact Fragment.hoisted_reduce argued.hoisted reduced

/-! ## Queries -/

namespace Compiler

theorem Fails.blame_ne_naming {compiler : Compiler} {query : Query} {error : CompileError}
    (failed : Fails compiler query error) : error.blame ≠ .naming := by
  cases failed with
  | unknownRoot missing => simp [CompileError.blame]
  | selection found failed => exact failed.blame_ne_naming
  | filter found filtered failed => exact failed.blame_ne_naming
  | reduced found ran given failed =>
      have drawn := ran.draws.append given.draws
      rw [← List.flatMap_append] at drawn
      obtain ⟨fragment, reduced⟩ := Fragment.reduce_of_nodup drawn.nodup
      cases failed.symm.trans reduced

theorem statement_draws {compiler : Compiler} {query : Query} {statement : Statement}
    {after : Context} (ran : compiler.statement query {} = .ok (statement, after)) :
    Draws 0 after.supply.parameters (query.literals compiler) statement.bindings := by
  obtain ⟨entity, shown, argued, fragment, between, found, run, given, reduced, rfl⟩ :=
    statement_ok ran
  have drawn := run.draws.append given.draws
  rw [← List.flatMap_append] at drawn
  rw [Query.literals, found]
  exact drawn.perm (Fragment.reduce_values reduced).1

/--
No name is ever bound twice.  A statement binds exactly the parameters that were
handed out, one for each literal of the query, each to its literal; and no
fragment inside another one is left with values of its own.
-/
theorem each_literal_bound_once (compiler : Compiler) (query : Query) :
    (∀ name, compiler.compile query ≠ .error (.duplicateBinding name)) ∧
    (∀ statement, compiler.compile query = .ok statement →
      ∃ after, compiler.statement query {} = .ok (statement, after) ∧
        statement.bindings.length = after.supply.parameters ∧
        statement.bindings.names.Nodup ∧
        ∃ drawn : List (Parameter × Json),
          drawn.map (fun entry => entry.1.number) = List.range' 1 after.supply.parameters ∧
          drawn.map (fun entry => (entry.1.field, entry.2)) = query.literals compiler ∧
          statement.bindings.Perm (drawn.map fun entry => (entry.1.name, entry.2))) ∧
    (∀ node selection filter context fragment after,
      Compile.node compiler node selection filter context = .ok (fragment, after) →
        ∀ child ∈ fragment.descendants, child.values = []) := by
  refine ⟨?_, ?_, ?_⟩
  · intro name failed
    exact (compile_fails failed).blame_ne_naming rfl
  · intro statement done
    obtain ⟨after, ran⟩ := statement_of_compile done
    have distinct := (statement_draws ran).nodup
    obtain ⟨drawn, numbers, count, literals, perm⟩ := statement_draws ran
    rw [Nat.zero_add] at numbers count
    have length : statement.bindings.length = after.supply.parameters := by
      rw [perm.length_eq, List.length_map, count]
    exact ⟨after, ran, length, distinct, drawn, count ▸ numbers, literals, perm⟩
  · intro node selection filter context fragment after done
    exact Compile.node_hoisted done

end Compiler

namespace Sample

def gardeners : Query :=
  { entity := "Person"
    selection :=
      { fields :=
          [("battles",
              .nested
                { arguments :=
                    some
                      { filter :=
                          some [("name_nin", .array [.string "Bywater", .string "Pelennor"])] } })] }
    filter :=
      some
        [("_or",
            .array
              [.object [("fellowship", .object [("name", .string "Nine")])],
                .object [("name", .string "Sam")]])] }

theorem each_literal_bound_once_gardeners :
    ∃ statement, compiler.compile gardeners = .ok statement ∧
      statement.bindings.length = 4 ∧
      ∃ drawn : List (Parameter × Json),
        statement.bindings.Perm (drawn.map fun entry => (entry.1.name, entry.2)) ∧
        drawn.map (fun entry => (entry.1.number, entry.1.field, entry.2)) =
          [(1, "name", .string "Bywater"), (2, "name", .string "Pelennor"),
            (3, "name", .string "Nine"), (4, "name", .string "Sam")] := by
  have literals : gardeners.literals compiler =
      [("name", .string "Bywater"), ("name", .string "Pelennor"), ("name", .string "Nine"),
        ("name", .string "Sam")] := rfl
  cases compiled : compiler.compile gardeners with
  | error error =>
      have succeeds : (compiler.compile gardeners).isOk = true := by decide +kernel
      simp [compiled, Except.isOk, Except.toBool] at succeeds
  | ok statement =>
      obtain ⟨after, -, length, -, drawn, numbers, fields, perm⟩ :=
        (Compiler.each_literal_bound_once compiler gardeners).2.1 statement compiled
      rw [literals] at fields
      have four : drawn.length = 4 := by
        simpa using congrArg List.length fields
      have count : after.supply.parameters = 4 := by
        rw [← four]
        simpa using (congrArg List.length numbers).symm
      refine ⟨statement, rfl, length.trans count, drawn, perm, ?_⟩
      rw [count] at numbers
      have zipped := congrArg₂ List.zip numbers fields
      rw [List.zip_map'] at zipped
      exact zipped

end Sample

end TreeQuery
