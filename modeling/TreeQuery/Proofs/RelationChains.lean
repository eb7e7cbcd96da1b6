import TreeQuery.Proofs.DepthGuard
import TreeQuery.Proofs.Sample

/-!
# Chains of nested relations

A chain lists the keys along which a request opens relations inside relations: fields of
the selection, and then keys of a filter, at the root or in the arguments of a field.  A
request compiles only if all its chains fit under the limit, and if it is refused for its
depth, a chain of just one relation more is to blame.
-/

namespace TreeQuery

/-! ## Filters -/

namespace Filter

open TreeQuery.Compile (Guards Level)

/--
A chain of relations that a part of a filter opens on the rows of an entity.  Combinators
are passed through; a relation key adds itself and goes on at the related entity.
-/
inductive Chain (compiler : Compiler) : Entity → Part → List String → Prop
  | nil {entity : Entity} {part : Part} : Chain compiler entity part []
  | member {entity : Entity} {list : List (String × Json)} {key : String} {value : Json}
      {path : List String} (listed : (key, value) ∈ list)
      (chain : Chain compiler entity (.entry key value) path) :
      Chain compiler entity (.members list) path
  | element {entity : Entity} {items : List Json} {inner : Members} {path : List String}
      (listed : .object inner ∈ items) (chain : Chain compiler entity (.members inner) path) :
      Chain compiler entity (.elements items) path
  | combinedObject {entity : Entity} {key : String} {inner : Members} {path : List String}
      {combinator : Combinator}
      (combines : role (compiler.resolver entity) key = .combinator combinator)
      (chain : Chain compiler entity (.members inner) path) :
      Chain compiler entity (.entry key (.object inner)) path
  | combinedList {entity : Entity} {key : String} {items : List Json} {path : List String}
      {combinator : Combinator}
      (combines : role (compiler.resolver entity) key = .combinator combinator)
      (chain : Chain compiler entity (.elements items) path) :
      Chain compiler entity (.entry key (.array items)) path
  | related {entity child : Entity} {key : String} {inner : Members} {path : List String}
      {property : Property}
      (relates : role (compiler.resolver entity) key = .relation property)
      (found : compiler.provider.entity property.typeName = .ok child)
      (chain : Chain compiler child (.members inner) path) :
      Chain compiler entity (.entry key (.object inner)) (key :: path)

variable {compiler : Compiler} {entity : Entity} {path : List String}

theorem chain_members_cons {key : String} {value : Json} {rest : List (String × Json)}
    (nonempty : path ≠ []) :
    Chain compiler entity (.members ((key, value) :: rest)) path ↔
      Chain compiler entity (.entry key value) path ∨
        Chain compiler entity (.members rest) path := by
  constructor
  · rintro (_ | ⟨listed, chain⟩)
    · exact absurd rfl nonempty
    · rcases List.mem_cons.mp listed with same | listed
      · cases same
        exact .inl chain
      · exact .inr (.member listed chain)
  · rintro (chain | (_ | ⟨listed, chain⟩))
    · exact .member List.mem_cons_self chain
    · exact .nil
    · exact .member (List.mem_cons_of_mem _ listed) chain

theorem chain_elements_cons {item : Json} {rest : List Json} (nonempty : path ≠ []) :
    Chain compiler entity (.elements (item :: rest)) path ↔
      (∃ inner, item = .object inner ∧ Chain compiler entity (.members inner) path) ∨
        Chain compiler entity (.elements rest) path := by
  constructor
  · rintro (_ | _ | ⟨listed, chain⟩)
    · exact absurd rfl nonempty
    · rcases List.mem_cons.mp listed with rfl | listed
      · exact .inl ⟨_, rfl, chain⟩
      · exact .inr (.element listed chain)
  · rintro (⟨inner, rfl, chain⟩ | (_ | _ | ⟨listed, chain⟩))
    · exact .element List.mem_cons_self chain
    · exact .nil
    · exact .element (List.mem_cons_of_mem _ listed) chain

variable {key : String}

theorem eq_nil_of_chain_entry {value : Json}
    (plain : ∀ combinator, role (compiler.resolver entity) key ≠ .combinator combinator)
    (unrelated : ∀ property inner, role (compiler.resolver entity) key = .relation property →
      value ≠ .object inner)
    (chain : Chain compiler entity (.entry key value) path) : path = [] := by
  cases chain with
  | nil => rfl
  | combinedObject combines | combinedList combines => exact absurd combines (plain _)
  | related relates => exact absurd rfl (unrelated _ _ relates)

theorem chain_related {property : Property} {inner : Members}
    (relates : role (compiler.resolver entity) key = .relation property) (nonempty : path ≠ []) :
    Chain compiler entity (.entry key (.object inner)) path ↔
      ∃ child, compiler.provider.entity property.typeName = .ok child ∧
        ∃ below, Chain compiler child (.members inner) below ∧ path = key :: below := by
  constructor
  · intro chain
    cases chain with
    | nil => exact absurd rfl nonempty
    | combinedObject combines => cases relates.symm.trans combines
    | related again found chain =>
        cases relates.symm.trans again
        exact ⟨_, found, _, chain, rfl⟩
  · rintro ⟨child, found, below, chain, rfl⟩
    exact .related relates found chain

theorem relationFilter_guards {node : Node} {property : Property} {inner : Members}
    {matching : Node → Compile Fragment}
    (relates : role (compiler.resolver node.entity) key = .relation property)
    (guards : ∀ child, Guards compiler.settings.maxDepth
      (Chain compiler child.entity (.members inner)) (matching child)) :
    Guards compiler.settings.maxDepth (Chain compiler node.entity (.entry key (.object inner)))
      (relationFilter compiler node property matching) := by
  refine (Compile.guards_related key (fun entity => Chain compiler entity (.members inner))
    (fun _ => .nil) guards fun _ _ _ => ?_).congr ?_
  · exact Level.then_guards (Site.level_conditions _) fun _ =>
      Level.then_guards (Compile.level_fromSupply _) fun _ => Compile.level_checked _
  · exact fun path nonempty => (chain_related relates nonempty).symm

mutual

theorem members_guards (node : Node) :
    ∀ list, Guards compiler.settings.maxDepth (Chain compiler node.entity (.members list))
      (members compiler node list)
  | [] => by
      unfold members
      refine (Compile.level_pure []).guards ?_
      rintro path (_ | ⟨listed, -⟩)
      · rfl
      · cases listed
  | (key, value) :: rest => by
      unfold members
      have first := entry_guards node key value
      have others := members_guards node rest
      refine (first.bind fun _ => others.then_level fun _ => Compile.level_pure _).congr ?_
      intro path nonempty
      exact (chain_members_cons nonempty).symm

theorem entry_guards (node : Node) (key : String) :
    ∀ value, Guards compiler.settings.maxDepth (Chain compiler node.entity (.entry key value))
      (entry compiler node key value)
  | .object inner => by
      unfold entry
      cases asked : role (compiler.resolver node.entity) key with
      | combinator combinator =>
          have combined := members_guards node inner
          refine (combined.then_level fun _ => (Compile.level_reduce _).then_guards fun _ =>
            level_combine combinator _).congr ?_
          intro path nonempty
          constructor
          · exact .combinedObject asked
          · intro chain
            cases chain with
            | nil => exact .nil
            | combinedObject _ chain => exact chain
            | related relates => cases asked.symm.trans relates
      | relation property =>
          exact relationFilter_guards asked fun child =>
            (members_guards child inner).then_level fun fragments => Compile.level_reduce fragments
      | field _ | suffixed _ _ _ | suffixedRelation _ | unknown =>
          refine (level_leafFilter key _ _).guards fun path chain => ?_
          exact eq_nil_of_chain_entry (by simp [asked]) (by simp [asked]) chain
  | .array items => by
      unfold entry
      cases asked : role (compiler.resolver node.entity) key with
      | combinator combinator =>
          have combined := elements_guards node items
          have checked : Level compiler.settings.maxDepth
              (Compile.ofExcept (checkElements node combinator items)) := by
            refine Compile.level_ofExcept fun error failed => ?_
            obtain ⟨fault, rfl⟩ := checkElements_error failed
            rfl
          refine (checked.then_guards fun _ => combined.then_level fun _ =>
            level_combine combinator _).congr ?_
          intro path nonempty
          constructor
          · exact .combinedList asked
          · intro chain
            cases chain with
            | nil => exact .nil
            | combinedList _ chain => exact chain
      | relation _ | field _ | suffixed _ _ _ | suffixedRelation _ | unknown =>
          refine (level_leafFilter key _ _).guards fun path chain => ?_
          exact eq_nil_of_chain_entry (by simp [asked]) (by simp) chain
  | .null | .bool _ | .number _ | .string _ => by
      unfold entry
      refine (level_leafFilter key _ _).guards ?_
      rintro path ⟨⟩
      rfl

theorem elements_guards (node : Node) :
    ∀ items, Guards compiler.settings.maxDepth (Chain compiler node.entity (.elements items))
      (elements compiler node items)
  | [] => by
      unfold elements
      refine (Compile.level_pure []).guards ?_
      rintro path (_ | _ | ⟨listed, -⟩)
      · rfl
      · cases listed
  | item :: rest => by
      unfold elements
      have first := element_guards node item
      have others := elements_guards node rest
      refine (first.bind fun _ => others.then_level fun _ => Compile.level_pure _).congr ?_
      intro path nonempty
      exact (chain_elements_cons nonempty).symm

theorem element_guards (node : Node) :
    ∀ item, Guards compiler.settings.maxDepth
      (fun path => ∃ inner, item = .object inner ∧ Chain compiler node.entity (.members inner) path)
      (element compiler node item)
  | .object inner => by
      unfold element
      have combined := members_guards node inner
      refine (combined.then_level fun _ => Compile.level_reduce _).congr ?_
      simp
  | .null | .bool _ | .number _ | .string _ | .array _ => by
      unfold element
      refine (Compile.level_pure _).guards ?_
      rintro path ⟨inner, ⟨⟩, -⟩

end

theorem compile_guards (compiler : Compiler) (node : Node) (filter : Members) :
    Guards compiler.settings.maxDepth (Chain compiler node.entity (.members filter))
      (Filter.compile compiler node filter) :=
  (members_guards node filter).then_level fun fragments => Compile.level_reduce fragments

end Filter

/-! ## Selections -/

namespace Display

open TreeQuery.Compile (Guards Level)

/-- A chain of relations that a part of a selection opens, in the end by a filter. -/
inductive Chain (compiler : Compiler) : Entity → Part → List String → Prop
  | nil {entity : Entity} {part : Part} : Chain compiler entity part []
  | fields {entity : Entity} {selection : Selection} {path : List String}
      (chain : Chain compiler entity (.fields selection.fields) path) :
      Chain compiler entity (.selection selection) path
  | filter {entity : Entity} {selection : Selection} {given : Arguments} {filter : Members}
      {path : List String} (argued : selection.arguments = some given)
      (filtered : given.filter = some filter)
      (chain : Filter.Chain compiler entity (.members filter) path) :
      Chain compiler entity (.selection selection) path
  | field {entity : Entity} {fields : List (String × FieldNode)} {key : String}
      {wanted : FieldNode} {path : List String} (listed : (key, wanted) ∈ fields)
      (chain : Chain compiler entity (.field key wanted) path) :
      Chain compiler entity (.fields fields) path
  | related {entity child : Entity} {key : String} {wanted : FieldNode} {property : Property}
      {path : List String}
      (resolved : (compiler.resolver entity).resolve key = some (.property property))
      (relates : property.isRelation = true)
      (found : compiler.provider.entity property.typeName = .ok child)
      (chain : Chain compiler child (.selection wanted.selection) path) :
      Chain compiler entity (.field key wanted) (key :: path)

variable {compiler : Compiler} {entity : Entity} {key : String} {path : List String}

theorem chain_fields_cons {wanted : FieldNode} {rest : List (String × FieldNode)}
    (nonempty : path ≠ []) :
    Chain compiler entity (.fields ((key, wanted) :: rest)) path ↔
      Chain compiler entity (.field key wanted) path ∨
        Chain compiler entity (.fields rest) path := by
  constructor
  · intro chain
    cases chain with
    | nil => exact absurd rfl nonempty
    | field listed chain =>
        rcases List.mem_cons.mp listed with same | listed
        · cases same
          exact .inl chain
        · exact .inr (.field listed chain)
  · rintro (chain | chain)
    · exact .field List.mem_cons_self chain
    · cases chain with
      | nil => exact .nil
      | field listed chain => exact .field (List.mem_cons_of_mem _ listed) chain

theorem chain_selection {fields : List (String × FieldNode)} {arguments : Option Arguments}
    (nonempty : path ≠ []) :
    Chain compiler entity (.selection ⟨fields, arguments⟩) path ↔
      Chain compiler entity (.fields fields) path ∨
        ∃ given filter, arguments = some given ∧ given.filter = some filter ∧
          Filter.Chain compiler entity (.members filter) path := by
  constructor
  · intro chain
    cases chain with
    | nil => exact absurd rfl nonempty
    | fields chain => exact .inl chain
    | filter argued filtered chain => exact .inr ⟨_, _, argued, filtered, chain⟩
  · rintro (chain | ⟨given, filter, argued, filtered, chain⟩)
    · exact .fields chain
    · exact .filter argued filtered chain

theorem chain_related {wanted : FieldNode} {property : Property}
    (resolved : (compiler.resolver entity).resolve key = some (.property property))
    (relates : property.isRelation = true) (nonempty : path ≠ []) :
    Chain compiler entity (.field key wanted) path ↔
      ∃ child, compiler.provider.entity property.typeName = .ok child ∧
        ∃ below, Chain compiler child (.selection wanted.selection) below ∧
          path = key :: below := by
  constructor
  · intro chain
    cases chain with
    | nil => exact absurd rfl nonempty
    | related again _ found chain =>
        cases resolved.symm.trans again
        exact ⟨_, found, _, chain, rfl⟩
  · rintro ⟨child, found, below, chain, rfl⟩
    exact .related resolved relates found chain

theorem eq_nil_of_chain_field {wanted : FieldNode}
    (plain : ∀ property, (compiler.resolver entity).resolve key = some (.property property) →
      property.isRelation = false)
    (chain : Chain compiler entity (.field key wanted) path) : path = [] := by
  cases chain with
  | nil => rfl
  | related resolved relates => simp [plain _ resolved] at relates

theorem eq_nil_of_chain_no_fields (chain : Chain compiler entity (.fields []) path) :
    path = [] := by
  cases chain with
  | nil => rfl
  | field listed => cases listed

theorem eq_nil_of_chain_empty (chain : Chain compiler entity (.selection {}) path) :
    path = [] := by
  cases chain with
  | nil => rfl
  | fields chain => exact eq_nil_of_chain_no_fields chain
  | filter argued => cases argued

/-! ### The walk through a selection -/

section Walk

variable (compiler : Compiler)

theorem arguments_guards (node : Node) (given : Option Arguments) :
    Guards compiler.settings.maxDepth
      (fun path => ∃ arguments filter, given = some arguments ∧ arguments.filter = some filter ∧
        Filter.Chain compiler node.entity (.members filter) path)
      (arguments compiler node given) := by
  cases given with
  | none =>
      refine (Compile.level_pure _).guards ?_
      rintro path ⟨arguments, filter, ⟨⟩, -⟩
  | some given =>
      unfold arguments
      simp only [Option.getD_some]
      cases filtered : given.filter with
      | none =>
          refine (Compile.level_pure _).guards ?_
          rintro path ⟨arguments, filter, ⟨⟩, found, -⟩
          cases filtered.symm.trans found
      | some filter =>
          have compiled := Filter.compile_guards compiler node filter
          refine (compiled.then_level fun _ => Compile.level_pure _).congr ?_
          simp [filtered]

theorem relationField_guards {node : Node} {property : Property} {key : String}
    {wanted : FieldNode} {shown : Node → Compile Fragment}
    (resolved : (compiler.resolver node.entity).resolve key = some (.property property))
    (relates : property.isRelation = true)
    (guards : ∀ child, Guards compiler.settings.maxDepth
      (Chain compiler child.entity (.selection wanted.selection)) (shown child)) :
    Guards compiler.settings.maxDepth (Chain compiler node.entity (.field key wanted))
      (relationField compiler node key property shown) := by
  refine (Compile.guards_related key
    (fun entity => Chain compiler entity (.selection wanted.selection)) (fun _ => .nil) guards
    fun _ _ _ => ?_).congr ?_
  · exact Level.then_guards (Site.level_render _ _ _) fun _ => Compile.level_checked _
  · exact fun path nonempty => (chain_related resolved relates nonempty).symm

mutual

theorem parts_guards (node : Node) :
    ∀ selection, Guards compiler.settings.maxDepth
      (Chain compiler node.entity (.selection selection)) (parts compiler node selection)
  | ⟨selected, given⟩ => by
      have argued := arguments_guards compiler node given
      cases selected with
      | nil =>
          unfold parts
          have shown : Guards compiler.settings.maxDepth (Chain compiler node.entity (.fields []))
              (pure (keyFields node)) :=
            (Compile.level_pure _).guards fun _ => eq_nil_of_chain_no_fields
          refine (shown.bind fun _ => argued.then_level fun _ => Compile.level_pure _).congr ?_
          exact fun path nonempty => (chain_selection nonempty).symm
      | cons first rest =>
          unfold parts
          have shown := fields_guards node (first :: rest)
          refine (shown.bind fun _ => argued.then_level fun _ => Compile.level_pure _).congr ?_
          exact fun path nonempty => (chain_selection nonempty).symm

theorem fields_guards (node : Node) :
    ∀ fields, Guards compiler.settings.maxDepth (Chain compiler node.entity (.fields fields))
      (Display.fields compiler node fields)
  | [] => by
      unfold Display.fields
      exact (Compile.level_pure []).guards fun _ => eq_nil_of_chain_no_fields
  | (key, wanted) :: rest => by
      unfold Display.fields
      have first := field_guards node key wanted
      have others := fields_guards node rest
      refine (first.bind fun _ => others.then_level fun _ => Compile.level_pure _).congr ?_
      exact fun path nonempty => (chain_fields_cons nonempty).symm

theorem field_guards (node : Node) (key : String) :
    ∀ wanted, Guards compiler.settings.maxDepth (Chain compiler node.entity (.field key wanted))
      (field compiler node key wanted)
  | .leaf => by
      unfold field
      cases resolved : (compiler.resolver node.entity).resolve key with
      | none => exact Compile.guards_throw rfl
      | some found =>
          cases found with
          | computed computed =>
              refine (Compile.level_pure _).guards fun path chain => ?_
              exact eq_nil_of_chain_field (by simp [resolved]) chain
          | property property =>
              cases relates : property.isRelation with
              | true =>
                  simp only [relates, if_true]
                  exact relationField_guards compiler resolved relates fun child =>
                    (Compile.level_reduce _).guards fun _ => eq_nil_of_chain_empty
              | false =>
                  simp only [relates, Bool.false_eq_true, if_false]
                  refine (Compile.level_pure _).guards fun path chain => ?_
                  exact eq_nil_of_chain_field (by simpa [resolved] using relates) chain
  | .nested selection => by
      unfold field
      cases resolved : (compiler.resolver node.entity).resolve key with
      | none => exact Compile.guards_throw rfl
      | some found =>
          cases found with
          | computed computed =>
              simp only
              split
              · refine (Compile.level_pure _).guards fun path chain => ?_
                exact eq_nil_of_chain_field (by simp [resolved]) chain
              · exact Compile.guards_throw rfl
          | property property =>
              cases relates : property.isRelation with
              | true =>
                  simp only [relates, if_true]
                  exact relationField_guards compiler resolved relates fun child =>
                    (parts_guards child selection).then_level fun parts =>
                      Compile.level_reduce parts
              | false =>
                  simp only [relates, Bool.false_eq_true, if_false]
                  split
                  · refine (Compile.level_pure _).guards fun path chain => ?_
                    exact eq_nil_of_chain_field (by simpa [resolved] using relates) chain
                  · exact Compile.guards_throw rfl

end

end Walk

end Display

/-! ## Requests -/

open TreeQuery.Compile (Guards Level)

/-- A chain of relations that a selection and a filter on the rows of an entity open. -/
inductive Chain (compiler : Compiler) (entity : Entity) (selection : Option Selection)
    (filter : Option Members) : List String → Prop
  | shown {wanted : Selection} {path : List String} (selected : selection = some wanted)
      (chain : Display.Chain compiler entity (.selection wanted) path) :
      Chain compiler entity selection filter path
  | filtered {members : Members} {path : List String} (filters : filter = some members)
      (chain : Filter.Chain compiler entity (.members members) path) :
      Chain compiler entity selection filter path

def Query.Chain (compiler : Compiler) (query : Query) (path : List String) : Prop :=
  ∃ entity, compiler.provider.entity query.entity = .ok entity ∧
    TreeQuery.Chain compiler entity (some query.selection) query.filter path

theorem chain_iff {compiler : Compiler} {entity : Entity} {selection : Option Selection}
    {filter : Option Members} {path : List String} :
    Chain compiler entity selection filter path ↔
      (∃ wanted, selection = some wanted ∧
          Display.Chain compiler entity (.selection wanted) path) ∨
        ∃ members, filter = some members ∧
          Filter.Chain compiler entity (.members members) path := by
  constructor
  · rintro (⟨selected, chain⟩ | ⟨filters, chain⟩)
    · exact .inl ⟨_, selected, chain⟩
    · exact .inr ⟨_, filters, chain⟩
  · rintro (⟨wanted, selected, chain⟩ | ⟨members, filters, chain⟩)
    · exact .shown selected chain
    · exact .filtered filters chain

namespace Compiler

variable (compiler : Compiler)

theorem node_guards (node : Node) (selection : Option Selection) (filter : Option Members) :
    Guards compiler.settings.maxDepth (Chain compiler node.entity selection filter)
      (Compile.node compiler node selection filter) := by
  simp only [Compile.node, pure_bind]
  cases selection with
  | none =>
      cases filter with
      | none =>
          refine (Compile.level_reduce _).guards ?_
          simp [chain_iff]
      | some members =>
          have filtered := Filter.compile_guards compiler node members
          refine (filtered.then_level fun _ => Compile.level_reduce _).congr ?_
          simp [chain_iff]
  | some wanted =>
      have shown := Display.parts_guards compiler node wanted
      cases filter with
      | none =>
          refine (shown.then_level fun _ => Compile.level_reduce _).congr ?_
          simp [chain_iff]
      | some members =>
          have filtered := Filter.compile_guards compiler node members
          refine (shown.bind fun _ => filtered.then_level fun _ => Compile.level_reduce _).congr ?_
          simp [chain_iff]

theorem root_guards (query : Query) :
    Guards compiler.settings.maxDepth (query.Chain compiler)
      (compiler.root query.entity (some query.selection) query.filter) := by
  unfold root
  cases found : compiler.provider.entity query.entity with
  | error error =>
      rw [Compile.entity_eq_throw found]
      exact Compile.guards_throw rfl
  | ok entity =>
      rw [Compile.entity_eq_pure found, pure_bind]
      have chains : query.Chain compiler =
          Chain compiler entity (some query.selection) query.filter := by
        simp [funext_iff, Query.Chain, found]
      rw [chains]
      exact Level.then_guards (Compile.level_fromSupply _) fun label =>
        (compiler.node_guards ⟨entity, label⟩ _ _).then_level fun _ => Compile.level_pure _

theorem statement_guards (query : Query) :
    Guards compiler.settings.maxDepth (query.Chain compiler) (compiler.statement query) := by
  unfold statement
  refine (compiler.root_guards query).then_level fun rooted => ?_
  cases query.pagination with
  | none => exact Compile.level_pure _
  | some pagination =>
      exact Level.then_guards (Compile.level_checked _) fun _ => Compile.level_pure _

/--
The limit is exact.  A query compiles only if none of its chains is longer than the limit.
If it is refused for its depth, the depth reported is one more than the limit, and the
query has a chain of that length.  Nodes and filters that compile leave as many relations
open as there were.
-/
theorem depth_limit_exact :
    (∀ query statement, compiler.compile query = .ok statement →
        ∀ path, query.Chain compiler path → path.length ≤ compiler.settings.maxDepth) ∧
      (∀ query depth limit, compiler.compile query = .error (.tooDeep depth limit) →
        limit = compiler.settings.maxDepth ∧ depth = compiler.settings.maxDepth + 1 ∧
          ∃ path, query.Chain compiler path ∧ path.length = depth) ∧
      (∀ node selection filter context fragment after,
        Compile.node compiler node selection filter context = .ok (fragment, after) →
          after.depth = context.depth) ∧
      (∀ node filter context fragment after,
        Filter.compile compiler node filter context = .ok (fragment, after) →
          after.depth = context.depth) := by
  refine ⟨?_, ?_, ?_, ?_⟩
  · intro query statement done path chain
    obtain ⟨after, ran⟩ := statement_of_compile done
    simpa using (compiler.statement_guards query).bounded ran (Nat.zero_le _) path chain
  · intro query depth limit failed
    have stopped := (compiler.statement_guards query).stopped (statement_error_of_compile failed)
      (Nat.zero_le _)
    simpa using stopped
  · intro node selection filter context fragment after done
    exact (compiler.node_guards node selection filter).balanced done
  · intro node filter context fragment after done
    exact (Filter.compile_guards compiler node filter).balanced done

end Compiler

namespace Sample

def shallow : Compiler := { compiler with settings := { maxDepth := 2 } }

def comrades (filter : Members) : Query :=
  { entity := "Person"
    selection :=
      { fields :=
          [("fellowship", .nested
            { arguments := some
                { filter := some [("_or", .array [.object [("members", .object filter)]])] } })] } }

theorem comrades_chain {filter : Members} {path : List String}
    (chain : Filter.Chain shallow person (.members filter) path) :
    Query.Chain shallow (comrades filter) ("fellowship" :: "members" :: path) := by
  have members : Filter.Chain shallow fellowship
      (.entry "members" (.object filter)) ("members" :: path) := .related rfl rfl chain
  have grouped : Filter.Chain shallow fellowship
      (.entry "_or" (.array [.object [("members", .object filter)]])) ("members" :: path) :=
    .combinedList rfl (.element List.mem_cons_self (.member List.mem_cons_self members))
  exact ⟨person, rfl, .shown rfl (.fields (.field List.mem_cons_self
    (.related rfl rfl rfl (.filter rfl rfl (.member List.mem_cons_self grouped)))))⟩

theorem depth_limit_exact_comrades :
    (∃ statement, shallow.compile (comrades [("name", .string "Sam")]) = .ok statement) ∧
      Query.Chain shallow (comrades [("name", .string "Sam")]) ["fellowship", "members"] ∧
      ["fellowship", "members"].length ≤ shallow.settings.maxDepth ∧
      shallow.compile (comrades [("battles", .object [])]) = .error (.tooDeep 3 2) ∧
      (∃ path, Query.Chain shallow (comrades [("battles", .object [])]) path ∧
        path.length = 3) ∧
      ∃ fragment after, Filter.compile shallow root [("fellowship", .object [])] started =
        .ok (fragment, after) ∧ after.depth = started.depth := by
  obtain ⟨bounded, stopped, -, balanced⟩ := Compiler.depth_limit_exact shallow
  have compiled : ∃ statement,
      shallow.compile (comrades [("name", .string "Sam")]) = .ok statement :=
    exists_statement (by decide +kernel)
  have chain : Query.Chain shallow (comrades [("name", .string "Sam")])
    ["fellowship", "members"] := comrades_chain .nil
  have refused : shallow.compile (comrades [("battles", .object [])]) =
    .error (.tooDeep 3 2) := rfl
  have filtered : ∃ result,
      Filter.compile shallow root [("fellowship", .object [])] started = .ok result :=
    exists_ok (by decide +kernel)
  obtain ⟨statement, done⟩ := compiled
  obtain ⟨⟨fragment, after⟩, ran⟩ := filtered
  exact ⟨⟨statement, done⟩, chain, bounded _ _ done _ chain, refused,
    (stopped _ _ _ refused).2.2, fragment, after, ran, balanced _ _ _ _ _ ran⟩

end Sample

end TreeQuery
