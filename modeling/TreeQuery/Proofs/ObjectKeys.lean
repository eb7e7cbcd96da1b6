import TreeQuery.Proofs.ObjectPieces

/-!
# The keys of the objects of a statement

A statement builds one object for each node of its selection, from the root down, with
the selected names as keys.  They are the keys that are read from its text, up to the
blanks, which are collapsed inside literals too.
-/

namespace TreeQuery

open Lexeme (isNameChar)

/-! ## Selects -/

namespace Sql

def attached (joins : List Join) : List Piece := (joins.map Join.pieces).flatMap (.code " " :: ·)

variable {stem : String}

theorem Builds.attach {left right : List Join} {keys more : List (List String)}
    (first : Builds stem Outside (attached left) keys)
    (second : Builds stem Outside (attached right) more) :
    Builds stem Outside (attached (left ++ right)) (keys ++ more) := by
  have severed : isSevered (attached right) = true := by cases right <;> rfl
  rw [attached, List.map_append, List.flatMap_append]
  exact first.append severed second

theorem Builds.attach_one {join : Join} {keys : List (List String)}
    (builds : Builds stem Outside join.pieces keys) :
    Builds stem Outside (attached [join]) keys := by
  simpa [attached] using builds.after outside_space

theorem builds_attached {joins : List Join}
    (each : ∀ join ∈ joins, Builds stem Outside join.pieces []) :
    Builds stem Outside (attached joins) [] := by
  induction joins with
  | nil => exact builds_nothing
  | cons join rest ih =>
      obtain ⟨here, later⟩ := List.forall_mem_cons.mp each
      exact here.attach_one.attach (ih later)

variable (letters : stem.toList.all isNameChar = true)

include letters

theorem Select.builds {output : Output} {source : Source} {joins : List Join}
    {conditions : List Condition} {order : Option Order} {limit offset : Option Nat}
    {shown read joined : List (List String)} (returned : Builds stem Outside output.pieces shown)
    (origin : Builds stem Outside source.pieces read)
    (brought : Builds stem Outside (attached joins) joined)
    (tested : ∀ condition ∈ conditions, Builds stem Outside condition.pieces [])
    (ordered : order.all Order.isRegular = true) :
    Builds stem Outside (Select.pieces ⟨output, source, joins, conditions, order, limit, offset⟩)
      (shown ++ (read ++ joined)) := by
  have terms : ∀ given ∈ order.map Order.pieces, Builds stem Outside given [] := by
    intro given member
    obtain ⟨terms, here, rfl⟩ := Option.map_eq_some_iff.mp member
    exact Order.builds letters (by simpa [here] using ordered)
  rw [Select.pieces, Join.piecesAll_eq, Condition.piecesAll_eq]
  exact SelectPieces.builds returned origin brought (List.forall_mem_map.mpr tested) terms

theorem Source.builds_table (name : String) (label : Alias) :
    Builds stem Outside (Source.table name label).pieces [] := by
  rw [Source.pieces]
  exact builds_table_aliased letters name label

theorem Join.builds (kind : JoinKind) {query : Select} {keys : List (List String)}
    (builds : Builds stem Outside query.pieces keys) (label : Alias) :
    Builds stem Outside (Join.lateral kind query label).pieces keys := by
  rw [Join.pieces]
  exact builds_lateral letters kind builds label

end Sql

open Sql (Builds Outside attached builds_attached)

/-! ## Filters -/

section Filters

variable {stem : String} (letters : stem.toList.all isNameChar = true)

include letters

theorem Site.builds_linking (parent child pivot : Sql.Alias) (link : Link) :
    ∀ part ∈ linking parent child pivot link, Builds stem Outside part.pieces [] := by
  intro part listed
  cases link with
  | direct parentColumns childColumns =>
      obtain ⟨pair, -, rfl⟩ := List.mem_map.mp listed
      rw [Sql.Condition.pieces]
      exact Sql.builds_equation letters pair.1 pair.2
  | pivot table parentColumns pivotParentColumns pivotChildColumns childColumns =>
      rw [List.mem_singleton.mp listed, Sql.Condition.pieces]
      exact Sql.builds_in letters _ (Sql.Hop.builds letters _)

theorem Filter.kept_builds :
    Kept (fun join => Builds stem Outside join.pieces [])
      (fun condition => Builds stem Outside condition.pieces []) where
  passes scope := by
    refine ⟨fun operand => ?_, fun operands => ?_, fun operands => ?_, fun {branches} each => ?_⟩
    · have word : Sql.Passes Outside "NOT (" := Sql.passes_outside fun _ => rfl
      rw [Sql.Condition.pieces]
      exact (operand.after word).append rfl Sql.builds_close
    · rw [Sql.Condition.pieces, Sql.Condition.piecesAll_eq]
      exact Sql.builds_conjunction (List.forall_mem_map.mpr operands)
    · rw [Sql.Condition.pieces, Sql.Condition.piecesAll_eq]
      exact Sql.builds_disjunction (List.forall_mem_map.mpr operands)
    · have union : Sql.Passes Outside " UNION ALL " := Sql.passes_outside fun _ => rfl
      rw [Sql.Condition.pieces, Sql.Select.piecesAll_eq, List.map_map]
      refine Sql.builds_in letters _ (Sql.builds_listed_nothing rfl union fun branch listed => ?_)
      obtain ⟨joins, conditions⟩ := each branch listed
      have keys : Builds stem Outside (Sql.Output.columns scope.keyColumns).pieces [] :=
        (Sql.builds_columns letters scope.keyColumns).unshielded
      exact Sql.Select.builds letters keys
        (Sql.Source.builds_table letters scope.table scope.label) (builds_attached joins)
        conditions rfl
  test subject test := by
    rw [Sql.Condition.pieces]
    exact test.builds letters (Sql.builds_row letters subject).outside
  linking := Site.builds_linking letters
  existence {site correlation lowered label} correlated demanded := by
    have matched : Builds stem Outside Sql.Output.matched.pieces [] :=
      Sql.word_outside (fun _ => rfl) (by decide)
    exact Sql.Join.builds letters .inner (Sql.Select.builds letters matched
      (Sql.Source.builds_table letters _ _) (builds_attached demanded.1)
      (List.forall_mem_append.mpr ⟨correlated, demanded.2⟩) rfl) label

end Filters

/-! ## Relations -/

section Relations

variable {stem : String} (letters : stem.toList.all isNameChar = true)

include letters

theorem Site.Brought.builds {name : String} {site : Site} {body : Body}
    {correlation : List Sql.Condition} {supply after : Sql.Supply} {rendered : Rendered}
    {own below : List (List String)}
    (brought : Brought name site body correlation supply rendered after)
    (object : Builds stem Outside body.object.pieces own)
    (joins : Builds stem Outside (attached body.joins) below)
    (conditions : ∀ condition ∈ correlation ++ body.conditions,
      Builds stem Outside condition.pieces [])
    (order : body.order.all Sql.Order.isRegular = true) :
    Builds stem Outside rendered.join.pieces (own ++ below) := by
  have source : Builds stem Outside site.source.pieces [] :=
    Sql.Source.builds_table letters _ _
  have named : Builds stem Outside [.code "value"] [] :=
    Sql.word_outside (fun _ => rfl) (by decide)
  have shown := Sql.Output.builds_object object named
  cases brought with
  | singular limit =>
      exact Sql.Join.builds letters _
        (Sql.Select.builds letters shown source joins conditions order) _
  | collected =>
      exact Sql.Join.builds letters _
        (Sql.Select.builds letters (Sql.Output.builds_collected object) source joins conditions
          rfl) _
  | paged =>
      have output : Builds stem Outside (pageOutput body).pieces own := by
        unfold pageOutput
        cases given : body.order with
        | none => exact shown
        | some terms =>
            exact Sql.Output.builds_numbered letters object (by simpa [given] using order)
      have rows : Builds stem Outside (pageRows site body correlation).pieces (own ++ below) :=
        Sql.Select.builds letters output source joins conditions order
      have page : Builds stem Outside
          (Sql.Source.page (pageRows site body correlation) (supply.next .page name).1).pieces
          (own ++ below) := by
        rw [Sql.Source.pieces]
        exact Sql.builds_aliased letters (Sql.builds_enclosed rows) _
      have unjoined : Builds stem Outside (attached []) [] := Sql.builds_nothing
      have untested : ∀ condition ∈ ([] : List Sql.Condition),
          Builds stem Outside condition.pieces [] := by simp
      have unordered : (none : Option Sql.Order).all Sql.Order.isRegular = true := rfl
      have pages := Sql.Output.builds_collectedPage letters (supply.next .page name).1
        body.order.isSome
      refine Sql.Join.builds letters _ ?_ _
      rw [← List.append_nil (own ++ below)]
      exact Sql.Select.builds letters pages page unjoined untested unordered

end Relations

/-! ## Objects of a selection -/

namespace Selection

/-- The selected names, or those of the primary key if none is selected. -/
def names (entity : Entity) (fields : List (String × FieldNode)) : List String :=
  if fields.isEmpty then entity.keyProperties.map Property.name else fields.map (·.1)

def showsComputed (compiler : Compiler) (entity : Entity) (fields : List (String × FieldNode)) :
    Bool :=
  fields.any fun field => ((compiler.resolver entity).computedField? field.1).isSome

def labels (compiler : Compiler) (entity : Entity) (fields : List (String × FieldNode)) :
    List String :=
  names entity fields ++ if showsComputed compiler entity fields then [rawKey] else []

mutual

/-- The keys of the objects at all nodes, those of a node before those of the nodes below it. -/
def objects (compiler : Compiler) (entity : Entity) : Selection → List (List String)
  | ⟨fields, _⟩ => labels compiler entity fields :: fieldObjects compiler entity fields

def fieldObjects (compiler : Compiler) (entity : Entity) :
    List (String × FieldNode) → List (List String)
  | [] => []
  | (key, wanted) :: rest =>
      objectsOf compiler entity key wanted ++ fieldObjects compiler entity rest

def objectsOf (compiler : Compiler) (entity : Entity) (key : String) :
    FieldNode → List (List String)
  | .leaf => (compiler.related? entity key).toList.map (labels compiler · [])
  | .nested selection =>
      match compiler.related? entity key with
      | some child => objects compiler child selection
      | none => []

end

theorem objects_eq (compiler : Compiler) (entity : Entity) (selection : Selection) :
    selection.objects compiler entity =
      labels compiler entity selection.fields :: fieldObjects compiler entity selection.fields := by
  obtain ⟨fields, given⟩ := selection
  rw [objects]

theorem objectsOf_related {compiler : Compiler} {entity child : Entity} {key : String}
    (related : compiler.related? entity key = some child) (wanted : FieldNode) :
    objectsOf compiler entity key wanted = wanted.selection.objects compiler child := by
  cases wanted with
  | leaf => simp [objectsOf, related, FieldNode.selection, objects, fieldObjects]
  | nested selection => simp [objectsOf, related, FieldNode.selection]

theorem objectsOf_unrelated {compiler : Compiler} {entity : Entity} {key : String}
    (related : compiler.related? entity key = none) (wanted : FieldNode) :
    objectsOf compiler entity key wanted = [] := by
  cases wanted <;> simp [objectsOf, related]

end Selection

def Query.objects (compiler : Compiler) (query : Query) : List (List String) :=
  match compiler.provider.entity query.entity with
  | .ok entity => query.selection.objects compiler entity
  | .error _ => []

namespace Display

open TreeQuery.Filter (childOf)

def Part.names (entity : Entity) : Part → List String
  | .selection whole => Selection.names entity whole.fields
  | .fields list => list.map (·.1)
  | .field key _ => [key]

def Part.showsComputed (compiler : Compiler) (entity : Entity) : Part → Bool
  | .selection whole => Selection.showsComputed compiler entity whole.fields
  | .fields list => Selection.showsComputed compiler entity list
  | .field key wanted => Selection.showsComputed compiler entity [(key, wanted)]

def Part.below (compiler : Compiler) (entity : Entity) : Part → List (List String)
  | .selection whole => Selection.fieldObjects compiler entity whole.fields
  | .fields list => Selection.fieldObjects compiler entity list
  | .field key wanted => Selection.objectsOf compiler entity key wanted

structure Keyed (stem : String) (size : Nat) (fragments : List Fragment) (names : List String)
    (computed : Bool) (below : List (List String)) : Prop where
  names : fragments.flatMap (fun fragment => fragment.pairs.map (·.1)) = names
  computed : fragments.any (·.computed) = computed
  builds : Builds stem Outside (attached (fragments.flatMap (·.joins)))
    (below.flatMap (Sql.calls size))

theorem Keyed.append {stem : String} {size : Nat} {left right : List Fragment}
    {names others : List String} {computed further : Bool} {below more : List (List String)}
    (first : Keyed stem size left names computed below)
    (second : Keyed stem size right others further more) :
    Keyed stem size (left ++ right) (names ++ others) (computed || further) (below ++ more) where
  names := by rw [List.flatMap_append, first.names, second.names]
  computed := by rw [List.any_append, first.computed, second.computed]
  builds := by
    rw [List.flatMap_append, List.flatMap_append]
    exact first.builds.attach second.builds

theorem Argued.keyed {compiler : Compiler} {node : Node} {given : Arguments}
    {context after : Context} {fragments : List Fragment}
    (argued : Argued compiler node given context fragments after) (stem : String) (size : Nat) :
    Keyed stem size fragments [] false [] := by
  have hidden : ∀ fragment ∈ fragments, fragment.pairs = [] ∧ fragment.computed = false ∧
      fragment.joins = [] := by
    intro fragment listed
    have display := (argued.tests fragment listed).1
    exact ⟨congrArg Fragment.pairs display, congrArg Fragment.computed display,
      congrArg Fragment.joins display⟩
  constructor
  · exact List.flatMap_eq_nil_iff.mpr fun fragment listed => by simp [hidden fragment listed]
  · exact List.any_eq_false.mpr fun fragment listed => by simp [hidden fragment listed]
  · have unjoined : fragments.flatMap (·.joins) = [] :=
      List.flatMap_eq_nil_iff.mpr fun fragment listed => (hidden fragment listed).2.2
    rw [unjoined]
    exact Sql.builds_nothing

theorem Keyed.argued {stem : String} {size : Nat} {fragments others : List Fragment}
    {names : List String} {computed : Bool} {below : List (List String)}
    (keyed : Keyed stem size fragments names computed below) {compiler : Compiler} {node : Node}
    {given : Arguments} {context after : Context}
    (argued : Argued compiler node given context others after) :
    Keyed stem size (fragments ++ others) names computed below := by
  simpa using keyed.append (argued.keyed stem size)

theorem Keyed.object {stem : String} (letters : stem.toList.all isNameChar = true)
    {settings : Settings} {fragments : List Fragment} {shown : Fragment} {names : List String}
    {computed : Bool} {below : List (List String)}
    (keyed : Keyed stem settings.chunkSize fragments names computed below)
    (regular : shown.Regular) (reduced : Fragment.reduce fragments = .ok shown)
    (label : Sql.Alias) :
    Builds stem Outside (object settings shown label).pieces
      (Sql.calls settings.chunkSize (names ++ if computed then [rawKey] else [])) := by
  have pairs : shown.pairs.map (·.1) = names := by
    rw [Fragment.reduce_pairs reduced, List.map_flatMap]
    exact keyed.names
  have raw : shown.computed = computed := (Fragment.reduce_computed reduced).trans keyed.computed
  have whole := Sql.ObjectExpr.builds letters (object_isRegular settings regular label)
  rw [List.map_append, pairs, raw] at whole
  rw [Display.object, raw]
  cases computed <;> exact whole

theorem Keyed.joined {stem : String} (letters : stem.toList.all isNameChar = true)
    {size : Nat} {fragments : List Fragment} {shown : Fragment} {names : List String}
    {computed : Bool} {below : List (List String)}
    (keyed : Keyed stem size fragments names computed below)
    (tested : shown.Each (fun join => Builds stem Outside join.pieces [])
      (fun condition => Builds stem Outside condition.pieces []))
    (reduced : Fragment.reduce fragments = .ok shown) (scope : Scope) :
    Builds stem Outside (attached ((shown.lower scope).joins ++ shown.joins))
      (below.flatMap (Sql.calls size)) := by
  obtain ⟨joins, -⟩ := ((Filter.kept_builds letters).passes scope).lower tested
  rw [Fragment.reduce_joins reduced]
  exact (builds_attached joins).attach keyed.builds

theorem keyFields_keyed (stem : String) (size : Nat) (node : Node) :
    Keyed stem size (keyFields node) (node.entity.keyProperties.map Property.name) false [] where
  names := by
    rw [keyFields, List.flatMap_map, List.map_eq_flatMap]
    rfl
  computed := by simp [keyFields, scalarField]
  builds := by
    have unjoined : (keyFields node).flatMap (·.joins) = [] := by simp [keyFields, scalarField]
    rw [unjoined]
    exact Sql.builds_nothing

/-- A run shows the selected names and builds the objects of the nodes below. -/
theorem Runs.keyed {stem : String} (letters : stem.toList.all isNameChar = true)
    {compiler : Compiler} {node : Node} {part : Part} {context after : Context}
    {fragments : List Fragment} (run : Runs compiler node part context fragments after) :
    Keyed stem compiler.settings.chunkSize fragments (part.names node.entity)
      (part.showsComputed compiler node.entity) (part.below compiler node.entity) := by
  induction run with
  | @keys node _ _ _ _ argued =>
      exact (keyFields_keyed stem compiler.settings.chunkSize node).argued argued
  | @selected node fields _ _ _ _ _ _ nonempty ran argued keyed =>
      have named : Selection.names node.entity fields = fields.map (·.1) := by
        simp [Selection.names, nonempty]
      rw [Part.names, named]
      exact keyed.argued argued
  | noFields => exact ⟨rfl, rfl, Sql.builds_nothing⟩
  | fields first later firstKeyed laterKeyed =>
      simpa [Part.names, Part.showsComputed, Part.below, Selection.showsComputed,
        Selection.fieldObjects] using firstKeyed.append laterKeyed
  | @computed node key wanted context found resolved plain =>
      have unrelated := Compiler.related?_of_computed resolved
      have shown : (compiler.resolver node.entity).computedField? key = some found := by
        simp [Resolver.computedField?, resolved]
      refine ⟨rfl, ?_, ?_⟩
      · simp [computedField, Part.showsComputed, Selection.showsComputed, shown]
      · rw [Part.below, Selection.objectsOf_unrelated unrelated]
        exact Sql.builds_nothing
  | @scalar node key wanted context property resolved scalar plain =>
      have unrelated := Compiler.related?_of_scalar resolved scalar
      have shown : (compiler.resolver node.entity).computedField? key = none := by
        simp [Resolver.computedField?, resolved]
      refine ⟨rfl, ?_, ?_⟩
      · simp [scalarField, Part.showsComputed, Selection.showsComputed, shown]
      · rw [Part.below, Selection.objectsOf_unrelated unrelated]
        exact Sql.builds_nothing
  | @related node key wanted property entity context between after fragments shown rendered values
      resolved relation found shallow inner reduced brought perm distinct keyed =>
      have child := Compiler.related?_of_relation resolved relation found
      have field : (compiler.resolver node.entity).computedField? key = none := by
        simp [Resolver.computedField?, resolved]
      refine ⟨rfl, ?_, ?_⟩
      · simp [relating, Part.showsComputed, Selection.showsComputed, field]
      · obtain ⟨link, supply, -, joined, -⟩ := Site.render_ok brought
        have kept := Filter.kept_builds letters
        have tested := Fragment.Each.reduce (inner.each kept) reduced
        obtain ⟨-, conditions⟩ := (kept.passes (Filter.scope (childOf node entity context))).lower
          tested
        have join := joined.builds letters
          (keyed.object letters (.reduce inner.regular reduced) reduced _)
          (keyed.joined letters tested reduced _)
          (List.forall_mem_append.mpr ⟨Site.builds_linking letters _ _ _ link, conditions⟩)
          (orderOf_isRegular _ _ _)
        rw [Part.below, Selection.objectsOf_related child, Selection.objects_eq]
        exact join.attach_one

end Display

/-! ## Statements -/

namespace Compiler

variable {compiler : Compiler} {query : Query} {statement : Statement}

theorem builds_objects {stem : String} (letters : stem.toList.all isNameChar = true)
    (compiled : compiler.compile query = .ok statement) :
    Builds stem Outside statement.query.pieces
      ((query.objects compiler).flatMap (Sql.calls compiler.settings.chunkSize)) := by
  obtain ⟨entity, shown, argued, fragment, between, after, found, run, given, reduced, rfl⟩ :=
    compile_ok compiled
  have kept := Filter.kept_builds letters
  have regular := Fragment.Regular.reduce
    (List.forall_mem_append.mpr ⟨run.regular, given.regular⟩) reduced
  have tested := Fragment.Each.reduce
    (List.forall_mem_append.mpr ⟨run.each kept, given.each kept⟩) reduced
  obtain ⟨-, conditions⟩ :=
    (kept.passes (Filter.scope (compiler.rootNode entity))).lower tested
  have keyed := (run.keyed letters).argued given
  have named : Builds stem Outside [.code valueColumn] [] :=
    Sql.word_outside (fun _ => rfl) (by decide)
  have objects : query.objects compiler = query.selection.objects compiler entity := by
    rw [Query.objects, found]
  rw [objects, Selection.objects_eq, List.flatMap_cons]
  exact Sql.Select.builds letters
    (Sql.Output.builds_object (keyed.object letters regular reduced _) named)
    (Sql.Source.builds_table letters _ _) (keyed.joined letters tested reduced _) conditions
    (Display.orderOf_isRegular compiler _ fragment.order)

theorem pieces_restem_self (compiled : compiler.compile query = .ok statement) :
    statement.query.pieces.map (Sql.Piece.restem compiler.settings.stem) =
      statement.query.pieces := by
  have restemmed : compiler.compile query = moved compiler.settings.stem
      (Statement.restem compiler.settings.stem) ((compiler.withStem "").compile query) :=
    compile_withStem compiler.settings.stem
      (rfl : (compiler.withStem "").settings.stem = "") query
  cases outcome : (compiler.withStem "").compile query with
  | error error =>
      rw [outcome, compiled] at restemmed
      cases restemmed
  | ok base =>
      rw [outcome, compiled] at restemmed
      cases restemmed
      have twice : ∀ (stem : String) (piece : Sql.Piece),
          (piece.restem stem).restem stem = piece.restem stem := by
        intro stem piece
        cases piece <;> rfl
      simp only [Statement.restem, Sql.Select.pieces_restem, List.map_map]
      exact List.map_congr_left fun piece _ => twice _ piece

/-- The keys that are read from a statement are those of its objects, respaced. -/
theorem objectKeys_sql (letters : compiler.settings.stem.toList.all isNameChar = true)
    (compiled : compiler.compile query = .ok statement) :
    Sql.objectKeys statement.sql =
      ((query.objects compiler).flatMap (Sql.calls compiler.settings.chunkSize)).map
        (List.map Text.respace) := by
  have complete := Sql.Select.complete _ (compile_isRegular compiled)
  have read := builds_objects letters compiled none [] rfl
  rw [Sql.Reads, ← Sql.KeyReader.run_written, pieces_restem_self compiled] at read
  have found := congrArg (fun reader => reader.progress.found) read.blank
  rw [Sql.KeyReader.found_step_blank] at found
  rw [sql_eq_collapse compiled, Sql.objectKeys_collapse complete.started]
  refine congrArg (List.map (List.map Text.respace)) ?_
  refine (congrArg (List.map (List.map String.ofList)) found).trans ?_
  simp [Sql.KeyReader.fresh, Function.comp_def]

theorem map_calls_eq_iff (size : Nat) (f : String → String) (objects : List (List String)) :
    (objects.flatMap (Sql.calls size)).map (List.map f) = objects.flatMap (Sql.calls size) ↔
      ∀ labels ∈ objects, ∀ label ∈ labels, f label = label := by
  have unchanged : ∀ part : List String, part.map f = part ↔ ∀ label ∈ part, f label = label := by
    intro part
    simpa using List.map_inj_left (l := part) (f := f) (g := id)
  constructor
  · intro same labels listed label member
    have flat := congrArg List.flatten same
    rw [← List.map_flatten, unchanged] at flat
    refine flat label (List.mem_flatten.mpr ?_)
    rw [← Sql.flatten_calls size labels] at member
    obtain ⟨part, call, inside⟩ := List.mem_flatten.mp member
    exact ⟨part, List.mem_flatMap.mpr ⟨labels, listed, call⟩, inside⟩
  · intro each
    rw [List.map_flatMap]
    refine List.flatMap_congr fun labels listed => ?_
    rw [← Sql.calls_map, (unchanged labels).mpr (each labels listed)]

/--
Reading a statement finds an object for each node of the selection, from the root down: its
keys are the selected names in their order, and `rawKey` behind them if one is computed, with
a single space for every run of blanks.  They are the names themselves exactly if no name has
two blanks side by side or a blank that is no space.
-/
theorem objectKeys_of_compile (valid : compiler.settings.violations = [])
    (compiled : compiler.compile query = .ok statement) :
    Sql.objectKeys statement.sql =
        (query.objects compiler).flatMap
          (fun labels => Sql.calls compiler.settings.chunkSize (labels.map Text.respace)) ∧
      (Sql.objectKeys statement.sql =
          (query.objects compiler).flatMap (Sql.calls compiler.settings.chunkSize) ↔
        ∀ labels ∈ query.objects compiler, ∀ label ∈ labels, Text.Tidy label.toList) := by
  have keys := objectKeys_sql (Settings.isNameChar_stem valid) compiled
  constructor
  · rw [keys, List.map_flatMap]
    simp only [Sql.calls_map]
  · rw [keys, map_calls_eq_iff]
    simp only [Text.respace_eq_self_iff]

end Compiler

namespace Sample

def enrolled : Entity :=
  { person with
    properties :=
      [.ofColumn "id" "int" "id", .ofColumn "full  name" "text" "full_name",
        .ofColumn "captain's log, (day)" "text" "log"] }

theorem enrolled_accepted : Registry.ofEntities [enrolled] = .ok ⟨[enrolled]⟩ := rfl

def roll : Compiler :=
  { provider := (Registry.mk [enrolled]).provider
    settings := { chunkSize := 1 } }

def logged : Query :=
  { entity := "Person"
    selection := { fields := [("captain's log, (day)", .leaf), ("id", .leaf)] } }

theorem objectKeys_of_compile_logged :
    ∃ statement, roll.settings.violations = [] ∧ roll.compile logged = .ok statement ∧
      Sql.objectKeys statement.sql = [["captain's log, (day)"], ["id"]] := by
  obtain ⟨statement, compiled⟩ := exists_statement
    (by decide +kernel : (roll.compile logged).isOk = true)
  have valid : roll.settings.violations = [] := by decide
  have objects : logged.objects roll = [["captain's log, (day)", "id"]] := by decide +kernel
  refine ⟨statement, valid, compiled, ?_⟩
  rw [(roll.objectKeys_of_compile valid compiled).1, objects]
  decide +kernel

def fullNames : Query :=
  { entity := "Person"
    selection := { fields := [("full  name", .leaf)] } }

theorem objectKeys_of_fullNames :
    ∃ registry statement, Registry.ofEntities [enrolled] = .ok registry ∧
      roll.provider = registry.provider ∧ roll.settings.violations = [] ∧
      roll.compile fullNames = .ok statement ∧ fullNames.objects roll = [["full  name"]] ∧
      Sql.objectKeys statement.sql = [["full name"]] := by
  obtain ⟨statement, compiled⟩ := exists_statement
    (by decide +kernel : (roll.compile fullNames).isOk = true)
  have valid : roll.settings.violations = [] := by decide
  have objects : fullNames.objects roll = [["full  name"]] := by decide +kernel
  refine ⟨_, statement, enrolled_accepted, rfl, valid, compiled, objects, ?_⟩
  rw [Compiler.objectKeys_sql (Settings.isNameChar_stem valid) compiled, objects]
  decide +kernel

end Sample

end TreeQuery
