import TreeQuery.Proofs.ComputedRecords
import TreeQuery.Proofs.ConsistentCatalogs
import TreeQuery.Proofs.ObjectKeys

/-!
# Nodes that show their key

A node without fields shows the primary key of its rows, by the properties that back the
key columns and are no relations.  A registry asks for less: a key column may back a
relation only, and then no node shows it.
-/

namespace TreeQuery

/-! ## Properties of the key -/

namespace Entity

/-- The column backs a property that is no relation. -/
def HasScalar (entity : Entity) (column : String) : Prop :=
  ∃ property ∈ entity.properties, property.isRelation = false ∧ column ∈ property.columns

theorem keyProperty?_some {entity : Entity} {column : String} {property : Property}
    (found : entity.keyProperty? column = some property) :
    property ∈ entity.properties ∧ property.isRelation = false ∧ column ∈ property.columns := by
  have shows := List.find?_some found
  exact ⟨List.mem_of_find?_eq_some found, by simpa using shows⟩

theorem exists_keyProperty? {entity : Entity} {column : String}
    (backed : entity.HasScalar column) :
    ∃ property, entity.keyProperty? column = some property := by
  obtain ⟨property, listed, scalar, backs⟩ := backed
  refine Option.isSome_iff_exists.mp (List.find?_isSome.mpr ⟨property, listed, ?_⟩)
  simpa using ⟨scalar, backs⟩

theorem exists_named_of_mem {rest : List Property} {property : Property} (found : List Property)
    (member : property ∈ found ∨ property ∈ rest) :
    ∃ kept ∈ rest.foldl keepNamed found, kept.name = property.name := by
  induction rest generalizing found property with
  | nil => exact ⟨property, by simpa using member, rfl⟩
  | cons first rest ih =>
      -- a property that is passed over has the name of one that was kept before
      by_cases known : found.any fun other => other.name == first.name
      · have same : keepNamed found first = found := if_pos known
        rw [List.foldl_cons, same]
        rcases member with before | member
        · exact ih _ (.inl before)
        rcases List.mem_cons.mp member with rfl | later
        · obtain ⟨other, before, named⟩ := List.any_eq_true.mp known
          obtain ⟨kept, present, alike⟩ := ih _ (.inl before)
          exact ⟨kept, present, alike.trans (by simpa using named)⟩
        · exact ih _ (.inr later)
      · have added : keepNamed found first = found ++ [first] := if_neg known
        rw [List.foldl_cons, added]
        refine ih _ ?_
        simpa [or_assoc] using member

theorem mem_keyProperties {entity : Entity} (once : entity.NamesOnce) {property : Property} :
    property ∈ entity.keyProperties ↔
      ∃ column ∈ entity.primaryKeys, entity.keyProperty? column = some property := by
  have listed : ∀ {other : Property}, other ∈ entity.primaryKeys.filterMap entity.keyProperty? →
      other ∈ entity.properties := by
    intro other member
    obtain ⟨column, -, found⟩ := List.mem_filterMap.mp member
    exact (keyProperty?_some found).1
  rw [← List.mem_filterMap]
  constructor
  · exact mem_of_mem_keyProperties
  · intro member
    -- a property of the same name is kept, and only one has the name
    obtain ⟨kept, present, named⟩ := exists_named_of_mem [] (.inr member)
    rwa [← List.inj_on_of_nodup_map once (listed (mem_of_mem_keyProperties present))
      (listed member) named]

theorem exists_keyProperties_iff {entity : Entity} (once : entity.NamesOnce) {column : String}
    (key : column ∈ entity.primaryKeys) :
    (∃ property ∈ entity.keyProperties, column ∈ property.columns) ↔ entity.HasScalar column := by
  constructor
  · rintro ⟨property, listed, backs⟩
    obtain ⟨other, -, found⟩ := (mem_keyProperties once).mp listed
    obtain ⟨member, scalar, -⟩ := keyProperty?_some found
    exact ⟨property, member, scalar, backs⟩
  · intro backed
    obtain ⟨property, found⟩ := exists_keyProperty? backed
    exact ⟨property, (mem_keyProperties once).mpr ⟨column, key, found⟩,
      (keyProperty?_some found).2.2⟩

theorem keyProperties_ne_nil_iff {entity : Entity} (once : entity.NamesOnce) :
    entity.keyProperties ≠ [] ↔ ∃ column ∈ entity.primaryKeys, entity.HasScalar column := by
  constructor
  · intro shown
    obtain ⟨property, listed⟩ := List.exists_mem_of_ne_nil _ shown
    obtain ⟨column, key, found⟩ := (mem_keyProperties once).mp listed
    exact ⟨column, key, property, keyProperty?_some found⟩
  · rintro ⟨column, key, backed⟩
    obtain ⟨property, listed, -⟩ := (exists_keyProperties_iff once key).mpr backed
    exact List.ne_nil_of_mem listed

end Entity

/-! ## What a statement shows -/

namespace Sql

def Value.columns : Value → List Column
  | .column read => [read]
  | .array list => list
  | .raw _ list => list
  | .null | .nested _ | .text _ => []

def ObjectExpr.members : ObjectExpr → List (String × Value)
  | .pairs _ list => list
  | .text _ => []

def ObjectExpr.columns (object : ObjectExpr) : List Column :=
  object.members.flatMap (·.2.columns)

def Output.object? : Output → Option ObjectExpr
  | .object shown _ => some shown
  | .numbered shown _ => some shown
  | .collected shown => some shown
  | .columns _ | .matched | .collectedPage _ _ => none

structure Showing where
  table : String
  label : Alias
  object : ObjectExpr

mutual

def Select.showings : Select → List Showing
  | ⟨output, source, joins, _, _, _, _⟩ =>
      Source.showings output source ++ Join.showings joins

def Source.showings (output : Output) : Source → List Showing
  | .table name label => output.object?.toList.map (⟨name, label, ·⟩)
  | .page query _ => query.showings

/-- Only left outer joins bring in values. -/
def Join.showings : List Join → List Showing
  | [] => []
  | .lateral .leftOuter query _ :: rest => query.showings ++ Join.showings rest
  | .lateral .inner _ _ :: rest => Join.showings rest
  | .text _ :: rest => Join.showings rest

end

theorem Select.showings_table {output : Output} {object : ObjectExpr}
    (shown : output.object? = some object) (table : String) (label : Alias) (joins : List Join)
    (conditions : List Condition) (order : Option Order) (limit offset : Option Nat) :
    Select.showings ⟨output, .table table label, joins, conditions, order, limit, offset⟩ =
      ⟨table, label, object⟩ :: Join.showings joins := by
  simp [Select.showings, Source.showings, shown]

theorem Join.showings_append (left right : List Join) :
    Join.showings (left ++ right) = Join.showings left ++ Join.showings right := by
  induction left with
  | nil => rfl
  | cons join rest ih =>
      match join with
      | .text _ => exact ih
      | .lateral .inner _ _ => exact ih
      | .lateral .leftOuter query _ =>
          simp only [List.cons_append, Join.showings, ih, List.append_assoc]

theorem Join.showings_inner {tests : List Join} (inner : ∀ join ∈ tests, join.HasKind .inner) :
    Join.showings tests = [] := by
  induction tests with
  | nil => rfl
  | cons test rest ih =>
      obtain ⟨⟨query, label, rfl⟩, later⟩ := List.forall_mem_cons.mp inner
      exact ih later

/-- The object of a showing has a member, and its members read all key columns. -/
structure Showing.HasKey (showing : Showing) (entity : Entity) : Prop where
  nonempty : showing.object.members ≠ []
  reads : ∀ column ∈ entity.primaryKeys, ⟨showing.label, column⟩ ∈ showing.object.columns

end Sql

open Sql (Showing)

theorem Site.Brought.showings {stem : String} {site : Site} {body : Body}
    {correlation : List Sql.Condition} {supply after : Sql.Supply} {rendered : Rendered}
    (brought : Brought stem site body correlation supply rendered after) :
    Sql.Join.showings [rendered.join] =
      ⟨site.child.entity.table, site.child.label, body.object⟩ :: Sql.Join.showings body.joins := by
  have joined : ∀ query label, Sql.Join.showings [.lateral .leftOuter query label] =
      query.showings := by
    intro query label
    simp [Sql.Join.showings]
  cases brought with
  | singular limit => exact (joined _ _).trans (Sql.Select.showings_table rfl ..)
  | collected => exact (joined _ _).trans (Sql.Select.showings_table rfl ..)
  | paged =>
      have shown : (pageOutput body).object? = some body.object := by
        unfold pageOutput
        cases body.order <;> rfl
      have rows : (site.pageRows body correlation).showings =
          ⟨site.child.entity.table, site.child.label, body.object⟩ ::
            Sql.Join.showings body.joins := Sql.Select.showings_table shown ..
      refine (joined _ _).trans ?_
      simp only [Sql.Select.showings, Sql.Source.showings, Sql.Join.showings, List.append_nil, rows]

/-! ## Nodes of a selection -/

namespace Selection

mutual

/-- The nodes of a selection, each before those below it; a relation that is wanted as it is
is a node without fields. -/
def places (compiler : Compiler) (entity : Entity) : Selection → List (Entity × Selection)
  | ⟨fields, given⟩ => (entity, ⟨fields, given⟩) :: fieldPlaces compiler entity fields

def fieldPlaces (compiler : Compiler) (entity : Entity) :
    List (String × FieldNode) → List (Entity × Selection)
  | [] => []
  | (key, wanted) :: rest =>
      placesOf compiler entity key wanted ++ fieldPlaces compiler entity rest

def placesOf (compiler : Compiler) (entity : Entity) (key : String) :
    FieldNode → List (Entity × Selection)
  | .leaf => (compiler.related? entity key).toList.map (·, {})
  | .nested selection =>
      match compiler.related? entity key with
      | some child => places compiler child selection
      | none => []

end

theorem places_eq (compiler : Compiler) (entity : Entity) (selection : Selection) :
    selection.places compiler entity =
      (entity, selection) :: fieldPlaces compiler entity selection.fields := by
  obtain ⟨fields, given⟩ := selection
  rw [places]

theorem placesOf_related {compiler : Compiler} {entity child : Entity} {key : String}
    (related : compiler.related? entity key = some child) (wanted : FieldNode) :
    placesOf compiler entity key wanted = wanted.selection.places compiler child := by
  cases wanted with
  | leaf => simp [placesOf, related, FieldNode.selection, places, fieldPlaces]
  | nested selection => simp [placesOf, related, FieldNode.selection]

theorem placesOf_unrelated {compiler : Compiler} {entity : Entity} {key : String}
    (related : compiler.related? entity key = none) (wanted : FieldNode) :
    placesOf compiler entity key wanted = [] := by
  cases wanted <;> simp [placesOf, related]

end Selection

def Query.places (compiler : Compiler) (query : Query) : List (Entity × Selection) :=
  match compiler.provider.entity query.entity with
  | .ok entity => query.selection.places compiler entity
  | .error _ => []

namespace Display

open TreeQuery.Filter (childOf)

def keyMembers (entity : Entity) (label : Sql.Alias) : List (String × Sql.Value) :=
  entity.keyProperties.map fun property => (property.name, scalarValue label property.columns)

theorem columns_scalarValue (label : Sql.Alias) (columns : List String) :
    (scalarValue label columns).columns = label.columns columns := by
  unfold scalarValue
  split <;> rfl

theorem mem_columns_keyMembers {entity : Entity} {label : Sql.Alias} {column : String} :
    ⟨label, column⟩ ∈ (keyMembers entity label).flatMap (·.2.columns) ↔
      ∃ property ∈ entity.keyProperties, column ∈ property.columns := by
  simp [keyMembers, columns_scalarValue, Sql.Alias.columns]

structure Shows (compiler : Compiler) (place : Entity × Selection) (showing : Showing) : Prop where
  found : ∃ name, compiler.provider.entity name = .ok place.1
  table : showing.table = place.1.table
  members : place.2.fields = [] → showing.object.members = keyMembers place.1 showing.label

def Part.places (compiler : Compiler) (entity : Entity) : Part → List (Entity × Selection)
  | .selection whole => Selection.fieldPlaces compiler entity whole.fields
  | .fields list => Selection.fieldPlaces compiler entity list
  | .field key wanted => Selection.placesOf compiler entity key wanted

theorem members_of_keyFields {settings : Settings} {node : Node} {more : List Fragment}
    {shown : Fragment} (hidden : ∀ fragment ∈ more, fragment.display = {})
    (reduced : Fragment.reduce (keyFields node ++ more) = .ok shown) :
    (object settings shown node.label).members = keyMembers node.entity node.label := by
  have unpaired : more.flatMap (·.pairs) = [] :=
    List.flatMap_eq_nil_iff.mpr fun fragment listed =>
      congrArg Fragment.pairs (hidden fragment listed)
  have pairs : shown.pairs = keyMembers node.entity node.label := by
    rw [Fragment.reduce_pairs reduced, List.flatMap_append, unpaired, List.append_nil, keyFields,
      List.flatMap_map, keyMembers, List.map_eq_flatMap]
    rfl
  have plain : shown.computed = false := by
    rw [Fragment.reduce_computed reduced]
    refine List.any_eq_false.mpr (List.forall_mem_append.mpr ⟨?_, fun fragment listed => ?_⟩)
    · simp [keyFields, scalarField]
    · have none : fragment.computed = false :=
        congrArg Fragment.computed (hidden fragment listed)
      simp [none]
  simp [object, Sql.ObjectExpr.members, pairs, plain]

theorem Runs.members {compiler : Compiler} {node : Node} {selection : Selection}
    {context after : Context} {fragments more : List Fragment} {shown : Fragment}
    (run : Runs compiler node (.selection selection) context fragments after)
    (hidden : ∀ fragment ∈ more, fragment.display = {})
    (reduced : Fragment.reduce (fragments ++ more) = .ok shown)
    (unselected : selection.fields = []) :
    (object compiler.settings shown node.label).members = keyMembers node.entity node.label := by
  cases run with
  | keys argued =>
      rw [List.append_assoc] at reduced
      refine members_of_keyFields (List.forall_mem_append.mpr ⟨fun fragment listed => ?_, hidden⟩)
        reduced
      exact (argued.tests fragment listed).1
  | selected nonempty => exact absurd unselected nonempty

theorem showings_lowered {fragments : List Fragment} {shown : Fragment}
    (tests : ∀ fragment ∈ fragments,
      fragment.Each (Sql.Join.HasKind .inner) Sql.Condition.Written)
    (reduced : Fragment.reduce fragments = .ok shown) (scope : Scope) :
    Sql.Join.showings ((shown.lower scope).joins ++ shown.joins) =
      Sql.Join.showings (fragments.flatMap (·.joins)) := by
  obtain ⟨inner, -⟩ := (Fragment.Each.reduce tests reduced).lowered scope
  rw [Sql.Join.showings_append, Sql.Join.showings_inner inner, Fragment.reduce_joins reduced,
    List.nil_append]

/-- The joins of a run show the nodes below its part, in their order. -/
theorem Runs.showings {compiler : Compiler} {node : Node} {part : Part} {context after : Context}
    {fragments : List Fragment} (run : Runs compiler node part context fragments after) :
    List.Forall₂ (Shows compiler) (part.places compiler node.entity)
      (Sql.Join.showings (fragments.flatMap (·.joins))) := by
  induction run with
  | @keys node _ _ _ _ argued =>
      have unjoined : (keyFields node).flatMap (·.joins) = [] := by simp [keyFields, scalarField]
      rw [List.flatMap_append, unjoined, argued.unjoined]
      exact .nil
  | selected nonempty ran argued shows =>
      rw [List.flatMap_append, argued.unjoined, List.append_nil]
      exact shows
  | noFields => exact .nil
  | @fields node key wanted rest _ _ _ fragment others first later firstShows laterShows =>
      have joins : (fragment :: others).flatMap (·.joins) =
          [fragment].flatMap (·.joins) ++ others.flatMap (·.joins) := by simp
      rw [joins, Sql.Join.showings_append]
      exact List.rel_append firstShows laterShows
  | @computed node key wanted context found resolved plain =>
      rw [Part.places, Selection.placesOf_unrelated (Compiler.related?_of_computed resolved)]
      exact .nil
  | @scalar node key wanted context property resolved scalar plain =>
      rw [Part.places, Selection.placesOf_unrelated (Compiler.related?_of_scalar resolved scalar)]
      exact .nil
  | @related node key wanted property entity context between after fragments shown rendered values
      resolved relation found shallow inner reduced brought perm distinct shows =>
      have child := Compiler.related?_of_relation resolved relation found
      obtain ⟨link, supply, -, joined, -⟩ := Site.render_ok brought
      have joins : [relating key rendered values].flatMap (·.joins) = [rendered.join] := rfl
      rw [Part.places, Selection.placesOf_related child, Selection.places_eq, joins,
        joined.showings]
      -- the rows of the child come first, then those of the joins that its own run made
      refine .cons ⟨⟨_, found⟩, rfl, ?_⟩ ?_
      · rw [← List.append_nil fragments] at reduced
        exact inner.members (by simp) reduced
      · rw [body, showings_lowered inner.tests reduced]
        exact shows

end Display

/-! ## Statements -/

namespace Compiler

variable {compiler : Compiler} {query : Query} {statement : Statement}

theorem showings_of_compile (compiled : compiler.compile query = .ok statement) :
    List.Forall₂ (Display.Shows compiler) (query.places compiler) statement.query.showings := by
  obtain ⟨entity, shown, argued, fragment, between, after, found, run, given, reduced, rfl⟩ :=
    compile_ok compiled
  have hidden : ∀ fragment ∈ argued, fragment.display = {} :=
    fun fragment listed => (given.tests fragment listed).1
  have tests : ∀ fragment ∈ shown ++ argued,
      fragment.Each (Sql.Join.HasKind .inner) Sql.Condition.Written :=
    List.forall_mem_append.mpr
      ⟨run.tests, fun fragment listed => (given.tests fragment listed).2⟩
  have joins := Display.showings_lowered tests reduced (Filter.scope (compiler.rootNode entity))
  rw [List.flatMap_append, given.unjoined, List.append_nil] at joins
  have root : (compiler.rootSelect (compiler.rootNode entity) fragment).showings =
      ⟨entity.table, (compiler.rootNode entity).label,
        Display.object compiler.settings fragment (compiler.rootNode entity).label⟩ ::
      Sql.Join.showings (shown.flatMap (·.joins)) := by
    rw [← joins]
    exact Sql.Select.showings_table rfl ..
  have places : query.places compiler = query.selection.places compiler entity := by
    rw [Query.places, found]
  rw [places, Selection.places_eq, root]
  exact .cons ⟨⟨_, found⟩, rfl, run.members hidden reduced⟩ run.showings

/--
A statement shows the rows of each node of its query, from the root down.  A node without
fields, the root or a relation at any depth, reads those columns of its key that back a
property which is no relation, as do the key properties of its entity; if there are none its
object is empty.  So it shows its whole key exactly if each key column backs such a property.
-/
theorem shows_key_iff {entities : List Entity} {registry : Registry}
    (accepted : Registry.ofEntities entities = .ok registry)
    (once : ∀ entity ∈ entities, entity.NamesOnce)
    (provided : compiler.provider = registry.provider)
    (compiled : compiler.compile query = .ok statement) :
    (∀ entity ∈ entities, ∀ column ∈ entity.primaryKeys,
      (∃ property ∈ entity.keyProperties, column ∈ property.columns) ↔
        entity.HasScalar column) ∧
    List.Forall₂ (fun (place : Entity × Selection) (showing : Showing) =>
        place.1 ∈ entities ∧ showing.table = place.1.table ∧
        (place.2.fields = [] →
          (∀ column ∈ place.1.primaryKeys,
            ⟨showing.label, column⟩ ∈ showing.object.columns ↔ place.1.HasScalar column) ∧
          (showing.object.members ≠ [] ↔
            ∃ column ∈ place.1.primaryKeys, place.1.HasScalar column) ∧
          (showing.HasKey place.1 ↔ ∀ column ∈ place.1.primaryKeys, place.1.HasScalar column)))
      (query.places compiler) statement.query.showings := by
  obtain ⟨rfl, consistent⟩ := Registry.ofEntities_ok_iff.mp accepted
  have keys : ∀ entity ∈ entities, ∀ column ∈ entity.primaryKeys,
      (∃ property ∈ entity.keyProperties, column ∈ property.columns) ↔
        entity.HasScalar column :=
    fun entity listed column key => Entity.exists_keyProperties_iff (once entity listed) key
  refine ⟨keys, (showings_of_compile compiled).imp fun place showing shows => ?_⟩
  obtain ⟨name, found⟩ := shows.found
  rw [provided] at found
  have listed : place.1 ∈ entities := Registry.mem_of_entity found
  refine ⟨listed, shows.table, fun unselected => ?_⟩
  have members := shows.members unselected
  have reads : ∀ column ∈ place.1.primaryKeys,
      ⟨showing.label, column⟩ ∈ showing.object.columns ↔ place.1.HasScalar column := by
    intro column key
    rw [Sql.ObjectExpr.columns, members, Display.mem_columns_keyMembers]
    exact keys place.1 listed column key
  have nonempty : showing.object.members ≠ [] ↔
      ∃ column ∈ place.1.primaryKeys, place.1.HasScalar column := by
    rw [members, Display.keyMembers, ne_eq, List.map_eq_nil_iff]
    exact Entity.keyProperties_ne_nil_iff (once place.1 listed)
  refine ⟨reads, nonempty, fun shown column key => (reads column key).mp (shown.reads column key),
    fun backed => ⟨nonempty.mpr ?_, fun column key => (reads column key).mpr (backed column key)⟩⟩
  obtain ⟨column, key⟩ := List.exists_mem_of_ne_nil _ (consistent.each place.1 listed).keyed
  exact ⟨column, key, backed column key⟩

end Compiler

namespace Sample

def feat : Entity :=
  { name := "Feat"
    table := "feat"
    primaryKeys := ["person_id", "day"]
    properties :=
      [(Property.ofReference "champion" "Champion" .manyToOne).withJoinColumns ["person_id"],
        { name := "id", typeName := "key", columns := ["person_id", "day"] }] }

def champion : Entity :=
  { name := "Champion"
    table := "champion"
    primaryKeys := ["id"]
    properties :=
      [.ofColumn "id" "int" "id",
        (Property.ofReference "feats" "Feat" .oneToMany).withMappedBy "champion"] }

def herald : Compiler := { provider := (Registry.mk [champion, feat]).provider }

def three : Selection := { arguments := some { pagination := some { limit := some 3 } } }

def proclaimed : Query :=
  { entity := "Champion"
    selection := { fields := [("feats", .nested three)] } }

theorem shows_key_iff_proclaimed :
    ∃ registry statement root feats, Registry.ofEntities [champion, feat] = .ok registry ∧
      (∀ entity ∈ [champion, feat], entity.NamesOnce) ∧ herald.provider = registry.provider ∧
      herald.compile proclaimed = .ok statement ∧ statement.query.showings = [root, feats] ∧
      feats.table = "feat" ∧ feats.HasKey feat := by
  have accepted : Registry.ofEntities [champion, feat] = .ok ⟨[champion, feat]⟩ := rfl
  have once : ∀ entity ∈ [champion, feat], entity.NamesOnce := by
    simp [Entity.NamesOnce, champion, feat, Property.ofColumn, Property.ofReference,
      Property.withMappedBy, Property.withJoinColumns]
  obtain ⟨statement, compiled⟩ := exists_statement
    (by decide +kernel : (herald.compile proclaimed).isOk = true)
  have backed : ∀ column ∈ feat.primaryKeys, feat.HasScalar column := by
    intro column key
    exact ⟨_, List.mem_cons_of_mem _ (List.mem_singleton_self _), rfl, key⟩
  have shown := (herald.shows_key_iff accepted once rfl compiled).2
  have places : proclaimed.places herald =
      [(champion, proclaimed.selection), (feat, three)] := rfl
  rw [places] at shown
  obtain ⟨root, others, -, later, listed⟩ := List.forall₂_cons_left_iff.mp shown
  obtain ⟨feats, more, ⟨-, table, keyed⟩, nothing, rfl⟩ := List.forall₂_cons_left_iff.mp later
  rw [List.forall₂_nil_left_iff.mp nothing] at listed
  exact ⟨_, statement, root, feats, accepted, once, rfl, compiled, listed, table,
    (keyed rfl).2.2.mpr backed⟩

def oath : Entity :=
  { name := "Oath"
    table := "oath"
    primaryKeys := ["person_id"]
    properties :=
      [(Property.ofReference "person" "Person" .manyToOne).withJoinColumns ["person_id"],
        .ofColumn "words" "text" "words"] }

def sworn : Entity :=
  { name := "Person"
    table := "person"
    primaryKeys := ["id"]
    properties := [.ofColumn "id" "int" "id"] }

def notary : Compiler := { provider := (Registry.mk [oath, sworn]).provider }

def oaths : Query := { entity := "Oath" }

theorem oaths_show_no_key :
    ∃ registry statement showing, Registry.ofEntities [oath, sworn] = .ok registry ∧
      (∀ entity ∈ [oath, sworn], entity.NamesOnce) ∧ notary.provider = registry.provider ∧
      notary.compile oaths = .ok statement ∧ oath.keyProperties = [] ∧
      statement.query.showings = [showing] ∧ showing.object.members = [] ∧
      statement.sql = "SELECT json_build_object() AS val FROM \"oath\" AS t_e1" := by
  have accepted : Registry.ofEntities [oath, sworn] = .ok ⟨[oath, sworn]⟩ := rfl
  have once : ∀ entity ∈ [oath, sworn], entity.NamesOnce := by
    simp [Entity.NamesOnce, oath, sworn, Property.ofColumn, Property.ofReference,
      Property.withJoinColumns]
  have compiled : notary.compile oaths =
      .ok ⟨notary.rootSelect (notary.rootNode oath) {}, []⟩ := rfl
  have text : (Statement.mk (notary.rootSelect (notary.rootNode oath) {}) []).sql =
      "SELECT json_build_object() AS val FROM \"oath\" AS t_e1" := by decide +kernel
  exact ⟨_, _, _, accepted, once, rfl, compiled, rfl, Sql.Select.showings_table rfl .., rfl, text⟩

end Sample

end TreeQuery
