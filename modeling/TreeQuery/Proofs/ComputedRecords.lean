import TreeQuery.Proofs.Records
import TreeQuery.Proofs.Registry
import TreeQuery.Proofs.Requests
import TreeQuery.Proofs.Sample

/-!
# Records with computed fields

The record of a statement carries what its nodes show.  Filling in the computed
fields walks the selection a second time: each computed key takes the value that its
resolver gives on the node's own columns, the columns themselves are taken out, and
nothing else changes, at the root and at every node below it.
-/

namespace TreeQuery

/-! ## Labels of displayed relations -/

namespace Sql.Supply

structure Fresh (supply later : Supply) (labels : List Alias) : Prop where
  grows : supply.Grows later
  distinct : labels.Nodup
  issued : ∀ label ∈ labels, later.Issued label
  unissued : ∀ label ∈ labels, ¬ supply.Issued label

variable {supply later final : Supply} {labels more : List Alias}

theorem Fresh.none (grows : supply.Grows later) : supply.Fresh later [] :=
  ⟨grows, List.nodup_nil, by simp, by simp⟩

theorem Fresh.append (first : supply.Fresh later labels) (second : later.Fresh final more) :
    supply.Fresh final (labels ++ more) where
  grows := first.grows.trans second.grows
  distinct := by
    refine List.nodup_append.mpr ⟨first.distinct, second.distinct, ?_⟩
    rintro label earlier _ listed rfl
    exact second.unissued label listed (first.issued label earlier)
  issued := by
    refine List.forall_mem_append.mpr ⟨fun label listed => ?_, second.issued⟩
    exact second.grows.issued (first.issued label listed)
  unissued := by
    refine List.forall_mem_append.mpr ⟨first.unissued, fun label listed issued => ?_⟩
    exact second.unissued label listed (first.grows.issued issued)

theorem Fresh.next (supply : Supply) (kind : Alias.Kind) (stem : String) :
    supply.Fresh (supply.next kind stem).2 [(supply.next kind stem).1] where
  grows := supply.next_grows kind stem
  distinct := List.nodup_singleton _
  issued := List.forall_mem_singleton.mpr (supply.next_issued kind stem)
  unissued := List.forall_mem_singleton.mpr fun issued => supply.next_ne issued kind stem rfl

end Sql.Supply

theorem Site.Brought.fresh {stem : String} {site : Site} {body : Body}
    {correlation : List Sql.Condition} {supply after : Sql.Supply} {rendered : Rendered}
    (brought : Brought stem site body correlation supply rendered after) :
    supply.Fresh after (Sql.Join.labels [rendered.join]) := by
  cases brought with
  | singular | collected => exact .next supply .subquery stem
  | paged =>
      exact (Sql.Supply.Fresh.none (supply.next_grows .page stem)).append (.next _ .subquery stem)

namespace Display

theorem Argued.grows {compiler : Compiler} {node : Node} {given : Arguments}
    {context after : Context} {fragments : List Fragment}
    (argued : Argued compiler node given context fragments after) :
    context.supply.Grows after.supply := by
  cases argued with
  | unfiltered => exact .refl _
  | filtered filtered compiled =>
      obtain ⟨parts, run, -⟩ := Filter.compile_ok compiled
      exact run.grows

theorem Argued.unjoined {compiler : Compiler} {node : Node} {given : Arguments}
    {context after : Context} {fragments : List Fragment}
    (argued : Argued compiler node given context fragments after) :
    fragments.flatMap (·.joins) = [] := by
  refine List.flatMap_eq_nil_iff.mpr fun fragment listed => ?_
  exact congrArg Fragment.joins (argued.tests fragment listed).1

theorem Runs.fresh {compiler : Compiler} {node : Node} {part : Part} {context after : Context}
    {fragments : List Fragment} (run : Runs compiler node part context fragments after) :
    context.supply.Fresh after.supply (Sql.Join.labels (fragments.flatMap (·.joins))) := by
  induction run with
  | @keys node _ _ _ _ argued =>
      have keys : (keyFields node).flatMap (·.joins) = [] := by
        simp [keyFields, scalarField]
      rw [List.flatMap_append, keys, argued.unjoined]
      exact .none argued.grows
  | selected nonempty ran argued fresh =>
      rw [List.flatMap_append, argued.unjoined]
      simpa using fresh.append (.none argued.grows)
  | noFields => exact .none (.refl _)
  | fields first later firstFresh laterFresh =>
      simpa [Sql.Join.labels, List.filterMap_append] using firstFresh.append laterFresh
  | computed | scalar => exact .none (.refl _)
  | related resolved relation found shallow inner reduced brought perm distinct fresh =>
      obtain ⟨link, supply, -, joined, rfl⟩ := Site.render_ok brought
      have opening := (Filter.opened_grows _ _).trans fresh.grows
      exact (Sql.Supply.Fresh.none (opening.trans (Site.linkedSupply_grows _ _ link))).append
        joined.fresh

/-- Filters and pages only test rows, and fields test nothing. -/
theorem Runs.tests {compiler : Compiler} {node : Node} {part : Part} {context after : Context}
    {fragments : List Fragment} (run : Runs compiler node part context fragments after) :
    ∀ fragment ∈ fragments, fragment.Each (Sql.Join.HasKind .inner) Sql.Condition.Written := by
  induction run with
  | @keys node _ _ _ _ argued =>
      refine List.forall_mem_append.mpr
        ⟨fun fragment listed => ?_, fun fragment listed => (argued.tests fragment listed).2⟩
      obtain ⟨property, -, rfl⟩ := List.mem_map.mp listed
      exact Fragment.each_iff.mpr (by simp [scalarField])
  | selected nonempty ran argued tests =>
      exact List.forall_mem_append.mpr
        ⟨tests, fun fragment listed => (argued.tests fragment listed).2⟩
  | noFields => simp
  | fields first later firstTests laterTests =>
      exact List.forall_mem_cons.mpr ⟨firstTests _ (List.mem_singleton_self _), laterTests⟩
  | computed | scalar | related =>
      exact List.forall_mem_singleton.mpr
        (Fragment.each_iff.mpr (by simp [computedField, scalarField, relating]))

end Display

/-! ## What a record carries -/

namespace Fragment

/-- The members of a record carry what the fragment shows and reads. -/
structure Carried (gives : Sql.Alias → Json → Bool) (members : Members)
    (fragment : Fragment) : Prop where
  shown : ∀ pair ∈ fragment.pairs,
    ∃ value, members.get? pair.1 = some value ∧ pair.2.admits gives value = true
  raw : fragment.computed = true →
    ∃ raw, members.get? rawKey = some (.object raw) ∧ fragment.columns ⊆ Members.names raw
  joined : ∀ query label, .lateral .leftOuter query label ∈ fragment.joins →
    gives label = query.gives

theorem Carried.reduce {gives : Sql.Alias → Json → Bool} {members : Members}
    {fragments : List Fragment} {result : Fragment}
    (reduced : Fragment.reduce fragments = .ok result) :
    result.Carried gives members → ∀ fragment ∈ fragments, fragment.Carried gives members := by
  refine reduce_induction (motive := fun fragments result =>
    result.Carried gives members → ∀ fragment ∈ fragments, fragment.Carried gives members)
    (by simp) ?_ reduced
  intro fragments fragment other result before merged carried
  obtain ⟨joins, shown, columns, -⟩ := merge_shown merged
  have computed := merge_computed merged
  have left : fragment.columns ⊆ unionNames fragment.columns other.columns :=
    fun _ listed => mem_unionNames.mpr (.inl listed)
  have right : other.columns ⊆ unionNames fragment.columns other.columns :=
    fun _ listed => mem_unionNames.mpr (.inr listed)
  refine List.forall_mem_append.mpr
    ⟨before ⟨fun pair listed => ?_, fun needed => ?_, fun query label listed => ?_⟩,
      List.forall_mem_singleton.mpr
        ⟨fun pair listed => ?_, fun needed => ?_, fun query label listed => ?_⟩⟩
  · exact carried.shown pair (shown ▸ List.mem_append_left _ listed)
  · obtain ⟨raw, found, kept⟩ := carried.raw (by simp [computed, needed])
    exact ⟨raw, found, List.Subset.trans left (columns ▸ kept)⟩
  · exact carried.joined query label (joins ▸ List.mem_append_left _ listed)
  · exact carried.shown pair (shown ▸ List.mem_append_right _ listed)
  · obtain ⟨raw, found, kept⟩ := carried.raw (by simp [computed, needed])
    exact ⟨raw, found, List.Subset.trans right (columns ▸ kept)⟩
  · exact carried.joined query label (joins ▸ List.mem_append_right _ listed)

theorem carried_of_admits {settings : Settings} {label : Sql.Alias} {fragment : Fragment}
    {gives : Sql.Alias → Json → Bool} {members : Members}
    (admitted : (Display.object settings fragment label).admits gives (.object members) = true)
    (joined : ∀ query label, .lateral .leftOuter query label ∈ fragment.joins →
      gives label = query.gives) :
    members.names.Nodup ∧ fragment.Carried gives members := by
  simp only [Display.object, Sql.ObjectExpr.admits, sameNames, Bool.and_eq_true,
    decide_eq_true_eq, List.all_eq_true] at admitted
  obtain ⟨⟨distinct, -, -⟩, each⟩ := admitted
  have present : ∀ pair ∈ fragment.pairs ++
      (if fragment.computed then
        [(rawKey, .raw settings.chunkSize (label.columns fragment.columns))] else []),
      ∃ value, members.get? pair.1 = some value ∧ pair.2.admits gives value = true := by
    intro pair listed
    simpa [Option.any_eq_true] using each pair listed
  refine ⟨distinct, fun pair listed => present pair (List.mem_append_left _ listed),
    fun needed => ?_, joined⟩
  obtain ⟨value, found, fits⟩ := present
    (rawKey, .raw settings.chunkSize (label.columns fragment.columns)) (by simp [needed])
  cases value with
  | object raw =>
      simp only [Sql.Value.admits, sameNames, decide_eq_true_eq] at fits
      refine ⟨raw, found, ?_⟩
      simpa [Sql.Alias.columns, Function.comp_def] using fits.2.2
  | _ => simp [Sql.Value.admits] at fits

end Fragment

/-- A record that a node's select returns carries every fragment of the node. -/
theorem Display.carried_of_returned {settings : Settings} {scope : Scope} {label : Sql.Alias}
    {fragments : List Fragment} {shown : Fragment} {members : Members}
    (distinct : (Sql.Join.labels (fragments.flatMap (·.joins))).Nodup)
    (tests : ∀ fragment ∈ fragments,
      fragment.Each (Sql.Join.HasKind .inner) Sql.Condition.Written)
    (reduced : Fragment.reduce fragments = .ok shown)
    (admitted : (object settings shown label).admits
      (Sql.Join.gives ((shown.lower scope).joins ++ shown.joins)) (.object members) = true) :
    members.names.Nodup ∧ ∀ fragment ∈ fragments,
      fragment.Carried (Sql.Join.gives ((shown.lower scope).joins ++ shown.joins)) members := by
  have inner := ((Fragment.Each.reduce tests reduced).lowered scope).1
  rw [← Fragment.reduce_joins reduced] at distinct
  obtain ⟨named, carried⟩ := Fragment.carried_of_admits admitted fun query label listed => by
    rw [Sql.Join.gives_append inner, Sql.Join.gives_of_mem distinct listed]
  exact ⟨named, Fragment.Carried.reduce reduced carried⟩

/-! ## Filling in -/

/-- Both are null, or objects in the relation, or arrays of such objects. -/
inductive Json.Alike (relation : Members → Members → Prop) : Json → Json → Prop
  | null : Alike relation .null .null
  | object {before after : Members} (members : relation before after) :
      Alike relation (.object before) (.object after)
  | array {before after : List Members} (items : List.Forall₂ relation before after) :
      Alike relation (.array (before.map .object)) (.array (after.map .object))

/-- The value is that of the resolver on the columns of the node, all of which are there. -/
def ComputedField.Fills (field : ComputedField) (before : Members) (value : Json) : Prop :=
  ∃ raw, before.get? rawKey = some (.object raw) ∧ field.columns ⊆ Members.names raw ∧
    value = field.resolve raw

mutual

def Selection.Fills (compiler : Compiler) (entity : Entity) :
    Selection → Members → Members → Prop
  | ⟨fields, _⟩, before, after =>
      after.names = before.names.filter (· ≠ rawKey) ∧
        (∀ name ∈ after.names, name ∉ fields.map (·.1) → after.get? name = before.get? name) ∧
        Selection.fieldsFill compiler entity fields before after

def Selection.fieldsFill (compiler : Compiler) (entity : Entity) :
    List (String × FieldNode) → Members → Members → Prop
  | [], _, _ => True
  | (key, wanted) :: rest, before, after =>
      (∃ old new, before.get? key = some old ∧ after.get? key = some new ∧
        wanted.Fills compiler entity key before old new) ∧
        Selection.fieldsFill compiler entity rest before after

/-- The value of one field; only computed fields and relations with a selection may change. -/
def FieldNode.Fills (compiler : Compiler) (entity : Entity) (key : String) :
    FieldNode → Members → Json → Json → Prop
  | .leaf, before, old, new =>
      match (compiler.resolver entity).resolve key with
      | some (.computed field) => field.Fills before new
      | _ => new = old
  | .nested selection, before, old, new =>
      match (compiler.resolver entity).resolve key with
      | some (.computed field) => field.Fills before new
      | some (.property property) =>
          if property.isRelation then
            ∃ child, compiler.provider.entity property.typeName = .ok child ∧
              Json.Alike (selection.Fills compiler child) old new
          else new = old
      | none => new = old

end

/-! ## Selections that are read from JSON -/

mutual

def Json.isDistinct : Json → Bool
  | .object members => decide (Members.names members).Nodup && Json.membersDistinct members
  | .array items => Json.itemsDistinct items
  | _ => true

def Json.membersDistinct : List (String × Json) → Bool
  | [] => true
  | (_, value) :: rest => value.isDistinct && Json.membersDistinct rest

def Json.itemsDistinct : List Json → Bool
  | [] => true
  | item :: rest => item.isDistinct && Json.itemsDistinct rest

end

mutual

def Selection.keys : Selection → List String
  | ⟨fields, _⟩ => Selection.fieldKeys fields

def Selection.fieldKeys : List (String × FieldNode) → List String
  | [] => []
  | (key, wanted) :: rest => key :: (wanted.keys ++ Selection.fieldKeys rest)

def FieldNode.keys : FieldNode → List String
  | .leaf => []
  | .nested selection => selection.keys

end

mutual

/-- At every node the fields have different names, none of which is hidden. -/
def Selection.Proper : Selection → Prop
  | ⟨fields, _⟩ =>
      (fields.map (·.1)).Nodup ∧ rawKey ∉ fields.map (·.1) ∧ Selection.fieldsProper fields

def Selection.fieldsProper : List (String × FieldNode) → Prop
  | [] => True
  | (_, wanted) :: rest => wanted.Proper ∧ Selection.fieldsProper rest

def FieldNode.Proper : FieldNode → Prop
  | .leaf => True
  | .nested selection => selection.Proper

end

theorem FieldNode.Proper.selection {wanted : FieldNode} (proper : wanted.Proper) :
    wanted.selection.Proper := by
  cases wanted with
  | leaf => simp [FieldNode.selection, Selection.Proper, Selection.fieldsProper]
  | nested selection => exact proper

mutual

theorem Selection.proper_of_ofMembers :
    ∀ {members : List (String × Json)} {selection : Selection},
      Selection.ofMembers members = .ok selection → (Members.names members).Nodup →
      Json.membersDistinct members = true → rawKey ∉ selection.keys →
      selection.Proper ∧ selection.fields.map (·.1) ⊆ Members.names members
  | [], selection, read, _, _, _ => by
      cases read
      simp [Selection.Proper, Selection.fieldsProper]
  | (key, value) :: rest, selection, read, distinct, deep, visible => by
      obtain ⟨absent, later⟩ := List.nodup_cons.mp distinct
      obtain ⟨own, others⟩ := Bool.and_eq_true_iff.mp deep
      rw [Selection.ofMembers] at read
      split at read
      · obtain ⟨given, -, read⟩ := Except.bind_ok.mp read
        obtain ⟨⟨fields, _⟩, found, read⟩ := Except.bind_ok.mp read
        cases read
        obtain ⟨proper, listed⟩ := Selection.proper_of_ofMembers found later others visible
        exact ⟨proper, List.subset_cons_of_subset _ listed⟩
      · obtain ⟨wanted, first, read⟩ := Except.bind_ok.mp read
        obtain ⟨⟨fields, _⟩, found, read⟩ := Except.bind_ok.mp read
        cases read
        simp only [Selection.keys, Selection.fieldKeys, List.mem_cons, List.mem_append,
          not_or] at visible
        obtain ⟨different, inner, remaining⟩ := visible
        obtain ⟨⟨apart, unnamed, proper⟩, listed⟩ :=
          Selection.proper_of_ofMembers found later others remaining
        have node := FieldNode.proper_of_ofJson first own inner
        refine ⟨⟨?_, ?_, node, proper⟩, List.cons_subset_cons _ listed⟩
        · exact List.nodup_cons.mpr ⟨fun member => absent (listed member), apart⟩
        · simpa [different] using unnamed

theorem FieldNode.proper_of_ofJson {key : String} :
    ∀ {value : Json} {wanted : FieldNode}, FieldNode.ofJson key value = .ok wanted →
      value.isDistinct = true → rawKey ∉ wanted.keys → wanted.Proper
  | .null, wanted, read, _, _ => by
      cases read
      trivial
  | .bool true, wanted, read, _, _ => by
      cases read
      trivial
  | .object [], wanted, read, _, _ => by
      cases read
      trivial
  | .object (member :: rest), wanted, read, distinct, visible => by
      obtain ⟨selection, found, read⟩ := Except.bind_ok.mp read
      cases read
      simp only [Json.isDistinct, Bool.and_eq_true, decide_eq_true_eq] at distinct
      exact (Selection.proper_of_ofMembers found distinct.1 distinct.2 visible).1
  | .bool false, wanted, read, _, _ => by simp [FieldNode.ofJson] at read
  | .number _, wanted, read, _, _ => by simp [FieldNode.ofJson] at read
  | .string _, wanted, read, _, _ => by simp [FieldNode.ofJson] at read
  | .array _, wanted, read, _, _ => by simp [FieldNode.ofJson] at read

end

theorem Request.proper_of_selection {request : Request} {selection : Selection}
    (distinct : request.fields.isDistinct = true) (read : request.selection = .ok selection)
    (visible : rawKey ∉ selection.keys) : selection.Proper := by
  unfold Request.selection at read
  cases written : request.fields with
  | null =>
      rw [written] at read
      cases read
      simp [Selection.Proper, Selection.fieldsProper]
  | object members =>
      rw [written] at read distinct
      simp only [Json.isDistinct, Bool.and_eq_true, decide_eq_true_eq] at distinct
      exact (Selection.proper_of_ofMembers read distinct.1 distinct.2 visible).1
  | bool | number | string | array => simp [written, Selection.ofJson] at read

/-! ## Resolving -/

namespace Session

theorem ofCompile_ok {α : Type} {outcome : Except CompileError α} {value : α} :
    ofCompile outcome = .ok value ↔ outcome = .ok value := by
  cases outcome <;> simp [ofCompile]

theorem lookup_ok {compiler : Compiler} {name : String} {entity : Entity} :
    lookup compiler name = .ok entity ↔ compiler.provider.entity name = .ok entity := by
  unfold lookup
  cases compiler.provider.entity name <;> simp

theorem overItems_alike {ε : Type} {change : Members → Except ε Members}
    {relation : Members → Members → Prop} {items : List Members}
    (changes : ∀ members ∈ items, ∃ after, change members = .ok after ∧ relation members after) :
    ∃ after, overItems change (items.map .object) = .ok (after.map .object) ∧
      List.Forall₂ relation items after := by
  induction items with
  | nil => exact ⟨[], rfl, .nil⟩
  | cons members rest ih =>
      obtain ⟨⟨first, changed, related⟩, others⟩ := List.forall_mem_cons.mp changes
      obtain ⟨after, done, each⟩ := ih others
      refine ⟨first :: after, ?_, .cons related each⟩
      simp [overItems, overObjects, changed, done, bind, Except.bind, pure, Except.pure]

theorem overObjects_alike {ε : Type} {change : Members → Except ε Members}
    {relation : Members → Members → Prop} {property : Members → Prop} {value : Json}
    (held : value.Holds property)
    (changes : ∀ members, property members →
      ∃ after, change members = .ok after ∧ relation members after) :
    ∃ new, overObjects change value = .ok new ∧ Json.Alike relation value new := by
  cases held with
  | null => exact ⟨.null, rfl, .null⟩
  | @object members held =>
      obtain ⟨after, changed, related⟩ := changes members held
      exact ⟨.object after, by simp [overObjects, changed, bind, Except.bind, pure, Except.pure],
        .object related⟩
  | @array items held =>
      obtain ⟨after, changed, related⟩ :=
        overItems_alike fun members listed => changes members (held members listed)
      exact ⟨.array (after.map .object),
        by simp [overObjects, changed, bind, Except.bind, pure, Except.pure], .array related⟩

end Session

namespace Display

def Part.Proper : Part → Prop
  | .selection whole => whole.Proper
  | .fields list => (list.map (·.1)).Nodup ∧ Selection.fieldsProper list
  | .field _ wanted => wanted.Proper

def Part.Resolves (compiler : Compiler) (entity : Entity) (before : Members) : Part → Prop
  | .selection whole =>
      ∃ after, Session.resolveNode compiler entity whole before = .ok after ∧
        whole.Fills compiler entity before after
  | .fields list =>
      ∀ current : Members, (∀ field ∈ list, current.get? field.1 = before.get? field.1) →
        ∃ after,
          Session.resolveFields compiler entity (Session.rawColumns before) list current =
            .ok after ∧
          after.names = current.names ∧
          (∀ name, name ∉ list.map (·.1) → after.get? name = current.get? name) ∧
          Selection.fieldsFill compiler entity list before after
  | .field key wanted =>
      ∃ old new, before.get? key = some old ∧ wanted.Fills compiler entity key before old new ∧
        ∀ current : Members, current.get? key = some old →
          Session.resolveField compiler entity (Session.rawColumns before) key wanted current =
            .ok (current.insert key new)

section Resolves

variable {compiler : Compiler} {entity : Entity} {before : Members} {key : String}
  {wanted : FieldNode} {fields : List (String × FieldNode)} {given : Option Arguments}

theorem resolves_noFields : Part.Resolves compiler entity before (.fields []) :=
  fun current _ => ⟨current, rfl, rfl, fun _ _ => rfl, trivial⟩

theorem resolves_fields (absent : key ∉ fields.map (·.1))
    (first : Part.Resolves compiler entity before (.field key wanted))
    (later : Part.Resolves compiler entity before (.fields fields)) :
    Part.Resolves compiler entity before (.fields ((key, wanted) :: fields)) := by
  intro current unchanged
  obtain ⟨old, new, shown, fills, resolved⟩ := first
  obtain ⟨own, others⟩ := List.forall_mem_cons.mp unchanged
  have present : current.get? key = some old := own.trans shown
  -- the later fields have other names, so the change is not seen by them
  have kept : ∀ field ∈ fields, (current.insert key new).get? field.1 = before.get? field.1 := by
    intro field listed
    have apart : field.1 ≠ key := fun same => absent (same ▸ List.mem_map_of_mem listed)
    rw [Members.get?_insert_ne apart, others field listed]
  obtain ⟨after, done, names, untouched, rest⟩ := later _ kept
  refine ⟨after, ?_, ?_, fun name unnamed => ?_, ⟨old, new, shown, ?_, fills⟩, rest⟩
  · simp [Session.resolveFields, resolved current present, done, bind, Except.bind]
  · rw [names, Members.names_insert (Members.mem_names_of_get? present)]
  · obtain ⟨apart, unlisted⟩ : name ≠ key ∧ name ∉ fields.map (·.1) := by simpa using unnamed
    rw [untouched name unlisted, Members.get?_insert_ne apart]
  · rw [untouched key absent, Members.get?_insert_self]

theorem resolves_selection (distinct : before.names.Nodup) (visible : rawKey ∉ fields.map (·.1))
    (resolves : Part.Resolves compiler entity before (.fields fields)) :
    Part.Resolves compiler entity before (.selection ⟨fields, given⟩) := by
  have kept : ∀ field ∈ fields, (before.erase rawKey).get? field.1 = before.get? field.1 := by
    intro field listed
    have shown : field.1 ≠ rawKey := fun same => visible (same ▸ List.mem_map_of_mem listed)
    exact Members.get?_erase_ne shown before
  obtain ⟨after, done, names, untouched, fills⟩ := resolves _ kept
  rw [Members.names_erase distinct] at names
  refine ⟨after, done, names, fun name present unnamed => ?_, fills⟩
  have shown : name ≠ rawKey := by
    rw [names] at present
    simpa using (List.mem_filter.mp present).2
  rw [untouched name unnamed, Members.get?_erase_ne shown]

theorem resolves_computed {found : ComputedField} {gives : Sql.Alias → Json → Bool}
    (resolved : (compiler.resolver entity).resolve key = some (.computed found))
    (carried : (computedField key found.columns).Carried gives before) :
    Part.Resolves compiler entity before (.field key wanted) := by
  obtain ⟨old, shown, -⟩ := carried.shown _ (List.mem_singleton_self _)
  obtain ⟨raw, hidden, columns⟩ := carried.raw rfl
  have needed : found.columns ⊆ Members.names raw :=
    fun _ listed => columns (mem_unionNames.mpr (.inr listed))
  refine ⟨old, found.resolve raw, shown, ?_, fun current present => ?_⟩
  · cases wanted <;> simp only [FieldNode.Fills, resolved] <;> exact ⟨raw, hidden, needed, rfl⟩
  · simp [Session.resolveField, resolved, Session.rawColumns, hidden]

theorem resolves_kept {property : Property} {old : Json}
    (resolved : (compiler.resolver entity).resolve key = some (.property property))
    (shown : before.get? key = some old) (kept : wanted = .leaf ∨ property.isRelation = false) :
    Part.Resolves compiler entity before (.field key wanted) := by
  refine ⟨old, old, shown, ?_, fun current present => ?_⟩
  · rcases kept with rfl | scalar
    · simp only [FieldNode.Fills, resolved]
    · cases wanted <;> simp [FieldNode.Fills, resolved, scalar]
  · rw [Members.insert_eq_self present]
    rcases kept with rfl | scalar
    · simp [Session.resolveField, resolved]
    · rw [Session.resolveField]
      cases wanted <;> simp [resolved, scalar, present]

theorem resolves_related {property : Property} {child : Entity} {selection : Selection}
    {old : Json} {holds : Members → Prop}
    (resolved : (compiler.resolver entity).resolve key = some (.property property))
    (relation : property.isRelation = true)
    (found : compiler.provider.entity property.typeName = .ok child)
    (shown : before.get? key = some old) (held : old.Holds holds)
    (inner : ∀ members, holds members →
      Part.Resolves compiler child members (.selection selection)) :
    Part.Resolves compiler entity before (.field key (.nested selection)) := by
  obtain ⟨new, changed, alike⟩ := Session.overObjects_alike held inner
  refine ⟨old, new, shown, ?_, fun current present => ?_⟩
  · simp only [FieldNode.Fills, resolved, relation, if_true]
    exact ⟨child, found, alike⟩
  · rw [Session.resolveField]
    simp [resolved, relation, present, Session.lookup_ok.mpr found, changed, bind, Except.bind,
      pure, Except.pure]

end Resolves

/-- Whatever was compiled from a part, an object that carries it can be filled in. -/
theorem Runs.resolves {compiler : Compiler} {node : Node} {part : Part} {context after : Context}
    {fragments : List Fragment} (run : Runs compiler node part context fragments after) :
    part.Proper → ∀ {gives : Sql.Alias → Json → Bool} {before : Members}, before.names.Nodup →
      (∀ fragment ∈ fragments, fragment.Carried gives before) →
      part.Resolves compiler node.entity before := by
  induction run with
  | keys argued =>
      intro _ _ _ distinct _
      exact resolves_selection distinct (by simp) resolves_noFields
  | selected nonempty ran argued resolves =>
      rintro ⟨apart, visible, proper⟩ gives before distinct carried
      exact resolves_selection distinct visible
        (resolves ⟨apart, proper⟩ distinct fun fragment listed =>
          carried fragment (List.mem_append_left _ listed))
  | noFields => exact fun _ _ _ _ _ => resolves_noFields
  | fields first later firstResolves laterResolves =>
      rintro ⟨apart, own, others⟩ gives before distinct carried
      obtain ⟨absent, rest⟩ := List.nodup_cons.mp apart
      obtain ⟨shown, remaining⟩ := List.forall_mem_cons.mp carried
      exact resolves_fields absent
        (firstResolves own distinct (List.forall_mem_singleton.mpr shown))
        (laterResolves ⟨rest, others⟩ distinct remaining)
  | computed resolved plain =>
      intro _ _ _ _ carried
      exact resolves_computed resolved (carried _ (List.mem_singleton_self _))
  | scalar resolved scalar plain =>
      intro _ _ _ _ carried
      obtain ⟨old, shown, -⟩ :=
        (carried _ (List.mem_singleton_self _)).shown _ (List.mem_singleton_self _)
      exact resolves_kept resolved shown (.inr scalar)
  | @related node key wanted _ _ _ _ _ _ _ _ _ resolved relation found shallow inner reduced
      brought perm distinct resolves =>
      intro proper gives before _ carried
      have relating := carried _ (List.mem_singleton_self _)
      obtain ⟨old, shown, admitted⟩ := relating.shown _ (List.mem_singleton_self _)
      cases wanted with
      | leaf => exact resolves_kept resolved shown (.inl rfl)
      | nested selection =>
          obtain ⟨link, supply, -, joined, -⟩ := Site.render_ok brought
          obtain ⟨query, join, holds⟩ := joined.gives
          have given : query.gives old = true := by
            rw [← relating.joined query _ (List.mem_singleton.mpr join.symm)]
            exact admitted
          refine resolves_related resolved relation found shown (holds old given) ?_
          intro members returned
          obtain ⟨names, parts⟩ :=
            carried_of_returned inner.fresh.distinct inner.tests reduced returned
          exact resolves proper names parts

end Display

namespace Session

theorem prepare_ok {compiler : Compiler} {request : Request} {prepared : Prepared}
    (done : prepare compiler request = .ok prepared) :
    ∃ query : Query, compiler.provider.entity query.entity = .ok prepared.entity ∧
      request.selection = .ok prepared.selection ∧ query.selection = prepared.selection ∧
      compiler.compile query = .ok prepared.statement := by
  obtain ⟨name, -, done⟩ := Except.bind_ok.mp done
  split at done
  · cases done
  · obtain ⟨entity, found, done⟩ := Except.bind_ok.mp done
    obtain ⟨selection, read, done⟩ := Except.bind_ok.mp done
    obtain ⟨statement, compiled, done⟩ := Except.bind_ok.mp done
    cases done
    exact ⟨_, lookup_ok.mp found, ofCompile_ok.mp read, rfl, ofCompile_ok.mp compiled⟩

/--
A record of the shape of its statement is resolved: at every node the computed fields
have the values of their resolvers on that node's own columns, these columns are gone,
and all else is as before.
-/
theorem resolve_fills {compiler : Compiler} {request : Request} {prepared : Prepared}
    {record : Json} (distinct : request.fields.isDistinct = true)
    (done : prepare compiler request = .ok prepared)
    (visible : rawKey ∉ prepared.selection.keys)
    (returned : prepared.statement.query.returns record = true) :
    ∃ before after, record = .object before ∧
      resolve compiler prepared record = .ok (.object after) ∧
      prepared.selection.Fills compiler prepared.entity before after := by
  obtain ⟨query, named, read, same, compiled⟩ := prepare_ok done
  have proper := Request.proper_of_selection distinct read visible
  obtain ⟨entity, parts, argued, fragment, between, after, found, run, given, reduced, statement⟩ :=
    Compiler.compile_ok compiled
  obtain rfl : entity = prepared.entity := Except.ok.inj (found.symm.trans named)
  rw [statement] at returned
  obtain ⟨before, rfl⟩ := Sql.ObjectExpr.exists_of_admits returned
  have fresh := run.fresh.distinct
  obtain ⟨names, carried⟩ := Display.carried_of_returned
    (by simpa [given.unjoined] using fresh)
    (List.forall_mem_append.mpr
      ⟨run.tests, fun fragment listed => (given.tests fragment listed).2⟩) reduced returned
  rw [same] at run
  obtain ⟨after, resolved, fills⟩ := run.resolves proper names fun fragment listed =>
    carried fragment (List.mem_append_left _ listed)
  refine ⟨before, after, rfl, ?_, fills⟩
  have node : resolveNode compiler prepared.entity prepared.selection before = .ok after := resolved
  simp [resolve, overObjects, node, bind, Except.bind, pure, Except.pure]

end Session

namespace Sample

def bard : Compiler :=
  let sung (name : String) : ComputedField :=
    { name, columns := ["name"], resolve := fun raw => .array [(raw.get? "name").getD .null] }
  { compiler with
    computed := (ComputedFields.register "Person" (sung "title") {}).register "Battle"
      (sung "song") }

def ballad : Request :=
  { entity := some "Person"
    fields := .object
      [("title", .null), ("fellowship", .object [("name", .null)]),
        ("battles", .object [("song", .null), ("name", .null)])] }

def deeds : Json :=
  .object
    [("__raw", .object [("name", .string "Merry")]), ("title", .null), ("fellowship", .null),
      ("battles",
        .array
          [.object
            [("name", .string "Bywater"), ("song", .null),
              ("__raw", .object [("name", .string "Bywater")])]])]

theorem resolve_fills_deeds :
    ballad.fields.isDistinct = true ∧ ∃ prepared, Session.prepare bard ballad = .ok prepared ∧
      rawKey ∉ prepared.selection.keys ∧ prepared.statement.query.returns deeds = true ∧
      ∃ before after, deeds = .object before ∧
        Session.resolve bard prepared deeds = .ok (.object after) ∧
        prepared.selection.Fills bard prepared.entity before after := by
  have distinct : ballad.fields.isDistinct = true := by decide +kernel
  have suited : (Session.prepare bard ballad).toOption.any (fun prepared =>
      !prepared.selection.keys.contains rawKey && prepared.statement.query.returns deeds) = true := by
    decide +kernel
  cases done : Session.prepare bard ballad with
  | error error => simp [done, Except.toOption] at suited
  | ok prepared =>
      obtain ⟨visible, returned⟩ : rawKey ∉ prepared.selection.keys ∧
          prepared.statement.query.returns deeds = true := by
        simpa [done, Except.toOption] using suited
      exact ⟨distinct, prepared, rfl, visible, returned,
        Session.resolve_fills distinct done visible returned⟩

end Sample

end TreeQuery
