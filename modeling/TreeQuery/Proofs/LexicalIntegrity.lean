import TreeQuery.Proofs.Nesting
import TreeQuery.Proofs.ScopedStatements

/-!
# Quotes and brackets of statements

Whatever tables, columns, keys and computed fields are called, a statement ends
outside quotes, and its brackets are closed in the order in which they are opened:
names from the catalog are quoted unless they are bare, keys are literals, and the
aliases, which are not quoted, are plain.
-/

namespace TreeQuery

namespace Sql

theorem nested_of_isPlainName {name : String} (plain : isPlainName name = true) : Nested name :=
  nested_of_isNameChar plain

theorem Alias.isPlain_of_text {label : Alias} (plain : isPlainName label.text = true) :
    label.isPlain = true := by
  simp only [isPlainName, Alias.text, String.toList_append, List.all_append,
    Bool.and_eq_true] at plain
  exact plain.1.1.1

def Place.IsPlain (place : Place) : Prop := ∀ name ∈ place.visible, isPlainName name = true

theorem nested_aliased {source : String} {label : Alias} (nested : Nested source)
    (plain : isPlainName label.text = true) : Nested (aliased source label) := by
  have as : Nested " AS " := fun _ => rfl
  exact (nested.append as).append (nested_of_isPlainName plain)

theorem nested_in {subject rows : String} (nested : Nested subject) (inner : Nested rows) :
    Nested (subject ++ " IN (" ++ rows ++ ")") := by
  have opens : Turns " IN (" [] [.round] := fun _ => rfl
  exact ((Turns.append nested opens).append (inner.turns _)).append fun _ => rfl

theorem nested_lateral (kind : JoinKind) {query : String} {label : Alias} (nested : Nested query)
    (plain : isPlainName label.text = true) : Nested (lateral kind.text query label) := by
  have word : Nested kind.text := by cases kind <;> exact fun _ => rfl
  have opens : Turns " JOIN LATERAL (" [] [.round] := fun _ => rfl
  have closes : Turns ") AS " [.round] [] := fun _ => rfl
  have holds : Nested " ON TRUE" := fun _ => rfl
  have inner : Nested (kind.text ++ " JOIN LATERAL (" ++ query ++ ") AS ") :=
    ((Turns.append word opens).append (nested.turns _)).append closes
  exact ((inner.append (nested_of_isPlainName plain)).append holds).collapse

namespace Place.IsPlain

variable {place : Place}

theorem inside (plain : place.IsPlain) {shown : List String}
    (each : ∀ name ∈ shown, isPlainName name = true) (declared : List Declaration) :
    (place.inside declared shown).IsPlain :=
  List.forall_mem_append.mpr ⟨each, plain⟩

theorem label (plain : place.IsPlain) {label : Alias} (seen : place.sees label = true) :
    isPlainName label.text = true :=
  plain _ (Place.sees_iff.mp seen)

theorem column (plain : place.IsPlain) {column : Column} (seen : place.sees column.label = true) :
    Nested column.text := by
  have dot : Nested "." := fun _ => rfl
  exact ((nested_of_isPlainName (plain.label seen)).append dot).append
    (nested_identifier column.name)

theorem columns (plain : place.IsPlain) {columns : List Column}
    (seen : place.seesAll columns = true) : ∀ text ∈ columnTexts columns, Nested text := by
  intro text member
  obtain ⟨column, listed, rfl⟩ := List.mem_map.mp member
  exact plain.column (List.all_eq_true.mp seen column listed)

theorem placeholder (plain : place.IsPlain) {parameter : Parameter}
    (seen : place.sees parameter.label = true) : Nested parameter.placeholder := by
  have colon : Nested ":" := fun _ => rfl
  have named : parameter.isPlain = true := Alias.isPlain_of_text (plain.label seen)
  exact colon.append (nested_of_isNameChar (Parameter.name_isNameChar named))

end Place.IsPlain

/-! ## Parts without subqueries -/

section Parts

variable {place : Place} (plain : place.IsPlain)

include plain

theorem Value.nested_render {value : Value} (stands : value.isScoped place = true) :
    Nested value.render := by
  cases value with
  | null => exact fun _ => rfl
  | column shown => exact plain.column stands
  | array shown =>
      exact (nested_list (plain.columns stands)).enclosed [.round] (fun _ => rfl) (fun _ => rfl)
  | nested label =>
      have value : Nested ".value" := fun _ => rfl
      exact (nested_of_isPlainName (plain.label stands)).append value
  | raw size shown =>
      refine nested_objectText size fun pair member => ?_
      obtain ⟨column, listed, rfl⟩ := List.mem_map.mp member
      exact plain.column (List.all_eq_true.mp stands column listed)
  | text sql => cases stands

theorem ObjectExpr.nested_render {object : ObjectExpr} (stands : object.isScoped place = true) :
    Nested object.render := by
  cases object with
  | pairs size list =>
      refine nested_objectText size fun pair member => ?_
      obtain ⟨entry, listed, rfl⟩ := List.mem_map.mp member
      exact Value.nested_render plain (List.all_eq_true.mp stands entry listed)
  | text sql => cases stands

theorem Order.nested_render {order : Order} (stands : order.isScoped place = true) :
    Nested order.render := by
  cases order with
  | terms list =>
      have space : Nested " " := fun _ => rfl
      have word : Nested "ORDER BY " := fun _ => rfl
      refine word.append (nested_list fun text member => ?_)
      obtain ⟨term, listed, rfl⟩ := List.mem_map.mp member
      obtain ⟨given, here, rfl⟩ := List.mem_map.mp listed
      have column := plain.column
        (List.all_eq_true.mp stands given.1 (List.mem_map_of_mem here))
      have direction : Nested given.2.text := by cases given.2 <;> exact fun _ => rfl
      exact (column.append space).append direction
  | text sql => cases stands

theorem Output.nested_render {output : Output} (stands : output.isScoped place = true) :
    Nested output.render := by
  cases output with
  | columns shown => exact nested_list (plain.columns stands)
  | matched => exact fun _ => rfl
  | object value name =>
      obtain ⟨shown, named⟩ := (Bool.and_eq_true _ _).mp stands
      have as : Nested " AS " := fun _ => rfl
      exact ((ObjectExpr.nested_render plain shown).append as).append
        (nested_of_isPlainName named)
  | numbered value order =>
      obtain ⟨shown, ordered⟩ := (Bool.and_eq_true _ _).mp stands
      have opens : Turns " AS value, row_number() OVER (" [] [.round] := fun _ => rfl
      have closes : Turns ") AS " [.round] [] := fun _ => rfl
      have index : Nested position := fun _ => rfl
      exact ((Turns.append (ObjectExpr.nested_render plain shown) opens).append
        ((Order.nested_render plain ordered).turns _)).append closes |>.append index
  | collected value =>
      have value : Nested " AS value" := fun _ => rfl
      exact (nested_arrayText (ObjectExpr.nested_render plain stands)).append value
  | collectedPage page ordered =>
      have value : Nested ".value" := fun _ => rfl
      have as : Nested " AS value" := fun _ => rfl
      have word : Nested " ORDER BY " := fun _ => rfl
      have seen : place.sees (Column.mk page position).label = true := stands
      have column := plain.column seen
      simp only [Column.text] at column
      refine (nested_arrayText (((nested_of_isPlainName (plain.label stands)).append
        value).append ?_)).append as
      cases ordered with
      | false => exact nested_empty
      | true => exact word.append column

theorem nested_equation {left right : Column} (first : place.sees left.label = true)
    (second : place.sees right.label = true) : Nested (equation left right) := by
  have equals : Nested " = " := fun _ => rfl
  exact ((plain.column first).append equals).append (plain.column second)

theorem Hop.nested_render {hop : Hop} (stands : hop.isScoped place = true) :
    Nested hop.render := by
  simp only [Hop.isScoped, Bool.and_eq_true, List.all_eq_true] at stands
  obtain ⟨⟨⟨named, -⟩, keys⟩, pairs⟩ := stands
  have inner : (place.inside [⟨hop.label.text, some hop.table⟩] [hop.label.text]).IsPlain :=
    plain.inside (by simpa using named) _
  refine SelectText.nested_render (nested_list (inner.columns keys))
    (nested_aliased (nested_tableName hop.table) named) (by simp) ?_ (by simp)
  intro text member
  obtain ⟨pair, listed, rfl⟩ := List.mem_map.mp member
  exact nested_equation inner (pairs pair listed).1 (pairs pair listed).2

end Parts

/-! ## Trees -/

variable {isKey : String → List String → Bool}

mutual

theorem Condition.nested_render : ∀ (condition : Condition) {place : Place}, place.IsPlain →
    condition.isScoped isKey place = true → Nested condition.render
  | .text _, _, _, stands => by simp [Condition.isScoped] at stands
  | .test subject test, place, plain, stands => by
      simp only [Condition.isScoped, Bool.and_eq_true] at stands
      rw [Condition.render]
      exact Test.nested_render (nested_rowValue (plain.columns stands.1)) fun slot member =>
        plain.placeholder (List.all_eq_true.mp stands.2 slot member)
  | .equal left right, place, plain, stands => by
      simp only [Condition.isScoped, Bool.and_eq_true] at stands
      rw [Condition.render]
      exact nested_equation plain stands.1 stands.2
  | .linked subject hop, place, plain, stands => by
      simp only [Condition.isScoped, Bool.and_eq_true] at stands
      rw [Condition.render]
      exact nested_in (nested_rowValue (plain.columns stands.1)) (Hop.nested_render plain stands.2)
  | .not operand, place, plain, stands => by
      rw [Condition.isScoped] at stands
      rw [Condition.render]
      exact (Condition.nested_render operand plain stands).enclosed [.round] (fun _ => rfl)
        (fun _ => rfl)
  | .all operands, place, plain, stands => by
      rw [Condition.isScoped] at stands
      rw [Condition.render]
      exact nested_conjunction (Condition.nested_renderAll operands plain stands)
  | .any operands, place, plain, stands => by
      rw [Condition.isScoped] at stands
      rw [Condition.render]
      exact nested_disjunction (Condition.nested_renderAll operands plain stands)
  | .keyIn key queries, place, plain, stands => by
      simp only [Condition.isScoped, Bool.and_eq_true] at stands
      have union : Nested " UNION ALL " := fun _ => rfl
      rw [Condition.render]
      exact nested_in (nested_rowValue (plain.columns stands.1))
        (nested_intercalate union (Select.nested_renderAll queries plain stands.2)).collapse

theorem Condition.nested_renderAll : ∀ (list : List Condition) {place : Place}, place.IsPlain →
    Condition.areScoped isKey place list = true →
      ∀ text ∈ Condition.renderAll list, Nested text
  | [], _, _, _ => by simp [Condition.renderAll]
  | condition :: rest, place, plain, stands => by
      simp only [Condition.areScoped, Bool.and_eq_true] at stands
      rw [Condition.renderAll]
      exact List.forall_mem_cons.mpr ⟨Condition.nested_render condition plain stands.1,
        Condition.nested_renderAll rest plain stands.2⟩

theorem Join.nested_renderAll : ∀ (list : List Join) {place : Place}, place.IsPlain →
    (Join.names list).all isPlainName = true → Join.areScoped isKey place list = true →
      ∀ text ∈ Join.renderAll list, Nested text
  | [], _, _, _, _ => by simp [Join.renderAll]
  | .text _ :: _, _, _, _, stands => by simp [Join.areScoped] at stands
  | .lateral kind query label :: rest, place, plain, named, stands => by
      simp only [Join.areScoped, Bool.and_eq_true] at stands
      simp only [Join.names, Join.declarations, List.map_cons, List.all_cons,
        Bool.and_eq_true] at named
      have later : Place.IsPlain { place with visible := label.text :: place.visible } :=
        List.forall_mem_cons.mpr ⟨named.1, plain⟩
      rw [Join.renderAll]
      refine List.forall_mem_cons.mpr ⟨?_, Join.nested_renderAll rest later named.2 stands.2⟩
      rw [Join.render]
      exact nested_lateral kind (Select.nested_render query plain stands.1) named.1

theorem Source.nested_render : ∀ (source : Source) {place : Place}, place.IsPlain →
    isPlainName source.declaration.name = true → source.isScoped isKey place = true →
      Nested source.render
  | .table name label, _, _, named, _ => by
      rw [Source.render]
      exact nested_aliased (nested_tableName name) named
  | .page query label, place, plain, named, stands => by
      rw [Source.isScoped] at stands
      rw [Source.render]
      exact nested_aliased (Select.nested_render query plain stands).parenthesized named

/-- The text of a select in its scope opens and closes its own quotes and brackets. -/
theorem Select.nested_render : ∀ (query : Select) {place : Place}, place.IsPlain →
    query.isScoped isKey place = true → Nested query.render
  | ⟨output, source, joins, conditions, order, limit, offset⟩, place, plain, stands => by
      simp only [Select.isScoped, Bool.and_eq_true] at stands
      obtain ⟨⟨⟨⟨⟨⟨⟨⟨named, -⟩, -⟩, -⟩, origin⟩, joined⟩, shown⟩, tested⟩, ordered⟩ := stands
      have each := List.all_eq_true.mp named
      obtain ⟨own, others⟩ := List.forall_mem_cons.mp (List.map_cons ▸ each)
      have whole := plain.inside each (source.declaration :: Join.declarations joins)
      have first := plain.inside (List.forall_mem_singleton.mpr own)
        (source.declaration :: Join.declarations joins)
      have nothing := plain.inside (List.forall_mem_nil _)
        (source.declaration :: Join.declarations joins)
      rw [Select.render]
      refine SelectText.nested_render (Output.nested_render whole shown)
        (Source.nested_render source nothing own origin)
        (Join.nested_renderAll joins first (List.all_eq_true.mpr others) joined)
        (Condition.nested_renderAll conditions whole tested) fun text member => ?_
      obtain ⟨given, some, rfl⟩ := Option.map_eq_some_iff.mp member
      rw [some] at ordered
      exact Order.nested_render whole ordered

theorem Select.nested_renderAll : ∀ (list : List Select) {place : Place}, place.IsPlain →
    Select.areScoped isKey place list = true → ∀ text ∈ Select.renderAll list, Nested text
  | [], _, _, _ => by simp [Select.renderAll]
  | query :: rest, place, plain, stands => by
      simp only [Select.areScoped, Bool.and_eq_true] at stands
      rw [Select.renderAll]
      exact List.forall_mem_cons.mpr ⟨Select.nested_render query plain stands.1,
        Select.nested_renderAll rest plain stands.2⟩

end

end Sql

/-- Every statement ends outside quotes, and closes each bracket that it opens. -/
theorem Compiler.statement_closes_quotes_and_brackets {compiler : Compiler} {query : Query}
    {statement : Statement} (letters : compiler.settings.satisfies .stemLetters = true)
    (compiled : compiler.compile query = .ok statement) :
    Scanner.scan {} statement.sql.toList = some {} := by
  -- nothing is known about the catalog, so that any columns may be a key
  have stands : statement.query.isScoped (fun _ _ => true) {} = true :=
    compile_isScoped (fun _ => rfl) (Settings.isNameChar_of_stemLetters letters) compiled
  have outermost : Sql.Place.IsPlain {} := by simp [Sql.Place.IsPlain]
  rw [Scanner.scan_eq]
  exact Sql.Select.nested_render statement.query outermost stands []

namespace Sample

def gate : Entity :=
  { name := "Gate"
    table := "mo'ria.(west\"[]"
    primaryKeys := ["\"id)"]
    properties :=
      [.ofColumn "i'd(" "int" "\"id)", .ofColumn "]word'" "text" "'pass  word\"",
        (Property.ofReference "\"[inner'" "Gate" .manyToMany).withPivot ")door'\"s("
          ["[from'"] ["\"to)"]] }

def gateCompiler : Compiler :=
  { provider := { knows := fun _ => true, entity := fun _ => .ok gate }
    computed := ComputedFields.register "Gate" ⟨"'riddle)", ["[\"hint'"], fun _ => .null⟩ {} }

def gates : Query :=
  { entity := "Gate"
    selection :=
      { fields :=
          [("]word'", .leaf), ("'riddle)", .leaf),
            ("\"[inner'", .nested { fields := [("]word'", .leaf)] })] }
    filter :=
      some
        [("_or",
            .array
              [.object [("]word'", .string "mellon")],
                .object [("\"[inner'", .object [("i'd(", .string "1')")])]])] }

theorem statement_closes_quotes_and_brackets_gates :
    ∃ statement, gateCompiler.compile gates = .ok statement ∧
      Scanner.scan {} statement.sql.toList = some {} := by
  cases compiled : gateCompiler.compile gates with
  | error error =>
      have succeeds : (gateCompiler.compile gates).isOk = true := by decide +kernel
      simp [compiled, Except.isOk, Except.toBool] at succeeds
  | ok statement =>
      exact ⟨statement, rfl,
        Compiler.statement_closes_quotes_and_brackets (by decide) compiled⟩

end Sample

end TreeQuery
