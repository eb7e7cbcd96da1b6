import TreeQuery.Proofs.StatementText

/-!
# The parameters of a statement

A statement tree is plain when no part of it was supplied as text, its aliases
consist of name characters, and no table or column name holds a quote or a colon.
The keys of objects may be any text.  The placeholders found in the text of a plain
tree are the parameters of the tree, in the same order.
-/

namespace TreeQuery.Sql

/-! ## Plain trees -/

def Value.isPlain : Value → Bool
  | .null => true
  | .column shown => shown.isPlain
  | .array shown => shown.all Column.isPlain
  | .nested label => label.isPlain
  | .raw _ shown => shown.all Column.isPlain
  | .text _ => false

def ObjectExpr.isPlain : ObjectExpr → Bool
  | .pairs _ list => list.all fun pair => pair.2.isPlain
  | .text _ => false

def Order.isPlain : Order → Bool
  | .terms list => list.all fun term => term.1.isPlain
  | .text _ => false

def Output.isPlain : Output → Bool
  | .columns shown => shown.all Column.isPlain
  | .matched => true
  | .object value name => value.isPlain && isQuiet name
  | .numbered value order => value.isPlain && order.isPlain
  | .collected value => value.isPlain
  | .collectedPage page _ => page.isPlain

def Hop.isPlain (hop : Hop) : Bool :=
  isQuiet hop.table && hop.label.isPlain && hop.keys.all Column.isPlain &&
    hop.pairs.all fun pair => pair.1.isPlain && pair.2.isPlain

mutual

def Condition.isPlain : Condition → Bool
  | .text _ => false
  | .test subject test => subject.all Column.isPlain && test.slots.all Parameter.isPlain
  | .equal left right => left.isPlain && right.isPlain
  | .linked subject hop => subject.all Column.isPlain && hop.isPlain
  | .not operand => operand.isPlain
  | .all operands => Condition.arePlain operands
  | .any operands => Condition.arePlain operands
  | .keyIn key queries => key.all Column.isPlain && Select.arePlain queries

def Condition.arePlain : List Condition → Bool
  | [] => true
  | condition :: rest => condition.isPlain && Condition.arePlain rest

def Join.isPlain : Join → Bool
  | .text _ => false
  | .lateral _ query label => query.isPlain && label.isPlain

def Join.arePlain : List Join → Bool
  | [] => true
  | join :: rest => join.isPlain && Join.arePlain rest

def Source.isPlain : Source → Bool
  | .table name label => isQuiet name && label.isPlain
  | .page query label => query.isPlain && label.isPlain

def Select.isPlain : Select → Bool
  | ⟨output, source, joins, conditions, order, _, _⟩ =>
      output.isPlain && source.isPlain && Join.arePlain joins &&
        Condition.arePlain conditions && order.all Order.isPlain

def Select.arePlain : List Select → Bool
  | [] => true
  | query :: rest => query.isPlain && Select.arePlain rest

end

/-! ## Parameters -/

mutual

def Condition.parameters : Condition → List Parameter
  | .text _ => []
  | .test _ test => test.slots
  | .equal _ _ => []
  | .linked _ _ => []
  | .not operand => operand.parameters
  | .all operands => Condition.parametersAll operands
  | .any operands => Condition.parametersAll operands
  | .keyIn _ queries => Select.parametersAll queries

def Condition.parametersAll : List Condition → List Parameter
  | [] => []
  | condition :: rest => condition.parameters ++ Condition.parametersAll rest

def Join.parameters : Join → List Parameter
  | .text _ => []
  | .lateral _ query _ => query.parameters

def Join.parametersAll : List Join → List Parameter
  | [] => []
  | join :: rest => join.parameters ++ Join.parametersAll rest

def Source.parameters : Source → List Parameter
  | .table _ _ => []
  | .page query _ => query.parameters

def Select.parameters : Select → List Parameter
  | ⟨_, source, joins, conditions, _, _, _⟩ =>
      source.parameters ++ Join.parametersAll joins ++ Condition.parametersAll conditions

def Select.parametersAll : List Select → List Parameter
  | [] => []
  | query :: rest => query.parameters ++ Select.parametersAll rest

end

section Lists

theorem Condition.arePlain_eq (list : List Condition) :
    Condition.arePlain list = list.all Condition.isPlain := by
  induction list with
  | nil => simp [Condition.arePlain]
  | cons condition rest ih => simp [Condition.arePlain, ih]

theorem Join.arePlain_eq (list : List Join) : Join.arePlain list = list.all Join.isPlain := by
  induction list with
  | nil => simp [Join.arePlain]
  | cons join rest ih => simp [Join.arePlain, ih]

theorem Select.arePlain_eq (list : List Select) :
    Select.arePlain list = list.all Select.isPlain := by
  induction list with
  | nil => simp [Select.arePlain]
  | cons query rest ih => simp [Select.arePlain, ih]

theorem Condition.parametersAll_eq (list : List Condition) :
    Condition.parametersAll list = list.flatMap Condition.parameters := by
  induction list with
  | nil => simp [Condition.parametersAll]
  | cons condition rest ih => simp [Condition.parametersAll, ih]

theorem Join.parametersAll_eq (list : List Join) :
    Join.parametersAll list = list.flatMap Join.parameters := by
  induction list with
  | nil => simp [Join.parametersAll]
  | cons join rest ih => simp [Join.parametersAll, ih]

theorem Select.parametersAll_eq (list : List Select) :
    Select.parametersAll list = list.flatMap Select.parameters := by
  induction list with
  | nil => simp [Select.parametersAll]
  | cons query rest ih => simp [Select.parametersAll, ih]

theorem Condition.renderAll_eq (list : List Condition) :
    Condition.renderAll list = list.map Condition.render := by
  induction list with
  | nil => simp [Condition.renderAll]
  | cons condition rest ih => simp [Condition.renderAll, ih]

theorem Join.renderAll_eq (list : List Join) : Join.renderAll list = list.map Join.render := by
  induction list with
  | nil => simp [Join.renderAll]
  | cons join rest ih => simp [Join.renderAll, ih]

theorem Select.renderAll_eq (list : List Select) :
    Select.renderAll list = list.map Select.render := by
  induction list with
  | nil => simp [Select.renderAll]
  | cons query rest ih => simp [Select.renderAll, ih]

end Lists

/-! ## Objects and orderings -/

theorem mem_of_mem_chunks {α : Type} {size : Nat} {items part : List α} {item : α}
    (listed : part ∈ chunks size items) (member : item ∈ part) : item ∈ items := by
  fun_induction chunks size items with
  | case1 => simp at listed
  | case2 first rest ih =>
      rcases List.mem_cons.mp listed with rfl | later
      · rcases List.mem_cons.mp member with rfl | inside
        · exact List.mem_cons_self
        · exact List.mem_cons_of_mem _ (List.mem_of_mem_take inside)
      · exact List.mem_cons_of_mem _ (List.mem_of_mem_drop (ih later))

theorem settles_objectCall {pairs : List (String × String)}
    (each : ∀ pair ∈ pairs, Lexes pair.2 []) : Settles (objectCall pairs) [] := by
  have listed : Lexes (", ".intercalate
      (pairs.map fun pair => literal pair.1 ++ ", " ++ pair.2)) [] :=
    lexes_intercalate_nil rfl fun pair member =>
      ((lexes_literal pair.1).seam rfl).lexes (each pair member)
  exact ((settles_of_isQuiet rfl).lexes listed).seam rfl

theorem lexes_objectText {size : Nat} {pairs : List (String × String)}
    (each : ∀ pair ∈ pairs, Lexes pair.2 []) : Lexes (objectText size pairs) [] := by
  unfold objectText
  simp only
  split
  · exact (settles_objectCall each).closed
  · have calls : Lexes (" || ".intercalate ((chunks (max size 1) pairs).map fun part =>
        objectCall part ++ "::jsonb")) [] := by
      refine lexes_intercalate_nil rfl fun part listed => ?_
      have call := settles_objectCall fun pair member =>
        each pair (mem_of_mem_chunks listed member)
      exact (call.append (show Settles "::jsonb" [] by rfl)).closed
    exact (((settles_of_isQuiet rfl).lexes calls).seam rfl).closed

theorem Value.lexes_render {value : Value} (plain : value.isPlain = true) :
    Lexes value.render [] := by
  cases value with
  | null => exact lexes_of_isQuiet (show isQuiet "NULL" = true by rfl)
  | column shown => exact lexes_of_isQuiet (Column.isQuiet_text plain)
  | array shown =>
      exact (((settles_of_isQuiet rfl).lexes (lexes_columnTexts plain)).seam rfl).closed
  | nested label =>
      exact ((lexes_of_isQuiet (Alias.isQuiet_text plain)).seam rfl).closed
  | raw size shown =>
      refine lexes_objectText fun pair member => ?_
      obtain ⟨column, listed, rfl⟩ := List.mem_map.mp member
      exact lexes_of_isQuiet (Column.isQuiet_text (List.all_eq_true.mp plain column listed))
  | text sql => cases plain

theorem ObjectExpr.lexes_render {object : ObjectExpr} (plain : object.isPlain = true) :
    Lexes object.render [] := by
  cases object with
  | pairs size list =>
      refine lexes_objectText fun pair member => ?_
      obtain ⟨entry, listed, rfl⟩ := List.mem_map.mp member
      exact Value.lexes_render (List.all_eq_true.mp plain entry listed)
  | text sql => cases plain

theorem Order.lexes_render {order : Order} (plain : order.isPlain = true) :
    Lexes order.render [] := by
  cases order with
  | terms list =>
      have terms : Lexes (", ".intercalate (list.map fun term =>
          term.1.text ++ " " ++ term.2.text)) [] := by
        refine lexes_intercalate_nil rfl fun term listed => ?_
        have column := Column.isQuiet_text (List.all_eq_true.mp plain term listed)
        have direction : isQuiet term.2.text = true := by cases term.2 <;> rfl
        exact ((lexes_of_isQuiet column).seam rfl).lexes (lexes_of_isQuiet direction)
      simpa [Order.render, orderClause, Function.comp_def] using
        (settles_of_isQuiet (show isQuiet "ORDER BY " = true by rfl)).lexes terms
  | text sql => cases plain

theorem lexes_arrayText {value : String} (read : Lexes value []) :
    Lexes (arrayText value) [] :=
  (((settles_of_isQuiet rfl).lexes read).seam rfl).closed

theorem isQuiet_position : isQuiet position = true := by rfl

theorem Output.lexes_render {output : Output} (plain : output.isPlain = true) :
    Lexes output.render [] := by
  cases output with
  | columns shown => exact lexes_columnTexts plain
  | matched => exact lexes_of_isQuiet (show isQuiet "1 AS matched" = true by rfl)
  | object value name =>
      obtain ⟨shown, quiet⟩ := (Bool.and_eq_true _ _).mp plain
      exact ((ObjectExpr.lexes_render shown).seam rfl).lexes (lexes_of_isQuiet quiet)
  | numbered value order =>
      obtain ⟨shown, ordered⟩ := (Bool.and_eq_true _ _).mp plain
      have numbered := ((ObjectExpr.lexes_render shown).seam
        (show isSeam " AS value, row_number() OVER (" = true by rfl)).lexes
        (Order.lexes_render ordered)
      exact ((numbered.seam rfl).append
        (settles_of_isQuiet isQuiet_position)).closed
  | collected value => exact ((lexes_arrayText (ObjectExpr.lexes_render plain)).seam rfl).closed
  | collectedPage page ordered =>
      have label := lexes_of_isQuiet (Alias.isQuiet_text plain)
      have value := label.seam (show isSeam ".value" = true by rfl)
      have shown : (Column.mk page position).isPlain = true :=
        (Bool.and_eq_true _ _).mpr ⟨plain, isQuiet_position⟩
      have column := Column.isQuiet_text shown
      simp only [Column.text] at column
      have inside : Lexes (page.text ++ ".value" ++
          if ordered then " ORDER BY " ++ page.column position else "") [] := by
        cases ordered with
        | false => simpa using value.closed
        | true =>
            have both := (settles_of_isQuiet (show isQuiet " ORDER BY " = true by rfl)).lexes
              (lexes_of_isQuiet column)
            exact value.lexes both
      exact ((lexes_arrayText inside).seam rfl).closed

theorem Hop.lexes_render {hop : Hop} (plain : hop.isPlain = true) : Lexes hop.render [] := by
  simp only [Hop.isPlain, Bool.and_eq_true, List.all_eq_true] at plain
  obtain ⟨⟨⟨table, label⟩, keys⟩, pairs⟩ := plain
  have joined : ∀ join ∈ ([] : List Join), Lexes join.render [] := by simp
  have ordered : ∀ text ∈ (none : Option String), Lexes text [] := by simp
  have whole := lexes_select none none (lexes_columnTexts (List.all_eq_true.mpr keys))
    (lexes_aliased (lexes_tableName table) label) joined
    (fun pair member => lexes_equation (pairs pair member).1 (pairs pair member).2) ordered
  have nothing : hop.pairs.flatMap (fun _ => ([] : List String)) = [] := by simp
  simpa [Hop.render, nothing] using whole

/-! ## Trees -/

mutual

theorem Condition.lexes_render : ∀ condition : Condition, condition.isPlain = true →
    Lexes condition.render (condition.parameters.map Parameter.name)
  | .text _, plain => by simp [Condition.isPlain] at plain
  | .test subject test, plain => by
      simp only [Condition.isPlain, Bool.and_eq_true] at plain
      simpa [Condition.render, Condition.parameters] using
        Test.lexes_render (lexes_columnsText plain.1) plain.2
  | .equal left right, plain => by
      simp only [Condition.isPlain, Bool.and_eq_true] at plain
      simpa [Condition.render, Condition.parameters] using lexes_equation plain.1 plain.2
  | .linked subject hop, plain => by
      simp only [Condition.isPlain, Bool.and_eq_true] at plain
      have before := (lexes_columnsText plain.1).seam (show isSeam " IN (" = true by rfl)
      have whole := (before.lexes (Hop.lexes_render plain.2)).seam
        (show isSeam ")" = true by rfl)
      simpa [Condition.render, Condition.parameters] using whole.closed
  | .not operand, plain => by
      simp only [Condition.isPlain] at plain
      have before := (settles_of_isQuiet (show isQuiet "NOT (" = true by rfl)).lexes
        (Condition.lexes_render operand plain)
      simpa [Condition.render, Condition.parameters] using
        (before.seam (show isSeam ")" = true by rfl)).closed
  | .all operands, plain => by
      simp only [Condition.isPlain] at plain
      rw [Condition.render, Condition.parameters, Condition.renderAll_eq,
        Condition.parametersAll_eq, List.map_flatMap]
      exact lexes_connected rfl rfl (Condition.lexes_renderAll operands plain)
  | .any operands, plain => by
      simp only [Condition.isPlain] at plain
      rw [Condition.render, Condition.parameters, Condition.renderAll_eq,
        Condition.parametersAll_eq, List.map_flatMap]
      exact lexes_connected rfl rfl (Condition.lexes_renderAll operands plain)
  | .keyIn key queries, plain => by
      simp only [Condition.isPlain, Bool.and_eq_true] at plain
      have before := (lexes_columnsText plain.1).seam (show isSeam " IN (" = true by rfl)
      have union := (lexes_intercalate (show isSeam " UNION ALL " = true by rfl)
        (Select.lexes_renderAll queries plain.2)).collapse
      have whole := (before.lexes union).seam (show isSeam ")" = true by rfl)
      rw [Condition.render, Condition.parameters, Select.renderAll_eq,
        Select.parametersAll_eq, List.map_flatMap]
      simpa [unionAll] using whole.closed

theorem Condition.lexes_renderAll : ∀ list : List Condition, Condition.arePlain list = true →
    ∀ condition ∈ list, Lexes condition.render (condition.parameters.map Parameter.name)
  | [], _ => by simp
  | condition :: rest, plain => by
      simp only [Condition.arePlain, Bool.and_eq_true] at plain
      exact List.forall_mem_cons.mpr
        ⟨Condition.lexes_render condition plain.1, Condition.lexes_renderAll rest plain.2⟩

theorem Join.lexes_render : ∀ join : Join, join.isPlain = true →
    Lexes join.render (join.parameters.map Parameter.name)
  | .text _, plain => by simp [Join.isPlain] at plain
  | .lateral kind query label, plain => by
      simp only [Join.isPlain, Bool.and_eq_true] at plain
      have word : isQuiet kind.text = true := by cases kind <;> rfl
      have opened := (settles_of_isQuiet word).append
        (settles_of_isQuiet (show isQuiet " JOIN LATERAL (" = true by rfl))
      have inside := (opened.lexes (Select.lexes_render query plain.1)).seam
        (show isSeam ") AS " = true by rfl)
      have labelled := inside.lexes (lexes_of_isQuiet (Alias.isQuiet_text plain.2))
      have whole := (labelled.seam (show isSeam " ON TRUE" = true by rfl)).closed.collapse
      simpa [Join.render, Join.parameters, Sql.lateral] using whole

theorem Join.lexes_renderAll : ∀ list : List Join, Join.arePlain list = true →
    ∀ join ∈ list, Lexes join.render (join.parameters.map Parameter.name)
  | [], _ => by simp
  | join :: rest, plain => by
      simp only [Join.arePlain, Bool.and_eq_true] at plain
      exact List.forall_mem_cons.mpr
        ⟨Join.lexes_render join plain.1, Join.lexes_renderAll rest plain.2⟩

theorem Source.lexes_render : ∀ source : Source, source.isPlain = true →
    Lexes source.render (source.parameters.map Parameter.name)
  | .table name label, plain => by
      simp only [Source.isPlain, Bool.and_eq_true] at plain
      simpa [Source.render, Source.parameters] using
        lexes_aliased (lexes_tableName plain.1) plain.2
  | .page query label, plain => by
      simp only [Source.isPlain, Bool.and_eq_true] at plain
      simpa [Source.render, Source.parameters] using
        lexes_aliased (lexes_parenthesized (Select.lexes_render query plain.1)) plain.2

/-- A reader finds the parameters of a plain select in its text, in order. -/
theorem Select.lexes_render : ∀ query : Select, query.isPlain = true →
    Lexes query.render (query.parameters.map Parameter.name)
  | ⟨output, source, joins, conditions, order, limit, offset⟩, plain => by
      simp only [Select.isPlain, Bool.and_eq_true] at plain
      obtain ⟨⟨⟨⟨shown, read⟩, joined⟩, tested⟩, ordered⟩ := plain
      have orderText : ∀ text ∈ order.map Order.render, Lexes text [] := by
        intro text member
        cases order with
        | none => simp at member
        | some given =>
            simp only [Option.map_some, Option.mem_def, Option.some.injEq] at member
            exact member ▸ Order.lexes_render ordered
      have whole := lexes_select limit offset (Output.lexes_render shown)
        (Source.lexes_render source read) (Join.lexes_renderAll joins joined)
        (Condition.lexes_renderAll conditions tested) orderText
      rw [Select.render, Select.parameters, Join.renderAll_eq, Condition.renderAll_eq,
        Join.parametersAll_eq, Condition.parametersAll_eq, List.map_append, List.map_append,
        List.map_flatMap, List.map_flatMap]
      simpa using whole

theorem Select.lexes_renderAll : ∀ list : List Select, Select.arePlain list = true →
    ∀ query ∈ list, Lexes query.render (query.parameters.map Parameter.name)
  | [], _ => by simp
  | query :: rest, plain => by
      simp only [Select.arePlain, Bool.and_eq_true] at plain
      exact List.forall_mem_cons.mpr
        ⟨Select.lexes_render query plain.1, Select.lexes_renderAll rest plain.2⟩

end

end TreeQuery.Sql
