import TreeQuery.Proofs.PlaceholderBindings
import TreeQuery.Proofs.RegularStatements
import TreeQuery.Proofs.Uniformity

/-!
# Templates of statements

A template is a text with slots for aliases and parameters.  The text of a statement is
a template filled with the stem, and the template does not depend on the stem.  Neither
do the values of the statement once its placeholders are numbered.
-/

namespace TreeQuery

namespace Sql

/-! ## Pieces under another stem -/

def Piece.restem (stem : String) : Piece → Piece
  | .label own => .label (own.restem stem)
  | .slot parameter => .slot (parameter.restem stem)
  | piece => piece

section Restem

variable (stem : String)

theorem listed_restem (separator : String) (parts : List (List Piece)) :
    listed separator (parts.map (List.map (Piece.restem stem))) =
      (listed separator parts).map (Piece.restem stem) := by
  induction parts with
  | nil => rfl
  | cons part rest ih =>
      cases rest with
      | nil => rfl
      | cons next rest =>
          simp only [List.map_cons, listed, List.map_append] at ih ⊢
          rw [ih]
          rfl

theorem listed_map_restem {α : Type} (separator : String) (items : List α) {act : α → α}
    {pieces : α → List Piece}
    (each : ∀ item, pieces (act item) = (pieces item).map (Piece.restem stem)) :
    listed separator ((items.map act).map pieces) =
      (listed separator (items.map pieces)).map (Piece.restem stem) := by
  rw [← listed_restem, List.map_map, List.map_map]
  exact congrArg (listed separator) (List.map_congr_left fun item _ => each item)

theorem Column.pieces_restem (column : Column) :
    (column.restem stem).pieces = column.pieces.map (Piece.restem stem) := rfl

theorem columnPieces_restem (columns : List Column) :
    columnPieces (columns.map (Column.restem stem)) =
      (columnPieces columns).map (Piece.restem stem) :=
  listed_map_restem stem ", " columns (Column.pieces_restem stem)

theorem enclosed_restem (pieces : List Piece) :
    enclosed (pieces.map (Piece.restem stem)) = (enclosed pieces).map (Piece.restem stem) := by
  simp [enclosed, Piece.restem]

theorem rowPieces_restem (columns : List Column) :
    rowPieces (columns.map (Column.restem stem)) =
      (rowPieces columns).map (Piece.restem stem) := by
  have several : enclosed (columnPieces (columns.map (Column.restem stem))) =
      (enclosed (columnPieces columns)).map (Piece.restem stem) := by
    rw [columnPieces_restem, enclosed_restem]
  match columns with
  | [] => exact several
  | [column] => exact Column.pieces_restem stem column
  | _ :: _ :: _ => exact several

theorem Order.pieces_restem (order : Order) :
    (order.restem stem).pieces = order.pieces.map (Piece.restem stem) := by
  cases order with
  | text sql => rfl
  | terms list =>
      exact congrArg (Piece.code "ORDER BY " :: ·)
        (listed_map_restem stem ", " list fun term => rfl)

theorem callPieces_restem (pairs : List (String × List Piece)) :
    callPieces (pairs.map (Prod.map id (List.map (Piece.restem stem)))) =
      (callPieces pairs).map (Piece.restem stem) := by
  rw [callPieces, listed_map_restem stem ", " pairs fun pair => rfl, callPieces, List.map_append]
  rfl

theorem objectPieces_restem (size : Nat) (pairs : List (String × List Piece)) :
    objectPieces size (pairs.map (Prod.map id (List.map (Piece.restem stem)))) =
      (objectPieces size pairs).map (Piece.restem stem) := by
  have call : ∀ part : List (String × List Piece),
      callPieces (part.map (Prod.map id (List.map (Piece.restem stem)))) ++
          [Piece.code "::jsonb"] =
        (callPieces part ++ [Piece.code "::jsonb"]).map (Piece.restem stem) := by
    intro part
    rw [callPieces_restem, List.map_append]
    rfl
  unfold objectPieces
  rw [List.length_map, chunks_map]
  split
  · exact callPieces_restem stem pairs
  · rw [listed_map_restem stem " || " _ call, List.map_append]
    rfl

theorem Value.pieces_restem (value : Value) :
    (value.restem stem).pieces = value.pieces.map (Piece.restem stem) := by
  cases value with
  | null | column | nested | text => rfl
  | array shown =>
      simp only [Value.restem, Value.pieces, columnPieces_restem, List.map_append, List.map_cons]
      rfl
  | raw size shown =>
      rw [Value.restem, Value.pieces, Value.pieces, ← objectPieces_restem, List.map_map,
        List.map_map]
      rfl

theorem ObjectExpr.pieces_restem (object : ObjectExpr) :
    (object.restem stem).pieces = object.pieces.map (Piece.restem stem) := by
  cases object with
  | text => rfl
  | pairs size list =>
      rw [ObjectExpr.restem, ObjectExpr.pieces, ObjectExpr.pieces, ← objectPieces_restem,
        List.map_map, List.map_map]
      refine congrArg (objectPieces size) (List.map_congr_left fun pair _ => ?_)
      exact congrArg (pair.1, ·) (Value.pieces_restem stem pair.2)

theorem Output.pieces_restem (output : Output) :
    (output.restem stem).pieces = output.pieces.map (Piece.restem stem) := by
  cases output with
  | columns shown => exact columnPieces_restem stem shown
  | matched => rfl
  | object | collected | numbered =>
      simp only [Output.restem, Output.pieces, arrayPieces, ObjectExpr.pieces_restem,
        Order.pieces_restem, List.map_append, List.map_cons]
      rfl
  | collectedPage page ordered => cases ordered <;> rfl

theorem Cell.pieces_restem (cell : Cell Parameter) :
    (cell.map (Parameter.restem stem)).pieces = cell.pieces.map (Piece.restem stem) := by
  cases cell with
  | one slot => rfl
  | row slots =>
      rw [Cell.map, Cell.pieces, Cell.pieces, ← enclosed_restem,
        listed_map_restem stem ", " slots fun slot => rfl]

theorem Test.pieces_restem (subject : List Piece) (test : Test Parameter) :
    (test.map (Parameter.restem stem)).pieces (subject.map (Piece.restem stem)) =
      (test.pieces subject).map (Piece.restem stem) := by
  have cells := fun list => listed_map_restem stem ", " list (Cell.pieces_restem stem)
  cases test with
  | constant value => cases value <;> rfl
  | isNull | compare | matchesWords | member | memberOrNull | between | contains =>
      simp only [Test.map, Test.pieces, nullPieces, memberPieces, Cell.pieces_restem, cells,
        List.map_append, List.map_cons]
      rfl

theorem connectedPieces_restem (word whenEmpty : String) (operands : List (List Piece)) :
    connectedPieces word whenEmpty (operands.map (List.map (Piece.restem stem))) =
      (connectedPieces word whenEmpty operands).map (Piece.restem stem) := by
  match operands with
  | [] => rfl
  | [operand] => rfl
  | first :: second :: rest =>
      exact listed_map_restem stem _ (first :: second :: rest) (enclosed_restem stem)

theorem wherePieces_restem (conditions : List (List Piece)) :
    wherePieces (conditions.map (List.map (Piece.restem stem))) =
      (wherePieces conditions).map (Piece.restem stem) := by
  cases conditions with
  | nil => rfl
  | cons condition rest =>
      exact congrArg (Piece.code " " :: Piece.code "WHERE " :: ·)
        (connectedPieces_restem stem "AND" "TRUE" (condition :: rest))

def SelectPieces.restem (parts : SelectPieces) : SelectPieces :=
  { output := parts.output.map (Piece.restem stem)
    source := parts.source.map (Piece.restem stem)
    joins := parts.joins.map (List.map (Piece.restem stem))
    conditions := parts.conditions.map (List.map (Piece.restem stem))
    order := parts.order.map (List.map (Piece.restem stem))
    limit := parts.limit
    offset := parts.offset }

theorem SelectPieces.pieces_restem (parts : SelectPieces) :
    (parts.restem stem).pieces = parts.pieces.map (Piece.restem stem) := by
  have order : (parts.order.map (List.map (Piece.restem stem))).elim [] (.code " " :: ·) =
      (parts.order.elim [] (.code " " :: ·)).map (Piece.restem stem) := by
    cases parts.order <;> rfl
  have slice : slicePieces parts.limit parts.offset =
      (slicePieces parts.limit parts.offset).map (Piece.restem stem) := by
    cases parts.limit <;> cases parts.offset <;> rfl
  simp only [SelectPieces.pieces, SelectPieces.restem, wherePieces_restem, order, List.map_append,
    List.map_cons, List.flatMap_map, List.map_flatMap, ← slice]
  rfl

theorem Hop.pieces_restem (hop : Hop) :
    (hop.restem stem).pieces = hop.pieces.map (Piece.restem stem) := by
  rw [Hop.pieces, Hop.pieces, ← SelectPieces.pieces_restem]
  simp only [SelectPieces.restem, Hop.restem, columnPieces_restem, List.map_map]
  rfl

theorem aliasedPieces_restem (source : List Piece) (label : Alias) :
    aliasedPieces (source.map (Piece.restem stem)) (label.restem stem) =
      (aliasedPieces source label).map (Piece.restem stem) := by
  rw [aliasedPieces, aliasedPieces, List.map_append]
  rfl

theorem rowPieces_in_restem (subject : List Column) (rows : List Piece) :
    rowPieces (subject.map (Column.restem stem)) ++
        Piece.code " IN (" :: rows.map (Piece.restem stem) ++ [Piece.code ")"] =
      (rowPieces subject ++ Piece.code " IN (" :: rows ++ [Piece.code ")"]).map
        (Piece.restem stem) := by
  simp only [rowPieces_restem, List.map_append, List.map_cons]
  rfl

mutual

theorem Condition.pieces_restem : ∀ condition : Condition,
    (condition.restem stem).pieces = condition.pieces.map (Piece.restem stem)
  | .text _ => by
      rw [Condition.restem, Condition.pieces]
      rfl
  | .test subject test => by
      rw [Condition.restem, Condition.pieces, Condition.pieces, rowPieces_restem,
        Test.pieces_restem]
  | .equal left right => by
      rw [Condition.restem, Condition.pieces, Condition.pieces]
      rfl
  | .linked subject hop => by
      rw [Condition.restem, Condition.pieces, Condition.pieces, Hop.pieces_restem]
      exact rowPieces_in_restem stem subject hop.pieces
  | .not operand => by
      rw [Condition.restem, Condition.pieces, Condition.pieces,
        Condition.pieces_restem operand, List.map_append]
      rfl
  | .all operands => by
      rw [Condition.restem, Condition.pieces, Condition.pieces,
        Condition.piecesAll_restem operands, connectedPieces_restem]
  | .any operands => by
      rw [Condition.restem, Condition.pieces, Condition.pieces,
        Condition.piecesAll_restem operands, connectedPieces_restem]
  | .keyIn key queries => by
      rw [Condition.restem, Condition.pieces, Condition.pieces,
        Select.piecesAll_restem queries, listed_restem]
      exact rowPieces_in_restem stem key _

theorem Condition.piecesAll_restem : ∀ list : List Condition,
    Condition.piecesAll (Condition.restemAll stem list) =
      (Condition.piecesAll list).map (List.map (Piece.restem stem))
  | [] => rfl
  | condition :: rest => by
      rw [Condition.restemAll, Condition.piecesAll, Condition.piecesAll,
        Condition.pieces_restem condition, Condition.piecesAll_restem rest, List.map_cons]

theorem Join.piecesAll_restem : ∀ list : List Join,
    Join.piecesAll (Join.restemAll stem list) =
      (Join.piecesAll list).map (List.map (Piece.restem stem))
  | [] => rfl
  | .text _ :: rest => by
      rw [Join.restemAll, Join.piecesAll, Join.piecesAll, Join.piecesAll_restem rest, Join.restem,
        Join.pieces]
      rfl
  | .lateral kind query label :: rest => by
      rw [Join.restemAll, Join.piecesAll, Join.piecesAll, Join.piecesAll_restem rest, Join.restem,
        Join.pieces, Join.pieces, Select.pieces_restem query, List.map_cons, List.map_append]
      rfl

theorem Source.pieces_restem : ∀ source : Source,
    (source.restem stem).pieces = source.pieces.map (Piece.restem stem)
  | .table name label => by
      rw [Source.restem, Source.pieces, Source.pieces]
      rfl
  | .page query label => by
      rw [Source.restem, Source.pieces, Source.pieces, Select.pieces_restem query,
        enclosed_restem, aliasedPieces_restem]

theorem Select.pieces_restem : ∀ query : Select,
    (query.restem stem).pieces = query.pieces.map (Piece.restem stem)
  | ⟨output, source, joins, conditions, order, limit, offset⟩ => by
      have ordered : (order.map (Order.restem stem)).map Order.pieces =
          (order.map Order.pieces).map (List.map (Piece.restem stem)) := by
        cases order with
        | none => rfl
        | some given => exact congrArg some (given.pieces_restem stem)
      rw [Select.restem, Select.pieces, Select.pieces, ← SelectPieces.pieces_restem,
        Output.pieces_restem, Source.pieces_restem source, Join.piecesAll_restem joins,
        Condition.piecesAll_restem conditions, ordered]
      rfl

theorem Select.piecesAll_restem : ∀ list : List Select,
    Select.piecesAll (Select.restemAll stem list) =
      (Select.piecesAll list).map (List.map (Piece.restem stem))
  | [] => rfl
  | query :: rest => by
      rw [Select.restemAll, Select.piecesAll, Select.piecesAll, Select.pieces_restem query,
        Select.piecesAll_restem rest, List.map_cons]

end

end Restem

/-! ## Templates -/

/-- A text, or the place of a name that starts with the stem. -/
inductive Slot where
  | text (text : String)
  | label (kind : Alias.Kind) (index : Nat)
  | parameter (kind : Alias.Kind) (index : Nat) (field : String) (number : Nat)

def Slot.fill (stem : String) : Slot → String
  | .text sql => sql
  | .label kind index => (Alias.mk kind stem index).text
  | .parameter kind index field number =>
      (Parameter.mk ⟨kind, stem, index⟩ field number).placeholder

structure Template where
  slots : List Slot

def filled (stem : String) : List Slot → String
  | [] => ""
  | slot :: rest => slot.fill stem ++ filled stem rest

def Template.fill (stem : String) (template : Template) : String := filled stem template.slots

def Piece.toSlot : Piece → Slot
  | .label own => .label own.kind own.index
  | .slot parameter =>
      .parameter parameter.label.kind parameter.label.index parameter.field parameter.number
  | piece => .text piece.text

theorem written_restem (stem : String) (pieces : List Piece) :
    written (pieces.map (Piece.restem stem)) = filled stem (pieces.map Piece.toSlot) := by
  induction pieces with
  | nil => rfl
  | cons piece rest ih =>
      have here : (piece.restem stem).text = piece.toSlot.fill stem := by
        cases piece <;> rfl
      rw [List.map_cons, List.map_cons, written, filled, here, ih]

def squeezed : Bool → List Slot → List Slot
  | _, [] => []
  | gap, .text sql :: rest =>
      .text (String.ofList (Text.squeeze gap sql.toList)) ::
        squeezed (Text.endsBlank gap sql.toList) rest
  | gap, slot :: rest => .text (if gap then " " else "") :: slot :: squeezed false rest

theorem squeeze_of_unblank {text : List Char} (nonempty : text ≠ [])
    (unblank : ∀ c ∈ text, Text.isBlank c = false) (gap : Bool) :
    Text.squeeze gap text = (if gap then " " else "").toList ++ text ∧
      Text.endsBlank gap text = false := by
  have kept : ∀ {rest : List Char}, (∀ c ∈ rest, Text.isBlank c = false) →
      Text.squeeze false rest = rest ∧ Text.endsBlank false rest = false := by
    intro rest unblank
    induction rest with
    | nil => exact ⟨rfl, rfl⟩
    | cons c rest ih =>
        obtain ⟨here, later⟩ := List.forall_mem_cons.mp unblank
        simp [Text.squeeze, Text.endsBlank, here, ih later]
  cases text with
  | nil => exact (nonempty rfl).elim
  | cons c rest =>
      obtain ⟨here, later⟩ := List.forall_mem_cons.mp unblank
      cases gap <;> simp [Text.squeeze, Text.endsBlank, here, kept later]

theorem filled_squeezed {stem : String} (letters : stem.toList.all Lexeme.isNameChar = true)
    (gap : Bool) (slots : List Slot) :
    filled stem (squeezed gap slots) =
      String.ofList (Text.squeeze gap (filled stem slots).toList) := by
  have named : ∀ {text : String} (gap : Bool) (rest : List Slot), Text.ends text = true →
      (∀ c ∈ text.toList, Text.isBlank c = false) →
      filled stem (squeezed false rest) =
        String.ofList (Text.squeeze false (filled stem rest).toList) →
      (if gap then " " else "") ++ (text ++ filled stem (squeezed false rest)) =
        String.ofList (Text.squeeze gap (text ++ filled stem rest).toList) := by
    intro text gap rest ends unblank later
    have nonempty : text.toList ≠ [] := by
      intro empty
      simp [Text.ends, empty] at ends
    obtain ⟨squeezed, ended⟩ := squeeze_of_unblank nonempty unblank gap
    apply String.toList_injective
    simp only [later, String.toList_append, String.toList_ofList, Text.squeeze_append, squeezed,
      ended, List.append_assoc]
  induction slots generalizing gap with
  | nil => rfl
  | cons slot rest ih =>
      cases slot with
      | text sql =>
          rw [squeezed, filled, filled, ih]
          apply String.toList_injective
          simp [Slot.fill, Text.squeeze_append]
      | label kind index =>
          have label : (Alias.mk kind stem index).text.toList.all Lexeme.isNameChar = true :=
            Alias.text_isNameChar letters
          exact named gap rest (ends_label _) (unblank_of_isNameChar label) (ih false)
      | parameter kind index field number =>
          have colon : ∀ c ∈ ":".toList, Text.isBlank c = false :=
            List.forall_mem_singleton.mpr rfl
          have name : (Parameter.mk ⟨kind, stem, index⟩ field number).name.toList.all
              Lexeme.isNameChar = true := Parameter.name_isNameChar letters
          have unblank := List.forall_mem_append.mpr ⟨colon, unblank_of_isNameChar name⟩
          rw [← String.toList_append] at unblank
          exact named gap rest (ends_placeholder _) unblank (ih false)

/-! ## Parameters -/

theorem Parameter.name_restem (stem : String) (parameter : Parameter) :
    (parameter.restem stem).name = stem ++ (parameter.restem "").name := by
  rw [← Parameter.restem_name rfl]
  rfl

section Parameters

variable (stem : String)

mutual

theorem Condition.parameters_restem : ∀ condition : Condition,
    (condition.restem stem).parameters = condition.parameters.map (Parameter.restem stem)
  | .text _ => by simp [Condition.restem, Condition.parameters]
  | .test subject test => by
      rw [Condition.restem, Condition.parameters, Condition.parameters, Test.slots_map]
  | .equal _ _ => by simp [Condition.restem, Condition.parameters]
  | .linked _ _ => by simp [Condition.restem, Condition.parameters]
  | .not operand => by
      rw [Condition.restem, Condition.parameters, Condition.parameters,
        Condition.parameters_restem operand]
  | .all operands => by
      rw [Condition.restem, Condition.parameters, Condition.parameters,
        Condition.parametersAll_restem operands]
  | .any operands => by
      rw [Condition.restem, Condition.parameters, Condition.parameters,
        Condition.parametersAll_restem operands]
  | .keyIn key queries => by
      rw [Condition.restem, Condition.parameters, Condition.parameters,
        Select.parametersAll_restem queries]

theorem Condition.parametersAll_restem : ∀ list : List Condition,
    Condition.parametersAll (Condition.restemAll stem list) =
      (Condition.parametersAll list).map (Parameter.restem stem)
  | [] => by simp [Condition.restemAll, Condition.parametersAll]
  | condition :: rest => by
      rw [Condition.restemAll, Condition.parametersAll, Condition.parametersAll,
        Condition.parameters_restem condition, Condition.parametersAll_restem rest,
        List.map_append]

theorem Join.parametersAll_restem : ∀ list : List Join,
    Join.parametersAll (Join.restemAll stem list) =
      (Join.parametersAll list).map (Parameter.restem stem)
  | [] => by simp [Join.restemAll, Join.parametersAll]
  | .text _ :: rest => by
      simp [Join.restemAll, Join.parametersAll, Join.restem, Join.parameters,
        Join.parametersAll_restem rest]
  | .lateral kind query label :: rest => by
      simp [Join.restemAll, Join.parametersAll, Join.restem, Join.parameters,
        Join.parametersAll_restem rest, Select.parameters_restem query]

theorem Source.parameters_restem : ∀ source : Source,
    (source.restem stem).parameters = source.parameters.map (Parameter.restem stem)
  | .table _ _ => by simp [Source.restem, Source.parameters]
  | .page query _ => by
      rw [Source.restem, Source.parameters, Source.parameters, Select.parameters_restem query]

theorem Select.parameters_restem : ∀ query : Select,
    (query.restem stem).parameters = query.parameters.map (Parameter.restem stem)
  | ⟨output, source, joins, conditions, order, limit, offset⟩ => by
      simp only [Select.restem, Select.parameters, Source.parameters_restem source,
        Join.parametersAll_restem joins, Condition.parametersAll_restem conditions,
        List.map_append]

theorem Select.parametersAll_restem : ∀ list : List Select,
    Select.parametersAll (Select.restemAll stem list) =
      (Select.parametersAll list).map (Parameter.restem stem)
  | [] => by simp [Select.restemAll, Select.parametersAll]
  | query :: rest => by
      rw [Select.restemAll, Select.parametersAll, Select.parametersAll,
        Select.parameters_restem query, Select.parametersAll_restem rest, List.map_append]

end

end Parameters

end Sql

/-! ## Numbered placeholders -/

namespace Positional

theorem distinct_map {f : String → String} (injective : Function.Injective f) :
    ∀ names : List String, distinct (names.map f) = (distinct names).map f
  | [] => rfl
  | first :: rest => by
      have others : (rest.map f).filter (fun other => !other == f first) =
          (rest.filter fun other => !other == first).map f := by
        rw [List.filter_map]
        refine congrArg (List.map f) (List.filter_congr fun other _ => ?_)
        simp [injective.eq_iff]
      have later := distinct_map injective (rest.filter fun other => !other == first)
      unfold distinct at later ⊢
      rw [List.map_cons, List.eraseDups_cons, List.eraseDups_cons, List.map_cons, others, later]
termination_by names => names.length
decreasing_by exact Nat.lt_succ_of_le (List.length_filter_le _ rest)

/-- The values in the order of their placeholders, if every value has one. -/
def values? (names : List String) (bindings : Bindings) : Option (List Json) :=
  if bindings.names.all names.contains then some ((distinct names).filterMap bindings.get?)
  else none

/-- A stem in front of all names does not change the values of numbered placeholders. -/
theorem values_ofNamed_restem {stem sql : String} {names : List String} {bindings : Bindings}
    (read : placeholders sql = names.map (stem ++ ·))
    (bound : ∀ name ∈ placeholders sql, name ∈ (bindings.restem stem).names) :
    (ofNamed sql (bindings.restem stem)).toOption.map Positional.values =
      values? names bindings := by
  have injective : Function.Injective (stem ++ ·) := fun left right same =>
    (String.append_right_inj stem).mp same
  rw [read] at bound
  rcases ofNamed_of_bound (read ▸ bound) with
    ⟨name, listed, unused, failed⟩ | ⟨used, result, done, values⟩
  · rw [Bindings.names_restem] at listed
    obtain ⟨own, member, rfl⟩ := List.mem_map.mp listed
    have absent : own ∉ names := by
      intro present
      exact unused (read ▸ List.mem_map_of_mem present)
    have incomplete : bindings.names.all names.contains = false := by
      refine List.all_eq_false.mpr ⟨own, member, ?_⟩
      simpa using absent
    simp [failed, values?, incomplete, Except.toOption]
  · have complete : bindings.names.all names.contains = true := by
      refine List.all_eq_true.mpr fun own member => ?_
      have renamed : stem ++ own ∈ (bindings.restem stem).names := by
        rw [Bindings.names_restem]
        exact List.mem_map_of_mem member
      have present := used _ renamed
      rw [read, List.mem_map_of_injective injective] at present
      simpa using present
    rw [read, distinct_map injective, List.filterMap_map] at values
    simp [done, values?, complete, values, Except.toOption, Bindings.get?_restem]

end Positional

/-! ## Computed fields of a query -/

section ComputedFields

variable (compiler : Compiler) (stem : String)

mutual

theorem Filter.entries_withStem (entity : Entity) : ∀ list : List (String × Json),
    entries (compiler.withStem stem) entity list = entries compiler entity list
  | [] => rfl
  | (key, value) :: rest => by
      rw [entries, entries, Filter.entriesWithin_withStem entity key value,
        Filter.entries_withStem entity rest]

theorem Filter.entriesWithin_withStem (entity : Entity) (key : String) : ∀ value : Json,
    entriesWithin (compiler.withStem stem) entity key value =
      entriesWithin compiler entity key value
  | .object inner => by
      rw [entriesWithin, entriesWithin, Compiler.resolver_withStem,
        Filter.entries_withStem entity inner]
      split
      · rfl
      · simp only [Compiler.withStem]
        split
        · exact Filter.entries_withStem _ inner
        · rfl
      · rfl
  | .array items => by
      rw [entriesWithin, entriesWithin, Compiler.resolver_withStem,
        Filter.entriesOfAll_withStem entity items]
  | .null => rfl
  | .bool _ => rfl
  | .number _ => rfl
  | .string _ => rfl

theorem Filter.entriesOfAll_withStem (entity : Entity) : ∀ items : List Json,
    entriesOfAll (compiler.withStem stem) entity items = entriesOfAll compiler entity items
  | [] => rfl
  | item :: rest => by
      rw [entriesOfAll, entriesOfAll, Filter.entriesOf_withStem entity item,
        Filter.entriesOfAll_withStem entity rest]

theorem Filter.entriesOf_withStem (entity : Entity) : ∀ item : Json,
    entriesOf (compiler.withStem stem) entity item = entriesOf compiler entity item
  | .object inner => by rw [entriesOf, entriesOf, Filter.entries_withStem entity inner]
  | .array _ => rfl
  | .null => rfl
  | .bool _ => rfl
  | .number _ => rfl
  | .string _ => rfl

end

theorem Arguments.computedFields_withStem (entity : Entity) (given : Arguments) :
    given.computedFields (compiler.withStem stem) entity =
      given.computedFields compiler entity := by
  have filter : Filter.computedFields (compiler.withStem stem) entity =
      Filter.computedFields compiler entity := by
    funext filter
    simp only [Filter.computedFields, Filter.entries_withStem, Compiler.resolver_withStem]
  simp only [computedFields, filter, Compiler.resolver_withStem]

theorem Compiler.related?_withStem (entity : Entity) (key : String) :
    (compiler.withStem stem).related? entity key = compiler.related? entity key := by
  simp only [related?, Compiler.resolver_withStem]
  rfl

mutual

theorem Selection.nodes_withStem (entity : Entity) : ∀ selection : Selection,
    selection.nodes (compiler.withStem stem) entity = selection.nodes compiler entity
  | ⟨fields, given⟩ => by rw [nodes, nodes, Selection.fieldNodes_withStem entity fields]

theorem Selection.fieldNodes_withStem (entity : Entity) : ∀ list : List (String × FieldNode),
    fieldNodes (compiler.withStem stem) entity list = fieldNodes compiler entity list
  | [] => rfl
  | (key, wanted) :: rest => by
      rw [fieldNodes, fieldNodes, Selection.nodesOf_withStem entity key wanted,
        Selection.fieldNodes_withStem entity rest]

theorem Selection.nodesOf_withStem (entity : Entity) (key : String) : ∀ wanted : FieldNode,
    nodesOf (compiler.withStem stem) entity key wanted = nodesOf compiler entity key wanted
  | .leaf => rfl
  | .nested selection => by
      simp only [nodesOf, Compiler.related?_withStem]
      cases compiler.related? entity key with
      | none => rfl
      | some child => exact Selection.nodes_withStem child selection

end

theorem Query.computedFields_withStem (query : Query) :
    query.computedFields (compiler.withStem stem) = query.computedFields compiler := by
  have node : Selection.computedFields (compiler.withStem stem) =
      Selection.computedFields compiler := by
    funext node
    simp only [Selection.computedFields, Compiler.resolver_withStem,
      Arguments.computedFields_withStem]
  simp only [computedFields, Arguments.computedFields_withStem, Selection.nodes_withStem, node]
  rfl

end ComputedFields

/-! ## Statements -/

theorem CompileError.kind_restem (stem : String) (error : CompileError) :
    (error.restem stem).kind = error.kind := by
  cases error <;> rfl

namespace Statement

def template (statement : Statement) : Sql.Template :=
  ⟨Sql.squeezed false (statement.query.pieces.map Sql.Piece.toSlot)⟩

def parameterNames (statement : Statement) : List String :=
  statement.query.parameters.map fun parameter => (parameter.restem "").name

end Statement

namespace Compiler

variable {compiler : Compiler} {query : Query} {base : Statement} {stem : String}

theorem sql_eq_fill (letters : stem.toList.all Lexeme.isNameChar = true)
    (compiled : (compiler.withStem stem).compile query = .ok (base.restem stem)) :
    (base.restem stem).sql = base.template.fill stem := by
  have complete := Sql.Select.complete _ (compile_isRegular compiled)
  have pieces : Sql.written (base.restem stem).query.pieces =
      Sql.filled stem (base.query.pieces.map Sql.Piece.toSlot) := by
    rw [Statement.restem, Sql.Select.pieces_restem, Sql.written_restem]
  rw [Statement.sql, complete.collapsed, Text.collapse_of_starts complete.started, pieces,
    Sql.Template.fill, Statement.template, Sql.filled_squeezed letters]

theorem values_restem (quiet : compiler.Quiet)
    (computed : ∀ found ∈ query.computedFields compiler, found.isQuiet = true)
    (letters : stem.toList.all Lexeme.isNameChar = true)
    (compiled : (compiler.withStem stem).compile query = .ok (base.restem stem)) :
    (Positional.ofNamed (base.restem stem).sql (base.restem stem).bindings).toOption.map
        Positional.values =
      Positional.values? base.parameterNames base.bindings := by
  rw [← Query.computedFields_withStem compiler stem] at computed
  have registered : (compiler.withStem stem).Quiet := quiet
  have plain : (base.restem stem).query.isPlain = true :=
    compile_isPlain_of_stem registered letters computed compiled
  refine Positional.values_ofNamed_restem ?_ (placeholders_bound compiled plain)
  rw [placeholders_sql plain, Statement.restem, Sql.Select.parameters_restem,
    Statement.parameterNames, List.map_map, List.map_map]
  exact List.map_congr_left fun parameter _ => parameter.name_restem stem

/--
Under every stem a query fails with an error of the same kind, or its statement is one
template filled with the stem.  Its values are in the same order under every stem if no
name of a table or column has a quote or a colon.
-/
theorem compile_uniform_in_stem (compiler : Compiler) (query : Query) :
    (∃ kind, ∀ stem, Settings.hasStemLetters stem = true →
      ∃ error, (compiler.withStem stem).compile query = .error error ∧ error.kind = kind) ∨
    ∃ (template : Sql.Template) (values : Option (List Json)),
      ∀ stem, Settings.hasStemLetters stem = true →
        ∃ statement, (compiler.withStem stem).compile query = .ok statement ∧
          statement.sql = template.fill stem ∧
          (compiler.Quiet → (∀ found ∈ query.computedFields compiler, found.isQuiet = true) →
            (Positional.ofNamed statement.sql statement.bindings).toOption.map
              Positional.values = values) := by
  have moved : ∀ stem, (compiler.withStem stem).compile query =
      moved stem (Statement.restem stem) ((compiler.withStem "").compile query) :=
    fun stem => compile_withStem stem (rfl : (compiler.withStem "").settings.stem = "") query
  cases outcome : (compiler.withStem "").compile query with
  | error error =>
      refine .inl ⟨error.kind, fun stem _ => ?_⟩
      have failed := moved stem
      rw [outcome] at failed
      exact ⟨error.restem stem, failed, error.kind_restem stem⟩
  | ok base =>
      refine .inr ⟨base.template, Positional.values? base.parameterNames base.bindings,
        fun stem valid => ?_⟩
      have letters : (compiler.withStem stem).settings.stem.toList.all Lexeme.isNameChar = true :=
        Settings.isNameChar_of_stemLetters valid
      have compiled : (compiler.withStem stem).compile query = .ok (base.restem stem) := by
        have ran := moved stem
        rwa [outcome] at ran
      exact ⟨base.restem stem, compiled, sql_eq_fill letters compiled, fun quiet computed =>
        values_restem quiet computed letters compiled⟩

end Compiler

namespace Sample

def mourners : Query :=
  { entity := "Fellowship"
    selection :=
      { fields :=
          [("members",
              .nested
                { fields := [("name", .leaf), ("battles", .leaf)]
                  arguments := some { filter := some [("name_like", .string "F%")] } })] }
    filter := some [("_or", .array [.object [("members", .object [("name", .string "Boromir")])],
      .object [("name_in", .array [.string "Nine", .null])]])]
    pagination := some { limit := some 9, order := [⟨"name", .ascending⟩] } }

theorem compile_uniform_in_stem_mourners :
    ∃ (template : Sql.Template) (statement result : Statement),
      (compiler.withStem "t").compile mourners = .ok statement ∧
      (compiler.withStem "hill2").compile mourners = .ok result ∧
      statement.sql = template.fill "t" ∧ result.sql = template.fill "hill2" ∧
      (Positional.ofNamed statement.sql statement.bindings).toOption.map Positional.values =
        (Positional.ofNamed result.sql result.bindings).toOption.map Positional.values := by
  rcases compiler.compile_uniform_in_stem mourners with ⟨kind, failed⟩ | ⟨template, values, uniform⟩
  · obtain ⟨error, failed, -⟩ := failed "t" (by decide)
    have succeeds : ((compiler.withStem "t").compile mourners).isOk = true := by decide +kernel
    simp [failed, Except.isOk, Except.toBool] at succeeds
  · obtain ⟨statement, compiled, sql, numbered⟩ := uniform "t" (by decide)
    obtain ⟨result, other, text, values⟩ := uniform "hill2" (by decide)
    have quiet : compiler.Quiet := Compiler.quiet_of_accepted registry_accepted rfl
    have none : mourners.computedFields compiler = [] := rfl
    refine ⟨template, statement, result, compiled, other, sql, text, ?_⟩
    rw [numbered quiet (by simp [none]), values quiet (by simp [none])]

def annals : Compiler :=
  { provider := (Registry.mk [{ person with
      properties := person.properties ++ [.ofColumn "note" "text" "x:t_e1_name_1"] }]).provider }

def noted : Query :=
  { entity := "Person"
    selection := { fields := [("note", .leaf)] }
    filter := some [("name", .string "Frodo")] }

def numberingFault (compiler : Compiler) (query : Query) : Option (Option PlaceholderError) :=
  (compiler.compile query).toOption.map fun statement =>
    match Positional.ofNamed statement.sql statement.bindings with
    | .ok _ => none
    | .error error => some error

/-- A column name with a colon is read as a placeholder, which is bound under one stem only. -/
theorem numbering_of_colon_depends_on_stem :
    numberingFault (annals.withStem "t") noted = some none ∧
      numberingFault (annals.withStem "q") noted = some (some (.missing "t_e1_name_1")) := by
  decide +kernel

end Sample

end TreeQuery
