import TreeQuery.Proofs.Blanks
import TreeQuery.Proofs.StatementParameters

/-!
# Statements in pieces

A statement is written piece by piece: words and signs of the language, keys, names,
aliases, placeholders and numbers.  Its text is that of its pieces, one after the
other, with the blanks collapsed once at the end: it makes no difference that the
blanks of subqueries have been collapsed before.
-/

namespace TreeQuery.Sql

inductive Piece where
  | code (text : String)
  | key (text : String)
  | name (name : String)
  | table (name : String)
  | label (label : Alias)
  | slot (parameter : Parameter)
  | number (value : Nat)

def Piece.text : Piece → String
  | .code sql => sql
  | .key shown => literal shown
  | .name column => identifier column
  | .table origin => tableName origin
  | .label own => own.text
  | .slot parameter => parameter.placeholder
  | .number value => toString value

def written : List Piece → String
  | [] => ""
  | piece :: rest => piece.text ++ written rest

@[simp] theorem written_append (left right : List Piece) :
    written (left ++ right) = written left ++ written right := by
  induction left with
  | nil => simp [written]
  | cons piece rest ih => simp [written, ih, String.append_assoc]

theorem written_one (piece : Piece) : written [piece] = piece.text := String.append_empty

theorem written_two (first second : Piece) :
    written [first, second] = first.text ++ second.text :=
  congrArg (first.text ++ ·) (written_one second)

def listed (separator : String) : List (List Piece) → List Piece
  | [] => []
  | [part] => part
  | part :: rest => part ++ .code separator :: listed separator rest

theorem written_listed {α : Type} (separator : String) {items : List α}
    {pieces : α → List Piece} {text : α → String}
    (each : ∀ item ∈ items, written (pieces item) = text item) :
    written (listed separator (items.map pieces)) = separator.intercalate (items.map text) := by
  induction items with
  | nil => rfl
  | cons item rest ih =>
      obtain ⟨here, later⟩ := List.forall_mem_cons.mp each
      cases rest with
      | nil => simpa [listed] using here
      | cons next rest =>
          simp only [List.map_cons, listed, written_append, written,
            String.intercalate_cons_cons] at ih ⊢
          rw [ih later, here, String.append_assoc]
          rfl

theorem written_listed_map {α β : Type} (separator : String) {items : List α}
    {pieces : α → List Piece} {part : α → β} {text : β → String}
    (each : ∀ item ∈ items, written (pieces item) = text (part item)) :
    written (listed separator (items.map pieces)) =
      separator.intercalate ((items.map part).map text) :=
  (written_listed separator each).trans (congrArg separator.intercalate List.map_map.symm)

theorem written_between (start finish : String) (pieces : List Piece) :
    written (.code start :: pieces ++ [.code finish]) = start ++ written pieces ++ finish := by
  simp [written, Piece.text, String.append_assoc]

def enclosed (pieces : List Piece) : List Piece := .code "(" :: pieces ++ [.code ")"]

/-! ## Columns and values -/

def Column.pieces (column : Column) : List Piece :=
  [.label column.label, .code ".", .name column.name]

def columnPieces (columns : List Column) : List Piece := listed ", " (columns.map Column.pieces)

def rowPieces : List Column → List Piece
  | [column] => column.pieces
  | columns => enclosed (columnPieces columns)

def Order.pieces : Order → List Piece
  | .text sql => [.code sql]
  | .terms list =>
      .code "ORDER BY " ::
        listed ", " (list.map fun term => term.1.pieces ++ [.code " ", .code term.2.text])

def callPieces (pairs : List (String × List Piece)) : List Piece :=
  .code "json_build_object(" ::
    listed ", " (pairs.map fun pair => .key pair.1 :: .code ", " :: pair.2) ++ [.code ")"]

def objectPieces (size : Nat) (pairs : List (String × List Piece)) : List Piece :=
  if pairs.length ≤ max size 1 then callPieces pairs
  else
    .code "(" ::
      listed " || "
        ((chunks (max size 1) pairs).map fun part => callPieces part ++ [.code "::jsonb"]) ++
      [.code ")::json"]

def arrayPieces (value : List Piece) : List Piece :=
  .code "coalesce(json_agg(" :: value ++ [.code "), '[]'::json)"]

def Value.pieces : Value → List Piece
  | .null => [.code "NULL"]
  | .column shown => shown.pieces
  | .array shown => .code "json_build_array(" :: columnPieces shown ++ [.code ")"]
  | .nested label => [.label label, .code ".value"]
  | .raw size shown => objectPieces size (shown.map fun part => (part.name, part.pieces))
  | .text sql => [.code sql]

def ObjectExpr.pieces : ObjectExpr → List Piece
  | .pairs size list => objectPieces size (list.map fun pair => (pair.1, pair.2.pieces))
  | .text sql => [.code sql]

def Output.pieces : Output → List Piece
  | .columns shown => columnPieces shown
  | .matched => [.code "1 AS matched"]
  | .object value name => value.pieces ++ [.code " AS ", .code name]
  | .numbered value order =>
      value.pieces ++ .code " AS value, row_number() OVER (" :: order.pieces ++
        [.code ") AS ", .code position]
  | .collected value => arrayPieces value.pieces ++ [.code " AS value"]
  | .collectedPage page ordered =>
      arrayPieces
        (.label page :: .code ".value" ::
          if ordered then .code " ORDER BY " :: (Column.mk page position).pieces else []) ++
        [.code " AS value"]

/-! ## Tests -/

def Cell.pieces : Cell Parameter → List Piece
  | .one slot => [.slot slot]
  | .row slots => enclosed (listed ", " (slots.map fun slot => [.slot slot]))

namespace Test

def nullPieces (negated : Bool) (subject : List Piece) : List Piece :=
  subject ++ [.code (if negated then " IS NOT NULL" else " IS NULL")]

def memberPieces (negated : Bool) (subject : List Piece) (cells : List (Cell Parameter)) :
    List Piece :=
  subject ++ .code (if negated then " NOT IN (" else " IN (") ::
    listed ", " (cells.map Cell.pieces) ++ [.code ")"]

def pieces (subject : List Piece) : Test Parameter → List Piece
  | .constant true => [.code "TRUE"]
  | .constant false => [.code "FALSE"]
  | .isNull negated => nullPieces negated subject
  | .compare comparison slot =>
      subject ++ [.code " ", .code comparison.text, .code " ", .slot slot]
  | .matchesWords slot =>
      .code "to_tsvector(" :: subject ++ [.code ") @@ plainto_tsquery(", .slot slot, .code ")"]
  | .member negated cells => memberPieces negated subject cells
  | .memberOrNull negated cells =>
      .code "(" :: memberPieces negated subject cells ++
        .code (if negated then " AND " else " OR ") :: nullPieces negated subject ++ [.code ")"]
  | .between low high =>
      subject ++ .code " BETWEEN " :: low.pieces ++ .code " AND " :: high.pieces
  | .contains cells =>
      subject ++ .code " @> ARRAY[" :: listed ", " (cells.map Cell.pieces) ++ [.code "]"]

end Test

/-! ## Selects -/

def connectedPieces (word whenEmpty : String) : List (List Piece) → List Piece
  | [] => [.code whenEmpty]
  | [operand] => operand
  | operands => listed (" " ++ word ++ " ") (operands.map enclosed)

def wherePieces (conditions : List (List Piece)) : List Piece :=
  if conditions.isEmpty then []
  else .code " " :: .code "WHERE " :: connectedPieces "AND" "TRUE" conditions

def slicePieces (limit offset : Option Nat) : List Piece :=
  (limit.elim [] fun count => [.code " LIMIT ", .number count]) ++
    offset.elim [] fun count => [.code " OFFSET ", .number count]

structure SelectPieces where
  output : List Piece
  source : List Piece
  joins : List (List Piece) := []
  conditions : List (List Piece) := []
  order : Option (List Piece) := none
  limit : Option Nat := none
  offset : Option Nat := none

def SelectPieces.pieces (parts : SelectPieces) : List Piece :=
  .code "SELECT " :: parts.output ++ .code " FROM " :: parts.source ++
    parts.joins.flatMap (.code " " :: ·) ++ wherePieces parts.conditions ++
    parts.order.elim [] (.code " " :: ·) ++ slicePieces parts.limit parts.offset

def equationPieces (left right : Column) : List Piece :=
  left.pieces ++ .code " = " :: right.pieces

def aliasedPieces (source : List Piece) (label : Alias) : List Piece :=
  source ++ [.code " AS ", .label label]

def Hop.pieces (hop : Hop) : List Piece :=
  SelectPieces.pieces
    { output := columnPieces hop.keys
      source := aliasedPieces [.table hop.table] hop.label
      conditions := hop.pairs.map fun pair => equationPieces pair.1 pair.2 }

mutual

def Condition.pieces : Condition → List Piece
  | .text sql => [.code sql]
  | .test subject predicate => predicate.pieces (rowPieces subject)
  | .equal left right => equationPieces left right
  | .linked subject hop => rowPieces subject ++ .code " IN (" :: hop.pieces ++ [.code ")"]
  | .not operand => .code "NOT (" :: operand.pieces ++ [.code ")"]
  | .all operands => connectedPieces "AND" "TRUE" (Condition.piecesAll operands)
  | .any operands => connectedPieces "OR" "FALSE" (Condition.piecesAll operands)
  | .keyIn key queries =>
      rowPieces key ++ .code " IN (" :: listed " UNION ALL " (Select.piecesAll queries) ++
        [.code ")"]

def Condition.piecesAll : List Condition → List (List Piece)
  | [] => []
  | condition :: rest => condition.pieces :: Condition.piecesAll rest

def Join.pieces : Join → List Piece
  | .text sql => [.code sql]
  | .lateral kind query label =>
      .code kind.text :: .code " JOIN LATERAL (" :: query.pieces ++
        [.code ") AS ", .label label, .code " ON TRUE"]

def Join.piecesAll : List Join → List (List Piece)
  | [] => []
  | join :: rest => join.pieces :: Join.piecesAll rest

def Source.pieces : Source → List Piece
  | .table name label => aliasedPieces [.table name] label
  | .page query label => aliasedPieces (enclosed query.pieces) label

def Select.pieces : Select → List Piece
  | ⟨output, source, joins, conditions, order, limit, offset⟩ =>
      SelectPieces.pieces
        { output := output.pieces
          source := source.pieces
          joins := Join.piecesAll joins
          conditions := Condition.piecesAll conditions
          order := order.map Order.pieces
          limit
          offset }

def Select.piecesAll : List Select → List (List Piece)
  | [] => []
  | query :: rest => query.pieces :: Select.piecesAll rest

end

theorem Condition.piecesAll_eq (list : List Condition) :
    Condition.piecesAll list = list.map Condition.pieces := by
  induction list with
  | nil => rfl
  | cons condition rest ih => rw [Condition.piecesAll, ih, List.map_cons]

theorem Join.piecesAll_eq (list : List Join) : Join.piecesAll list = list.map Join.pieces := by
  induction list with
  | nil => rfl
  | cons join rest ih => rw [Join.piecesAll, ih, List.map_cons]

theorem Select.piecesAll_eq (list : List Select) :
    Select.piecesAll list = list.map Select.pieces := by
  induction list with
  | nil => rfl
  | cons query rest ih => rw [Select.piecesAll, ih, List.map_cons]

/-! ## Texts of parts without subqueries -/

theorem written_column (column : Column) : written column.pieces = column.text := by
  simp [Column.pieces, written, Piece.text, Column.text, Alias.column, qualified,
    String.append_assoc]

theorem written_columns (columns : List Column) :
    written (columnPieces columns) = ", ".intercalate (columnTexts columns) := by
  rw [columnPieces, columnTexts, written_listed ", " fun column _ => written_column column]

theorem written_enclosed (pieces : List Piece) :
    written (enclosed pieces) = "(" ++ written pieces ++ ")" :=
  written_between "(" ")" pieces

theorem written_row (columns : List Column) : written (rowPieces columns) = columnsText columns := by
  have several : written (enclosed (columnPieces columns)) =
      "(" ++ ", ".intercalate (columnTexts columns) ++ ")" := by
    rw [written_enclosed, written_columns]
  match columns with
  | [] => exact several
  | [column] => exact written_column column
  | _ :: _ :: _ => exact several

theorem Order.written_pieces (order : Order) : written order.pieces = order.render := by
  cases order with
  | text sql => exact written_one (.code sql)
  | terms list =>
      have term : ∀ term ∈ list, written (term.1.pieces ++ [.code " ", .code term.2.text]) =
          term.1.text ++ " " ++ term.2.text := by
        intro term _
        simp [written, written_column, Piece.text, String.append_assoc]
      exact congrArg ("ORDER BY " ++ ·) (written_listed_map ", " term)

theorem written_call (pairs : List (String × List Piece)) :
    written (callPieces pairs) = objectCall (pairs.map fun pair => (pair.1, written pair.2)) := by
  have pair : ∀ pair ∈ pairs, written (.key pair.1 :: .code ", " :: pair.2) =
      literal pair.1 ++ ", " ++ written pair.2 := by
    intro pair _
    simp [written, Piece.text, String.append_assoc]
  unfold callPieces objectCall
  rw [written_between]
  exact congrArg ("json_build_object(" ++ · ++ ")") (written_listed_map ", " pair)

theorem chunks_map {α β : Type} (size : Nat) (f : α → β) (items : List α) :
    chunks size (items.map f) = (chunks size items).map (List.map f) := by
  fun_induction chunks size items with
  | case1 => simp [chunks]
  | case2 item rest ih =>
      rw [List.map_cons, chunks]
      simp [← ih, List.map_take, List.map_drop]

theorem written_object (size : Nat) (pairs : List (String × List Piece)) :
    written (objectPieces size pairs) =
      objectText size (pairs.map fun pair => (pair.1, written pair.2)) := by
  unfold objectPieces objectText
  simp only [List.length_map]
  split
  · exact written_call pairs
  · have part : ∀ part ∈ chunks (max size 1) pairs,
        written (callPieces part ++ [.code "::jsonb"]) =
          objectCall (part.map fun pair => (pair.1, written pair.2)) ++ "::jsonb" := by
      intro part _
      simp [written, written_call, Piece.text]
    rw [written_between, chunks_map]
    exact congrArg ("(" ++ · ++ ")::json") (written_listed_map " || " part)

theorem Value.written_pieces (value : Value) : written value.pieces = value.render := by
  cases value with
  | raw size shown =>
      refine (written_object size _).trans (congrArg (objectText size) ?_)
      refine List.map_map.trans (List.map_congr_left fun column _ => ?_)
      exact congrArg (Prod.mk column.name) (written_column column)
  | array shown =>
      exact (written_between "json_build_array(" ")" _).trans
        (congrArg ("json_build_array(" ++ · ++ ")") (written_columns shown))
  | column shown => exact written_column shown
  | null => exact written_one (.code "NULL")
  | nested label => exact written_two (.label label) (.code ".value")
  | text sql => exact written_one (.code sql)

theorem ObjectExpr.written_pieces (object : ObjectExpr) :
    written object.pieces = object.render := by
  cases object with
  | pairs size list =>
      refine (written_object size _).trans (congrArg (objectText size) ?_)
      refine List.map_map.trans (List.map_congr_left fun pair _ => ?_)
      exact congrArg (Prod.mk pair.1) (Value.written_pieces pair.2)
  | text sql => exact written_one (.code sql)

theorem written_array (value : List Piece) :
    written (arrayPieces value) = arrayText (written value) :=
  written_between "coalesce(json_agg(" "), '[]'::json)" value

theorem Output.written_pieces (output : Output) : written output.pieces = output.render := by
  cases output with
  | columns shown => exact written_columns shown
  | matched => exact written_one (.code "1 AS matched")
  | object value name =>
      simp only [Output.pieces, Output.render, written_append, written, ObjectExpr.written_pieces,
        Piece.text, String.append_assoc, String.append_empty]
  | collected value =>
      simp only [Output.pieces, Output.render, written_append, written, written_array,
        ObjectExpr.written_pieces, Piece.text, String.append_empty]
  | numbered value order =>
      simp only [Output.pieces, Output.render, written_append, written, ObjectExpr.written_pieces,
        Order.written_pieces, Piece.text, String.append_assoc, String.append_empty]
  | collectedPage page ordered =>
      have column := written_column ⟨page, position⟩
      cases ordered <;>
        simp only [Output.pieces, Output.render, written_append, written, written_array, column,
          Column.text, Piece.text, String.append_assoc, String.append_empty, Bool.false_eq_true,
          if_true, if_false]

theorem Cell.written_pieces (cell : Cell Parameter) :
    written cell.pieces = cell.render Parameter.placeholder := by
  cases cell with
  | one slot => exact written_one (.slot slot)
  | row slots =>
      have slot : ∀ slot ∈ slots, written [.slot slot] = slot.placeholder := by
        intro slot _
        exact written_one (.slot slot)
      rw [Cell.pieces, written_enclosed, written_listed ", " slot, Cell.render]

theorem Test.written_pieces (subject : List Piece) (test : Test Parameter) :
    written (test.pieces subject) = test.render Parameter.placeholder (written subject) := by
  have cells : ∀ list : List (Cell Parameter), written (listed ", " (list.map Cell.pieces)) =
      ", ".intercalate (list.map (Cell.render Parameter.placeholder)) := by
    intro list
    exact written_listed ", " fun cell _ => cell.written_pieces
  cases test with
  | constant value =>
      cases value with
      | true => exact written_one (.code "TRUE")
      | false => exact written_one (.code "FALSE")
  | isNull | compare | matchesWords | member | memberOrNull | between | contains =>
      simp only [Test.pieces, Test.render, nullPieces, nullTest, memberPieces, membership,
        written_append, written, cells, Cell.written_pieces, Piece.text, String.append_assoc,
        String.append_empty]

theorem written_equation (left right : Column) :
    written (equationPieces left right) = equation left right := by
  simp [equationPieces, equation, written, written_column, Piece.text, String.append_assoc]

/-! ## Regular trees -/

def Value.isRegular : Value → Bool
  | .text _ => false
  | _ => true

def ObjectExpr.isRegular : ObjectExpr → Bool
  | .pairs _ list => list.all fun pair => pair.2.isRegular
  | .text _ => false

def Order.isRegular : Order → Bool
  | .terms list => !list.isEmpty
  | .text _ => false

def Output.isRegular : Output → Bool
  | .object value _ => value.isRegular
  | .numbered value order => value.isRegular && order.isRegular
  | .collected value => value.isRegular
  | _ => true

mutual

/-- No part of the tree was supplied as text, and every ordering has a term. -/
def Condition.isRegular : Condition → Bool
  | .text _ => false
  | .test _ _ => true
  | .equal _ _ => true
  | .linked _ _ => true
  | .not operand => operand.isRegular
  | .all operands => Condition.areRegular operands
  | .any operands => Condition.areRegular operands
  | .keyIn _ queries => Select.areRegular queries

def Condition.areRegular : List Condition → Bool
  | [] => true
  | condition :: rest => condition.isRegular && Condition.areRegular rest

def Join.isRegular : Join → Bool
  | .text _ => false
  | .lateral _ query _ => query.isRegular

def Join.areRegular : List Join → Bool
  | [] => true
  | join :: rest => join.isRegular && Join.areRegular rest

def Source.isRegular : Source → Bool
  | .table _ _ => true
  | .page query _ => query.isRegular

def Select.isRegular : Select → Bool
  | ⟨output, source, joins, conditions, order, _, _⟩ =>
      output.isRegular && source.isRegular && Join.areRegular joins &&
        Condition.areRegular conditions && order.all Order.isRegular

def Select.areRegular : List Select → Bool
  | [] => true
  | query :: rest => query.isRegular && Select.areRegular rest

end

theorem Condition.areRegular_eq (list : List Condition) :
    Condition.areRegular list = list.all Condition.isRegular := by
  induction list with
  | nil => simp [Condition.areRegular]
  | cons condition rest ih => simp [Condition.areRegular, ih]

theorem Join.areRegular_eq (list : List Join) :
    Join.areRegular list = list.all Join.isRegular := by
  induction list with
  | nil => simp [Join.areRegular]
  | cons join rest ih => simp [Join.areRegular, ih]

theorem Select.areRegular_eq (list : List Select) :
    Select.areRegular list = list.all Select.isRegular := by
  induction list with
  | nil => simp [Select.areRegular]
  | cons query rest ih => simp [Select.areRegular, ih]

/-! ## Blanks are collapsed once -/

open Text (Alike starts ends ends_append ends_append_optional starts_append alike_collapse)

theorem ends_written_append (left : List Piece) {right : List Piece}
    (written : ends (written right) = true) : ends (Sql.written (left ++ right)) = true := by
  rw [written_append]
  exact ends_append _ written

theorem ends_piece (left : List Piece) {piece : Piece} (written : ends piece.text = true) :
    ends (Sql.written (left ++ [piece])) = true :=
  ends_written_append left (by rwa [written_one])

theorem ends_column (left : List Piece) (column : Column) :
    ends (written (left ++ column.pieces)) = true := by
  refine ends_written_append left ?_
  rw [written_column]
  exact ends_append _ (ends_identifier column.name)

theorem ends_cell (left : List Piece) (cell : Cell Parameter) :
    ends (written (left ++ cell.pieces)) = true := by
  refine ends_written_append left ?_
  cases cell with
  | one slot => exact ends_piece [] (ends_placeholder slot)
  | row slots => exact ends_piece _ (by decide : ends ")" = true)

theorem Test.ends_pieces (subject : List Piece) (test : Test Parameter) :
    ends (written (test.pieces subject)) = true := by
  cases test with
  | constant value =>
      cases value with
      | true => exact ends_piece [] (by decide : ends "TRUE" = true)
      | false => exact ends_piece [] (by decide : ends "FALSE" = true)
  | isNull negated => exact ends_piece _ (by cases negated <;> decide)
  | compare comparison slot =>
      exact ends_written_append subject
        (ends_piece [.code " ", .code comparison.text, .code " "] (ends_placeholder slot))
  | matchesWords slot =>
      exact ends_written_append _
        (ends_piece [.code ") @@ plainto_tsquery(", .slot slot] (by decide : ends ")" = true))
  | member negated cells => exact ends_piece _ (by decide : ends ")" = true)
  | memberOrNull negated cells => exact ends_piece _ (by decide : ends ")" = true)
  | between low high =>
      exact ends_written_append _ (ends_cell [.code " AND "] high)
  | contains cells => exact ends_piece _ (by decide : ends "]" = true)

theorem ends_listed (separator : String) {parts : List (List Piece)} (nonempty : parts ≠ [])
    (each : ∀ part ∈ parts, ends (written part) = true) :
    ends (written (listed separator parts)) = true := by
  induction parts with
  | nil => exact (nonempty rfl).elim
  | cons part rest ih =>
      obtain ⟨here, later⟩ := List.forall_mem_cons.mp each
      cases rest with
      | nil => exact here
      | cons next rest =>
          exact ends_written_append _
            (ends_written_append [.code separator] (ih (by simp) later))

theorem ends_connected {word whenEmpty : String} (empty : ends whenEmpty = true)
    {operands : List (List Piece)} (each : ∀ operand ∈ operands, ends (written operand) = true) :
    ends (written (connectedPieces word whenEmpty operands)) = true := by
  match operands with
  | [] => exact ends_piece [] empty
  | [operand] => exact each operand List.mem_cons_self
  | _ :: _ :: _ =>
      refine ends_listed _ (by simp) fun part member => ?_
      obtain ⟨operand, -, rfl⟩ := List.mem_map.mp member
      exact ends_piece _ (by decide : ends ")" = true)

theorem alike_connected {α : Type} (word whenEmpty : String) {items : List α}
    {render : α → String} {pieces : α → List Piece}
    (each : ∀ item ∈ items, Alike (render item) (written (pieces item))) :
    Alike (connected word whenEmpty (items.map render))
      (written (connectedPieces word whenEmpty (items.map pieces))) := by
  match items with
  | [] =>
      have empty : written (connectedPieces word whenEmpty []) = whenEmpty :=
        written_one (.code whenEmpty)
      rw [List.map_nil, List.map_nil, empty]
      exact .refl _
  | [item] => exact each item List.mem_cons_self
  | first :: second :: rest =>
      have several : Alike
          ((" " ++ word ++ " ").intercalate
            ((first :: second :: rest).map fun item => "(" ++ render item ++ ")"))
          ((" " ++ word ++ " ").intercalate
            ((first :: second :: rest).map fun item => "(" ++ written (pieces item) ++ ")")) :=
        .intercalate _ fun item listed =>
          ((Alike.refl "(").append (each item listed)).append (.refl ")")
      rw [← written_listed _ fun item _ => written_enclosed (pieces item)] at several
      simpa [connected, connectedPieces, Function.comp_def] using several

theorem SelectPieces.written_pieces (parts : SelectPieces) :
    written parts.pieces =
      "SELECT " ++ written parts.output ++ " FROM " ++ written parts.source ++
        written (parts.joins.flatMap (.code " " :: ·)) ++ written (wherePieces parts.conditions) ++
        written (parts.order.elim [] (.code " " :: ·)) ++
        written (slicePieces parts.limit parts.offset) := by
  simp only [SelectPieces.pieces, written_append, written, Piece.text, String.append_assoc]

theorem written_slice (limit offset : Option Nat) :
    written (slicePieces limit offset) = slice limit offset := by
  have counted : ∀ (word : String) (count : Option Nat),
      written (count.elim [] fun number => [.code word, .number number]) =
        count.elim "" fun number => word ++ toString number := by
    intro word count
    cases count with
    | none => rfl
    | some number => exact written_two (.code word) (.number number)
  rw [slicePieces, written_append, counted, counted, slice]

theorem ends_slice (limit offset : Option Nat) :
    written (slicePieces limit offset) = "" ∨
      ends (written (slicePieces limit offset)) = true := by
  cases offset with
  | some count =>
      exact .inr (ends_written_append _ (ends_piece [.code " OFFSET "] (ends_number count)))
  | none =>
      cases limit with
      | some count => exact .inr (ends_piece [.code " LIMIT "] (ends_number count))
      | none => exact .inl rfl

section Select

variable {α β : Type} {output source : String} {outputPieces sourcePieces : List Piece}
  {joins : List α} {joinText : α → String} {joinPieces : α → List Piece}
  {conditions : List β} {conditionText : β → String} {conditionPieces : β → List Piece}

theorem alike_joins
    (each : ∀ join ∈ joins, Alike (joinText join) (written (joinPieces join))) :
    Alike (String.join ((joins.map joinText).map (" " ++ ·)))
      (written ((joins.map joinPieces).flatMap (.code " " :: ·))) := by
  induction joins with
  | nil => exact .refl _
  | cons join rest ih =>
      obtain ⟨here, later⟩ := List.forall_mem_cons.mp each
      have spaced := ((Alike.refl " ").append here).append (ih later)
      simpa [written, Piece.text, String.append_assoc] using spaced

theorem ends_joins (each : ∀ join ∈ joins, ends (written (joinPieces join)) = true) :
    written ((joins.map joinPieces).flatMap (.code " " :: ·)) = "" ∨
      ends (written ((joins.map joinPieces).flatMap (.code " " :: ·))) = true := by
  induction joins with
  | nil => exact .inl rfl
  | cons join rest ih =>
      obtain ⟨here, later⟩ := List.forall_mem_cons.mp each
      refine .inr ?_
      rw [List.map_cons, List.flatMap_cons, written_append]
      exact ends_append_optional (ends_written_append [.code " "] here) (ih later)

theorem alike_where
    (each : ∀ condition ∈ conditions,
      Alike (conditionText condition) (written (conditionPieces condition))) :
    Alike
      (if (whereClause (conditions.map conditionText)).isEmpty then ""
        else " " ++ whereClause (conditions.map conditionText))
      (written (wherePieces (conditions.map conditionPieces))) := by
  cases conditions with
  | nil => exact .refl _
  | cons condition rest =>
      have clause := (Alike.refl "WHERE ").append (alike_connected "AND" "TRUE" each)
      simpa [whereClause, wherePieces, conjunction, written, Piece.text] using
        (Alike.refl " ").append clause

theorem ends_where
    (each : ∀ condition ∈ conditions, ends (written (conditionPieces condition)) = true) :
    written (wherePieces (conditions.map conditionPieces)) = "" ∨
      ends (written (wherePieces (conditions.map conditionPieces))) = true := by
  cases conditions with
  | nil => exact .inl rfl
  | cons condition rest =>
      refine .inr (ends_written_append [.code " ", .code "WHERE "] ?_)
      exact ends_connected (by decide) (List.forall_mem_map.mpr each)

theorem ends_order {order : Option Order} (regular : order.all Order.isRegular = true) :
    written ((order.map Order.pieces).elim [] (.code " " :: ·)) = "" ∨
      ends (written ((order.map Order.pieces).elim [] (.code " " :: ·))) = true := by
  cases order with
  | none => exact .inl rfl
  | some given =>
      cases given with
      | text sql => cases regular
      | terms list =>
          have nonempty : list ≠ [] := by
            rintro rfl
            cases regular
          refine .inr (ends_written_append [.code " ", .code "ORDER BY "] ?_)
          refine ends_listed ", " (by simpa using nonempty) fun part member => ?_
          obtain ⟨term, -, rfl⟩ := List.mem_map.mp member
          have direction : ends term.2.text = true := by cases term.2 <;> decide
          exact ends_written_append _ (ends_piece [.code " "] direction)

/-- In a statement the text stands for the pieces, which do not end with a blank. -/
structure Composed (text : String) (pieces : List Piece) : Prop where
  alike : Alike text (written pieces)
  ended : ends (written pieces) = true

/-- The text is that of the pieces with its blanks collapsed. -/
structure Complete (text : String) (pieces : List Piece) : Prop where
  collapsed : text = Text.collapse (written pieces)
  started : starts (written pieces) = true
  ended : ends (written pieces) = true

theorem Complete.composed {text : String} {pieces : List Piece} (complete : Complete text pieces) :
    Composed text pieces where
  alike := by
    rw [complete.collapsed]
    exact alike_collapse complete.started complete.ended
  ended := complete.ended

theorem complete_select (shown : Alike output (written outputPieces))
    (read : Composed source sourcePieces)
    (joined : ∀ join ∈ joins, Composed (joinText join) (joinPieces join))
    (tested : ∀ condition ∈ conditions,
      Composed (conditionText condition) (conditionPieces condition))
    {order : Option Order} (regular : order.all Order.isRegular = true)
    (limit offset : Option Nat) :
    Complete
      (SelectText.render
        { output, source, joins := joins.map joinText
          conditions := conditions.map conditionText, order := order.map Order.render, limit
          offset })
      (SelectPieces.pieces
        { output := outputPieces, source := sourcePieces, joins := joins.map joinPieces
          conditions := conditions.map conditionPieces, order := order.map Order.pieces, limit
          offset }) := by
  have ordered : (order.map Order.render).elim "" (" " ++ ·) =
      written ((order.map Order.pieces).elim [] (.code " " :: ·)) := by
    cases order with
    | none => rfl
    | some given => exact congrArg (" " ++ ·) given.written_pieces.symm
  constructor
  · rw [SelectPieces.written_pieces]
    refine Alike.collapse ?_
    simp only [ordered, ← written_slice]
    exact ((((((((Alike.refl "SELECT ").append shown).append (.refl " FROM ")).append
      read.alike).append (alike_joins fun join listed => (joined join listed).alike)).append
      (alike_where fun condition listed => (tested condition listed).alike)).append
      (.refl _)).append (.refl _))
  · rw [SelectPieces.written_pieces]
    simp only [String.append_assoc]
    exact starts_append (by decide) _
  · rw [SelectPieces.written_pieces]
    exact ends_append_optional (ends_append_optional (ends_append_optional
      (ends_append_optional (ends_append _ read.ended)
        (ends_joins fun join listed => (joined join listed).ended))
      (ends_where fun condition listed => (tested condition listed).ended))
      (ends_order regular)) (ends_slice limit offset)

end Select

theorem composed_of_eq {text : String} {pieces : List Piece} (same : written pieces = text)
    (ended : ends (written pieces) = true) : Composed text pieces :=
  ⟨same ▸ .refl _, ended⟩

theorem composed_aliased {source : String} {pieces : List Piece}
    (alike : Alike source (written pieces)) (label : Alias) :
    Composed (aliased source label) (aliasedPieces pieces label) := by
  refine ⟨?_, ends_written_append _ (ends_piece [.code " AS "] (ends_label label))⟩
  rw [aliasedPieces, written_append, written_two, ← String.append_assoc]
  exact (alike.append (.refl " AS ")).append (.refl label.text)

theorem composed_table (name : String) (label : Alias) :
    Composed (aliased (tableName name) label) (aliasedPieces [.table name] label) :=
  composed_aliased (by rw [written_one]; exact .refl _) label

theorem composed_in (subject : List Column) {rows : String} {pieces : List Piece}
    (alike : Alike rows (written pieces)) :
    Composed (columnsText subject ++ " IN (" ++ rows ++ ")")
      (rowPieces subject ++ .code " IN (" :: pieces ++ [.code ")"]) := by
  refine ⟨?_, ends_piece _ (by decide : ends ")" = true)⟩
  rw [written_append, written_append, written_row, written_one, written]
  have opened : Alike (columnsText subject ++ " IN (") (columnsText subject ++ " IN (") := .refl _
  have closed := (opened.append alike).append (.refl ")")
  simp only [String.append_assoc] at closed ⊢
  exact closed

theorem composed_union {queries : List Select}
    (each : ∀ query ∈ queries, Complete query.render query.pieces) :
    Alike (unionAll (queries.map Select.render))
      (written (listed " UNION ALL " (queries.map Select.pieces))) := by
  cases queries with
  | nil => exact .refl _
  | cons query rest =>
      have alike : Alike (" UNION ALL ".intercalate ((query :: rest).map Select.render))
          (written (listed " UNION ALL " ((query :: rest).map Select.pieces))) := by
        rw [written_listed " UNION ALL " fun _ _ => rfl]
        exact .intercalate _ fun query listed => (each query listed).composed.alike
      rw [unionAll, alike.collapse]
      refine alike_collapse ?_ (ends_listed _ (by simp)
        (List.forall_mem_map.mpr fun query listed => (each query listed).ended))
      have started := (each query List.mem_cons_self).started
      cases rest with
      | nil => exact started
      | cons next rest =>
          rw [List.map_cons, List.map_cons, listed.eq_3 _ _ _ (by simp), written_append]
          exact starts_append started _

theorem composed_lateral (kind : JoinKind) {query : String} {pieces : List Piece} (label : Alias)
    (alike : Alike query (written pieces)) :
    Composed (lateral kind.text query label)
      (.code kind.text :: .code " JOIN LATERAL (" :: pieces ++
        [.code ") AS ", .label label, .code " ON TRUE"]) := by
  have whole : written (.code kind.text :: .code " JOIN LATERAL (" :: pieces ++
      [.code ") AS ", .label label, .code " ON TRUE"]) =
      kind.text ++ " JOIN LATERAL (" ++ written pieces ++ ") AS " ++ label.text ++ " ON TRUE" := by
    simp only [written_append, written, Piece.text, String.append_assoc, String.append_empty]
  have lead : starts kind.text = true := by cases kind <;> decide
  refine Complete.composed ⟨Alike.collapse ?_, ?_, ?_⟩
  · rw [whole]
    exact ((((Alike.refl _).append alike).append (.refl _)).append (.refl _)).append (.refl _)
  · rw [whole]
    simp only [String.append_assoc]
    exact starts_append lead _
  · rw [whole]
    exact ends_append _ (by decide)

theorem Hop.complete (hop : Hop) : Complete hop.render hop.pieces := by
  have shown : Alike (", ".intercalate (columnTexts hop.keys))
      (written (columnPieces hop.keys)) := by
    rw [written_columns]
    exact .refl _
  have tested : ∀ pair ∈ hop.pairs,
      Composed (equation pair.1 pair.2) (equationPieces pair.1 pair.2) := fun pair _ =>
    composed_of_eq (written_equation pair.1 pair.2)
      (ends_written_append _ (ends_column [.code " = "] pair.2))
  have unjoined : ∀ join ∈ ([] : List Unit), Composed "" [] := by simp
  exact complete_select shown (composed_table hop.table hop.label) unjoined tested
    (rfl : (none : Option Order).all Order.isRegular = true) none none

mutual

theorem Condition.composed : ∀ condition : Condition, condition.isRegular = true →
    Composed condition.render condition.pieces
  | .text _, regular => by simp [Condition.isRegular] at regular
  | .test subject test, _ => by
      rw [Condition.render, Condition.pieces, ← written_row]
      exact composed_of_eq (Test.written_pieces _ test) (Test.ends_pieces _ test)
  | .equal left right, _ => by
      rw [Condition.render, Condition.pieces]
      exact composed_of_eq (written_equation left right)
        (ends_written_append _ (ends_column [.code " = "] right))
  | .linked subject hop, _ => by
      rw [Condition.render, Condition.pieces]
      exact composed_in subject hop.complete.composed.alike
  | .not operand, regular => by
      rw [Condition.isRegular] at regular
      rw [Condition.render, Condition.pieces]
      refine ⟨?_, ends_piece _ (by decide : ends ")" = true)⟩
      rw [written_between]
      exact ((Alike.refl "NOT (").append (Condition.composed operand regular).alike).append
        (.refl ")")
  | .all operands, regular => by
      rw [Condition.isRegular] at regular
      rw [Condition.render, Condition.pieces, Condition.renderAll_eq, Condition.piecesAll_eq]
      have each := Condition.composedAll operands regular
      exact ⟨alike_connected _ _ fun operand listed => (each operand listed).alike,
        ends_connected (by decide)
          (List.forall_mem_map.mpr fun operand listed => (each operand listed).ended)⟩
  | .any operands, regular => by
      rw [Condition.isRegular] at regular
      rw [Condition.render, Condition.pieces, Condition.renderAll_eq, Condition.piecesAll_eq]
      have each := Condition.composedAll operands regular
      exact ⟨alike_connected _ _ fun operand listed => (each operand listed).alike,
        ends_connected (by decide)
          (List.forall_mem_map.mpr fun operand listed => (each operand listed).ended)⟩
  | .keyIn key queries, regular => by
      rw [Condition.isRegular] at regular
      rw [Condition.render, Condition.pieces, Select.renderAll_eq, Select.piecesAll_eq]
      exact composed_in key (composed_union (Select.completeAll queries regular))

theorem Condition.composedAll : ∀ list : List Condition, Condition.areRegular list = true →
    ∀ condition ∈ list, Composed condition.render condition.pieces
  | [], _ => by simp
  | condition :: rest, regular => by
      rw [Condition.areRegular, Bool.and_eq_true] at regular
      exact List.forall_mem_cons.mpr ⟨Condition.composed condition regular.1,
        Condition.composedAll rest regular.2⟩

theorem Join.composedAll : ∀ list : List Join, Join.areRegular list = true →
    ∀ join ∈ list, Composed join.render join.pieces
  | [], _ => by simp
  | .text _ :: _, regular => by simp [Join.areRegular, Join.isRegular] at regular
  | .lateral kind query label :: rest, regular => by
      rw [Join.areRegular, Bool.and_eq_true, Join.isRegular] at regular
      refine List.forall_mem_cons.mpr ⟨?_, Join.composedAll rest regular.2⟩
      rw [Join.render, Join.pieces]
      exact composed_lateral kind label (Select.complete query regular.1).composed.alike

theorem Source.composed : ∀ source : Source, source.isRegular = true →
    Composed source.render source.pieces
  | .table name label, _ => by
      rw [Source.render, Source.pieces]
      exact composed_table name label
  | .page query label, regular => by
      rw [Source.isRegular] at regular
      rw [Source.render, Source.pieces]
      refine composed_aliased ?_ label
      rw [written_enclosed]
      exact ((Alike.refl "(").append (Select.complete query regular).composed.alike).append
        (.refl ")")

/-- The text of a select is that of its pieces, with the blanks collapsed. -/
theorem Select.complete : ∀ query : Select, query.isRegular = true →
    Complete query.render query.pieces
  | ⟨output, source, joins, conditions, order, limit, offset⟩, regular => by
      simp only [Select.isRegular, Bool.and_eq_true] at regular
      obtain ⟨⟨⟨⟨-, origin⟩, joined⟩, tested⟩, ordered⟩ := regular
      rw [Select.render, Select.pieces, Join.renderAll_eq, Condition.renderAll_eq,
        Join.piecesAll_eq, Condition.piecesAll_eq]
      refine complete_select ?_ (Source.composed source origin) (Join.composedAll joins joined)
        (Condition.composedAll conditions tested) ordered limit offset
      rw [Output.written_pieces]
      exact .refl _

theorem Select.completeAll : ∀ list : List Select, Select.areRegular list = true →
    ∀ query ∈ list, Complete query.render query.pieces
  | [], _ => by simp
  | query :: rest, regular => by
      rw [Select.areRegular, Bool.and_eq_true] at regular
      exact List.forall_mem_cons.mpr ⟨Select.complete query regular.1,
        Select.completeAll rest regular.2⟩

end

end TreeQuery.Sql
