import TreeQuery.Proofs.Scanning
import TreeQuery.Sql.Render

/-!
# Placeholders in names, clauses and tests

What a reader finds in the smallest parts of a statement.  An alias made of name
characters and a name without quotes and colons hold no placeholder, a quoted
literal holds none whatever its text, and a parameter is found under its name.
Clauses and tests hold what their parts hold, in the order of the parts.
-/

namespace TreeQuery

open Lexeme (isNameChar)

/-! ## Names -/

theorem isQuiet_append {left right : String} :
    isQuiet (left ++ right) = (isQuiet left && isQuiet right) := by
  simp [isQuiet]

theorem isQuiet_of_isNameChar {text : String} (named : text.toList.all isNameChar = true) :
    isQuiet text = true := by
  refine List.all_eq_true.mpr fun c member => ?_
  have here := List.all_eq_true.mp named c member
  have quote : c ≠ '\'' := by
    rintro rfl
    exact absurd here (by decide)
  have colon : c ≠ ':' := by
    rintro rfl
    exact absurd here (by decide)
  simp [quote, colon]

theorem toString_isNameChar (number : Nat) :
    (toString number).toList.all isNameChar = true := by
  change number.repr.toList.all isNameChar = true
  rw [Nat.toList_repr]
  refine List.all_eq_true.mpr fun c member => ?_
  have digit := Nat.isDigit_of_mem_toDigits (by decide) (by decide) member
  have between : ('0' ≤ c && c ≤ '9') = true := by
    simpa [Char.isDigit, Char.le_def] using digit
  simp [isNameChar, between]

theorem isQuiet_toString (number : Nat) : isQuiet (toString number) = true :=
  isQuiet_of_isNameChar (toString_isNameChar number)

theorem isQuiet_quoted {name : String} (quiet : isQuiet name = true) :
    isQuiet (Text.quoted '"' name) = true := by
  have each : ∀ characters : List Char, (characters.all fun c => c != '\'' && c != ':') = true →
      ((Text.doubled '"' characters).all fun c => c != '\'' && c != ':') = true := by
    intro characters
    induction characters with
    | nil => simp [Text.doubled]
    | cons c rest ih =>
        intro quiet
        obtain ⟨here, later⟩ := (Bool.and_eq_true _ _).mp (List.all_cons ▸ quiet)
        by_cases h : c = '"'
        · simp only [Text.doubled, h, if_true, List.all_cons, ih later]
          decide
        · simp only [Text.doubled, h, if_false, List.all_cons, ih later, here, Bool.and_true]
  unfold isQuiet at quiet ⊢
  simp only [Text.quoted, String.toList_ofList, List.all_cons, List.all_append,
    each name.toList quiet]
  decide

theorem isQuiet_identifier {name : String} (quiet : isQuiet name = true) :
    isQuiet (Sql.identifier name) = true := by
  unfold Sql.identifier
  split
  · exact quiet
  · exact isQuiet_quoted quiet

theorem mem_of_mem_pieces {separator : Char} {text piece : List Char} {c : Char}
    (listed : piece ∈ Text.pieces separator text) (member : c ∈ piece) : c ∈ text := by
  induction text generalizing piece with
  | nil =>
      simp only [Text.pieces, List.mem_singleton] at listed
      simp [listed] at member
  | cons d rest ih =>
      simp only [Text.pieces] at listed
      split at listed
      · rcases List.mem_cons.mp listed with rfl | later
        · simp at member
        · exact List.mem_cons_of_mem _ (ih later member)
      · split at listed
        · rw [List.mem_singleton.mp listed, List.mem_singleton] at member
          simp [member]
        · rename_i first more found
          rcases List.mem_cons.mp listed with rfl | later
          · rcases List.mem_cons.mp member with rfl | inside
            · exact List.mem_cons_self
            · exact List.mem_cons_of_mem _ (ih (found ▸ List.mem_cons_self) inside)
          · exact List.mem_cons_of_mem _ (ih (found ▸ List.mem_cons_of_mem _ later) member)

theorem lexes_tableName {name : String} (quiet : isQuiet name = true) :
    Lexes (Sql.tableName name) [] := by
  refine lexes_intercalate_nil rfl fun piece listed => lexes_of_isQuiet (isQuiet_quoted ?_)
  refine List.all_eq_true.mpr fun c member => List.all_eq_true.mp quiet c ?_
  rw [String.toList_ofList] at member
  exact mem_of_mem_pieces listed member

theorem lexes_literal (text : String) : Lexes (Sql.literal text) [] := by
  have inside : ∀ characters : List Char,
      Reader.literal.run (Text.doubled '\'' characters ++ ['\'']) = (.quote, []) := by
    intro characters
    induction characters with
    | nil => rfl
    | cons c rest ih =>
        by_cases h : c = '\'' <;> simp [Text.doubled, h, Reader.run, Reader.step, ih]
  unfold Lexes
  rw [Reader.run_append]
  have opened : Reader.plain.run (Sql.literal text).toList = (.quote, []) := by
    simp [Sql.literal, Text.quoted, Reader.run, Reader.step, Reader.start,
      inside text.toList]
  rw [opened]
  rfl

namespace Sql

def Alias.isPlain (label : Alias) : Bool := label.stem.toList.all isNameChar

theorem Alias.text_isNameChar {label : Alias} (plain : label.isPlain = true) :
    label.text.toList.all isNameChar = true := by
  have tag : label.kind.tag.toList.all isNameChar = true := by
    cases label.kind <;> decide
  unfold Alias.isPlain at plain
  simp only [Alias.text, String.toList_append, List.all_append, plain, tag,
    toString_isNameChar, Bool.true_and, Bool.and_true]
  decide

theorem Alias.isQuiet_text {label : Alias} (plain : label.isPlain = true) :
    isQuiet label.text = true :=
  isQuiet_of_isNameChar (Alias.text_isNameChar plain)

def Column.isPlain (column : Column) : Bool := column.label.isPlain && isQuiet column.name

theorem Column.isQuiet_text {column : Column} (plain : column.isPlain = true) :
    isQuiet column.text = true := by
  obtain ⟨label, name⟩ := (Bool.and_eq_true _ _).mp plain
  simp only [Column.text, Alias.column, qualified, isQuiet_append, isQuiet_identifier name,
    Alias.isQuiet_text label, Bool.true_and, Bool.and_true]
  decide

def Parameter.isPlain (parameter : Parameter) : Bool := parameter.label.isPlain

theorem Parameter.name_isNameChar {parameter : Parameter} (plain : parameter.isPlain = true) :
    parameter.name.toList.all isNameChar = true := by
  have field : (Alias.plainField parameter.field).toList.all isNameChar = true := by
    simp only [Alias.plainField, String.toList_ofList, List.all_map, List.all_eq_true]
    intro c _
    by_cases h : Alias.isParameterChar c
    · have named : isNameChar c = (Alias.isParameterChar c || c = '_') := rfl
      simp [h, named]
    · have underscore : isNameChar '_' = true := by decide
      simp [h, underscore]
  simp only [Parameter.name, Alias.parameterStem, String.toList_append, List.all_append,
    Alias.text_isNameChar plain, field, toString_isNameChar, Bool.true_and, Bool.and_true]
  decide

theorem Parameter.lexes_placeholder {parameter : Parameter} (plain : parameter.isPlain = true) :
    Lexes parameter.placeholder [parameter.name] := by
  have named := Parameter.name_isNameChar plain
  have later : ∀ read characters : List Char, characters.all isNameChar = true →
      (Reader.name read).run (characters ++ [' ']) =
        (.plain, [String.ofList (read ++ characters)]) := by
    intro read characters
    induction characters generalizing read with
    | nil => simp [Reader.run, Reader.step, Reader.start, isNameChar]
    | cons c rest ih =>
        intro named
        obtain ⟨here, named⟩ := (Bool.and_eq_true _ _).mp (List.all_cons ▸ named)
        simp [Reader.run, Reader.step, here, ih _ named]
  unfold Lexes
  simp only [Parameter.placeholder, String.toList_append]
  cases characters : parameter.name.toList with
  | nil =>
      have short := congrArg List.length characters
      simp [Parameter.name, Alias.parameterStem, Alias.text] at short
  | cons c rest =>
      rw [characters] at named
      obtain ⟨here, named⟩ := (Bool.and_eq_true _ _).mp (List.all_cons ▸ named)
      have whole : String.ofList (c :: rest) = parameter.name := by
        rw [← characters, String.ofList_toList]
      simp [Reader.run, Reader.step, Reader.start, here, later [c] rest named, whole]

/-! ## Clauses -/

theorem lexes_columnTexts {columns : List Column} (plain : columns.all Column.isPlain = true) :
    Lexes (", ".intercalate (columnTexts columns)) [] :=
  lexes_intercalate_nil rfl fun column member =>
    lexes_of_isQuiet (Column.isQuiet_text (List.all_eq_true.mp plain column member))

theorem lexes_columnsText {columns : List Column} (plain : columns.all Column.isPlain = true) :
    Lexes (columnsText columns) [] := by
  have row : Lexes ("(" ++ ", ".intercalate (columnTexts columns) ++ ")") [] :=
    (((settles_of_isQuiet rfl).lexes (lexes_columnTexts plain)).seam rfl).closed
  match columns with
  | [] => exact row
  | [column] =>
      have single : column.isPlain = true := by simpa using plain
      exact lexes_of_isQuiet (Column.isQuiet_text single)
  | _ :: _ :: _ => exact row

theorem lexes_equation {left right : Column} (first : left.isPlain = true)
    (second : right.isPlain = true) : Lexes (equation left right) [] :=
  ((lexes_of_isQuiet (Column.isQuiet_text first)).seam rfl).lexes
    (lexes_of_isQuiet (Column.isQuiet_text second))

theorem lexes_aliased {source : String} {names : List String} (read : Lexes source names)
    {label : Alias} (plain : label.isPlain = true) : Lexes (aliased source label) names := by
  have both := (read.seam (show isSeam " AS " = true by rfl)).lexes
    (lexes_of_isQuiet (Alias.isQuiet_text plain))
  simpa [aliased] using both

theorem lexes_connected {α : Type} {items : List α} {render : α → String}
    {names : α → List String} {word whenEmpty : String} (seam : isSeam (" " ++ word ++ " ") = true)
    (quiet : isQuiet whenEmpty = true)
    (each : ∀ item ∈ items, Lexes (render item) (names item)) :
    Lexes (connected word whenEmpty (items.map render)) (items.flatMap names) := by
  match items with
  | [] => exact lexes_of_isQuiet quiet
  | [item] => simpa [connected] using each item List.mem_cons_self
  | first :: second :: rest =>
      have several := lexes_intercalate seam fun item member =>
        lexes_parenthesized (each item member)
      simpa [connected, Function.comp_def] using several

theorem lexes_slice {text : String} {names : List String} (read : Lexes text names)
    (limit offset : Option Nat) : Lexes (text ++ slice limit offset) names := by
  have counted : ∀ {text : String} {word : String} {count : Option Nat}, Lexes text names →
      isSeam word = true →
      Lexes (text ++ count.elim "" fun number => word ++ toString number) names := by
    intro text word count read seam
    cases count with
    | none => simpa using read
    | some number =>
        have both := (read.seam seam).lexes (lexes_of_isQuiet (isQuiet_toString number))
        simpa [String.append_assoc] using both
  unfold slice
  rw [← String.append_assoc]
  exact counted (counted read rfl) rfl

theorem lexes_select {α β : Type} {output source : String} {outputNames sourceNames : List String}
    {joins : List α} {joinText : α → String} {joinNames : α → List String}
    {conditions : List β} {conditionText : β → String} {conditionNames : β → List String}
    {order : Option String} (limit offset : Option Nat)
    (shown : Lexes output outputNames) (read : Lexes source sourceNames)
    (joined : ∀ join ∈ joins, Lexes (joinText join) (joinNames join))
    (tested : ∀ condition ∈ conditions,
      Lexes (conditionText condition) (conditionNames condition))
    (ordered : ∀ text ∈ order, Lexes text []) :
    Lexes
      (SelectText.render
        { output, source, joins := joins.map joinText
          conditions := conditions.map conditionText, order, limit, offset })
      (outputNames ++ sourceNames ++ joins.flatMap joinNames ++
        conditions.flatMap conditionNames) := by
  have head := (settles_of_isQuiet (show isQuiet "SELECT " = true by rfl)).lexes shown
  have from_ := (head.seam (show isSeam " FROM " = true by rfl)).lexes read
  have withJoins := from_.spaced joined
  have withConditions :
      Lexes ("SELECT " ++ output ++ " FROM " ++ source ++
          String.join (joins.map fun join => " " ++ joinText join) ++
          (if (whereClause (conditions.map conditionText)).isEmpty then ""
            else " " ++ whereClause (conditions.map conditionText)))
        (outputNames ++ sourceNames ++ joins.flatMap joinNames ++
          conditions.flatMap conditionNames) := by
    cases conditions with
    | nil => simpa [whereClause] using withJoins
    | cons condition rest =>
        have all : Lexes (conjunction ((condition :: rest).map conditionText)) _ :=
          lexes_connected (show isSeam (" " ++ "AND" ++ " ") = true by rfl)
            (show isQuiet "TRUE" = true by rfl) tested
        have clause := (settles_of_isQuiet (show isQuiet "WHERE " = true by rfl)).lexes all
        have whole := (withJoins.seam (show isSeam " " = true by rfl)).lexes clause
        simpa [whereClause, String.append_assoc] using whole
  have withOrder := withConditions.spaced fun text member =>
    ordered text (Option.mem_toList.mp member)
  have whole := (lexes_slice withOrder limit offset).collapse
  cases order <;> simpa [SelectText.render, Function.comp_def] using whole

/-! ## Tests -/

theorem Cell.lexes_render {cell : Cell Parameter}
    (plain : cell.slots.all Parameter.isPlain = true) :
    Lexes (cell.render Parameter.placeholder) (cell.slots.map Parameter.name) := by
  have each : ∀ slot ∈ cell.slots, Lexes slot.placeholder [slot.name] := fun slot member =>
    Parameter.lexes_placeholder (List.all_eq_true.mp plain slot member)
  cases cell with
  | one slot => exact each slot List.mem_cons_self
  | row slots =>
      have listed := lexes_intercalate (show isSeam ", " = true by rfl) each
      rw [← List.map_eq_flatMap] at listed
      exact lexes_parenthesized listed

theorem lexes_cells {cells : List (Cell Parameter)}
    (plain : (cells.flatMap Cell.slots).all Parameter.isPlain = true) :
    Lexes (", ".intercalate (cells.map (Cell.render Parameter.placeholder)))
      ((cells.flatMap Cell.slots).map Parameter.name) := by
  rw [List.map_flatMap]
  refine lexes_intercalate rfl fun cell member => Cell.lexes_render ?_
  refine List.all_eq_true.mpr fun slot inside => List.all_eq_true.mp plain slot ?_
  exact List.mem_flatMap.mpr ⟨cell, member, inside⟩

theorem Test.lexes_nullTest {subject : String} (read : Lexes subject []) (negated : Bool) :
    Lexes (nullTest negated subject) [] := by
  cases negated
  · exact (read.seam (show isSeam " IS NULL" = true by rfl)).closed
  · exact (read.seam (show isSeam " IS NOT NULL" = true by rfl)).closed

theorem Test.lexes_membership {subject : String} (read : Lexes subject []) (negated : Bool)
    {cells : List (Cell Parameter)}
    (plain : (cells.flatMap Cell.slots).all Parameter.isPlain = true) :
    Lexes (membership negated subject (cells.map (Cell.render Parameter.placeholder)))
      ((cells.flatMap Cell.slots).map Parameter.name) := by
  have opened : Settles (subject ++ if negated then " NOT IN (" else " IN (") [] := by
    cases negated
    · exact read.seam (show isSeam " IN (" = true by rfl)
    · exact read.seam (show isSeam " NOT IN (" = true by rfl)
  exact ((opened.lexes (lexes_cells plain)).seam (show isSeam ")" = true by rfl)).closed

theorem Test.lexes_render {subject : String} (read : Lexes subject [])
    {test : Test Parameter} (plain : test.slots.all Parameter.isPlain = true) :
    Lexes (test.render Parameter.placeholder subject) (test.slots.map Parameter.name) := by
  cases test with
  | constant value =>
      cases value
      · exact lexes_of_isQuiet (show isQuiet "FALSE" = true by rfl)
      · exact lexes_of_isQuiet (show isQuiet "TRUE" = true by rfl)
  | isNull negated => exact lexes_nullTest read negated
  | compare comparison slot =>
      have single : slot.isPlain = true := by simpa [Test.slots] using plain
      have word : isQuiet comparison.text = true := by cases comparison <;> rfl
      have before := (read.seam (show isSeam " " = true by rfl)).append
        ((settles_of_isQuiet word).append (settles_of_isQuiet (show isQuiet " " = true by rfl)))
      simpa [Test.render, Test.slots, String.append_assoc] using
        before.lexes (Parameter.lexes_placeholder single)
  | matchesWords slot =>
      have single : slot.isPlain = true := by simpa [Test.slots] using plain
      have words := (settles_of_isQuiet (show isQuiet "to_tsvector(" = true by rfl)).lexes read
      have before := words.seam (show isSeam ") @@ plainto_tsquery(" = true by rfl)
      exact ((before.lexes (Parameter.lexes_placeholder single)).seam
        (show isSeam ")" = true by rfl)).closed
  | member negated cells => exact lexes_membership read negated plain
  | memberOrNull negated cells =>
      have before := (settles_of_isQuiet (show isQuiet "(" = true by rfl)).lexes
        (lexes_membership read negated plain)
      have word : isSeam (if negated then " AND " else " OR ") = true := by
        cases negated <;> rfl
      have whole := ((before.seam word).lexes (lexes_nullTest read negated)).seam
        (show isSeam ")" = true by rfl)
      simpa [Test.render, Test.slots] using whole.closed
  | between low high =>
      obtain ⟨lowPlain, highPlain⟩ : low.slots.all Parameter.isPlain = true ∧
          high.slots.all Parameter.isPlain = true := by
        simpa [Test.slots] using plain
      have before := (read.seam (show isSeam " BETWEEN " = true by rfl)).lexes
        (Cell.lexes_render lowPlain)
      have whole := (before.seam (show isSeam " AND " = true by rfl)).lexes
        (Cell.lexes_render highPlain)
      simpa [Test.render, Test.slots] using whole
  | contains cells =>
      have before := (read.seam (show isSeam " @> ARRAY[" = true by rfl)).lexes
        (lexes_cells plain)
      exact (before.seam (show isSeam "]" = true by rfl)).closed

end Sql

end TreeQuery
