import TreeQuery.Proofs.StatementParameters

/-!
# Quotes and brackets of composed text

`Scanner.scan` reads a statement from left to right, past literals and quoted
names, and keeps the brackets that are open.  A text is `Nested` if it can stand
anywhere outside quotes without a trace: whatever it opens it closes.  Texts that
are put together from nested ones are nested, and so is everything that is quoted.
-/

namespace TreeQuery

inductive Quote where
  | single
  | double
  deriving DecidableEq, Repr

def Quote.char : Quote → Char
  | .single => '\''
  | .double => '"'

inductive Bracket where
  | round
  | square
  deriving DecidableEq, Repr

inductive Mark where
  | quotes (quote : Quote)
  | opens (bracket : Bracket)
  | closes (bracket : Bracket)
  | none
  deriving DecidableEq, Repr

def Mark.ofChar (c : Char) : Mark :=
  if c = '\'' then .quotes .single
  else if c = '"' then .quotes .double
  else if c = '(' then .opens .round
  else if c = '[' then .opens .square
  else if c = ')' then .closes .round
  else if c = ']' then .closes .square
  else .none

structure Scanner where
  quote : Option Quote := none
  brackets : List Bracket := []
  deriving DecidableEq, Repr

namespace Scanner

/-- Read a character outside quotes; a bracket has to close the innermost open one. -/
def outside (brackets : List Bracket) (c : Char) : Option Scanner :=
  match Mark.ofChar c with
  | .quotes quote => some ⟨some quote, brackets⟩
  | .opens bracket => some ⟨none, bracket :: brackets⟩
  | .closes bracket =>
      match brackets with
      | [] => none
      | innermost :: outer => if innermost = bracket then some ⟨none, outer⟩ else none
  | .none => some ⟨none, brackets⟩

/-- Read a text.  Inside quotes, two quote characters stand for one. -/
def scan : Scanner → List Char → Option Scanner
  | state, [] => some state
  | ⟨none, brackets⟩, c :: rest => (outside brackets c).bind fun state => state.scan rest
  | ⟨some quote, brackets⟩, c :: rest =>
      if c = quote.char then
        match rest with
        | [] => some ⟨none, brackets⟩
        | next :: more =>
            if next = quote.char then scan ⟨some quote, brackets⟩ more
            else scan ⟨none, brackets⟩ (next :: more)
      else scan ⟨some quote, brackets⟩ rest

def step : Scanner → Char → Option Scanner
  | ⟨none, brackets⟩, c => outside brackets c
  | ⟨some quote, brackets⟩, c => some ⟨if c = quote.char then none else some quote, brackets⟩

theorem outside_char (brackets : List Bracket) (quote : Quote) :
    outside brackets quote.char = some ⟨some quote, brackets⟩ := by
  cases quote <;> rfl

/-- To close the quotes and to open them again comes to the same as to stay inside. -/
theorem scan_eq (state : Scanner) (text : List Char) :
    state.scan text = text.foldlM step state := by
  fun_induction scan state text with
  | case1 => rfl
  | case2 brackets c rest ih =>
      rw [List.foldlM_cons]
      exact congrArg (Option.bind (outside brackets c)) (funext ih)
  | case3 quote brackets => simp [step]
  | case4 quote brackets more ih => simp [step, outside_char, ih]
  | case5 quote brackets next more other ih => simpa [step] using ih
  | case6 quote brackets c rest other ih => simpa [step, other] using ih

example : Scanner.scan {} "('it''s (', [\"x\"\"]\"])".toList = some {} := by decide +kernel

example : Scanner.scan {} "('its)".toList = some ⟨some .single, [.round]⟩ := by decide +kernel

example : Scanner.scan {} "(a])".toList = none := by decide +kernel

end Scanner

/-! ## Composition -/

/-- Reading the text outside quotes closes the brackets `before` and leaves those `after` open. -/
def Turns (text : String) (before after : List Bracket) : Prop :=
  ∀ outer, text.toList.foldlM Scanner.step ⟨none, before ++ outer⟩ = some ⟨none, after ++ outer⟩

def Nested (text : String) : Prop := Turns text [] []

theorem Turns.append {left right : String} {before between after : List Bracket}
    (first : Turns left before between) (second : Turns right between after) :
    Turns (left ++ right) before after := by
  intro outer
  rw [String.toList_append, List.foldlM_append, first outer]
  exact second outer

theorem Nested.turns {text : String} (nested : Nested text) (brackets : List Bracket) :
    Turns text brackets brackets :=
  fun outer => nested (brackets ++ outer)

theorem Nested.append {left right : String} (first : Nested left) (second : Nested right) :
    Nested (left ++ right) :=
  Turns.append first second

theorem Nested.enclosed {start text finish : String} (nested : Nested text)
    (brackets : List Bracket) (opens : Turns start [] brackets)
    (closes : Turns finish brackets []) : Nested (start ++ text ++ finish) :=
  (opens.append (nested.turns brackets)).append closes

theorem Nested.parenthesized {text : String} (nested : Nested text) :
    Nested ("(" ++ text ++ ")") :=
  nested.enclosed [.round] (fun _ => rfl) (fun _ => rfl)

theorem nested_empty : Nested "" := fun _ => rfl

theorem nested_intercalate {separator : String} (between : Nested separator)
    {texts : List String} (each : ∀ text ∈ texts, Nested text) :
    Nested (separator.intercalate texts) := by
  induction texts with
  | nil => exact nested_empty
  | cons text rest ih =>
      obtain ⟨first, later⟩ := List.forall_mem_cons.mp each
      cases rest with
      | nil => simpa using first
      | cons next rest =>
          rw [String.intercalate_cons_cons]
          exact (first.append between).append (ih later)

theorem nested_list {texts : List String} (each : ∀ text ∈ texts, Nested text) :
    Nested (", ".intercalate texts) :=
  nested_intercalate (fun _ => rfl) each

theorem nested_join {texts : List String} (each : ∀ text ∈ texts, Nested text) :
    Nested (String.join (texts.map (" " ++ ·))) := by
  have space : Nested " " := fun _ => rfl
  induction texts with
  | nil => exact nested_empty
  | cons text rest ih =>
      obtain ⟨first, later⟩ := List.forall_mem_cons.mp each
      simpa using (space.append first).append (ih later)

/-! ## Characters without a meaning -/

namespace Scanner

theorem step_of_none {c : Char} (none : Mark.ofChar c = .none) (state : Scanner) :
    state.step c = some state := by
  obtain ⟨quote, brackets⟩ := state
  cases quote with
  | none => simp [step, outside, none]
  | some quote =>
      have other : c ≠ quote.char := by
        rintro rfl
        cases quote <;> cases none
      simp [step, other]

theorem foldlM_of_none {text : List Char} (none : ∀ c ∈ text, Mark.ofChar c = .none)
    (state : Scanner) : text.foldlM step state = some state := by
  induction text with
  | nil => rfl
  | cons c rest ih =>
      obtain ⟨here, later⟩ := List.forall_mem_cons.mp none
      rw [List.foldlM_cons, step_of_none here]
      exact ih later

end Scanner

theorem Mark.ofChar_eq_none {test : Char → Bool} {c : Char} (holds : test c = true)
    (fails : ['\'', '"', '(', '[', ')', ']'].any test = false) : Mark.ofChar c = .none := by
  have other : ∀ special ∈ ['\'', '"', '(', '[', ')', ']'], c ≠ special := by
    rintro special listed rfl
    exact List.any_eq_false.mp fails c listed holds
  simp only [List.forall_mem_cons] at other
  simp [Mark.ofChar, other]

theorem nested_of_all {test : Char → Bool} {text : String} (all : text.toList.all test = true)
    (fails : ['\'', '"', '(', '[', ')', ']'].any test = false) : Nested text :=
  fun outer => Scanner.foldlM_of_none
    (fun c member => Mark.ofChar_eq_none (List.all_eq_true.mp all c member) fails) ⟨none, outer⟩

theorem nested_of_isNameChar {text : String}
    (named : text.toList.all Lexeme.isNameChar = true) : Nested text :=
  nested_of_all named (by decide)

/-! ## Blanks -/

theorem Scanner.foldlM_squeeze (state : Scanner) (gap : Bool) (text : List Char) :
    (Text.squeeze gap text).foldlM step state = text.foldlM step state := by
  have space : ∀ state : Scanner, state.step ' ' = some state := step_of_none rfl
  induction text generalizing state gap with
  | nil => rfl
  | cons c rest ih =>
      by_cases blank : Text.isBlank c
      · have none : state.step c = some state :=
          step_of_none (Mark.ofChar_eq_none blank (by decide)) state
        simp [Text.squeeze, blank, ih, none]
      · cases gap <;> simp [Text.squeeze, blank, ih, space]

theorem Scanner.foldlM_dropBlanks (state : Scanner) (text : List Char) :
    (text.dropWhile Text.isBlank).foldlM step state = text.foldlM step state := by
  induction text with
  | nil => rfl
  | cons c rest ih =>
      by_cases blank : Text.isBlank c
      · have none : state.step c = some state :=
          step_of_none (Mark.ofChar_eq_none blank (by decide)) state
        simp [blank, ih, none]
      · simp [blank]

theorem Nested.collapse {text : String} (nested : Nested text) : Nested (Text.collapse text) := by
  intro outer
  rw [Text.collapse, String.toList_ofList, Scanner.foldlM_squeeze, Scanner.foldlM_dropBlanks]
  exact nested outer

/-! ## Quotes -/

theorem Scanner.foldlM_doubled (quote : Quote) (brackets : List Bracket) (text : List Char) :
    (Text.doubled quote.char text).foldlM step ⟨some quote, brackets⟩ =
      some ⟨some quote, brackets⟩ := by
  induction text with
  | nil => rfl
  | cons c rest ih =>
      by_cases same : c = quote.char
      · simp [Text.doubled, same, step, outside_char, ih]
      · simp [Text.doubled, same, step, ih]

theorem nested_quoted (quote : Quote) (text : String) : Nested (Text.quoted quote.char text) := by
  intro outer
  simp [Text.quoted, Scanner.step, Scanner.outside_char, Scanner.foldlM_doubled]

namespace Sql

theorem nested_identifier (name : String) : Nested (identifier name) := by
  unfold identifier
  split
  · rename_i bare
    obtain ⟨⟨-, all⟩, -⟩ : (_ ∧ name.toList.all isBareChar = true) ∧ _ := by
      simpa only [isBare, Bool.and_eq_true] using bare
    exact nested_of_all all (by decide)
  · exact nested_quoted .double name

theorem nested_literal (text : String) : Nested (literal text) := nested_quoted .single text

theorem nested_tableName (name : String) : Nested (tableName name) := by
  refine nested_intercalate (fun _ => rfl) fun text member => ?_
  obtain ⟨part, -, rfl⟩ := List.mem_map.mp member
  exact nested_quoted .double (String.ofList part)

theorem nested_toString (number : Nat) : Nested (toString number) :=
  nested_of_isNameChar (toString_isNameChar number)

/-! ## Clauses -/

theorem nested_rowValue {columns : List String} (each : ∀ column ∈ columns, Nested column) :
    Nested (rowValue columns) := by
  have row : Nested ("(" ++ ", ".intercalate columns ++ ")") :=
    (nested_list each).parenthesized
  match columns with
  | [] => exact row
  | [column] => exact each column List.mem_cons_self
  | _ :: _ :: _ => exact row

theorem nested_connected {word whenEmpty : String} (between : Nested (" " ++ word ++ " "))
    (empty : Nested whenEmpty) {operands : List String}
    (each : ∀ operand ∈ operands, Nested operand) :
    Nested (connected word whenEmpty operands) := by
  match operands with
  | [] => exact empty
  | [operand] => exact each operand List.mem_cons_self
  | first :: second :: rest =>
      refine nested_intercalate between fun text member => ?_
      obtain ⟨operand, listed, rfl⟩ := List.mem_map.mp member
      exact (each operand listed).parenthesized

theorem nested_conjunction {operands : List String} (each : ∀ operand ∈ operands, Nested operand) :
    Nested (conjunction operands) :=
  nested_connected (fun _ => rfl) (fun _ => rfl) each

theorem nested_disjunction {operands : List String} (each : ∀ operand ∈ operands, Nested operand) :
    Nested (disjunction operands) :=
  nested_connected (fun _ => rfl) (fun _ => rfl) each

theorem nested_whereClause {conditions : List String}
    (each : ∀ condition ∈ conditions, Nested condition) : Nested (whereClause conditions) := by
  have word : Nested "WHERE " := fun _ => rfl
  unfold whereClause
  split
  · exact nested_empty
  · exact word.append (nested_conjunction each)

theorem nested_slice (limit offset : Option Nat) : Nested (slice limit offset) := by
  have limits : Nested " LIMIT " := fun _ => rfl
  have offsets : Nested " OFFSET " := fun _ => rfl
  refine Nested.append ?_ ?_
  · cases limit with
    | none => exact nested_empty
    | some count => exact limits.append (nested_toString count)
  · cases offset with
    | none => exact nested_empty
    | some count => exact offsets.append (nested_toString count)

theorem SelectText.nested_render {parts : SelectText} (output : Nested parts.output)
    (source : Nested parts.source) (joins : ∀ join ∈ parts.joins, Nested join)
    (conditions : ∀ condition ∈ parts.conditions, Nested condition)
    (order : ∀ text ∈ parts.order, Nested text) : Nested parts.render := by
  have select : Nested "SELECT " := fun _ => rfl
  have origin : Nested " FROM " := fun _ => rfl
  have space : Nested " " := fun _ => rfl
  have filter := nested_whereClause conditions
  refine Nested.collapse (Nested.append (Nested.append (Nested.append (Nested.append
    (((select.append output).append origin).append source) (nested_join joins)) ?_) ?_)
    (nested_slice _ _))
  · split
    · exact nested_empty
    · exact space.append filter
  · cases given : parts.order with
    | none => exact nested_empty
    | some text => exact space.append (order text given)

theorem nested_objectCall {pairs : List (String × String)}
    (each : ∀ pair ∈ pairs, Nested pair.2) : Nested (objectCall pairs) := by
  have comma : Nested ", " := fun _ => rfl
  have listed : Nested (", ".intercalate
      (pairs.map fun pair => literal pair.1 ++ ", " ++ pair.2)) := by
    refine nested_list fun text member => ?_
    obtain ⟨pair, listed, rfl⟩ := List.mem_map.mp member
    exact ((nested_literal pair.1).append comma).append (each pair listed)
  exact listed.enclosed [.round] (fun _ => rfl) (fun _ => rfl)

theorem nested_objectText (size : Nat) {pairs : List (String × String)}
    (each : ∀ pair ∈ pairs, Nested pair.2) : Nested (objectText size pairs) := by
  have bars : Nested " || " := fun _ => rfl
  have cast : Nested "::jsonb" := fun _ => rfl
  unfold objectText
  simp only
  split
  · exact nested_objectCall each
  · refine Nested.enclosed (nested_intercalate bars fun text member => ?_) [.round]
      (fun _ => rfl) (fun _ => rfl)
    obtain ⟨part, listed, rfl⟩ := List.mem_map.mp member
    have call := nested_objectCall fun pair member => each pair (mem_of_mem_chunks listed member)
    exact call.append cast

theorem nested_arrayText {value : String} (nested : Nested value) : Nested (arrayText value) :=
  nested.enclosed [.round, .round] (fun _ => rfl) (fun _ => rfl)

/-! ## Tests -/

section Tests

variable {π : Type} {slotText : π → String} {subject : String}

theorem Cell.nested_render {cell : Cell π} (each : ∀ slot ∈ cell.slots, Nested (slotText slot)) :
    Nested (cell.render slotText) := by
  cases cell with
  | one slot => exact each slot List.mem_cons_self
  | row slots =>
      refine (nested_list fun text member => ?_).parenthesized
      obtain ⟨slot, listed, rfl⟩ := List.mem_map.mp member
      exact each slot listed

theorem nested_cells {cells : List (Cell π)}
    (each : ∀ slot ∈ cells.flatMap Cell.slots, Nested (slotText slot)) :
    Nested (", ".intercalate (cells.map (Cell.render slotText))) := by
  refine nested_list fun text member => ?_
  obtain ⟨cell, listed, rfl⟩ := List.mem_map.mp member
  exact Cell.nested_render fun slot inside =>
    each slot (List.mem_flatMap.mpr ⟨cell, listed, inside⟩)

namespace Test

theorem nested_nullTest (nested : Nested subject) (negated : Bool) :
    Nested (nullTest negated subject) := by
  cases negated <;> exact nested.append fun _ => rfl

theorem nested_membership (nested : Nested subject) (negated : Bool) {cells : List (Cell π)}
    (each : ∀ slot ∈ cells.flatMap Cell.slots, Nested (slotText slot)) :
    Nested (membership negated subject (cells.map (Cell.render slotText))) := by
  have opens : Turns (if negated then " NOT IN (" else " IN (") [] [.round] := by
    cases negated <;> exact fun _ => rfl
  exact ((Turns.append nested opens).append ((nested_cells each).turns _)).append fun _ => rfl

theorem nested_render (nested : Nested subject) {test : Test π}
    (each : ∀ slot ∈ test.slots, Nested (slotText slot)) :
    Nested (test.render slotText subject) := by
  have space : Nested " " := fun _ => rfl
  cases test with
  | constant value =>
      have no : Nested "FALSE" := fun _ => rfl
      have yes : Nested "TRUE" := fun _ => rfl
      cases value
      · exact no
      · exact yes
  | isNull negated => exact nested_nullTest nested negated
  | compare comparison slot =>
      have symbol : Nested comparison.text := by cases comparison <;> exact fun _ => rfl
      exact (((nested.append space).append symbol).append space).append
        (each slot List.mem_cons_self)
  | matchesWords slot =>
      have words : Nested ("to_tsvector(" ++ subject ++ ") @@ plainto_tsquery(" ++
          slotText slot ++ ")") := by
        have opens : Turns "to_tsvector(" [] [.round] := fun _ => rfl
        have turns : Turns ") @@ plainto_tsquery(" [.round] [.round] := fun _ => rfl
        exact (((opens.append (nested.turns _)).append turns).append
          ((each slot List.mem_cons_self).turns _)).append fun _ => rfl
      exact words
  | member negated cells => exact nested_membership nested negated each
  | memberOrNull negated cells =>
      have either : Nested (if negated then " AND " else " OR ") := by
        cases negated <;> exact fun _ => rfl
      have opens : Turns "(" [] [.round] := fun _ => rfl
      exact (((opens.append ((nested_membership nested negated each).turns _)).append
        (either.turns _)).append ((nested_nullTest nested negated).turns _)).append fun _ => rfl
  | between low high =>
      obtain ⟨first, second⟩ := List.forall_mem_append.mp each
      have lower : Nested " BETWEEN " := fun _ => rfl
      have upper : Nested " AND " := fun _ => rfl
      exact (((nested.append lower).append (Cell.nested_render first)).append upper).append
        (Cell.nested_render second)
  | contains cells =>
      have opens : Turns " @> ARRAY[" [] [.square] := fun _ => rfl
      exact ((Turns.append nested opens).append ((nested_cells each).turns _)).append fun _ => rfl

end Test

end Tests

end Sql

end TreeQuery
