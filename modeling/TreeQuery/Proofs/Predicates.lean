import Mathlib.Data.List.TakeWhile
import TreeQuery.Placeholder
import TreeQuery.Predicate
import TreeQuery.Proofs.ListMembership
import TreeQuery.Proofs.Registry
import TreeQuery.Proofs.StatementText

/-!
# The names and the values of a predicate

A predicate is written with the next names of a supply.  A name stands behind a colon and
is as long as it can be, so the names can be read back from the text: they are those that
were drawn, in the order in which they were drawn, and each is bound to its own literal.
-/

namespace TreeQuery

open Lexeme (isNameChar)

/-! ## Reading names -/

def namesBehindColons : List Char → List String
  | [] => []
  | c :: rest =>
      if c = ':' then String.ofList (rest.takeWhile isNameChar) :: namesBehindColons rest
      else namesBehindColons rest

def namesIn (text : String) : List String := namesBehindColons text.toList

def Unmarked (text : String) : Prop := ':' ∉ text.toList

instance (text : String) : Decidable (Unmarked text) := inferInstanceAs (Decidable (_ ∉ _))

def separates (text : String) : Bool :=
  text.toList.head?.any (fun c => !isNameChar c) && !text.toList.contains ':'

theorem Unmarked.append {left right : String} (first : Unmarked left) (second : Unmarked right) :
    Unmarked (left ++ right) := by
  simpa [Unmarked] using And.intro first second

theorem namesIn_unmarked_append {left : String} (unmarked : Unmarked left) (right : String) :
    namesIn (left ++ right) = namesIn right := by
  unfold namesIn
  unfold Unmarked at unmarked
  rw [String.toList_append]
  generalize left.toList = characters at unmarked
  induction characters with
  | nil => rfl
  | cons c rest ih =>
      obtain ⟨here, later⟩ := not_or.mp (mt List.mem_cons.mpr unmarked)
      simp [namesBehindColons, Ne.symm here, ih later]

theorem namesIn_of_unmarked {text : String} (unmarked : Unmarked text) :
    namesIn text = [] := by
  simpa [namesIn, namesBehindColons] using namesIn_unmarked_append unmarked ""

theorem namesIn_separated {separator : String} (seam : separates separator = true)
    (left right : String) :
    namesIn (left ++ separator ++ right) = namesIn left ++ namesIn right := by
  obtain ⟨ends, unmarked⟩ : separator.toList.head?.any (fun c => !isNameChar c) = true ∧
      Unmarked separator := by
    simpa [separates, Unmarked] using seam
  have stops : ∀ after : List Char, (separator.toList ++ after).takeWhile isNameChar = [] := by
    intro after
    cases characters : separator.toList with
    | nil => simp [characters] at ends
    | cons c rest =>
        have here : isNameChar c = false := by simpa [characters] using ends
        simp [here]
  rw [String.append_assoc, ← namesIn_unmarked_append unmarked right]
  unfold namesIn
  simp only [String.toList_append]
  induction left.toList with
  | nil => rfl
  | cons c rest ih =>
      have same : (rest ++ (separator.toList ++ right.toList)).takeWhile isNameChar =
          rest.takeWhile isNameChar := by
        rw [List.takeWhile_append, stops, List.append_nil]
        split
        · rename_i whole
          exact ((List.takeWhile_prefix isNameChar).eq_of_length whole).symm
        · rfl
      by_cases colon : c = ':'
      · simp [namesBehindColons, colon, same, ih]
      · simp [namesBehindColons, colon, ih]

theorem namesIn_closed {separator : String} (seam : separates separator = true)
    (left : String) : namesIn (left ++ separator) = namesIn left := by
  simpa [namesIn, namesBehindColons] using namesIn_separated seam left ""

theorem namesIn_intercalate {separator : String} (seam : separates separator = true)
    {α : Type} {items : List α} {text : α → String} {names : α → List String}
    (each : ∀ item ∈ items, namesIn (text item) = names item) :
    namesIn (separator.intercalate (items.map text)) = items.flatMap names := by
  induction items with
  | nil => rfl
  | cons item rest ih =>
      obtain ⟨here, later⟩ := List.forall_mem_cons.mp each
      cases rest with
      | nil => simpa using here
      | cons next rest =>
          rw [List.map_cons, List.map_cons, String.intercalate_cons_cons,
            namesIn_separated seam, here, List.flatMap_cons, ← ih later, List.map_cons]

theorem namesIn_placeholder {name : String} (plain : name.toList.all isNameChar = true) :
    namesIn (Predicate.placeholder name) = [name] := by
  have unmarked : Unmarked name := by
    intro colon
    exact absurd (List.all_eq_true.mp plain _ colon) (by decide)
  have nothing : namesBehindColons name.toList = [] := namesIn_of_unmarked unmarked
  have whole : name.toList.takeWhile isNameChar = name.toList :=
    List.takeWhile_eq_self_iff.mpr (List.all_eq_true.mp plain)
  simp [namesIn, Predicate.placeholder, namesBehindColons, whole, nothing]

/-! ## Names in predicates -/

namespace Sql

def PlainNames (names : List String) : Prop :=
  ∀ name ∈ names, name.toList.all isNameChar = true

theorem Cell.namesIn_render {cell : Cell String} (plain : PlainNames cell.slots) :
    namesIn (cell.render Predicate.placeholder) = cell.slots := by
  have each : ∀ name ∈ cell.slots, namesIn (Predicate.placeholder name) = [name] :=
    fun name member => namesIn_placeholder (plain name member)
  cases cell with
  | one name => exact each name List.mem_cons_self
  | row names =>
      have listed : namesIn (", ".intercalate (names.map Predicate.placeholder)) = names := by
        simpa [Cell.slots] using namesIn_intercalate (show separates ", " = true by rfl) each
      rw [Cell.render, namesIn_closed (show separates ")" = true by rfl),
        namesIn_unmarked_append (show Unmarked "(" by decide), listed]
      rfl

theorem flatMap_namesIn_cells {cells : List (Cell String)}
    (plain : PlainNames (cells.flatMap Cell.slots)) :
    (cells.map (Cell.render Predicate.placeholder)).flatMap namesIn =
      cells.flatMap Cell.slots := by
  rw [List.flatMap_map]
  exact List.flatMap_congr fun cell member => Cell.namesIn_render fun name inside =>
    plain name (List.mem_flatMap.mpr ⟨cell, member, inside⟩)

theorem namesIn_cells {cells : List (Cell String)}
    (plain : PlainNames (cells.flatMap Cell.slots)) :
    namesIn (", ".intercalate (cells.map (Cell.render Predicate.placeholder))) =
      cells.flatMap Cell.slots :=
  namesIn_intercalate rfl fun cell member => Cell.namesIn_render fun name inside =>
    plain name (List.mem_flatMap.mpr ⟨cell, member, inside⟩)

variable {column : String}

theorem Test.unmarked_nullTest (unmarked : Unmarked column) (negated : Bool) :
    Unmarked (nullTest negated column) := by
  refine unmarked.append ?_
  cases negated <;> decide

theorem Test.namesIn_membership (unmarked : Unmarked column) (negated : Bool)
    {cells : List (Cell String)} (plain : PlainNames (cells.flatMap Cell.slots)) :
    namesIn (membership negated column (cells.map (Cell.render Predicate.placeholder))) =
      cells.flatMap Cell.slots := by
  have opened : Unmarked (column ++ if negated then " NOT IN (" else " IN (") := by
    refine unmarked.append ?_
    cases negated <;> decide
  rw [membership, namesIn_closed (show separates ")" = true by rfl),
    namesIn_unmarked_append opened, namesIn_cells plain]

theorem Test.namesIn_render (unmarked : Unmarked column) {test : Test String}
    (plain : PlainNames test.slots) :
    namesIn (test.render Predicate.placeholder column) = test.slots := by
  have single : ∀ {name : String}, PlainNames [name] →
      namesIn (Predicate.placeholder name) = [name] :=
    fun plain => namesIn_placeholder (plain _ List.mem_cons_self)
  cases test with
  | constant value =>
      cases value with
      | true => exact namesIn_of_unmarked (show Unmarked "TRUE" by decide)
      | false => exact namesIn_of_unmarked (show Unmarked "FALSE" by decide)
  | isNull negated => exact namesIn_of_unmarked (unmarked_nullTest unmarked negated)
  | compare comparison name =>
      have word : Unmarked comparison.text := by cases comparison <;> decide
      have before : Unmarked (column ++ " " ++ comparison.text ++ " ") :=
        ((unmarked.append (by decide)).append word).append (by decide)
      rw [render, namesIn_unmarked_append before, single plain]
      rfl
  | matchesWords name =>
      have before : Unmarked ("to_tsvector(" ++ column ++ ") @@ plainto_tsquery(") :=
        (Unmarked.append (by decide) unmarked).append (by decide)
      rw [render, namesIn_closed (show separates ")" = true by rfl),
        namesIn_unmarked_append before, single plain]
      rfl
  | member negated cells => exact namesIn_membership unmarked negated plain
  | memberOrNull negated cells =>
      have word : separates (if negated then " AND " else " OR ") = true := by
        cases negated <;> rfl
      rw [render, namesIn_closed (show separates ")" = true by rfl),
        namesIn_separated word, namesIn_unmarked_append (show Unmarked "(" by decide),
        namesIn_membership unmarked negated plain,
        namesIn_of_unmarked (unmarked_nullTest unmarked negated), List.append_nil]
      rfl
  | between low high =>
      obtain ⟨lower, upper⟩ : PlainNames low.slots ∧ PlainNames high.slots :=
        ⟨fun name member => plain name (List.mem_append_left _ member),
          fun name member => plain name (List.mem_append_right _ member)⟩
      have before : Unmarked (column ++ " BETWEEN ") := unmarked.append (by decide)
      rw [render, namesIn_separated (show separates " AND " = true by rfl),
        namesIn_unmarked_append before, Cell.namesIn_render lower,
        Cell.namesIn_render upper]
      rfl
  | contains cells =>
      have before : Unmarked (column ++ " @> ARRAY[") := unmarked.append (by decide)
      rw [render, namesIn_closed (show separates "]" = true by rfl),
        namesIn_unmarked_append before, namesIn_cells plain]
      rfl

end Sql

/-! ## Drawing names -/

section Drawing

variable {σ : Type} (next : σ → String × σ)

def drawNames : Nat → σ → List String × σ
  | 0, state => ([], state)
  | count + 1, state =>
      let (name, state) := next state
      let (names, state) := drawNames count state
      (name :: names, state)

/-- The names of a supply consist of name characters, and none of them comes again. -/
structure Supplies (state : σ) : Prop where
  plain : ∀ count, Sql.PlainNames (drawNames next count state).1
  distinct : ∀ count, (drawNames next count state).1.Nodup

theorem drawNames_length (count : Nat) (state : σ) :
    (drawNames next count state).1.length = count := by
  induction count generalizing state with
  | zero => rfl
  | succ count ih => simp [drawNames, ih]

theorem fillList_bindNext (values : List Json) (state : σ) (bound : List (String × Json)) :
    Sql.fillList (Predicate.bindNext next) values (state, bound) =
      ((drawNames next values.length state).1, (drawNames next values.length state).2,
        bound ++ (drawNames next values.length state).1.zip values) := by
  induction values generalizing state bound with
  | nil => simp [Sql.fillList, drawNames]
  | cons value rest ih => simp [Sql.fillList, Predicate.bindNext, drawNames, ih]

def Sql.Test.named (test : Sql.Test Json) (state : σ) : Sql.Test String :=
  (test.fill (Predicate.bindNext next) (state, [])).1

theorem Sql.Test.named_slots (test : Sql.Test Json) (state : σ) :
    (test.named next state).slots = (drawNames next test.slots.length state).1 := by
  rw [named, (Sql.Test.fill_eq _ test _).2.1, fillList_bindNext]

theorem Sql.Test.fill_bindNext (test : Sql.Test Json) (state : σ) :
    test.fill (Predicate.bindNext next) (state, []) =
      (test.named next state, (drawNames next test.slots.length state).2,
        (drawNames next test.slots.length state).1.zip test.slots) := by
  obtain ⟨-, -, drawn⟩ := Sql.Test.fill_eq (Predicate.bindNext next) test (state, [])
  rw [fillList_bindNext] at drawn
  exact Prod.ext rfl drawn

theorem Operator.apply_ok {operator : Operator} {column : String} {operand : Json}
    {state after : σ} {predicate : Predicate} :
    operator.apply next column operand state = .ok (predicate, after) ↔
      ∃ test, operator.test operand = .ok test ∧
        predicate = ⟨(test.named next state).render Predicate.placeholder column,
          (drawNames next test.slots.length state).1.zip test.slots⟩ ∧
        after = (drawNames next test.slots.length state).2 := by
  unfold Operator.apply
  rw [Except.bind_ok]
  refine exists_congr fun test => and_congr_right fun _ => ?_
  rw [Sql.Test.fill_bindNext]
  constructor
  · rintro ⟨⟩
    exact ⟨rfl, rfl⟩
  · rintro ⟨rfl, rfl⟩
    rfl

end Drawing

/-! ## Reading an operand -/

def Json.flattened : Json → List Json
  | .array parts => parts
  | item => [item]

def amongCells {π : Type} (negated hasNull : Bool) (cells : List (Sql.Cell π)) : Sql.Test π :=
  match cells, hasNull with
  | [], false => .constant negated
  | [], true => .isNull negated
  | cells, false => .member negated cells
  | cells, true => .memberOrNull negated cells

theorem slots_amongCells {π : Type} (negated hasNull : Bool) (cells : List (Sql.Cell π)) :
    (amongCells negated hasNull cells).slots = cells.flatMap Sql.Cell.slots := by
  cases cells <;> cases hasNull <;> rfl

namespace Operator

variable {operator : Operator} {operand : Json} {test : Sql.Test Json}

/-- The ways in which an operator reads an operand, with one rule for each test that it gives. -/
inductive Reads : Operator → Json → Sql.Test Json → Prop
  | equalsNull : Reads .eq .null (.isNull false)
  | differsFromNull : Reads .ne .null (.isNull true)
  | present (value : Bool) : Reads .isPresent (.bool value) (.isNull value)
  | single {operator : Operator} {operand : Json}
      (shape : operator.shape = .scalar ∨ operator.shape = .any)
      (bound : operand = .null → operator ≠ .eq ∧ operator ≠ .ne) :
      Reads operator operand (operator.single operand)
  | among (negated : Bool) {items : List Json} {cells : List (Sql.Cell Json)}
      (read : (listOperator negated).cells (nonNull items) = .ok cells) :
      Reads (listOperator negated) (.array items)
        (amongCells negated (items.any Json.isNull) cells)
  | containsNone : Reads .contains (.array []) (.constant true)
  | contains {items : List Json} {cells : List (Sql.Cell Json)}
      (read : Operator.contains.cells items = .ok cells) :
      Reads .contains (.array items) (.contains cells)
  | between {low high : Json} {first second : Sql.Cell Json}
      (lower : Operator.between.cell low = .ok first)
      (upper : Operator.between.cell high = .ok second) :
      Reads .between (.array [low, high]) (.between first second)

theorem cells_length {items : List Json} {cells : List (Sql.Cell Json)}
    (read : operator.cells items = .ok cells) : cells.length = items.length := by
  induction items generalizing cells with
  | nil =>
      cases read
      rfl
  | cons item rest ih =>
      obtain ⟨cell, -, read⟩ := Except.bind_ok.mp read
      obtain ⟨others, later, result⟩ := Except.bind_ok.mp read
      cases result
      rw [List.length_cons, List.length_cons, ih later]

theorem membership_ok {negated : Bool} {items : List Json}
    (read : operator.membership negated items = .ok test) :
    ∃ cells, operator.cells (nonNull items) = .ok cells ∧
      test = amongCells negated (items.any Json.isNull) cells := by
  cases items with
  | nil =>
      cases read
      exact ⟨[], rfl, rfl⟩
  | cons item rest =>
      have unfolded : operator.membership negated (item :: rest) =
          if (nonNull (item :: rest)).isEmpty then .ok (.isNull negated)
          else operator.cells (nonNull (item :: rest)) >>= fun cells =>
            .ok (if (item :: rest).any Json.isNull then .memberOrNull negated cells
              else .member negated cells) := rfl
      rw [unfolded] at read
      split at read
      · rename_i none
        have empty := List.isEmpty_iff.mp none
        have null : item.isNull = true := by
          simpa using List.filter_eq_nil_iff.mp empty item List.mem_cons_self
        cases read
        rw [empty]
        exact ⟨[], rfl, by simp [amongCells, null]⟩
      · rename_i some
        obtain ⟨cells, given, result⟩ := Except.bind_ok.mp read
        cases result
        refine ⟨cells, given, ?_⟩
        have length := cells_length given
        cases cells with
        | nil => simp [List.length_eq_zero_iff.mp length.symm] at some
        | cons cell others => cases (item :: rest).any Json.isNull <;> rfl

theorem reads_interval {items : List Json}
    (read : Operator.between.interval items operand = .ok test) :
    Reads .between (.array items) test := by
  unfold Operator.interval at read
  split at read
  · cases read
  · obtain ⟨first, lower, read⟩ := Except.bind_ok.mp read
    obtain ⟨second, upper, result⟩ := Except.bind_ok.mp read
    cases result
    exact .between lower upper
  · cases read

theorem reads_listed (shape : operator.shape = .array)
    (read : operator.listed operand = .ok test) : Reads operator operand test := by
  cases operand with
  | array items =>
      cases operator with
      | isIn =>
          obtain ⟨cells, given, rfl⟩ := membership_ok read
          exact .among false given
      | notIn =>
          obtain ⟨cells, given, rfl⟩ := membership_ok read
          exact .among true given
      | between => exact reads_interval read
      | contains =>
          simp only [listed] at read
          split at read
          · rename_i empty
            cases read
            rw [List.isEmpty_iff.mp empty]
            exact .containsNone
          · obtain ⟨cells, given, result⟩ := Except.bind_ok.mp read
            cases result
            exact .contains given
      | _ => cases shape
  | _ => cases read

theorem reads_test (read : operator.test operand = .ok test) : Reads operator operand test := by
  unfold Operator.test at read
  split at read
  · cases read
    exact .equalsNull
  · cases read
    exact .differsFromNull
  · rename_i notEqual notDifferent
    have bound : operand = .null → operator ≠ .eq ∧ operator ≠ .ne := by
      rintro rfl
      exact ⟨fun same => notEqual same rfl, fun same => notDifferent same rfl⟩
    split at read
    · rename_i shape
      split at read
      · cases read
        cases operator with
        | isPresent => exact .present _
        | _ => cases shape
      · cases read
    · rename_i shape
      split at read
      · cases read
        exact .single (.inl shape) bound
      · cases read
    · rename_i shape
      split at read
      · cases read
      · cases read
        exact .single (.inr shape) bound
    · rename_i shape
      exact reads_listed shape read

/-! ## The literals of an operand -/

/--
The literals that an operator binds.  Null as the operand of `_eq` or `_ne` is tested and not
bound, and so are the null elements of a list in which the column is looked for.
-/
def literals (operator : Operator) (operand : Json) : List Json :=
  match operator.shape, operand with
  | .flag, _ => []
  | .array, .array items =>
      (if Filter.isMembership operator then nonNull items else items).flatMap Json.flattened
  | .array, _ => []
  | _, .null => if operator = .eq ∨ operator = .ne then [] else [.null]
  | _, operand => [operand]

theorem cell_slots {item : Json} {cell : Sql.Cell Json} (read : operator.cell item = .ok cell) :
    cell.slots = item.flattened := by
  unfold Operator.cell at read
  split at read
  · cases read
  · split at read
    · cases read
      rfl
    · cases read
  · rename_i scalar
    cases read
    cases item with
    | array parts => exact (scalar parts rfl).elim
    | _ => rfl

theorem cells_slots {items : List Json} {cells : List (Sql.Cell Json)}
    (read : operator.cells items = .ok cells) :
    cells.flatMap Sql.Cell.slots = items.flatMap Json.flattened := by
  induction items generalizing cells with
  | nil =>
      cases read
      rfl
  | cons item rest ih =>
      obtain ⟨cell, first, read⟩ := Except.bind_ok.mp read
      obtain ⟨others, later, result⟩ := Except.bind_ok.mp read
      cases result
      rw [List.flatMap_cons, List.flatMap_cons, cell_slots first, ih later]

theorem literals_listOperator (negated : Bool) (items : List Json) :
    (listOperator negated).literals (.array items) = (nonNull items).flatMap Json.flattened := by
  cases negated <;> rfl

theorem literals_single (shape : operator.shape = .scalar ∨ operator.shape = .any)
    (bound : operand = .null → operator ≠ .eq ∧ operator ≠ .ne) :
    operator.literals operand = [operand] := by
  unfold literals
  cases operand with
  | null => rcases shape with shape | shape <;> simp [shape, bound rfl]
  | _ => rcases shape with shape | shape <;> simp [shape]

theorem Reads.slots (reads : Reads operator operand test) :
    test.slots = operator.literals operand := by
  cases reads with
  | equalsNull | differsFromNull | present | containsNone => rfl
  | single shape bound =>
      rw [literals_single shape bound]
      cases operator <;> rfl
  | among negated read => rw [literals_listOperator, ← cells_slots read, slots_amongCells]
  | contains read => exact cells_slots read
  | between lower upper =>
      simp [Sql.Test.slots, cell_slots lower, cell_slots upper, literals, Operator.shape,
        Filter.isMembership]

/-! ## Parameters by position -/

/--
The text of an operator over a column and parameters that are written already.  A parameter is
taken by its position, and there is no text if there is none at that position.
-/
def template (operator : Operator) (column : String) (parameters : List String) : Option String :=
  let compared (sign : String) : Option String :=
    parameters[0]?.map fun parameter => column ++ " " ++ sign ++ " " ++ parameter
  let listed (start finish : String) : String :=
    column ++ start ++ ", ".intercalate parameters ++ finish
  match operator with
  | .eq => compared "="
  | .ne => compared "<>"
  | .gt => compared ">"
  | .gte => compared ">="
  | .lt => compared "<"
  | .lte => compared "<="
  | .like => compared "LIKE"
  | .ilike => compared "ILIKE"
  | .re => compared "~"
  | .contained => compared "<@"
  | .overlap => compared "&&"
  | .fulltext =>
      parameters[0]?.map fun words =>
        "to_tsvector(" ++ column ++ ") @@ plainto_tsquery(" ++ words ++ ")"
  | .isIn => some (listed " IN (" ")")
  | .notIn => some (listed " NOT IN (" ")")
  | .contains => some (listed " @> ARRAY[" "]")
  | .between => do
      let low ← parameters[0]?
      let high ← parameters[1]?
      pure (column ++ " BETWEEN " ++ low ++ " AND " ++ high)
  | .isPresent =>
      parameters[0]?.map fun flag =>
        column ++ if flag = "true" then " IS NOT NULL" else " IS NULL"

/-- The text is made from the parameters, each of which is where the operator looks for it. -/
inductive Writes (operator : Operator) (column : String) : List String → String → Prop
  | constant (value : Bool) : Writes operator column [] (if value then "TRUE" else "FALSE")
  | nullTest (negated : Bool) : Writes operator column [] (Sql.Test.nullTest negated column)
  | template {parameters : List String} {sql : String}
      (filled : operator.template column parameters = some sql) :
      Writes operator column parameters sql
  | besideNull (negated : Bool) {parameters : List String} {sql : String}
      (filled : operator.template column parameters = some sql) :
      Writes operator column parameters
        ("(" ++ sql ++ (if negated then " AND " else " OR ") ++
          Sql.Test.nullTest negated column ++ ")")

theorem template_listOperator (negated : Bool) (column : String) (parameters : List String) :
    (listOperator negated).template column parameters =
      some (Sql.Test.membership negated column parameters) := by
  cases negated <;> rfl

theorem template_single (shape : operator.shape = .scalar ∨ operator.shape = .any)
    {σ : Type} (next : σ → String × σ) (state : σ) (column : String) (operand : Json) :
    operator.template column [Predicate.placeholder (next state).1] =
      some (((operator.single operand).named next state).render Predicate.placeholder column) := by
  cases operator with
  | isIn | notIn | contains | between | isPresent => rcases shape with shape | shape <;> cases shape
  | _ => rfl

/-- Whatever an operator reads, its text finds all parameters, with the names of the slots. -/
theorem Reads.writes (reads : Reads operator operand test) {σ : Type} (next : σ → String × σ)
    (state : σ) (column : String) (plain : Sql.PlainNames (test.named next state).slots) :
    ∃ parameters,
      operator.Writes column parameters
        ((test.named next state).render Predicate.placeholder column) ∧
      parameters.flatMap namesIn = (test.named next state).slots := by
  cases reads with
  | equalsNull => exact ⟨[], .nullTest false, rfl⟩
  | differsFromNull => exact ⟨[], .nullTest true, rfl⟩
  | present value =>
      have silent : namesIn (toString value) = [] := by
        cases value <;> exact namesIn_of_unmarked (by decide)
      refine ⟨[toString value], .template ?_, (List.flatMap_singleton _ _).trans silent⟩
      cases value <;> rfl
  | single shape bound =>
      have slots : ((operator.single operand).named next state).slots = [(next state).1] := by
        cases operator <;> rfl
      rw [slots] at plain ⊢
      refine ⟨_, .template (template_single shape next state column operand), ?_⟩
      simp [namesIn_placeholder (plain _ List.mem_cons_self)]
  | @among negated items cells read =>
      -- the four forms of the test: with and without cells, with and without a null
      cases cells with
      | nil =>
          cases items.any Json.isNull with
          | true => exact ⟨[], .nullTest negated, rfl⟩
          | false =>
              refine ⟨[], ?_, rfl⟩
              cases negated with
              | true => exact .constant true
              | false => exact .constant false
      | cons cell others =>
          cases null : items.any Json.isNull with
          | true =>
              rw [null] at plain
              exact ⟨_, .besideNull negated (template_listOperator negated column _),
                Sql.flatMap_namesIn_cells plain⟩
          | false =>
              rw [null] at plain
              exact ⟨_, .template (template_listOperator negated column _),
                Sql.flatMap_namesIn_cells plain⟩
  | containsNone => exact ⟨[], .constant true, rfl⟩
  | contains read => exact ⟨_, .template rfl, Sql.flatMap_namesIn_cells plain⟩
  | between lower upper =>
      have both : ∀ {low high : Sql.Cell String}, Sql.PlainNames (low.slots ++ high.slots) →
          ([low, high].map (Sql.Cell.render Predicate.placeholder)).flatMap namesIn =
            low.slots ++ high.slots := by
        intro low high plain
        have cells : Sql.PlainNames ([low, high].flatMap Sql.Cell.slots) := by simpa using plain
        simpa using Sql.flatMap_namesIn_cells cells
      refine ⟨_, ?_, both plain⟩
      exact .template rfl

/--
Applying an operator draws as many names as it binds literals.  The names stand in the text in
the order in which they were drawn, and each is bound to its literal.
-/
theorem apply_binds_what_it_writes {σ : Type} {next : σ → String × σ} {state after : σ}
    (supplies : Supplies next state) {column : String} (unmarked : Unmarked column)
    {predicate : Predicate}
    (done : operator.apply next column operand state = .ok (predicate, after)) :
    ∃ count,
      (predicate.bindings.map Prod.fst, after) = drawNames next count state ∧
      (predicate.bindings.map Prod.fst).Nodup ∧
      namesIn predicate.sql = predicate.bindings.map Prod.fst ∧
      predicate.bindings.map Prod.snd = operator.literals operand ∧
      ∃ parameters, operator.Writes column parameters predicate.sql ∧
        parameters.flatMap namesIn = predicate.bindings.map Prod.fst := by
  obtain ⟨test, read, rfl, rfl⟩ := (apply_ok next).mp done
  have reads := reads_test read
  have slots := test.named_slots next state
  have plain : Sql.PlainNames (test.named next state).slots := by
    rw [slots]
    exact supplies.plain _
  have length := drawNames_length next test.slots.length state
  have names : ((drawNames next test.slots.length state).1.zip test.slots).map Prod.fst =
      (test.named next state).slots := by
    rw [List.map_fst_zip (Nat.le_of_eq length), slots]
  refine ⟨test.slots.length, ?_, ?_, ?_, ?_, ?_⟩
  · rw [names, slots]
  · rw [names, slots]
    exact supplies.distinct _
  · rw [names]
    exact Sql.Test.namesIn_render unmarked plain
  · rw [List.map_snd_zip (Nat.le_of_eq length.symm), reads.slots]
  · rw [names]
    exact reads.writes next state column plain

end Operator

/-! ## The names of a compilation -/

namespace Sql

variable {π ρ : Type}

theorem Cell.render_map (f : π → ρ) (slotText : ρ → String) (cell : Cell π) :
    (cell.map f).render slotText = cell.render fun slot => slotText (f slot) := by
  cases cell <;> simp [map, render, Function.comp_def]

theorem Test.render_map (f : π → ρ) (slotText : ρ → String) (column : String) (test : Test π) :
    (test.map f).render slotText column =
      test.render (fun slot => slotText (f slot)) column := by
  cases test with
  | constant value => cases value <;> rfl
  | _ => simp [map, render, Cell.render_map, Function.comp_def]

end Sql

namespace Filter

open Sql (Alias Column Condition Parameter Supply)

variable (label : Alias) (field : String)

def nextName (supply : Supply) : String × Supply :=
  ((supply.nextParameter label field).1.name, (supply.nextParameter label field).2)

theorem drawNames_nextName (count : Nat) (supply : Supply) :
    drawNames (nextName label field) count supply =
      ((supply.upcoming label field count).map Parameter.name, supply.skip count) := by
  induction count generalizing supply with
  | zero => rfl
  | succ count ih =>
      simp [drawNames, nextName, ih, Supply.nextParameter, Supply.upcoming, Supply.skip,
        List.range'_succ, Nat.add_assoc, Nat.add_comm 1 count]

theorem supplies_nextName {label : Alias} (plain : label.isPlain = true) (supply : Supply) :
    Supplies (nextName label field) supply where
  plain count := by
    rw [drawNames_nextName]
    intro name member
    obtain ⟨parameter, listed, rfl⟩ := List.mem_map.mp member
    obtain ⟨number, -, rfl⟩ := List.mem_map.mp listed
    exact Parameter.name_isNameChar plain
  distinct count := by
    rw [drawNames_nextName, Supply.upcoming, List.map_map]
    exact List.Nodup.map_on (fun first _ second _ same => Parameter.number_of_name same)
      List.nodup_range'

theorem named_nextName (test : Sql.Test Json) (supply : Supply) :
    test.named (nextName label field) supply =
      (withParameters label field test supply).map Parameter.name := by
  refine Sql.Test.eq_of_shape ?_ ?_
  · rw [Sql.Test.shape_map, withParameters_shape]
    exact (Sql.Test.fill_eq _ test _).1
  · rw [Sql.Test.named_slots, drawNames_nextName, Sql.Test.slots_map, withParameters_slots]

/-- The condition on the columns of a field is the predicate with the names of the field. -/
theorem apply_nextName {operator : Operator} {operand : Json} {test : Sql.Test Json}
    (read : operator.test operand = .ok test) (subject : List Column) (supply : Supply) :
    operator.apply (nextName label field) (Sql.columnsText subject) operand supply =
      .ok (⟨(Condition.test subject (withParameters label field test supply)).render,
          ((supply.upcoming label field test.slots.length).map Parameter.name).zip test.slots⟩,
        supply.skip test.slots.length) := by
  refine (Operator.apply_ok _).mpr ⟨test, read, ?_, ?_⟩
  · rw [drawNames_nextName, named_nextName, Sql.Test.render_map, Condition.render]
    rfl
  · rw [drawNames_nextName]

end Filter

/-- Two rows, one of them with a null of its own, and a null between them. -/
theorem Sample.apply_binds_what_it_writes_regions :
    Supplies (Filter.nextName root.label "key") {} ∧ Unmarked "(t_e1.realm, t_e1.code)" ∧
    ∃ predicate after,
      Operator.isIn.apply (Filter.nextName root.label "key") "(t_e1.realm, t_e1.code)"
        (.array [.array [.natural 1, .string "sh"], .null, .array [.natural 2, .null]]) {} =
          .ok (predicate, after) ∧
      namesIn predicate.sql = predicate.bindings.map Prod.fst ∧
      predicate.bindings.map Prod.snd = [.natural 1, .string "sh", .natural 2, .null] := by
  have supplies : Supplies (Filter.nextName root.label "key") {} :=
    Filter.supplies_nextName "key" (by decide) {}
  have unmarked : Unmarked "(t_e1.realm, t_e1.code)" := by decide
  refine ⟨supplies, unmarked, ?_⟩
  obtain ⟨predicate, after, done⟩ : ∃ predicate after,
      Operator.isIn.apply (Filter.nextName root.label "key") "(t_e1.realm, t_e1.code)"
        (.array [.array [.natural 1, .string "sh"], .null, .array [.natural 2, .null]]) {} =
          .ok (predicate, after) := ⟨_, _, rfl⟩
  obtain ⟨count, -, -, names, values, -⟩ :=
    Operator.apply_binds_what_it_writes supplies unmarked done
  exact ⟨predicate, after, done, names, values⟩

end TreeQuery
