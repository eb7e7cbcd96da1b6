import TreeQuery.Placeholder
import TreeQuery.Sql.Clause

/-!
# Finding placeholders in composed text

`Lexeme.scan` takes a whole text apart.  A reader that goes through the text
character by character finds the same names, and what it finds in a text that is
put together from parts follows from what it finds in the parts, provided that no
part ends inside a literal and that what follows a name cannot extend it.
-/

namespace TreeQuery

open Lexeme (isNameChar)

inductive Reader where
  | plain
  | colon
  | name (read : List Char)
  | literal
  | quote
  deriving DecidableEq

namespace Reader

def start (c : Char) : Reader :=
  if c = '\'' then .literal else if c = ':' then .colon else .plain

def step : Reader → Char → Reader × List String
  | .plain, c => (start c, [])
  | .colon, c =>
      if isNameChar c then (.name [c], []) else if c = ':' then (.plain, []) else (start c, [])
  | .name read, c =>
      if isNameChar c then (.name (read ++ [c]), []) else (start c, [String.ofList read])
  | .literal, c => (if c = '\'' then .quote else .literal, [])
  | .quote, c => if c = '\'' then (.literal, []) else (start c, [])

def run : Reader → List Char → Reader × List String
  | reader, [] => (reader, [])
  | reader, c :: rest =>
      let later := run (reader.step c).1 rest
      (later.1, (reader.step c).2 ++ later.2)

theorem run_append (reader : Reader) (left right : List Char) :
    reader.run (left ++ right) =
      (((reader.run left).1.run right).1,
        (reader.run left).2 ++ ((reader.run left).1.run right).2) := by
  induction left generalizing reader with
  | nil => simp [run]
  | cons c rest ih => simp [run, ih, List.append_assoc]

/-! ## Agreement with the scanner -/

def names (reader : Reader) (text : List Char) : List String := (reader.run (text ++ [' '])).2

theorem names_cons (reader : Reader) (c : Char) (rest : List Char) :
    reader.names (c :: rest) = (reader.step c).2 ++ (reader.step c).1.names rest := rfl

theorem names_literal (text : List Char) :
    literal.names text = plain.names (Lexeme.splitLiteral text).2 := by
  fun_induction Lexeme.splitLiteral text with
  | case1 => rfl
  | case2 rest inside after split ih =>
      rw [split] at ih
      exact ih
  | case3 rest single =>
      cases rest with
      | nil => rfl
      | cons c rest =>
          have other : c ≠ '\'' := by
            rintro rfl
            exact single rest rfl rfl
          simp [names_cons, step, other]
  | case4 c rest single other inside after split ih =>
      rw [split] at ih
      simpa [names_cons, step, other] using ih

theorem names_name (read text : List Char) :
    (name read).names text =
      String.ofList (read ++ text.takeWhile isNameChar) ::
        plain.names (text.dropWhile isNameChar) := by
  induction text generalizing read with
  | nil => simp [names, run, step, start, isNameChar]
  | cons c rest ih =>
      by_cases h : isNameChar c
      · simp [names_cons, step, h, ih]
      · simp [names_cons, step, h]

theorem names_colon {text : List Char} (single : text.head? ≠ some ':')
    (unnamed : text.head?.any isNameChar = false) : colon.names text = plain.names text := by
  cases text with
  | nil => rfl
  | cons c rest =>
      have other : c ≠ ':' := by simpa using single
      have closed : isNameChar c = false := by simpa using unnamed
      simp [names_cons, step, other, closed]

theorem filterMap_scan (text : List Char) :
    (Lexeme.scan text).filterMap Lexeme.name? = plain.names text := by
  fun_induction Lexeme.scan text with
  | case1 => rfl
  | case2 rest ih =>
      rw [List.filterMap_cons_none rfl, ih]
      simp [names_cons, step, start, isNameChar]
  | case3 rest _ _ ih =>
      rw [List.filterMap_cons_none rfl, ih, names_cons]
      exact (names_literal rest).symm
  | case4 c rest single quote placeholder _ ih =>
      obtain ⟨rfl, named⟩ : c = ':' ∧ rest.head?.any isNameChar = true := by
        simpa using placeholder
      have found : (Lexeme.placeholder (rest.takeWhile isNameChar)).name? =
          some (String.ofList (rest.takeWhile isNameChar)) := rfl
      rw [List.filterMap_cons_some found, ih]
      cases rest with
      | nil => simp at named
      | cons d rest =>
          have isName : isNameChar d = true := by simpa using named
          simp [names_cons, step, start, isName, names_name]
  | case5 c rest single quote placeholder ih =>
      rw [List.filterMap_cons_none rfl, ih, names_cons]
      by_cases colon : c = ':'
      · subst colon
        -- neither a placeholder nor a cast: the reader goes on as if nothing was there
        have unnamed : rest.head?.any isNameChar = false := by simpa using placeholder
        have separate : rest.head? ≠ some ':' := by
          intro h
          obtain ⟨tail, rfl⟩ : ∃ tail, rest = ':' :: tail := by
            cases rest with
            | nil => simp at h
            | cons d tail => exact ⟨tail, by simpa using h⟩
          exact single tail rfl rfl
        exact (names_colon separate unnamed).symm
      · simp [step, start, quote, colon]

/-! ## Blanks and other breaks -/

def isBreak (c : Char) : Bool := !isNameChar c && c != ':' && c != '\''

theorem step_break {c : Char} (h : isBreak c = true) (reader : Reader) :
    reader.step c = reader.step ' ' := by
  obtain ⟨⟨unnamed, colon⟩, quote⟩ : (isNameChar c = false ∧ c ≠ ':') ∧ c ≠ '\'' := by
    simpa [isBreak] using h
  have start_c : start c = .plain := by simp [start, quote, colon]
  cases reader <;> simp [step, start_c, unnamed, colon, quote] <;> rfl

theorem isBreak_of_isBlank {c : Char} (h : Text.isBlank c = true) : isBreak c = true := by
  have cases_of : ∀ range ∈ Text.blankRanges, range.1 ≤ c.toNat → c.toNat ≤ range.2 →
      isBreak c = true := by
    intro range member low high
    have other : ∀ d : Char, d.toNat < range.1 ∨ range.2 < d.toNat → c ≠ d := by
      rintro d outside rfl
      omega
    have between : ∀ first last : Char, range.2 < first.toNat ∨ last.toNat < range.1 →
        (first ≤ c && c ≤ last) = false := by
      intro first last outside
      simp only [Bool.and_eq_false_iff, decide_eq_false_iff_not, Char.le_def,
        UInt32.le_iff_toNat_le]
      change ¬ first.toNat ≤ c.toNat ∨ ¬ c.toNat ≤ last.toNat
      omega
    simp only [Text.blankRanges, List.mem_cons, List.not_mem_nil, or_false] at member
    rcases member with rfl | rfl | rfl | rfl | rfl | rfl | rfl | rfl | rfl | rfl <;>
      simp [isBreak, isNameChar, between 'a' 'z' (by decide), between 'A' 'Z' (by decide),
        between '0' '9' (by decide), other '_' (by decide), other ':' (by decide),
        other '\'' (by decide)]
  obtain ⟨range, member, inside⟩ := List.any_eq_true.mp h
  obtain ⟨low, high⟩ : range.1 ≤ c.toNat ∧ c.toNat ≤ range.2 := by simpa using inside
  exact cases_of range member low high

theorem step_blank_twice (reader : Reader) :
    (reader.step ' ').1.step ' ' = ((reader.step ' ').1, []) := by
  cases reader <;> rfl

/-- A run of blanks is read like a single space, and blanks before the end like none. -/
theorem run_squeeze (reader : Reader) (gap : Bool) (text : List Char) :
    reader.run (Text.squeeze gap text ++ [' ']) =
      reader.run ((if gap then [' '] else []) ++ text ++ [' ']) := by
  induction text generalizing reader gap with
  | nil => cases gap <;> simp [Text.squeeze, run, step_blank_twice]
  | cons c rest ih =>
      by_cases blank : Text.isBlank c
      · have same := step_break (isBreak_of_isBlank blank)
        cases gap <;> simp [Text.squeeze, blank, ih, run, same, step_blank_twice]
      · cases gap <;> simp [Text.squeeze, blank, ih, run]

theorem run_dropBlanks (text : List Char) :
    plain.run (text.dropWhile Text.isBlank) = plain.run text := by
  induction text with
  | nil => rfl
  | cons c rest ih =>
      by_cases blank : Text.isBlank c
      · have same : plain.step c = (.plain, []) := step_break (isBreak_of_isBlank blank) plain
        simp [blank, ih, run, same]
      · simp [blank]

end Reader

/-! ## Composition -/

open Reader (isBreak)

/-- Reading the text, and a blank after it, finds the names and ends outside literals. -/
def Lexes (text : String) (names : List String) : Prop :=
  Reader.plain.run (text.toList ++ [' ']) = (.plain, names)

/-- Reading the text finds the names, whatever follows it. -/
def Settles (text : String) (names : List String) : Prop :=
  Reader.plain.run text.toList = (.plain, names)

def isSeam (text : String) : Bool :=
  match text.toList with
  | [] => false
  | c :: rest => isBreak c && Reader.plain.run rest = (.plain, [])

def isQuiet (text : String) : Bool := text.toList.all fun c => c != '\'' && c != ':'

theorem Lexes.scan {text : String} {names : List String} (read : Lexes text names) :
    (Lexeme.scan text.toList).filterMap Lexeme.name? = names := by
  rw [Reader.filterMap_scan, Reader.names, read]

theorem Settles.append {left right : String} {names more : List String}
    (first : Settles left names) (second : Settles right more) :
    Settles (left ++ right) (names ++ more) := by
  unfold Settles at first second ⊢
  simp [Reader.run_append, first, second]

theorem Settles.lexes {left right : String} {names more : List String}
    (first : Settles left names) (second : Lexes right more) :
    Lexes (left ++ right) (names ++ more) := by
  unfold Settles at first
  unfold Lexes at second ⊢
  rw [String.toList_append, List.append_assoc, Reader.run_append]
  simp [first, second]

theorem Settles.closed {text : String} {names : List String} (read : Settles text names) :
    Lexes text names := by
  unfold Settles at read
  unfold Lexes
  simp [Reader.run_append, read, Reader.run, Reader.step, Reader.start]

theorem Lexes.seam {text separator : String} {names : List String}
    (read : Lexes text names) (seam : isSeam separator = true) :
    Settles (text ++ separator) names := by
  unfold isSeam at seam
  unfold Lexes at read
  unfold Settles
  split at seam
  · cases seam
  · rename_i c rest characters
    obtain ⟨ends, settles⟩ : isBreak c = true ∧ Reader.plain.run rest = (.plain, []) := by
      simpa using seam
    have same : Reader.plain.run (text.toList ++ [c]) =
        Reader.plain.run (text.toList ++ [' ']) := by
      simp [Reader.run_append, Reader.run, Reader.step_break ends]
    calc Reader.plain.run (text ++ separator).toList
        = Reader.plain.run ((text.toList ++ [c]) ++ rest) := by simp [characters]
      _ = (.plain, names) := by
        rw [Reader.run_append, same, read]
        simp [settles]

theorem settles_of_isQuiet {text : String} (quiet : isQuiet text = true) : Settles text [] := by
  have each : ∀ characters : List Char, (∀ c ∈ characters, c ≠ '\'' ∧ c ≠ ':') →
      Reader.plain.run characters = (.plain, []) := by
    intro characters quiet
    induction characters with
    | nil => rfl
    | cons c rest ih =>
        obtain ⟨quote, colon⟩ := quiet c List.mem_cons_self
        have later := ih fun d member => quiet d (List.mem_cons_of_mem _ member)
        simp [Reader.run, Reader.step, Reader.start, quote, colon, later]
  refine each text.toList fun c member => ?_
  have here := List.all_eq_true.mp quiet c member
  simpa using here

theorem lexes_of_isQuiet {text : String} (quiet : isQuiet text = true) : Lexes text [] :=
  (settles_of_isQuiet quiet).closed

theorem Lexes.collapse {text : String} {names : List String} (read : Lexes text names) :
    Lexes (Text.collapse text) names := by
  unfold Lexes at read ⊢
  rw [Text.collapse, String.toList_ofList, Reader.run_squeeze]
  rw [Reader.run_append] at read
  simp [Reader.run_append, Reader.run_dropBlanks, read]

theorem lexes_intercalate {α : Type} {separator : String} (seam : isSeam separator = true)
    {items : List α} {render : α → String} {names : α → List String}
    (each : ∀ item ∈ items, Lexes (render item) (names item)) :
    Lexes (separator.intercalate (items.map render)) (items.flatMap names) := by
  induction items with
  | nil => exact lexes_of_isQuiet rfl
  | cons item rest ih =>
      have first := each item List.mem_cons_self
      have others := ih fun other member => each other (List.mem_cons_of_mem _ member)
      cases rest with
      | nil => simpa using first
      | cons next rest =>
          rw [List.map_cons, List.map_cons, String.intercalate_cons_cons, List.flatMap_cons]
          exact (first.seam seam).lexes others

theorem lexes_intercalate_nil {α : Type} {separator : String} (seam : isSeam separator = true)
    {items : List α} {render : α → String} (each : ∀ item ∈ items, Lexes (render item) []) :
    Lexes (separator.intercalate (items.map render)) [] := by
  have nothing : items.flatMap (fun _ => ([] : List String)) = [] := by simp
  exact nothing ▸ lexes_intercalate seam each

theorem lexes_parenthesized {text : String} {names : List String} (read : Lexes text names) :
    Lexes ("(" ++ text ++ ")") names := by
  have opened := (settles_of_isQuiet (show isQuiet "(" = true by rfl)).lexes read
  exact (opened.seam (show isSeam ")" = true by rfl)).closed

theorem Lexes.spaced {α : Type} {items : List α} {render : α → String}
    {names : α → List String} {text : String} {found : List String} (read : Lexes text found)
    (each : ∀ item ∈ items, Lexes (render item) (names item)) :
    Lexes (text ++ String.join (items.map fun item => " " ++ render item))
      (found ++ items.flatMap names) := by
  induction items generalizing text found with
  | nil => simpa using read
  | cons item rest ih =>
      have first := (read.seam (show isSeam " " = true by rfl)).lexes
        (each item List.mem_cons_self)
      have whole := ih first fun other member => each other (List.mem_cons_of_mem _ member)
      simpa [String.append_assoc] using whole

end TreeQuery
