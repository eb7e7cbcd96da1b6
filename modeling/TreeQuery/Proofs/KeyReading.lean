import TreeQuery.Proofs.Blanks

/-!
# Reading the keys of objects

`KeyReader` reads a statement from left to right, past literals and quoted names, and
writes down the literals that stand as keys in calls of `json_build_object`.  A call
inside another one belongs to a value of it and is passed over.  The blanks of a
statement may be collapsed: what is read are the same keys, with their blanks collapsed.
-/

namespace TreeQuery

open Lexeme (isNameChar)

/-! ## Single spaces -/

namespace Text

/-- Write one space for each run of blanks, at the ends too. -/
def respaced : Bool → List Char → List Char
  | _, [] => []
  | gap, c :: rest =>
      if isBlank c then
        if gap then respaced true rest else ' ' :: respaced true rest
      else c :: respaced false rest

def respace (text : String) : String := String.ofList (respaced false text.toList)

theorem respaced_append (gap : Bool) (left right : List Char) :
    respaced gap (left ++ right) =
      respaced gap left ++ respaced (endsBlank gap left) right := by
  induction left generalizing gap with
  | nil => rfl
  | cons c rest ih =>
      by_cases blank : isBlank c
      · cases gap <;> simp [respaced, endsBlank, blank, ih]
      · simp [respaced, endsBlank, blank, ih]

theorem respaced_snoc {c : Char} (written : isBlank c = false) (text : List Char) :
    respaced false (text ++ [c]) = respaced false text ++ [c] := by
  simp [respaced_append, respaced, written]

theorem respaced_snoc_blank {c : Char} (blank : isBlank c = true) (text : List Char) :
    respaced false (text ++ [c]) =
      respaced false text ++ if endsBlank false text then [] else [' '] := by
  simp [respaced_append, respaced, blank]

theorem length_respaced_le (gap : Bool) (text : List Char) :
    (respaced gap text).length ≤ text.length := by
  induction text generalizing gap with
  | nil => exact Nat.le_refl 0
  | cons c rest ih =>
      by_cases blank : isBlank c
      · cases gap with
        | false => simpa [respaced, blank] using ih true
        | true => simpa [respaced, blank] using Nat.le_succ_of_le (ih true)
      · simpa [respaced, blank] using ih false

/-- Every blank of the text is a space, and no two of them stand side by side. -/
structure Tidy (text : List Char) : Prop where
  spaces : ∀ c ∈ text, isBlank c = true → c = ' '
  apart : text.IsChain fun first second => ¬(isBlank first = true ∧ isBlank second = true)

theorem tidy_cons (c : Char) (rest : List Char) :
    Tidy (c :: rest) ↔ (isBlank c = true → c = ' ' ∧ ∀ next ∈ rest.head?, isBlank next = false) ∧
      Tidy rest := by
  have chain : (c :: rest).IsChain (fun first second =>
      ¬(isBlank first = true ∧ isBlank second = true)) ↔
      (∀ next ∈ rest.head?, ¬(isBlank c = true ∧ isBlank next = true)) ∧
        rest.IsChain fun first second => ¬(isBlank first = true ∧ isBlank second = true) := by
    cases rest <;> simp [List.isChain_cons_cons]
  constructor
  · rintro ⟨spaces, apart⟩
    obtain ⟨here, later⟩ := List.forall_mem_cons.mp spaces
    obtain ⟨next, others⟩ := chain.mp apart
    refine ⟨fun blank => ⟨here blank, fun second head => ?_⟩, later, others⟩
    simpa [blank] using next second head
  · rintro ⟨here, spaces, apart⟩
    refine ⟨List.forall_mem_cons.mpr ⟨fun blank => (here blank).1, spaces⟩,
      chain.mpr ⟨fun next head both => ?_, apart⟩⟩
    rw [(here both.1).2 next head] at both
    cases both.2

theorem respaced_eq_self_iff (gap : Bool) (text : List Char) :
    respaced gap text = text ↔
      (gap = true → ∀ c ∈ text.head?, isBlank c = false) ∧ Tidy text := by
  induction text generalizing gap with
  | nil => exact ⟨fun _ => ⟨by simp, by simp, by simp⟩, fun _ => rfl⟩
  | cons c rest ih =>
      rw [tidy_cons]
      by_cases blank : isBlank c
      · cases gap with
        | false =>
            have spaced : respaced false (c :: rest) = ' ' :: respaced true rest := by
              simp [respaced, blank]
            rw [spaced, List.cons.injEq, ih true, eq_comm]
            simp [blank, and_assoc]
        | true =>
            -- the blank is dropped, so the text gets shorter
            have shorter : respaced true (c :: rest) ≠ c :: rest := by
              intro same
              have dropped : respaced true (c :: rest) = respaced true rest := by
                simp [respaced, blank]
              have length := length_respaced_le true rest
              rw [← dropped, same, List.length_cons] at length
              omega
            simp [shorter, blank]
      · simp [respaced, blank, ih]

theorem respace_eq_self_iff (text : String) : respace text = text ↔ Tidy text.toList := by
  rw [respace, ← String.toList_inj, String.toList_ofList, respaced_eq_self_iff]
  simp

end Text

namespace Sql

/-! ## The reader -/

def objectFunction : List Char := "json_build_object".toList

structure OpenCall where
  depth : Nat := 0
  atKey : Bool := true
  keys : List (List Char) := []
  deriving DecidableEq, Repr

/-- The call that is open, if any, and the keys of the calls that are closed. -/
structure Progress where
  call : Option OpenCall := none
  found : List (List (List Char)) := []
  deriving DecidableEq, Repr

namespace OpenCall

def deeper (call : OpenCall) : OpenCall := { call with depth := call.depth + 1 }

def comma (call : OpenCall) : OpenCall :=
  if call.depth = 0 then { call with atKey := !call.atKey } else call

def keep (text : List Char) (call : OpenCall) : OpenCall :=
  if call.depth = 0 && call.atKey then { call with keys := call.keys ++ [text] } else call

end OpenCall

namespace Progress

def opening (word : List Char) (progress : Progress) : Progress :=
  match progress.call with
  | some call => { progress with call := some call.deeper }
  | none => if word = objectFunction then { progress with call := some {} } else progress

def closing (progress : Progress) : Progress :=
  match progress.call with
  | some ⟨0, _, keys⟩ => ⟨none, progress.found ++ [keys]⟩
  | some ⟨depth + 1, atKey, keys⟩ => { progress with call := some ⟨depth, atKey, keys⟩ }
  | none => progress

def comma (progress : Progress) : Progress :=
  { progress with call := progress.call.map OpenCall.comma }

def keep (text : List Char) (progress : Progress) : Progress :=
  { progress with call := progress.call.map (OpenCall.keep text) }

end Progress

inductive KeyReader.Mode where
  | code (word : List Char)
  | literal (text : List Char)
  /-- Behind a quote that ends the literal unless another quote follows. -/
  | closed (text : List Char)
  | name
  deriving DecidableEq, Repr

structure KeyReader where
  mode : KeyReader.Mode := .code []
  progress : Progress := {}
  deriving DecidableEq, Repr

namespace KeyReader

/-- A qualified name is one word. -/
def isWordChar (c : Char) : Bool := isNameChar c || c = '.'

def outside (progress : Progress) (word : List Char) (c : Char) : KeyReader :=
  if c = '\'' then ⟨.literal [], progress⟩
  else if c = '"' then ⟨.name, progress⟩
  else if c = '(' then ⟨.code [], progress.opening word⟩
  else if c = ')' then ⟨.code [], progress.closing⟩
  else if c = ',' then ⟨.code [], progress.comma⟩
  else ⟨.code (if isWordChar c then word ++ [c] else []), progress⟩

def step : KeyReader → Char → KeyReader
  | ⟨.code word, progress⟩, c => outside progress word c
  | ⟨.literal text, progress⟩, c =>
      if c = '\'' then ⟨.closed text, progress⟩ else ⟨.literal (text ++ [c]), progress⟩
  | ⟨.closed text, progress⟩, c =>
      if c = '\'' then ⟨.literal (text ++ [c]), progress⟩ else outside (progress.keep text) [] c
  | ⟨.name, progress⟩, c => ⟨if c = '"' then .code [] else .name, progress⟩

def run (reader : KeyReader) (text : List Char) : KeyReader := text.foldl step reader

end KeyReader

def objectKeys (text : String) : List (List String) :=
  (KeyReader.run {} text.toList).progress.found.map (List.map String.ofList)

example : objectKeys "SELECT json_build_object('it''s', t.\"(\", 'b', json_build_object('c', 1))" =
    [["it's", "b"]] := by decide +kernel

/-! ## Blanks -/

def OpenCall.respaced (call : OpenCall) : OpenCall :=
  { call with keys := call.keys.map (Text.respaced false) }

def Progress.respaced (progress : Progress) : Progress :=
  ⟨progress.call.map OpenCall.respaced, progress.found.map (List.map (Text.respaced false))⟩

theorem Progress.respaced_opening (word : List Char) (progress : Progress) :
    (progress.opening word).respaced = progress.respaced.opening word := by
  obtain ⟨call, found⟩ := progress
  cases call with
  | none =>
      simp only [opening, respaced, Option.map_none]
      split <;> rfl
  | some call => rfl

theorem Progress.respaced_closing (progress : Progress) :
    progress.closing.respaced = progress.respaced.closing := by
  obtain ⟨call, found⟩ := progress
  match call with
  | none => rfl
  | some ⟨0, atKey, keys⟩ => simp [closing, respaced, OpenCall.respaced]
  | some ⟨depth + 1, atKey, keys⟩ => rfl

theorem Progress.respaced_comma (progress : Progress) :
    progress.comma.respaced = progress.respaced.comma := by
  obtain ⟨call, found⟩ := progress
  cases call with
  | none => rfl
  | some call =>
      simp only [comma, respaced, OpenCall.comma, OpenCall.respaced, Option.map_some]
      split <;> rfl

theorem Progress.respaced_keep (text : List Char) (progress : Progress) :
    (progress.keep text).respaced = progress.respaced.keep (Text.respaced false text) := by
  obtain ⟨call, found⟩ := progress
  cases call with
  | none => rfl
  | some call =>
      simp only [keep, respaced, OpenCall.keep, OpenCall.respaced, Option.map_some]
      split <;> simp

namespace KeyReader

def Mode.respaced : Mode → Mode
  | .literal text => .literal (Text.respaced false text)
  | .closed text => .closed (Text.respaced false text)
  | mode => mode

def respaced (reader : KeyReader) : KeyReader := ⟨reader.mode.respaced, reader.progress.respaced⟩

theorem respaced_outside (progress : Progress) (word : List Char) (c : Char) :
    (outside progress word c).respaced = outside progress.respaced word c := by
  unfold outside
  split_ifs <;>
    simp [respaced, Mode.respaced, Text.respaced, Progress.respaced_opening,
      Progress.respaced_closing, Progress.respaced_comma]

theorem respaced_step {c : Char} (written : Text.isBlank c = false) (reader : KeyReader) :
    (reader.step c).respaced = reader.respaced.step c := by
  obtain ⟨mode, progress⟩ := reader
  cases mode with
  | code word => exact respaced_outside progress word c
  | literal text =>
      by_cases quote : c = '\'' <;>
        simp [step, respaced, Mode.respaced, quote, Text.respaced_snoc written]
  | closed text =>
      by_cases quote : c = '\''
      · have apostrophe := Text.respaced_snoc written text
        rw [quote] at apostrophe
        simp [step, respaced, Mode.respaced, quote, apostrophe]
      · have outside := respaced_outside (progress.keep text) [] c
        rw [Progress.respaced_keep] at outside
        simpa [step, respaced, Mode.respaced, quote] using outside
  | name => by_cases quote : c = '"' <;> simp [step, respaced, Mode.respaced, quote]

theorem outside_blank {c : Char} (blank : Text.isBlank c = true) (progress : Progress)
    (word : List Char) : outside progress word c = ⟨.code [], progress⟩ := by
  have breaks := Reader.isBreak_of_isBlank blank
  have other : ∀ d : Char, Text.isBlank d = false → c ≠ d := by
    rintro d written rfl
    rw [blank] at written
    cases written
  have unnamed : isNameChar c = false := by
    simp only [Reader.isBreak, Bool.and_eq_true, Bool.not_eq_true'] at breaks
    exact breaks.1.1
  simp [outside, isWordChar, unnamed, other '\'' (by decide), other '"' (by decide),
    other '(' (by decide), other ')' (by decide), other ',' (by decide), other '.' (by decide)]

def Awaits (gap : Bool) (reader : KeyReader) : Prop :=
  match reader.mode with
  | .code word => gap = true → word = []
  | .literal text => Text.endsBlank false text = gap
  | .closed _ => gap = false
  | .name => True

theorem awaits_outside (progress : Progress) (word : List Char) (c : Char) :
    (outside progress word c).Awaits false := by
  unfold outside
  split_ifs <;> simp [Awaits, Text.endsBlank]

theorem awaits_step {c : Char} (written : Text.isBlank c = false) (reader : KeyReader) :
    (reader.step c).Awaits false := by
  obtain ⟨mode, progress⟩ := reader
  cases mode with
  | code word => exact awaits_outside progress word c
  | literal text =>
      by_cases quote : c = '\'' <;>
        simp [step, Awaits, quote, Text.endsBlank_append, Text.endsBlank, written]
  | closed text =>
      by_cases quote : c = '\''
      · rw [quote] at written
        simp [step, Awaits, quote, Text.endsBlank_append, Text.endsBlank, written]
      · simpa [step, quote] using awaits_outside (progress.keep text) [] c
  | name => by_cases quote : c = '"' <;> simp [step, Awaits, quote]

theorem awaits_step_blank {c : Char} (blank : Text.isBlank c = true) (reader : KeyReader) :
    (reader.step c).Awaits true := by
  obtain ⟨mode, progress⟩ := reader
  have written : c ≠ '\'' := by
    rintro rfl
    cases blank
  cases mode with
  | code word => simp [step, outside_blank blank, Awaits]
  | literal text => simp [step, Awaits, written, Text.endsBlank_append, Text.endsBlank, blank]
  | closed text => simp [step, written, outside_blank blank, Awaits]
  | name => by_cases quote : c = '"' <;> simp [step, Awaits, quote]

theorem respaced_step_blank {c : Char} (blank : Text.isBlank c = true) {reader : KeyReader}
    (awaits : reader.Awaits false) : (reader.step c).respaced = reader.respaced.step ' ' := by
  obtain ⟨mode, progress⟩ := reader
  have written : c ≠ '\'' := by
    rintro rfl
    cases blank
  have unquoted : c ≠ '"' := by
    rintro rfl
    cases blank
  have space : Text.isBlank ' ' = true := by decide
  cases mode with
  | code word => simp [step, respaced, Mode.respaced, outside_blank blank, outside_blank space]
  | literal text =>
      have ends : Text.endsBlank false text = false := awaits
      simp [step, respaced, Mode.respaced, written, Text.respaced_snoc_blank blank, ends]
  | closed text =>
      simp [step, respaced, Mode.respaced, written, outside_blank blank, outside_blank space,
        Progress.respaced_keep]
  | name => simp [step, respaced, Mode.respaced, unquoted]

theorem respaced_step_gap {c : Char} (blank : Text.isBlank c = true) {reader : KeyReader}
    (awaits : reader.Awaits true) : (reader.step c).respaced = reader.respaced := by
  obtain ⟨mode, progress⟩ := reader
  have written : c ≠ '\'' := by
    rintro rfl
    cases blank
  have unquoted : c ≠ '"' := by
    rintro rfl
    cases blank
  cases mode with
  | code word =>
      cases awaits rfl
      simp [step, respaced, Mode.respaced, outside_blank blank]
  | literal text =>
      have ends : Text.endsBlank false text = true := awaits
      simp [step, respaced, Mode.respaced, written, Text.respaced_snoc_blank blank, ends]
  | closed text => cases awaits
  | name => simp [step, respaced, Mode.respaced, unquoted]

theorem found_step_blank (reader : KeyReader) :
    (reader.step ' ').progress.found = reader.progress.found := by
  obtain ⟨mode, progress⟩ := reader
  cases mode <;> rfl

/--
A reader of the squeezed text is one gap behind a reader of the text, whose literals are
respaced.
-/
theorem found_squeeze {gap : Bool} {reader behind : KeyReader} (awaits : reader.Awaits gap)
    (same : (if gap then behind.step ' ' else behind) = reader.respaced) (text : List Char) :
    (behind.run (Text.squeeze gap text)).progress.found =
      (reader.run text).respaced.progress.found := by
  induction text generalizing gap reader behind with
  | nil =>
      have found := congrArg (fun reader => reader.progress.found) same
      cases gap with
      | false => simpa [Text.squeeze, run] using found
      | true => simpa [Text.squeeze, run, found_step_blank] using found
  | cons c rest ih =>
      by_cases blank : Text.isBlank c = true
      · have later : behind.step ' ' = (reader.step c).respaced := by
          cases gap with
          | false => rw [respaced_step_blank blank awaits, ← same]; rfl
          | true => rw [respaced_step_gap blank awaits, ← same]; rfl
        simpa [Text.squeeze, blank, run] using ih (awaits_step_blank blank reader) later
      · have written : Text.isBlank c = false := by simpa using blank
        have next : (if false then (reader.respaced.step c).step ' ' else reader.respaced.step c) =
            (reader.step c).respaced := (respaced_step written reader).symm
        have read := ih (awaits_step written reader) next
        cases gap with
        | false => simpa [Text.squeeze, written, run, ← same] using read
        | true => simpa [Text.squeeze, written, run, ← same] using read

end KeyReader

theorem objectKeys_collapse {text : String} (started : Text.starts text = true) :
    objectKeys (Text.collapse text) = (objectKeys text).map (List.map Text.respace) := by
  have awaits : KeyReader.Awaits false {} := by simp [KeyReader.Awaits]
  have found := KeyReader.found_squeeze awaits (rfl : _ = KeyReader.respaced {}) text.toList
  rw [Text.collapse_of_starts started]
  unfold objectKeys
  rw [String.toList_ofList]
  refine (congrArg _ found).trans ?_
  simp [KeyReader.respaced, Progress.respaced, Text.respace, Function.comp_def]

/-! ## Words and quoted texts -/

namespace KeyReader

def fresh (progress : Progress) : KeyReader := ⟨.code [], progress⟩

theorem run_append (reader : KeyReader) (left right : List Char) :
    reader.run (left ++ right) = (reader.run left).run right := List.foldl_append

theorem outside_word {c : Char} (inside : isWordChar c = true) (progress : Progress)
    (word : List Char) : outside progress word c = ⟨.code (word ++ [c]), progress⟩ := by
  have other : ∀ d : Char, isWordChar d = false → c ≠ d := by
    rintro d outer rfl
    rw [inside] at outer
    cases outer
  simp [outside, inside, other '\'' (by decide), other '"' (by decide), other '(' (by decide),
    other ')' (by decide), other ',' (by decide)]

theorem run_word (progress : Progress) (word : List Char) {text : List Char}
    (inside : ∀ c ∈ text, isWordChar c = true) :
    run ⟨.code word, progress⟩ text = ⟨.code (word ++ text), progress⟩ := by
  induction text generalizing word with
  | nil => simp [run]
  | cons c rest ih =>
      obtain ⟨here, later⟩ := List.forall_mem_cons.mp inside
      have first : step ⟨.code word, progress⟩ c = ⟨.code (word ++ [c]), progress⟩ :=
        outside_word here progress word
      have whole := ih (word ++ [c]) later
      rw [List.append_assoc] at whole
      rw [run, List.foldl_cons, first]
      exact whole

theorem run_name (progress : Progress) (word : List Char) {text : String}
    (named : text.toList.all isNameChar = true) :
    run ⟨.code word, progress⟩ text.toList = ⟨.code (word ++ text.toList), progress⟩ :=
  run_word progress word fun c member => by simp [isWordChar, List.all_eq_true.mp named c member]

theorem run_literal (progress : Progress) (text : String) :
    (fresh progress).run (literal text).toList = ⟨.closed text.toList, progress⟩ := by
  have doubled : ∀ read characters : List Char,
      run ⟨.literal read, progress⟩ (Text.doubled '\'' characters) =
        ⟨.literal (read ++ characters), progress⟩ := by
    intro read characters
    induction characters generalizing read with
    | nil => simp [Text.doubled, run]
    | cons c rest ih =>
        have whole := ih (read ++ [c])
        rw [List.append_assoc] at whole
        by_cases quote : c = '\''
        · subst quote
          simpa [Text.doubled, run, step] using whole
        · simpa [Text.doubled, quote, run, step] using whole
  have opened : (fresh progress).step '\'' = ⟨.literal [], progress⟩ := rfl
  rw [literal, Text.quoted, String.toList_ofList, run, List.foldl_cons, opened, List.foldl_append]
  exact congrArg (·.step '\'') (doubled [] text.toList)

theorem run_quoted (progress : Progress) (word : List Char) (text : String) :
    run ⟨.code word, progress⟩ (Text.quoted '"' text).toList = fresh progress := by
  have doubled : ∀ characters : List Char,
      run ⟨.name, progress⟩ (Text.doubled '"' characters) = ⟨.name, progress⟩ := by
    intro characters
    induction characters with
    | nil => rfl
    | cons c rest ih =>
        by_cases quote : c = '"'
        · subst quote
          simpa [Text.doubled, run, step, outside] using ih
        · simpa [Text.doubled, quote, run, step] using ih
  have opened : step ⟨.code word, progress⟩ '"' = ⟨.name, progress⟩ := rfl
  rw [Text.quoted, String.toList_ofList, run, List.foldl_cons, opened, List.foldl_append]
  exact congrArg (·.step '"') (doubled text.toList)

theorem run_table (progress : Progress) (name : String) :
    (fresh progress).run (tableName name).toList = fresh progress := by
  have parts : ∀ (word : List Char) (part : List Char) (rest : List (List Char)),
      run ⟨.code word, progress⟩ (".".intercalate ((part :: rest).map fun part =>
        Text.quoted '"' (String.ofList part))).toList = fresh progress := by
    intro word part rest
    induction rest generalizing word part with
    | nil => simpa using run_quoted progress word (String.ofList part)
    | cons next rest ih =>
        have dot : (fresh progress).run ".".toList = ⟨.code ['.'], progress⟩ := rfl
        rw [List.map_cons, List.map_cons, String.intercalate_cons_cons, String.toList_append,
          String.toList_append, run_append, run_append, run_quoted, dot]
        exact ih ['.'] next
  unfold tableName
  cases Text.pieces '.' name.toList with
  | nil => rfl
  | cons part rest => exact parts [] part rest

/-! ## Parts of a text -/

/-- With a blank the reader is done with what it is in; a bracket does not open an object. -/
structure Ends (reader : KeyReader) (progress : Progress) : Prop where
  other : reader.mode ≠ .code objectFunction
  blank : reader.step ' ' = fresh progress

def breaks (c : Char) : Bool := !isWordChar c && c != '\''

theorem Ends.step {reader : KeyReader} {progress : Progress} (ends : reader.Ends progress)
    {c : Char} (broken : breaks c = true) : reader.step c = (fresh progress).step c := by
  obtain ⟨outer, unquoted⟩ : isWordChar c = false ∧ c ≠ '\'' := by simpa [breaks] using broken
  obtain ⟨mode, before⟩ := reader
  obtain ⟨other, blank⟩ := ends
  cases mode with
  | code word =>
      have same : before = progress := congrArg KeyReader.progress blank
      have unopened : word ≠ objectFunction := fun same => other (congrArg Mode.code same)
      have opened : progress.opening word = progress.opening [] := by
        obtain ⟨call, found⟩ := progress
        cases call with
        | some call => rfl
        | none => simp [Progress.opening, unopened, show [] ≠ objectFunction by decide]
      simp [KeyReader.step, fresh, outside, outer, opened, same]
  | closed text =>
      have same : before.keep text = progress := congrArg KeyReader.progress blank
      simp [KeyReader.step, fresh, unquoted, same]
  | literal text => cases congrArg KeyReader.mode blank
  | name => cases congrArg KeyReader.mode blank

theorem ends_word (progress : Progress) {word : List Char} (other : word ≠ objectFunction) :
    Ends ⟨.code word, progress⟩ progress :=
  ⟨fun same => other (Mode.code.inj same), rfl⟩

theorem ends_fresh (progress : Progress) : (fresh progress).Ends progress :=
  ends_word progress (by decide)

end KeyReader

end Sql

end TreeQuery
