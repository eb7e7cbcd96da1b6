import TreeQuery.Proofs.KeyReading
import TreeQuery.Proofs.Templates

/-!
# Objects in statements

A part of a statement builds objects: reading it finds their keys, and nothing else about
the reader changes.  Only the calls that a select returns build objects; conditions, and
whatever stands inside quotes, build none.
-/

namespace TreeQuery.Sql

open Lexeme (isNameChar)

/-! ## Pieces -/

def KeyReader.readAll (stem : String) (reader : KeyReader) (pieces : List Piece) : KeyReader :=
  pieces.foldl (fun reader piece => reader.run (piece.restem stem).text.toList) reader

theorem KeyReader.readAll_append (stem : String) (reader : KeyReader) (left right : List Piece) :
    reader.readAll stem (left ++ right) = (reader.readAll stem left).readAll stem right :=
  List.foldl_append

theorem KeyReader.readAll_nil (stem : String) (reader : KeyReader) :
    reader.readAll stem [] = reader := rfl

theorem KeyReader.readAll_cons (stem : String) (reader : KeyReader) (piece : Piece)
    (rest : List Piece) :
    reader.readAll stem (piece :: rest) =
      (reader.run (piece.restem stem).text.toList).readAll stem rest := rfl

theorem KeyReader.readAll_code (stem : String) (reader : KeyReader) (text : String)
    (rest : List Piece) :
    reader.readAll stem (.code text :: rest) = (reader.run text.toList).readAll stem rest := rfl

theorem KeyReader.readAll_key (stem : String) (progress : Progress) (text : String)
    (rest : List Piece) :
    (fresh progress).readAll stem (.key text :: rest) =
      readAll stem ⟨.closed text.toList, progress⟩ rest := by
  have key : ((Piece.key text).restem stem).text = literal text := rfl
  rw [readAll_cons, key, run_literal]

theorem KeyReader.run_written (stem : String) (reader : KeyReader) (pieces : List Piece) :
    reader.run (written (pieces.map (Piece.restem stem))).toList = reader.readAll stem pieces := by
  induction pieces generalizing reader with
  | nil => rfl
  | cons piece rest ih =>
      rw [List.map_cons, written, String.toList_append, run_append, ih]
      rfl

def isSevered : List Piece → Bool
  | [] => true
  | .code text :: _ => text.toList.head?.any KeyReader.breaks
  | _ => false

def Reads (stem : String) (pieces : List Piece) (before after : Progress) : Prop :=
  ((KeyReader.fresh before).readAll stem pieces).Ends after

theorem Reads.append {stem : String} {left right : List Piece} {before between after : Progress}
    (first : Reads stem left before between) (severed : isSevered right = true)
    (second : Reads stem right between after) : Reads stem (left ++ right) before after := by
  unfold Reads at *
  rw [KeyReader.readAll_append]
  match right with
  | [] =>
      have same : between = after := congrArg KeyReader.progress second.blank
      exact same ▸ first
  | .code text :: rest =>
      cases characters : text.toList with
      | nil => simp [isSevered, characters] at severed
      | cons c later =>
          have broken : KeyReader.breaks c = true := by
            simpa [isSevered, characters] using severed
          rw [KeyReader.readAll_code, characters] at second ⊢
          rw [KeyReader.run, List.foldl_cons, first.step broken]
          exact second

theorem Reads.after {stem text : String} {pieces : List Piece} {before between after : Progress}
    (read : (KeyReader.fresh before).run text.toList = KeyReader.fresh between)
    (later : Reads stem pieces between after) : Reads stem (.code text :: pieces) before after := by
  rw [Reads, KeyReader.readAll_code, read]
  exact later

theorem Reads.of_ends {stem : String} {piece : Piece} {before after : Progress}
    (ends : ((KeyReader.fresh before).run (piece.restem stem).text.toList).Ends after) :
    Reads stem [piece] before after := by
  rw [Reads, KeyReader.readAll_cons, KeyReader.readAll_nil]
  exact ends

theorem Reads.of_word {stem text : String} {word : List Char} {before after : Progress}
    (read : (KeyReader.fresh before).run text.toList = ⟨.code word, after⟩)
    (other : word ≠ objectFunction) : Reads stem [.code text] before after := by
  rw [Reads, KeyReader.readAll_code, KeyReader.readAll_nil, read]
  exact KeyReader.ends_word _ other

theorem reads_nothing (stem : String) (progress : Progress) : Reads stem [] progress progress :=
  KeyReader.ends_fresh progress

/-! ## Objects built by pieces -/

def Outside (call : Option OpenCall) : Prop := call = none

def Inside (call : Option OpenCall) : Prop := ∃ inner, call = some inner

/-- A comma does not separate the arguments of an object. -/
def Shielded (call : Option OpenCall) : Prop := ∀ inner ∈ call, 0 < inner.depth

def Anywhere (_ : Option OpenCall) : Prop := True

/-- Where the pieces stand, they build objects with the given keys and change nothing else. -/
def Builds (stem : String) (place : Option OpenCall → Prop) (pieces : List Piece)
    (keys : List (List String)) : Prop :=
  ∀ call found, place call →
    Reads stem pieces ⟨call, found⟩ ⟨call, found ++ keys.map (List.map String.toList)⟩

def Passes (place : Option OpenCall → Prop) (text : String) : Prop :=
  ∀ call found, place call →
    (KeyReader.fresh ⟨call, found⟩).run text.toList = KeyReader.fresh ⟨call, found⟩

section Builds

variable {stem : String} {place wider : Option OpenCall → Prop} {text : String}
  {pieces left right : List Piece} {keys more : List (List String)}

theorem Builds.mono (builds : Builds stem wider pieces keys)
    (narrower : ∀ call, place call → wider call) : Builds stem place pieces keys :=
  fun call found here => builds call found (narrower call here)

theorem Builds.append (first : Builds stem place left keys) (severed : isSevered right = true)
    (second : Builds stem place right more) :
    Builds stem place (left ++ right) (keys ++ more) := by
  intro call found here
  rw [List.map_append, ← List.append_assoc]
  exact (first call found here).append severed (second call _ here)

theorem Builds.after (passes : Passes place text) (builds : Builds stem place pieces keys) :
    Builds stem place (.code text :: pieces) keys := by
  intro call found here
  exact (builds call found here).after (passes call found here)

theorem Builds.between (first : Builds stem place left keys)
    (severed : isSevered [.code text] = true) (passes : Passes place text)
    (second : Builds stem place right more) :
    Builds stem place (left ++ .code text :: right) (keys ++ more) :=
  first.append severed (second.after passes)

theorem builds_of_reads
    (reads : ∀ call found, place call → Reads stem pieces ⟨call, found⟩ ⟨call, found⟩) :
    Builds stem place pieces [] := by
  intro call found here
  rw [List.map_nil, List.append_nil]
  exact reads call found here

theorem builds_nothing : Builds stem place [] [] :=
  builds_of_reads fun _ _ _ => reads_nothing stem _

theorem Passes.builds (passes : Passes place text) : Builds stem place [.code text] [] :=
  builds_nothing.after passes

theorem builds_word {word : List Char}
    (read : ∀ call found, place call →
      (KeyReader.fresh ⟨call, found⟩).run text.toList = ⟨.code word, ⟨call, found⟩⟩)
    (other : word ≠ objectFunction) : Builds stem place [.code text] [] :=
  builds_of_reads fun call found here => .of_word (read call found here) other

theorem passes_outside
    (read : ∀ found, (KeyReader.fresh ⟨none, found⟩).run text.toList =
      KeyReader.fresh ⟨none, found⟩) : Passes Outside text := by
  rintro call found rfl
  exact read found

theorem word_outside {word : List Char}
    (read : ∀ found, (KeyReader.fresh ⟨none, found⟩).run text.toList = ⟨.code word, ⟨none, found⟩⟩)
    (other : word ≠ objectFunction) : Builds stem Outside [.code text] [] := by
  refine builds_word ?_ other
  rintro call found rfl
  exact read found

theorem builds_listed {α : Type} {items : List α} {parts : α → List Piece}
    {found : α → List (List String)} (severed : isSevered [.code text] = true)
    (passes : Passes place text) (each : ∀ item ∈ items, Builds stem place (parts item) (found item)) :
    Builds stem place (listed text (items.map parts)) (items.flatMap found) := by
  induction items with
  | nil => exact builds_nothing
  | cons item rest ih =>
      obtain ⟨here, later⟩ := List.forall_mem_cons.mp each
      cases rest with
      | nil => simpa [listed] using here
      | cons next rest => exact here.between severed passes (ih later)

theorem builds_listed_nothing {α : Type} {items : List α} {parts : α → List Piece}
    (severed : isSevered [.code text] = true) (passes : Passes place text)
    (each : ∀ item ∈ items, Builds stem place (parts item) []) :
    Builds stem place (listed text (items.map parts)) [] := by
  have nothing : items.flatMap (fun _ => ([] : List (List String))) = [] := by simp
  exact nothing ▸ builds_listed severed passes each

theorem Builds.enclosed {inner : Option OpenCall → Prop} {start finish : String}
    (opens : ∀ call found, place call → (KeyReader.fresh ⟨call, found⟩).run start.toList =
      KeyReader.fresh ⟨call.map OpenCall.deeper, found⟩)
    (severed : isSevered [.code finish] = true)
    (closes : ∀ call found, place call → Reads stem [.code finish]
      ⟨call.map OpenCall.deeper, found⟩ ⟨call, found⟩)
    (deep : ∀ call, place call → inner (call.map OpenCall.deeper))
    (builds : Builds stem inner pieces keys) :
    Builds stem place (.code start :: pieces ++ [.code finish]) keys := by
  intro call found here
  have inside := (builds _ found (deep call here)).after (opens call found here)
  exact inside.append severed (closes call _ here)

end Builds

/-! ## Columns and values -/

theorem ne_objectFunction_of_number (start : List Char) (number : Nat) :
    start ++ (toString number).toList ≠ objectFunction := by
  intro same
  have last := congrArg List.getLast? same
  rw [List.getLast?_append_of_ne_nil _ (toString_ne_nil number)] at last
  have digit := List.mem_of_getLast? (last.trans (by decide : objectFunction.getLast? = some 't'))
  have digits : (toString number).toList = Nat.toDigits 10 number := by simp
  rw [digits] at digit
  exact absurd (Nat.isDigit_of_mem_toDigits (by decide) (by decide) digit) (by decide)

theorem ne_objectFunction_of_dot {word : List Char} (qualified : '.' ∈ word) :
    word ≠ objectFunction := by
  rintro rfl
  exact absurd qualified (by decide)

section Letters

variable {stem : String} (letters : stem.toList.all isNameChar = true)

include letters

theorem run_label (progress : Progress) (label : Alias) :
    (KeyReader.fresh progress).run (label.restem stem).text.toList =
      ⟨.code (label.restem stem).text.toList, progress⟩ :=
  KeyReader.run_name progress [] (Alias.text_isNameChar letters)

theorem builds_label (label : Alias) : Builds stem Anywhere [.label label] [] := by
  refine builds_of_reads fun call found _ => ?_
  have other : (label.restem stem).text.toList ≠ objectFunction := by
    simpa [Alias.text, Alias.restem] using
      ne_objectFunction_of_number (stem ++ "_" ++ label.kind.tag).toList label.index
  have ends := KeyReader.ends_word ⟨call, found⟩ other
  rw [← run_label letters] at ends
  exact .of_ends ends

theorem builds_slot (parameter : Parameter) : Builds stem Anywhere [.slot parameter] [] := by
  refine builds_of_reads fun call found _ => ?_
  have other : (parameter.restem stem).name.toList ≠ objectFunction := by
    simpa [Parameter.name, Parameter.restem] using ne_objectFunction_of_number
      ((parameter.label.restem stem).parameterStem parameter.field ++ "_").toList parameter.number
  have read : (KeyReader.fresh ⟨call, found⟩).run (parameter.restem stem).placeholder.toList =
      ⟨.code (parameter.restem stem).name.toList, ⟨call, found⟩⟩ := by
    have colon : (KeyReader.fresh ⟨call, found⟩).run ":".toList =
        KeyReader.fresh ⟨call, found⟩ := rfl
    rw [Parameter.placeholder, String.toList_append, KeyReader.run_append, colon]
    exact KeyReader.run_name _ [] (Parameter.name_isNameChar letters)
  have ends := KeyReader.ends_word ⟨call, found⟩ other
  rw [← read] at ends
  exact .of_ends ends

theorem builds_column (column : Column) : Builds stem Anywhere column.pieces [] := by
  refine builds_of_reads fun call found _ => ?_
  have dotted : ((KeyReader.fresh ⟨call, found⟩).run (column.label.restem stem).text.toList).run
      ".".toList = ⟨.code ((column.label.restem stem).text.toList ++ ['.']), ⟨call, found⟩⟩ := by
    rw [run_label letters]
    rfl
  have ends : KeyReader.Ends
      (KeyReader.run ⟨.code ((column.label.restem stem).text.toList ++ ['.']), ⟨call, found⟩⟩
        (identifier column.name).toList) ⟨call, found⟩ := by
    unfold identifier
    split
    · rename_i bare
      rw [KeyReader.run_name _ _ (isNameChar_of_isBare bare)]
      exact KeyReader.ends_word _ (ne_objectFunction_of_dot (by simp))
    · rw [KeyReader.run_quoted]
      exact KeyReader.ends_fresh _
  rw [← dotted] at ends
  rw [Reads, Column.pieces, KeyReader.readAll_cons, KeyReader.readAll_code,
    KeyReader.readAll_cons, KeyReader.readAll_nil]
  exact ends

end Letters

theorem builds_number (stem : String) (number : Nat) : Builds stem Anywhere [.number number] [] := by
  refine builds_of_reads fun call found _ => ?_
  have ends := KeyReader.ends_word ⟨call, found⟩ (ne_objectFunction_of_number [] number)
  have read := KeyReader.run_name ⟨call, found⟩ [] (toString_isNameChar number)
  rw [← read] at ends
  exact .of_ends ends

theorem builds_table (stem name : String) : Builds stem Anywhere [.table name] [] := by
  refine builds_of_reads fun call found _ => ?_
  have ends := KeyReader.ends_fresh ⟨call, found⟩
  rw [← KeyReader.run_table ⟨call, found⟩ name] at ends
  exact .of_ends ends

/-! ## Brackets and commas -/

theorem shielded_deeper (call : Option OpenCall) : Shielded (call.map OpenCall.deeper) := by
  intro inner member
  obtain ⟨outer, -, rfl⟩ := Option.map_eq_some_iff.mp member
  exact Nat.succ_pos _

theorem passes_comma : Passes Shielded ", " := by
  intro call found shielded
  match call with
  | none => rfl
  | some ⟨0, atKey, keys⟩ => exact absurd (shielded _ rfl) (Nat.lt_irrefl 0)
  | some ⟨depth + 1, atKey, keys⟩ => rfl

theorem builds_bracketed {stem start : String} {pieces : List Piece}
    {place : Option OpenCall → Prop}
    (opens : ∀ call found, place call → (KeyReader.fresh ⟨call, found⟩).run start.toList =
      KeyReader.fresh ⟨call.map OpenCall.deeper, found⟩)
    (builds : Builds stem Shielded pieces []) :
    Builds stem place (.code start :: pieces ++ [.code ")"]) [] := by
  refine Builds.enclosed opens rfl (fun call found _ => ?_) (fun call _ => shielded_deeper call)
    builds
  have closed : (KeyReader.fresh ⟨call.map OpenCall.deeper, found⟩).run ")".toList =
      KeyReader.fresh ⟨call, found⟩ := by
    cases call <;> rfl
  exact (reads_nothing stem _).after closed

/-! ## Values -/

section Values

variable {stem : String} (letters : stem.toList.all isNameChar = true)

include letters

theorem builds_columns (columns : List Column) :
    Builds stem Shielded (columnPieces columns) [] :=
  builds_listed_nothing rfl passes_comma fun column _ =>
    (builds_column letters column).mono fun _ _ => trivial

theorem builds_row (columns : List Column) : Builds stem Anywhere (rowPieces columns) [] := by
  have several : Builds stem Anywhere (enclosed (columnPieces columns)) [] :=
    builds_bracketed (fun call _ _ => by cases call <;> rfl) (builds_columns letters columns)
  match columns with
  | [] => exact several
  | [column] => exact builds_column letters column
  | _ :: _ :: _ => exact several

end Values

def calls (size : Nat) (labels : List String) : List (List String) :=
  if labels.length ≤ max size 1 then [labels] else chunks (max size 1) labels

theorem calls_map (size : Nat) (f : String → String) (labels : List String) :
    calls size (labels.map f) = (calls size labels).map (List.map f) := by
  unfold calls
  rw [List.length_map, chunks_map]
  split <;> rfl

theorem flatten_chunks {α : Type} (size : Nat) (items : List α) :
    (chunks size items).flatten = items := by
  fun_induction chunks size items with
  | case1 => rfl
  | case2 item rest ih => simp [ih]

theorem flatten_calls (size : Nat) (labels : List String) :
    (calls size labels).flatten = labels := by
  unfold calls
  split
  · simp
  · exact flatten_chunks _ _

section Objects

variable {stem : String} {pairs : List (String × List Piece)}

theorem run_closed_comma (text : List Char) (keys : List (List Char))
    (found : List (List (List Char))) :
    KeyReader.run ⟨.closed text, ⟨some { keys }, found⟩⟩ ", ".toList =
      KeyReader.fresh ⟨some ⟨0, false, keys ++ [text]⟩, found⟩ := rfl

theorem run_value_comma (keys : List (List Char)) (found : List (List (List Char))) :
    (KeyReader.fresh ⟨some ⟨0, false, keys⟩, found⟩).run ", ".toList =
      KeyReader.fresh ⟨some { keys }, found⟩ := rfl

theorem run_close_call (atKey : Bool) (keys : List (List Char))
    (found : List (List (List Char))) :
    (KeyReader.fresh ⟨some ⟨0, atKey, keys⟩, found⟩).run ")".toList =
      KeyReader.fresh ⟨none, found ++ [keys]⟩ := rfl

theorem reads_arguments (each : ∀ pair ∈ pairs, Builds stem Inside pair.2 [])
    (keys : List (List Char)) (found : List (List (List Char))) :
    Reads stem
      (listed ", " (pairs.map fun pair => .key pair.1 :: .code ", " :: pair.2) ++ [.code ")"])
      ⟨some { keys }, found⟩ ⟨none, found ++ [keys ++ pairs.map (·.1.toList)]⟩ := by
  have closed : ∀ atKey keys, Reads stem [.code ")"] ⟨some ⟨0, atKey, keys⟩, found⟩
      ⟨none, found ++ [keys]⟩ := fun atKey keys =>
    (reads_nothing stem _).after (run_close_call atKey keys found)
  induction pairs generalizing keys with
  | nil => simpa [listed] using closed true keys
  | cons pair rest ih =>
      obtain ⟨here, later⟩ := List.forall_mem_cons.mp each
      have first : Reads stem (.key pair.1 :: .code ", " :: pair.2) ⟨some { keys }, found⟩
          ⟨some ⟨0, false, keys ++ [pair.1.toList]⟩, found⟩ := by
        rw [Reads, KeyReader.readAll_key, KeyReader.readAll_code, run_closed_comma]
        have value := here (some ⟨0, false, keys ++ [pair.1.toList]⟩) found ⟨_, rfl⟩
        rwa [List.map_nil, List.append_nil] at value
      cases rest with
      | nil => exact first.append rfl (closed false _)
      | cons next rest =>
          have others := (ih later (keys ++ [pair.1.toList])).after (run_value_comma _ found)
          rw [List.append_assoc, List.singleton_append] at others
          rw [List.map_cons, List.map_cons, listed, List.append_assoc]
          · exact first.append rfl others
          · simp

theorem builds_call (each : ∀ pair ∈ pairs, Builds stem Inside pair.2 []) :
    Builds stem Outside (callPieces pairs) [pairs.map (·.1)] := by
  rintro call found rfl
  have opened : (KeyReader.fresh ⟨none, found⟩).run "json_build_object(".toList =
      KeyReader.fresh ⟨some {}, found⟩ := rfl
  have read := (reads_arguments each [] found).after opened
  rw [callPieces, List.cons_append, List.map_singleton, List.map_map]
  exact read

theorem builds_object (size : Nat) (each : ∀ pair ∈ pairs, Builds stem Inside pair.2 []) :
    Builds stem Outside (objectPieces size pairs) (calls size (pairs.map (·.1))) := by
  unfold objectPieces calls
  rw [List.length_map]
  split
  · exact builds_call each
  · have chunk : ∀ part ∈ chunks (max size 1) pairs,
        Builds stem Outside (callPieces part ++ [.code "::jsonb"]) [part.map (·.1)] := by
      intro part listed
      have call := builds_call fun pair member => each pair (mem_of_mem_chunks listed member)
      exact call.append rfl (word_outside (fun _ => rfl) (by decide))
    have bar : Passes Outside " || " := passes_outside fun _ => rfl
    have bracket : Passes Outside "(" := passes_outside fun _ => rfl
    have parts := ((builds_listed rfl bar chunk).after bracket).append rfl
      (word_outside (fun _ => rfl) (by decide) : Builds stem Outside [.code ")::json"] [])
    rw [List.append_nil, ← List.map_eq_flatMap, ← chunks_map] at parts
    exact parts

theorem builds_inner_call (each : ∀ pair ∈ pairs, Builds stem Anywhere pair.2 []) :
    Builds stem Inside (callPieces pairs) [] := by
  have argument : ∀ pair ∈ pairs,
      Builds stem Shielded (.key pair.1 :: .code ", " :: pair.2) [] := by
    intro pair member
    refine builds_of_reads fun call found shielded => ?_
    have read : KeyReader.run ⟨.closed pair.1.toList, ⟨call, found⟩⟩ ", ".toList =
        KeyReader.fresh ⟨call, found⟩ := by
      generalize pair.1.toList = text
      match call with
      | none => rfl
      | some ⟨0, atKey, keys⟩ => exact absurd (shielded _ rfl) (Nat.lt_irrefl 0)
      | some ⟨depth + 1, atKey, keys⟩ => rfl
    rw [Reads, KeyReader.readAll_key, KeyReader.readAll_code, read]
    have value := each pair member call found trivial
    rwa [List.map_nil, List.append_nil] at value
  refine builds_bracketed ?_ (builds_listed_nothing rfl passes_comma argument)
  rintro _ _ ⟨call, rfl⟩
  rfl

theorem builds_inner_object (size : Nat) (each : ∀ pair ∈ pairs, Builds stem Anywhere pair.2 []) :
    Builds stem Inside (objectPieces size pairs) [] := by
  unfold objectPieces
  split
  · exact builds_inner_call each
  · have chunk : ∀ part ∈ chunks (max size 1) pairs,
        Builds stem Inside (callPieces part ++ [.code "::jsonb"]) [] := by
      intro part listed
      have call := builds_inner_call fun pair member => each pair (mem_of_mem_chunks listed member)
      exact call.append rfl (builds_word (fun _ _ _ => rfl) (by decide))
    have bar : Passes Inside " || " := fun _ _ _ => rfl
    refine Builds.enclosed ?_ rfl ?_ ?_ (builds_listed_nothing rfl bar chunk)
    · rintro _ _ ⟨call, rfl⟩
      rfl
    · rintro _ found ⟨call, rfl⟩
      exact .of_word rfl (by decide : "json".toList ≠ objectFunction)
    · rintro _ ⟨call, rfl⟩
      exact ⟨call.deeper, rfl⟩

end Objects

section Trees

variable {stem : String} (letters : stem.toList.all isNameChar = true)

include letters

theorem builds_nested (label : Alias) :
    Builds stem Anywhere [.label label, .code ".value"] [] := by
  refine builds_of_reads fun call found _ => ?_
  have value := KeyReader.run_word ⟨call, found⟩ (label.restem stem).text.toList
    (List.all_eq_true.mp (by decide : ".value".toList.all KeyReader.isWordChar = true))
  have ends := KeyReader.ends_word ⟨call, found⟩ (ne_objectFunction_of_dot
    (by simp : '.' ∈ (label.restem stem).text.toList ++ ".value".toList))
  rw [← value, ← run_label letters] at ends
  rw [Reads, KeyReader.readAll_cons, KeyReader.readAll_code, KeyReader.readAll_nil]
  exact ends

theorem Value.builds {value : Value} (regular : value.isRegular = true) :
    Builds stem Inside value.pieces [] := by
  cases value with
  | null => exact builds_word (fun _ _ _ => rfl) (by decide)
  | column shown => exact (builds_column letters shown).mono fun _ _ => trivial
  | array shown =>
      refine builds_bracketed ?_ (builds_columns letters shown)
      rintro _ _ ⟨call, rfl⟩
      rfl
  | nested label => exact (builds_nested letters label).mono fun _ _ => trivial
  | raw size shown =>
      refine builds_inner_object size (List.forall_mem_map.mpr fun column _ => ?_)
      exact builds_column letters column
  | text sql => cases regular

theorem ObjectExpr.builds {size : Nat} {list : List (String × Value)}
    (regular : (ObjectExpr.pairs size list).isRegular = true) :
    Builds stem Outside (ObjectExpr.pairs size list).pieces (calls size (list.map (·.1))) := by
  have values : ∀ pair ∈ list.map fun pair => (pair.1, pair.2.pieces),
      Builds stem Inside pair.2 [] :=
    List.forall_mem_map.mpr fun pair listed =>
      Value.builds letters (List.all_eq_true.mp regular pair listed)
  have object := builds_object size values
  rw [List.map_map] at object
  exact object

end Trees

/-! ## Tests -/

section Outside

variable {stem : String}

theorem Builds.outside {pieces : List Piece} {keys : List (List String)}
    (builds : Builds stem Anywhere pieces keys) : Builds stem Outside pieces keys :=
  builds.mono fun _ _ => trivial

theorem Builds.unshielded {pieces : List Piece} {keys : List (List String)}
    (builds : Builds stem Shielded pieces keys) : Builds stem Outside pieces keys := by
  refine builds.mono ?_
  rintro _ rfl
  nofun

theorem outside_comma : Passes Outside ", " := passes_outside fun _ => rfl

theorem outside_space : Passes Outside " " := passes_outside fun _ => rfl

theorem outside_open : Passes Outside "(" := passes_outside fun _ => rfl

theorem builds_close : Builds stem Outside [.code ")"] [] :=
  (passes_outside fun _ => rfl : Passes Outside ")").builds

theorem builds_enclosed {pieces : List Piece} {keys : List (List String)}
    (builds : Builds stem Outside pieces keys) : Builds stem Outside (enclosed pieces) keys := by
  have whole := (builds.after outside_open).append rfl builds_close
  rwa [List.append_nil] at whole

variable (letters : stem.toList.all isNameChar = true)

include letters

theorem Cell.builds (cell : Cell Parameter) : Builds stem Outside cell.pieces [] := by
  cases cell with
  | one slot => exact (builds_slot letters slot).outside
  | row slots =>
      exact builds_enclosed (builds_listed_nothing rfl outside_comma fun slot _ =>
        (builds_slot letters slot).outside)

theorem builds_cells (cells : List (Cell Parameter)) :
    Builds stem Outside (listed ", " (cells.map Cell.pieces)) [] :=
  builds_listed_nothing rfl outside_comma fun cell _ => cell.builds letters

omit letters in
theorem Comparison.builds (comparison : Comparison) :
    Builds stem Outside [.code comparison.text] [] := by
  cases comparison <;> exact word_outside (fun _ => rfl) (by decide)

namespace Test

variable {subject : List Piece}

omit letters in
theorem builds_null (negated : Bool) (builds : Builds stem Outside subject []) :
    Builds stem Outside (nullPieces negated subject) [] := by
  cases negated with
  | false => exact builds.append rfl (word_outside (fun _ => rfl) (by decide))
  | true => exact builds.append rfl (word_outside (fun _ => rfl) (by decide))

theorem builds_member (negated : Bool) (cells : List (Cell Parameter))
    (builds : Builds stem Outside subject []) :
    Builds stem Outside (memberPieces negated subject cells) [] := by
  have word : Passes Outside (if negated then " NOT IN (" else " IN (") := by
    cases negated with
    | false => exact passes_outside fun _ => rfl
    | true => exact passes_outside fun _ => rfl
  have severed : isSevered [.code (if negated then " NOT IN (" else " IN (")] = true := by
    cases negated <;> rfl
  exact (builds.between severed word (builds_cells letters cells)).append rfl builds_close

theorem builds (test : Test Parameter) (row : Builds stem Outside subject []) :
    Builds stem Outside (test.pieces subject) [] := by
  have slot : ∀ parameter, Builds stem Outside [.slot parameter] [] := fun parameter =>
    (builds_slot letters parameter).outside
  cases test with
  | constant value => cases value <;> exact word_outside (fun _ => rfl) (by decide)
  | isNull negated => exact builds_null negated row
  | compare comparison parameter =>
      exact row.between rfl outside_space
        (comparison.builds.between rfl outside_space (slot parameter))
  | matchesWords parameter =>
      have start : Passes Outside "to_tsvector(" := passes_outside fun _ => rfl
      have query : Passes Outside ") @@ plainto_tsquery(" := passes_outside fun _ => rfl
      exact (row.after start).between rfl query ((slot parameter).append rfl builds_close)
  | member negated cells => exact builds_member letters negated cells row
  | memberOrNull negated cells =>
      have word : Passes Outside (if negated then " AND " else " OR ") := by
        cases negated with
        | false => exact passes_outside fun _ => rfl
        | true => exact passes_outside fun _ => rfl
      have severed : isSevered [.code (if negated then " AND " else " OR ")] = true := by
        cases negated <;> rfl
      exact (((builds_member letters negated cells row).after outside_open).between severed word
        (builds_null negated row)).append rfl builds_close
  | between low high =>
      have between : Passes Outside " BETWEEN " := passes_outside fun _ => rfl
      have word : Passes Outside " AND " := passes_outside fun _ => rfl
      exact (row.between rfl between (low.builds letters)).between rfl word (high.builds letters)
  | contains cells =>
      have start : Passes Outside " @> ARRAY[" := passes_outside fun _ => rfl
      have bracket : Passes Outside "]" := passes_outside fun _ => rfl
      exact (row.between rfl start (builds_cells letters cells)).append rfl bracket.builds

end Test

/-! ## Selects -/

theorem builds_equation (left right : Column) :
    Builds stem Outside (equationPieces left right) [] := by
  have sign : Passes Outside " = " := passes_outside fun _ => rfl
  exact (builds_column letters left).outside.between rfl sign
    (builds_column letters right).outside

theorem builds_aliased {source : List Piece} {keys : List (List String)}
    (builds : Builds stem Outside source keys) (label : Alias) :
    Builds stem Outside (aliasedPieces source label) keys := by
  have word : Passes Outside " AS " := passes_outside fun _ => rfl
  have whole := builds.between rfl word (builds_label letters label).outside
  rwa [List.append_nil] at whole

theorem builds_table_aliased (name : String) (label : Alias) :
    Builds stem Outside (aliasedPieces [.table name] label) [] :=
  builds_aliased letters (builds_table stem name).outside label

omit letters in
theorem builds_connected {word whenEmpty : String} {operands : List (List Piece)}
    (severed : isSevered [.code (" " ++ word ++ " ")] = true)
    (passes : Passes Outside (" " ++ word ++ " "))
    (empty : Builds stem Outside [.code whenEmpty] [])
    (each : ∀ operand ∈ operands, Builds stem Outside operand []) :
    Builds stem Outside (connectedPieces word whenEmpty operands) [] := by
  match operands with
  | [] => exact empty
  | [operand] => exact each operand List.mem_cons_self
  | first :: second :: rest =>
      exact builds_listed_nothing severed passes fun operand member =>
        builds_enclosed (each operand member)

omit letters in
theorem builds_conjunction {operands : List (List Piece)}
    (each : ∀ operand ∈ operands, Builds stem Outside operand []) :
    Builds stem Outside (connectedPieces "AND" "TRUE" operands) [] :=
  builds_connected rfl (passes_outside fun _ => rfl) (word_outside (fun _ => rfl) (by decide)) each

omit letters in
theorem builds_disjunction {operands : List (List Piece)}
    (each : ∀ operand ∈ operands, Builds stem Outside operand []) :
    Builds stem Outside (connectedPieces "OR" "FALSE" operands) [] :=
  builds_connected rfl (passes_outside fun _ => rfl) (word_outside (fun _ => rfl) (by decide)) each

theorem Order.builds {order : Order} (regular : order.isRegular = true) :
    Builds stem Outside order.pieces [] := by
  cases order with
  | text sql => cases regular
  | terms list =>
      have term : ∀ term ∈ list,
          Builds stem Outside (term.1.pieces ++ [.code " ", .code term.2.text]) [] := by
        intro term _
        have direction : Builds stem Outside [.code term.2.text] [] := by
          cases term.2 <;> exact word_outside (fun _ => rfl) (by decide)
        exact (builds_column letters term.1).outside.between rfl outside_space direction
      have word : Passes Outside "ORDER BY " := passes_outside fun _ => rfl
      exact (builds_listed_nothing rfl outside_comma term).after word

omit letters in
theorem builds_slice (limit offset : Option Nat) :
    Builds stem Outside (slicePieces limit offset) [] := by
  have counted : ∀ (word : String), Passes Outside word → ∀ count : Option Nat,
      Builds stem Outside (count.elim [] fun number => [.code word, .number number]) [] := by
    intro word passes count
    cases count with
    | none => exact builds_nothing
    | some number => exact (builds_number stem number).outside.after passes
  have severed : isSevered (offset.elim [] fun number => [.code " OFFSET ", .number number]) =
      true := by
    cases offset <;> rfl
  exact (counted " LIMIT " (passes_outside fun _ => rfl) limit).append severed
    (counted " OFFSET " (passes_outside fun _ => rfl) offset)

omit letters in
theorem builds_where {conditions : List (List Piece)}
    (each : ∀ condition ∈ conditions, Builds stem Outside condition []) :
    Builds stem Outside (wherePieces conditions) [] := by
  unfold wherePieces
  split
  · exact builds_nothing
  · have word : Passes Outside "WHERE " := passes_outside fun _ => rfl
    exact ((builds_conjunction each).after word).after outside_space

omit letters in
/-- A select builds what it returns, then what stands in its source and in its joins. -/
theorem SelectPieces.builds {parts : SelectPieces} {shown read joined : List (List String)}
    (output : Builds stem Outside parts.output shown)
    (source : Builds stem Outside parts.source read)
    (joins : Builds stem Outside (parts.joins.flatMap (.code " " :: ·)) joined)
    (conditions : ∀ condition ∈ parts.conditions, Builds stem Outside condition [])
    (order : ∀ given ∈ parts.order, Builds stem Outside given []) :
    Builds stem Outside parts.pieces (shown ++ (read ++ joined)) := by
  have start : Passes Outside "SELECT " := passes_outside fun _ => rfl
  have word : Passes Outside " FROM " := passes_outside fun _ => rfl
  have joinsSevered : isSevered (parts.joins.flatMap (.code " " :: ·)) = true := by
    cases parts.joins <;> rfl
  have whereSevered : isSevered (wherePieces parts.conditions) = true := by
    unfold wherePieces
    split <;> rfl
  have orderSevered : isSevered (parts.order.elim [] (.code " " :: ·)) = true := by
    cases parts.order <;> rfl
  have sliceSevered : isSevered (slicePieces parts.limit parts.offset) = true := by
    cases parts.limit <;> cases parts.offset <;> rfl
  have ordered : Builds stem Outside (parts.order.elim [] (.code " " :: ·)) [] := by
    cases given : parts.order with
    | none => exact builds_nothing
    | some pieces => exact (order pieces given).after outside_space
  have whole := (((((output.after start).between rfl word source).append joinsSevered
    joins).append whereSevered (builds_where conditions)).append orderSevered ordered).append
    sliceSevered (builds_slice parts.limit parts.offset)
  simp only [List.append_nil, List.append_assoc shown] at whole
  exact whole

theorem Hop.builds (hop : Hop) : Builds stem Outside hop.pieces [] := by
  have pairs : ∀ condition ∈ hop.pairs.map fun pair => equationPieces pair.1 pair.2,
      Builds stem Outside condition [] :=
    List.forall_mem_map.mpr fun pair _ => builds_equation letters pair.1 pair.2
  have unordered : ∀ given ∈ (none : Option (List Piece)), Builds stem Outside given [] := by
    nofun
  change Builds stem Outside hop.pieces ([] ++ ([] ++ []))
  rw [Hop.pieces]
  exact SelectPieces.builds (builds_columns letters hop.keys).unshielded
    (builds_table_aliased letters hop.table hop.label) builds_nothing pairs unordered

theorem builds_in (subject : List Column) {pieces : List Piece}
    (builds : Builds stem Outside pieces []) :
    Builds stem Outside (rowPieces subject ++ .code " IN (" :: pieces ++ [.code ")"]) [] := by
  have word : Passes Outside " IN (" := passes_outside fun _ => rfl
  exact ((builds_row letters subject).outside.between rfl word builds).append rfl builds_close

theorem builds_lateral (kind : JoinKind) {pieces : List Piece} {keys : List (List String)}
    (builds : Builds stem Outside pieces keys) (label : Alias) :
    Builds stem Outside
      (.code kind.text :: .code " JOIN LATERAL (" :: pieces ++
        [.code ") AS ", .label label, .code " ON TRUE"]) keys := by
  have lead : Builds stem Outside [.code kind.text] [] := by
    cases kind <;> exact word_outside (fun _ => rfl) (by decide)
  have start : Passes Outside " JOIN LATERAL (" := passes_outside fun _ => rfl
  have named : Passes Outside ") AS " := passes_outside fun _ => rfl
  have always : Builds stem Outside [.code " ON TRUE"] [] :=
    word_outside (fun _ => rfl) (by decide)
  have finish := ((builds_label letters label).outside.append rfl always).after named
  have whole := (lead.between rfl start builds).append rfl finish
  simpa only [List.append_nil, List.nil_append, List.singleton_append, List.cons_append]
    using whole

omit letters in
theorem builds_array {pieces : List Piece} {keys : List (List String)}
    (builds : Builds stem Outside pieces keys) : Builds stem Outside (arrayPieces pieces) keys := by
  have start : Passes Outside "coalesce(json_agg(" := passes_outside fun _ => rfl
  have finish : Passes Outside "), '[]'::json)" := passes_outside fun _ => rfl
  have whole := (builds.after start).append rfl finish.builds
  rwa [List.append_nil] at whole

/-! ## Outputs -/

section Outputs

omit letters

variable {object : ObjectExpr} {keys : List (List String)}
  (builds : Builds stem Outside object.pieces keys)

include builds

theorem Output.builds_object {name : String} (named : Builds stem Outside [.code name] []) :
    Builds stem Outside (Output.object object name).pieces keys := by
  have word : Passes Outside " AS " := passes_outside fun _ => rfl
  have whole := builds.between rfl word named
  rwa [List.append_nil] at whole

theorem Output.builds_collected : Builds stem Outside (Output.collected object).pieces keys := by
  have named : Builds stem Outside [.code " AS value"] [] := word_outside (fun _ => rfl) (by decide)
  have whole := (builds_array builds).append rfl named
  rwa [List.append_nil] at whole

include letters

theorem Output.builds_numbered {order : Order} (regular : order.isRegular = true) :
    Builds stem Outside (Output.numbered object order).pieces keys := by
  have word : Passes Outside " AS value, row_number() OVER (" := passes_outside fun _ => rfl
  have close : Passes Outside ") AS " := passes_outside fun _ => rfl
  have named : Builds stem Outside [.code position] [] := word_outside (fun _ => rfl) (by decide)
  have whole := (builds.between rfl word (Order.builds letters regular)).append rfl
    (named.after close)
  rwa [List.append_nil, List.append_nil] at whole

end Outputs

theorem Output.builds_collectedPage (page : Alias) (ordered : Bool) :
    Builds stem Outside (Output.collectedPage page ordered).pieces [] := by
  have word : Passes Outside " ORDER BY " := passes_outside fun _ => rfl
  have named : Builds stem Outside [.code " AS value"] [] := word_outside (fun _ => rfl) (by decide)
  have value := (builds_nested letters page).outside
  cases ordered with
  | false => exact (builds_array value).append rfl named
  | true =>
      have sorted := value.between rfl word (builds_column letters ⟨page, position⟩).outside
      exact (builds_array sorted).append rfl named

end Outside

end TreeQuery.Sql
