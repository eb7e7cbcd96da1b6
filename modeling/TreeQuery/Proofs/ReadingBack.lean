import TreeQuery.Sql.Identifier

/-!
# Reading names and literals back

A database reads a text token by token.  A word that is not quoted is folded to lower
case, and is a name unless it is reserved.  Between double quotes stands a name and
between single quotes a literal, in which the quote itself is written twice and every
other character, a backslash too, stands for itself.  Names and literals as they are
written into statements are read back as they were, whatever they consist of, and the
reader stops where they end.
-/

namespace TreeQuery.Sql

/-! ## Tokens -/

inductive Token where
  | name (name : String)
  | keyword (word : String)
  | literal (text : String)
  | symbol (symbol : Char)
  deriving DecidableEq, Repr

/-- Letters and the underscore; every character outside ASCII counts as a letter. -/
def startsWord (c : Char) : Bool :=
  ('a' ≤ c && c ≤ 'z') || ('A' ≤ c && c ≤ 'Z') || c = '_' || 0x80 ≤ c.toNat

def continuesWord (c : Char) : Bool := startsWord c || ('0' ≤ c && c ≤ '9') || c = '$'

def Token.ofWord (word : List Char) : Token :=
  let folded := String.ofList (word.map Char.toLower)
  if reservedWords.contains folded then .keyword folded else .name folded

def readQuoted (quote : Char) : List Char → Option (List Char × List Char)
  | [] => none
  | c :: rest =>
      if c = quote then
        match rest with
        | [] => some ([], [])
        | d :: more =>
            if d = quote then (readQuoted quote more).map fun read => (quote :: read.1, read.2)
            else some ([], d :: more)
      else (readQuoted quote rest).map fun read => (c :: read.1, read.2)

def readToken : List Char → Option (Token × List Char)
  | [] => none
  | c :: rest =>
      if c = '"' then
        (readQuoted '"' rest).map fun read => (.name (String.ofList read.1), read.2)
      else if c = '\'' then
        (readQuoted '\'' rest).map fun read => (.literal (String.ofList read.1), read.2)
      else if startsWord c then
        some (.ofWord (c :: rest.takeWhile continuesWord), rest.dropWhile continuesWord)
      else some (.symbol c, rest)

theorem readQuoted_length {quote : Char} {text content rest : List Char}
    (read : readQuoted quote text = some (content, rest)) : rest.length < text.length := by
  fun_induction readQuoted quote text generalizing content with
  | case1 => cases read
  | case2 =>
      cases read
      exact Nat.zero_lt_one
  | case3 more ih =>
      obtain ⟨inner, found, same⟩ := Option.map_eq_some_iff.mp read
      cases same
      exact Nat.lt_trans (ih found) (Nat.lt_add_of_pos_right Nat.zero_lt_two)
  | case4 d more =>
      cases read
      exact Nat.lt_succ_self _
  | case5 c later _ ih =>
      obtain ⟨inner, found, same⟩ := Option.map_eq_some_iff.mp read
      cases same
      exact Nat.lt_trans (ih found) (Nat.lt_succ_self _)

theorem readToken_length {text rest : List Char} {token : Token}
    (read : readToken text = some (token, rest)) : rest.length < text.length := by
  cases text with
  | nil => cases read
  | cons c later =>
      have shorter : rest.length ≤ later.length := by
        simp only [readToken] at read
        split at read
        · obtain ⟨inner, found, same⟩ := Option.map_eq_some_iff.mp read
          cases same
          exact Nat.le_of_lt (readQuoted_length found)
        · split at read
          · obtain ⟨inner, found, same⟩ := Option.map_eq_some_iff.mp read
            cases same
            exact Nat.le_of_lt (readQuoted_length found)
          · split at read
            · cases read
              exact (List.dropWhile_suffix _).length_le
            · cases read
              exact Nat.le_refl _
      exact Nat.lt_succ_of_le shorter

/-- The names of a path: after each dot another name has to follow. -/
def readPath (text : List Char) : Option (List String × List Char) :=
  match _ : readToken text with
  | some (.name name, '.' :: rest) => (readPath rest).map fun path => (name :: path.1, path.2)
  | some (.name name, rest) => some ([name], rest)
  | _ => none
termination_by text.length
decreasing_by
  rename_i read
  exact Nat.lt_of_succ_lt (readToken_length read)

/-! ## Quoted text -/

theorem readQuoted_of_ne {quote c : Char} (differs : c ≠ quote) (rest : List Char) :
    readQuoted quote (c :: rest) =
      (readQuoted quote rest).map fun read => (c :: read.1, read.2) := by
  rw [readQuoted.eq_def]
  simp only [differs, if_false]

theorem readQuoted_doubled {quote : Char} {rest : List Char} (ends : rest.head? ≠ some quote)
    (text : List Char) :
    readQuoted quote (Text.doubled quote text ++ quote :: rest) = some (text, rest) := by
  induction text with
  | nil =>
      cases rest with
      | nil => simp [Text.doubled, readQuoted]
      | cons d more =>
          have differs : d ≠ quote := fun same => ends (by rw [same, List.head?_cons])
          simp [Text.doubled, readQuoted, differs]
  | cons c later ih =>
      by_cases same : c = quote
      · simp [Text.doubled, readQuoted, same, ih]
      · simp [Text.doubled, readQuoted_of_ne, same, ih]

theorem readToken_quoted {rest : List Char} (ends : rest.head? ≠ some '"') (name : String) :
    readToken ((Text.quoted '"' name).toList ++ rest) = some (.name name, rest) := by
  simp [Text.quoted, readToken, readQuoted_doubled ends]

theorem readToken_literal {rest : List Char} (ends : rest.head? ≠ some '\'') (text : String) :
    readToken ((literal text).toList ++ rest) = some (.literal text, rest) := by
  simp [literal, Text.quoted, readToken, readQuoted_doubled ends]

/-! ## Bare names -/

theorem toLower_of_isBareChar {c : Char} (bare : isBareChar c = true) : c.toLower = c := by
  have small : ¬ (c.val ≥ 'A'.val ∧ c.val ≤ 'Z'.val) := by
    rintro ⟨above, below⟩
    have low : 65 ≤ c.val.toNat := above
    have high : c.val.toNat ≤ 90 := below
    simp only [isBareChar, isBareStart, Bool.or_eq_true, Bool.and_eq_true,
      decide_eq_true_eq] at bare
    rcases bare with (⟨start, -⟩ | rfl) | ⟨-, digit⟩
    · have : 97 ≤ c.val.toNat := start
      omega
    · exact absurd high (by decide)
    · have : c.val.toNat ≤ 57 := digit
      omega
  exact dif_neg small

theorem continuesWord_of_isBareChar {c : Char} (bare : isBareChar c = true) :
    continuesWord c = true := by
  simp only [isBareChar, isBareStart, Bool.or_eq_true] at bare
  rcases bare with (lower | underscore) | digit
  · simp [continuesWord, startsWord, lower]
  · simp [continuesWord, startsWord, underscore]
  · simp [continuesWord, digit]

theorem startsWord_of_isBareStart {c : Char} (bare : isBareStart c = true) :
    startsWord c = true := by
  simp only [isBareStart, Bool.or_eq_true] at bare
  rcases bare with lower | underscore
  · simp [startsWord, lower]
  · simp [startsWord, underscore]

theorem ofWord_of_isBare {name : String} (bare : isBare name = true) :
    Token.ofWord name.toList = .name name := by
  simp only [isBare, Bool.and_eq_true, Bool.not_eq_true'] at bare
  obtain ⟨⟨-, all⟩, unreserved⟩ := bare
  have folded : name.toList.map Char.toLower = name.toList :=
    (List.map_congr_left fun c member =>
      toLower_of_isBareChar (List.all_eq_true.mp all c member)).trans (List.map_id _)
  rw [Token.ofWord, folded, String.ofList_toList, if_neg (Bool.eq_false_iff.mp unreserved)]

theorem readToken_bare {name : String} {rest : List Char} (bare : isBare name = true)
    (ends : ∀ c ∈ rest.head?, continuesWord c = false) :
    readToken (name.toList ++ rest) = some (.name name, rest) := by
  have understood := ofWord_of_isBare bare
  simp only [isBare, Bool.and_eq_true] at bare
  obtain ⟨⟨first, all⟩, -⟩ := bare
  cases characters : name.toList with
  | nil => simp [characters] at first
  | cons c later =>
      rw [characters] at understood first all
      have starts : startsWord c = true := startsWord_of_isBareStart first
      have word : ∀ d ∈ later, continuesWord d = true := fun d member =>
        continuesWord_of_isBareChar (List.all_eq_true.mp all d (List.mem_cons_of_mem _ member))
      have unquoted : ∀ mark, startsWord mark = false → c ≠ mark := by
        rintro mark outside rfl
        exact Bool.false_ne_true (outside.symm.trans starts)
      -- the word is as long as the name, since what follows does not continue it
      have stops : rest.takeWhile continuesWord = [] ∧ rest.dropWhile continuesWord = rest := by
        cases rest with
        | nil => exact ⟨rfl, rfl⟩
        | cons d more => simp [ends d rfl]
      rw [List.cons_append, readToken, if_neg (unquoted '"' rfl), if_neg (unquoted '\'' rfl),
        if_pos starts, List.takeWhile_append_of_pos word, List.dropWhile_append_of_pos word,
        stops.1, stops.2, List.append_nil, understood]

theorem readToken_identifier {name : String} {rest : List Char}
    (bare : isBare name = true → ∀ c ∈ rest.head?, continuesWord c = false)
    (quoted : isBare name = false → rest.head? ≠ some '"') :
    readToken ((identifier name).toList ++ rest) = some (.name name, rest) := by
  cases plain : isBare name with
  | true =>
      rw [identifier, if_pos plain]
      exact readToken_bare plain (bare plain)
  | false =>
      rw [identifier, if_neg (by simp [plain])]
      exact readToken_quoted (quoted plain) name

/-! ## Tables -/

theorem pieces_ne_nil (separator : Char) (text : List Char) :
    Text.pieces separator text ≠ [] := by
  fun_cases Text.pieces separator text <;> simp_all

theorem intercalate_pieces (separator : Char) (text : List Char) :
    [separator].intercalate (Text.pieces separator text) = text := by
  induction text with
  | nil => rfl
  | cons c rest ih =>
      simp only [Text.pieces]
      split
      · rename_i same
        rw [List.intercalate_cons_of_ne_nil (pieces_ne_nil separator rest), ih, same]
        rfl
      · split
        · rename_i none
          exact absurd none (pieces_ne_nil separator rest)
        · rename_i piece more found
          rw [found] at ih
          cases more with
          | nil =>
              rw [List.intercalate_singleton] at ih ⊢
              rw [ih]
          | cons next more =>
              rw [List.intercalate_cons_cons] at ih ⊢
              rw [← ih]
              rfl

theorem readPath_last {text rest : List Char} {name : String}
    (read : readToken text = some (.name name, rest)) (ends : rest.head? ≠ some '.') :
    readPath text = some ([name], rest) := by
  rw [readPath]
  split
  · rename_i found
    cases found.symm.trans read
    exact absurd rfl ends
  · rename_i found
    cases found.symm.trans read
    rfl
  · rename_i unnamed
    exact absurd read (unnamed name rest)

theorem readPath_dot {text rest : List Char} {name : String}
    (read : readToken text = some (.name name, '.' :: rest)) :
    readPath text = (readPath rest).map fun path => (name :: path.1, path.2) := by
  rw [readPath]
  split
  · rename_i found
    cases found.symm.trans read
    rfl
  · rename_i undotted found
    cases found.symm.trans read
    exact absurd rfl (undotted rest)
  · rename_i unnamed
    exact absurd read (unnamed name _)

theorem readPath_quoted {rest : List Char} (closed : rest.head? ≠ some '"')
    (ends : rest.head? ≠ some '.') (name : String) (names : List String) :
    readPath ((".".intercalate ((name :: names).map (Text.quoted '"'))).toList ++ rest) =
      some (name :: names, rest) := by
  induction names generalizing name with
  | nil =>
      rw [List.map_singleton, String.intercalate_singleton]
      exact readPath_last (readToken_quoted closed name) ends
  | cons next more ih =>
      have dot : ".".toList = ['.'] := rfl
      rw [List.map_cons, List.map_cons, String.intercalate_cons_cons, ← List.map_cons,
        String.toList_append, String.toList_append, List.append_assoc, List.append_assoc, dot,
        List.singleton_append, readPath_dot (readToken_quoted (by simp) name), ih next]
      rfl

theorem readPath_tableName {rest : List Char} (closed : rest.head? ≠ some '"')
    (ends : rest.head? ≠ some '.') (name : String) :
    ∃ parts, readPath ((tableName name).toList ++ rest) = some (parts, rest) ∧
      ".".intercalate parts = name := by
  refine ⟨(Text.pieces '.' name.toList).map String.ofList, ?_, ?_⟩
  · obtain ⟨piece, more, found⟩ := List.exists_cons_of_ne_nil (pieces_ne_nil '.' name.toList)
    rw [tableName, found]
    have read := readPath_quoted closed ends (String.ofList piece) (more.map String.ofList)
    simpa [Function.comp_def] using read
  · have whole := intercalate_pieces '.' name.toList
    rw [← String.toList_inj, String.toList_intercalate, List.map_map]
    simpa [Function.comp_def] using whole

/--
Whatever a name or a text consists of, it is read back from what is written for it, and the
reader stops at its end: a column name as a name, a text as a literal, and the name of a table
as names that give it with dots between them.  What follows must not continue the token: a
character of a word behind a bare name, the same quote behind a quoted one, or a dot behind a
table.
-/
theorem written_reads_back (text : String) (rest : List Char) :
    ((isBare text = true → ∀ c ∈ rest.head?, continuesWord c = false) →
      (isBare text = false → rest.head? ≠ some '"') →
        readToken ((identifier text).toList ++ rest) = some (.name text, rest)) ∧
    (rest.head? ≠ some '\'' →
      readToken ((literal text).toList ++ rest) = some (.literal text, rest)) ∧
    (rest.head? ≠ some '"' → rest.head? ≠ some '.' →
      ∃ parts, readPath ((tableName text).toList ++ rest) = some (parts, rest) ∧
        ".".intercalate parts = text) :=
  ⟨readToken_identifier, fun ends => readToken_literal ends text,
    fun closed ends => readPath_tableName closed ends text⟩

end TreeQuery.Sql

namespace TreeQuery.Sample

open Sql (identifier isBare literal readPath readToken tableName)

/-- A bare name, a reserved word, and a text with quotes of both kinds, a dot and a backslash. -/
theorem written_reads_back_awkward :
    (isBare "last_name" = true ∧
      readToken ((identifier "last_name").toList ++ [',']) = some (.name "last_name", [','])) ∧
    (isBare "order" = false ∧
      readToken ((identifier "order").toList ++ ['s']) = some (.name "order", ['s'])) ∧
    readToken ((literal "o'neil\\\".Bag").toList ++ ['"']) =
      some (.literal "o'neil\\\".Bag", ['"']) ∧
    ∃ parts, readPath ((tableName "o'neil\\\".Bag").toList ++ [' ']) = some (parts, [' ']) ∧
      ".".intercalate parts = "o'neil\\\".Bag" := by
  have plain : isBare "last_name" = true := by decide +kernel
  have reserved : isBare "order" = false := by decide +kernel
  obtain ⟨bare, -, -⟩ := Sql.written_reads_back "last_name" [',']
  obtain ⟨quoted, -, -⟩ := Sql.written_reads_back "order" ['s']
  obtain ⟨-, single, -⟩ := Sql.written_reads_back "o'neil\\\".Bag" ['"']
  obtain ⟨-, -, dotted⟩ := Sql.written_reads_back "o'neil\\\".Bag" [' ']
  refine ⟨⟨plain, bare ?_ (by simp)⟩, ⟨reserved, quoted (by simp [reserved]) (by simp)⟩,
    single (by simp), dotted (by simp) (by simp)⟩
  rintro - c ⟨⟩
  rfl

end TreeQuery.Sample
