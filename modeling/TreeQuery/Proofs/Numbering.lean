import Mathlib.Data.Finset.Card
import Mathlib.Data.List.TakeWhile
import TreeQuery.Proofs.AscendingNames
import TreeQuery.Proofs.PlaceholderBindings

/-!
# Numbering the placeholders of a text

`Splits` says what the pieces of a text are, without saying how they are found: a
literal ends at its first quote that is not doubled, a name is as long as it can be,
and two colons belong together.  Every text splits in one way, and the scanner finds
it.  Numbering then fails at the first placeholder without a value, or else at the
least name without a placeholder, and otherwise gives each placeholder the rank of its
name.  The result has no placeholders left.
-/

namespace TreeQuery

open Lexeme (isNameChar splitLiteral scan name?)

/-! ## The pieces of a text -/

/-- What may stand behind the opening quote of a literal that is still open: a quote
occurs only together with another. -/
inductive Paired : List Char → Prop
  | nil : Paired []
  | plain {c : Char} {rest : List Char} (other : c ≠ '\'') (later : Paired rest) :
      Paired (c :: rest)
  | pair {rest : List Char} (later : Paired rest) : Paired ('\'' :: '\'' :: rest)

inductive Splits : List Char → List Lexeme → Prop
  | nil : Splits [] []
  | closed {inside rest : List Char} {lexemes : List Lexeme} (paired : Paired inside)
      (ends : rest.head? ≠ some '\'') (later : Splits rest lexemes) :
      Splits ('\'' :: (inside ++ '\'' :: rest))
        (.literal ('\'' :: (inside ++ ['\''])) :: lexemes)
  | unclosed {inside : List Char} (paired : Paired inside) :
      Splits ('\'' :: inside) [.literal ('\'' :: inside)]
  | cast {rest : List Char} {lexemes : List Lexeme} (later : Splits rest lexemes) :
      Splits (':' :: ':' :: rest) (.cast :: lexemes)
  | placeholder {name rest : List Char} {lexemes : List Lexeme} (nonempty : name ≠ [])
      (letters : ∀ c ∈ name, isNameChar c = true)
      (ends : ∀ c ∈ rest.head?, isNameChar c = false) (later : Splits rest lexemes) :
      Splits (':' :: (name ++ rest)) (.placeholder name :: lexemes)
  | other {c : Char} {rest : List Char} {lexemes : List Lexeme} (unquoted : c ≠ '\'')
      (single : c = ':' → ∀ d ∈ rest.head?, d ≠ ':' ∧ isNameChar d = false)
      (later : Splits rest lexemes) :
      Splits (c :: rest) (.other c :: lexemes)

theorem splitLiteral_plain {c : Char} (other : c ≠ '\'') (rest : List Char) :
    splitLiteral (c :: rest) = (c :: (splitLiteral rest).1, (splitLiteral rest).2) := by
  rw [splitLiteral]
  · simp [other]
  · intro _ same
    exact (other same).elim

theorem Paired.splitLiteral_closed {inside rest : List Char} (paired : Paired inside)
    (ends : rest.head? ≠ some '\'') :
    splitLiteral (inside ++ '\'' :: rest) = (inside ++ ['\''], rest) := by
  induction paired with
  | nil =>
      cases rest with
      | nil => rfl
      | cons c rest =>
          have other : c ≠ '\'' := by simpa using ends
          rw [List.nil_append, splitLiteral]
          · simp
          · rintro _ - ⟨rfl, rfl⟩
            exact other rfl
  | plain other _ ih => rw [List.cons_append, splitLiteral_plain other, ih, List.cons_append]
  | pair _ ih => simp [splitLiteral, ih]

theorem Paired.splitLiteral_unclosed {inside : List Char} (paired : Paired inside) :
    splitLiteral inside = (inside, []) := by
  induction paired with
  | nil => rfl
  | plain other _ ih => rw [splitLiteral_plain other, ih]
  | pair _ ih => simp [splitLiteral, ih]

theorem splitLiteral_cases (text : List Char) :
    (∃ inside rest, Paired inside ∧ rest.head? ≠ some '\'' ∧ text = inside ++ '\'' :: rest) ∨
      Paired text := by
  fun_induction splitLiteral text with
  | case1 => exact .inr .nil
  | case2 rest inside after split ih =>
      rcases ih with ⟨inner, later, paired, ends, rfl⟩ | paired
      · exact .inl ⟨'\'' :: '\'' :: inner, later, .pair paired, ends, rfl⟩
      · exact .inr (.pair paired)
  | case3 rest single =>
      refine .inl ⟨[], rest, .nil, fun quote => ?_, rfl⟩
      obtain ⟨tail, rfl⟩ := List.head?_eq_some_iff.mp quote
      exact single tail rfl rfl
  | case4 c rest single other inside after split ih =>
      rcases ih with ⟨inner, later, paired, ends, rfl⟩ | paired
      · exact .inl ⟨c :: inner, later, .plain other paired, ends, rfl⟩
      · exact .inr (.plain other paired)

/-- The scanner splits the text. -/
theorem splits_scan (text : List Char) : Splits text (scan text) := by
  fun_induction scan text with
  | case1 => exact .nil
  | case2 rest ih => exact .cast ih
  | case3 rest _ _ ih =>
      rcases splitLiteral_cases rest with ⟨inside, after, paired, ends, rfl⟩ | paired
      · rw [paired.splitLiteral_closed ends] at ih ⊢
        exact .closed paired ends ih
      · rw [paired.splitLiteral_unclosed, scan]
        exact .unclosed paired
  | case4 c rest single quote placeholder _ ih =>
      obtain ⟨rfl, named⟩ : c = ':' ∧ rest.head?.any isNameChar = true := by
        simpa using placeholder
      have whole : ':' :: rest =
          ':' :: (rest.takeWhile isNameChar ++ rest.dropWhile isNameChar) := by
        rw [List.takeWhile_append_dropWhile]
      rw [whole]
      refine .placeholder ?_ (fun c member => List.mem_takeWhile_imp member) ?_ ih
      · cases rest with
        | nil => simp at named
        | cons d rest =>
            have letter : isNameChar d = true := by simpa using named
            simp [letter]
      · intro c first
        have stopped := List.head?_dropWhile_not isNameChar rest
        rwa [Option.mem_def.mp first] at stopped
  | case5 c rest single quote placeholder ih =>
      refine .other quote (fun colon d first => ?_) ih
      subst colon
      obtain ⟨tail, rfl⟩ := List.head?_eq_some_iff.mp first
      refine ⟨?_, by simpa using placeholder⟩
      rintro rfl
      exact single tail rfl rfl

theorem span_name {name rest : List Char} (letters : ∀ c ∈ name, isNameChar c = true)
    (ends : ∀ c ∈ rest.head?, isNameChar c = false) :
    (name ++ rest).takeWhile isNameChar = name ∧ (name ++ rest).dropWhile isNameChar = rest := by
  rw [List.takeWhile_append_of_pos letters, List.dropWhile_append_of_pos letters]
  cases rest with
  | nil => simp
  | cons c rest =>
      have closed : isNameChar c = false := ends c rfl
      simp [closed]

/-- There is no other way to split it. -/
theorem Splits.scan_eq {text : List Char} {lexemes : List Lexeme} (split : Splits text lexemes) :
    scan text = lexemes := by
  induction split with
  | nil => rw [scan]
  | closed paired ends _ ih => simp [scan, paired.splitLiteral_closed ends, ih]
  | unclosed paired => simp [scan, paired.splitLiteral_unclosed]
  | cast _ ih => rw [scan, ih]
  | @placeholder name rest lexemes nonempty letters ends _ ih =>
      obtain ⟨first, others, rfl⟩ := List.exists_cons_of_ne_nil nonempty
      have letter : isNameChar first = true := letters first List.mem_cons_self
      obtain ⟨taken, left⟩ := span_name letters ends
      rw [scan]
      · rw [if_neg (by decide), if_pos (by simp [letter]), taken, left, ih]
      · rintro _ - ⟨rfl, rfl⟩
        cases letter
  | @other c rest lexemes unquoted single _ ih =>
      rw [scan]
      · rw [if_neg unquoted, if_neg, ih]
        intro named
        obtain ⟨colon, letter⟩ : c = ':' ∧ rest.head?.any isNameChar = true := by
          simpa using named
        obtain ⟨d, first, letter⟩ := (Option.any_eq_true _ _).mp letter
        simp [(single colon d first).2] at letter
      · rintro tail rfl rfl
        exact (single rfl ':' rfl).1 rfl

theorem splits_iff {text : List Char} {lexemes : List Lexeme} :
    Splits text lexemes ↔ lexemes = scan text :=
  ⟨fun split => split.scan_eq.symm, fun found => found ▸ splits_scan text⟩

theorem Splits.text_eq {text : List Char} {lexemes : List Lexeme} (split : Splits text lexemes) :
    lexemes.flatMap Lexeme.text = text := by
  induction split with
  | nil => rfl
  | unclosed _ => simp [Lexeme.text]
  | closed _ _ _ ih | cast _ ih | placeholder _ _ _ _ ih | other _ _ _ ih =>
      simp [Lexeme.text, ih]

namespace Positional

/-! ## Ranks -/

/-- The rank of a name by first occurrence: the different names up to it are counted. -/
def rank (names : List String) (name : String) : Nat :=
  (names.takeWhile (· != name)).toFinset.card + 1

theorem idxOf_distinct : ∀ {names : List String} {name : String}, name ∈ names →
    (distinct names).idxOf name + 1 = rank names name
  | [], _, member => by simp at member
  | first :: rest, name, member => by
      rw [distinct, List.eraseDups_cons]
      by_cases same : first = name
      · subst same
        simp [rank]
      · have later : name ∈ rest.filter fun other => !other == first := by
          have behind : name ∈ rest := by
            rcases List.mem_cons.mp member with rfl | behind
            · exact (same rfl).elim
            · exact behind
          simpa [Ne.symm same] using behind
        have counted := idxOf_distinct later
        have order : ((rest.filter fun other => !other == first).takeWhile (· != name)) =
            (rest.takeWhile (· != name)).filter fun other => !other == first := by
          rw [List.takeWhile_filter]
          congr 2
          funext other
          by_cases equal : other = first <;> simp [equal, same]
        -- the first name is counted apart from those behind it
        have apart : (rest.takeWhile (· != name)).toFinset.erase first =
            ((rest.filter fun other => !other == first).takeWhile (· != name)).toFinset := by
          rw [order, List.toFinset_filter, ← Finset.filter_ne']
          simp
        rw [List.idxOf_cons_ne _ same, rank, List.takeWhile_cons_of_pos (by simpa using same),
          List.toFinset_cons, ← Finset.card_erase_add_one (Finset.mem_insert_self _ _),
          Finset.erase_insert_eq_erase, apart]
        exact congrArg (· + 1) counted
termination_by names => names.length
decreasing_by exact Nat.lt_succ_of_le (List.length_filter_le _ rest)

def numbered (names : List String) : Lexeme → List Char
  | .placeholder name => '$' :: (toString (rank names (String.ofList name))).toList
  | lexeme => lexeme.text

theorem replace_distinct {lexemes : List Lexeme} {lexeme : Lexeme} (member : lexeme ∈ lexemes) :
    replace (distinct (lexemes.filterMap name?)) lexeme =
      numbered (lexemes.filterMap name?) lexeme := by
  cases lexeme with
  | placeholder name =>
      have listed : String.ofList name ∈ lexemes.filterMap name? :=
        List.mem_filterMap.mpr ⟨_, member, rfl⟩
      simp only [replace, name?, numbered, idxOf_distinct listed]
  | _ => rfl

/-! ## A second numbering -/

def settled (names : List String) (lexeme : Lexeme) : List Lexeme :=
  match lexeme with
  | .placeholder _ => (numbered names lexeme).map .other
  | _ => [lexeme]

variable {names : List String} {text : List Char} {lexemes : List Lexeme}

theorem head_numbered (split : Splits text lexemes) {c : Char}
    (first : c ∈ (lexemes.flatMap (numbered names)).head?) : c = '$' ∨ c ∈ text.head? := by
  cases split with
  | nil => simp at first
  | closed _ _ _ | unclosed _ | cast _ | other _ _ _ =>
      right
      simpa [numbered, Lexeme.text] using first
  | placeholder _ _ _ _ =>
      left
      simpa [numbered, eq_comm] using first

theorem splits_others {inert : List Char} (quiet : ∀ c ∈ inert, c ≠ '\'' ∧ c ≠ ':')
    (split : Splits text lexemes) :
    Splits (inert ++ text) (inert.map .other ++ lexemes) := by
  induction inert with
  | nil => exact split
  | cons c rest ih =>
      obtain ⟨quote, colon⟩ := quiet c List.mem_cons_self
      exact .other quote (fun same => (colon same).elim)
        (ih fun d member => quiet d (List.mem_cons_of_mem _ member))

theorem quiet_number (number : Nat) :
    ∀ c ∈ '$' :: (toString number).toList, c ≠ '\'' ∧ c ≠ ':' := by
  intro c member
  rcases List.mem_cons.mp member with rfl | digit
  · decide
  · simpa using List.all_eq_true.mp (isQuiet_toString number) c digit

theorem splits_numbered (split : Splits text lexemes) :
    Splits (lexemes.flatMap (numbered names)) (lexemes.flatMap (settled names)) := by
  induction split with
  | nil => exact .nil
  | closed paired ends later ih =>
      rw [List.flatMap_cons, List.flatMap_cons]
      simp only [numbered, settled, Lexeme.text, List.cons_append, List.append_assoc,
        List.nil_append]
      refine .closed paired (fun quote => ?_) ih
      rcases head_numbered later quote with same | same
      · cases same
      · exact ends same
  | unclosed paired =>
      simpa [numbered, settled, Lexeme.text] using Splits.unclosed paired
  | cast later ih => exact .cast ih
  | placeholder _ _ _ later ih => exact splits_others (quiet_number _) ih
  | other unquoted single later ih =>
      refine .other unquoted (fun colon d first => ?_) ih
      rcases head_numbered later first with rfl | same
      · decide
      · exact single colon d same

theorem filterMap_settled (lexemes : List Lexeme) :
    (lexemes.flatMap (settled names)).filterMap name? = [] := by
  refine List.filterMap_eq_nil_iff.mpr fun piece member => ?_
  obtain ⟨lexeme, -, inside⟩ := List.mem_flatMap.mp member
  cases lexeme with
  | placeholder name =>
      obtain ⟨c, -, rfl⟩ := List.mem_map.mp inside
      rfl
  | _ =>
      rw [List.mem_singleton.mp inside]
      rfl

/-! ## The outcome -/

def IsFirstMissing (bindings : Bindings) (names : List String) (name : String) : Prop :=
  ∃ before after, names = before ++ name :: after ∧
    (∀ other ∈ before, other ∈ bindings.names) ∧ name ∉ bindings.names

/-- The least name, by its bytes, that is bound without a placeholder. -/
def IsLeastUnused (bindings : Bindings) (names : List String) (name : String) : Prop :=
  name ∈ bindings.names ∧ name ∉ names ∧
    ∀ other ∈ bindings.names, other ∉ names → other ≠ name → Text.bytes name < Text.bytes other

theorem find?_distinct (p : String → Bool) : ∀ names : List String,
    (distinct names).find? p = names.find? p
  | [] => rfl
  | first :: rest => by
      rw [distinct, List.eraseDups_cons, List.find?_cons, List.find?_cons]
      cases found : p first with
      | true => rfl
      | false =>
          have later := find?_distinct p (rest.filter fun other => !other == first)
          rw [distinct] at later
          simp only [later, List.find?_filter]
          congr 1
          funext other
          by_cases same : other = first <;> simp [same, found]
termination_by names => names.length
decreasing_by exact Nat.lt_succ_of_le (List.length_filter_le _ rest)

variable {sql : String} {bindings : Bindings}

theorem find?_missing {name : String} :
    (names.find? fun name => !bindings.has name) = some name ↔
      IsFirstMissing bindings names name := by
  have missing : ∀ other, (!bindings.has other) = true ↔ other ∉ bindings.names := by
    intro other
    rw [← Bindings.has_iff]
    simp
  rw [List.find?_eq_some_iff_append, missing]
  constructor
  · rintro ⟨absent, before, after, listed, bound⟩
    refine ⟨before, after, listed, fun other member => ?_, absent⟩
    exact Bindings.has_iff.mp (by simpa using bound other member)
  · rintro ⟨before, after, listed, bound, absent⟩
    refine ⟨absent, before, after, listed, fun other member => ?_⟩
    simpa using Bindings.has_iff.mpr (bound other member)

theorem isLeastUnused_of_find? (ascending : bindings.Ascending) {name : String}
    (found : (bindings.names.find? fun name => !names.contains name) = some name) :
    IsLeastUnused bindings names name := by
  obtain ⟨unused, before, after, listed, used⟩ := List.find?_eq_some_iff_append.mp found
  refine ⟨List.mem_of_find?_eq_some found, by simpa using unused, ?_⟩
  intro other bound idle differs
  rw [Bindings.Ascending, listed, List.pairwise_append, List.pairwise_cons] at ascending
  rw [listed, List.mem_append, List.mem_cons] at bound
  rcases bound with earlier | same | later
  · exact (idle (by simpa using used other earlier)).elim
  · exact (differs same).elim
  · exact Text.bytes_lt (ascending.2.1.1 other later)

theorem find?_unused (ascending : bindings.Ascending) {name : String} :
    (bindings.names.find? fun name => !names.contains name) = some name ↔
      IsLeastUnused bindings names name := by
  refine ⟨isLeastUnused_of_find? ascending, fun least => ?_⟩
  cases found : bindings.names.find? fun name => !names.contains name with
  | none =>
      have used := List.find?_eq_none.mp found name least.1
      exact (used (by simpa using least.2.1)).elim
  | some first =>
      have alsoLeast := isLeastUnused_of_find? ascending found
      by_contra differs
      have apart : first ≠ name := fun same => differs (congrArg some same)
      exact List.lt_asymm (alsoLeast.2.2 name least.1 least.2.1 apart.symm)
        (least.2.2 first alsoLeast.1 alsoLeast.2.1 apart)

theorem ofNamed_eq (sql : String) (bindings : Bindings) :
    ofNamed sql bindings =
      match (placeholders sql).find? fun name => !bindings.has name with
      | some name => .error (.missing name)
      | none =>
          match bindings.names.find? fun name => !(placeholders sql).contains name with
          | some name => .error (.unused name)
          | none =>
              .ok
                { sql := String.ofList
                    ((scan sql.toList).flatMap (numbered (placeholders sql)))
                  values := (distinct (placeholders sql)).filterMap bindings.get? } := by
  have written : (scan sql.toList).flatMap (replace (distinct (placeholders sql))) =
      (scan sql.toList).flatMap (numbered (placeholders sql)) :=
    List.flatMap_congr fun lexeme member => replace_distinct member
  have same : ∀ name, (distinct (placeholders sql)).contains name =
      (placeholders sql).contains name := by
    intro name
    simp [mem_distinct]
  rw [← written, ← find?_distinct]
  simp only [← same]
  rfl

theorem ofNamed_missing {name : String} :
    ofNamed sql bindings = .error (.missing name) ↔
      IsFirstMissing bindings (placeholders sql) name := by
  rw [← find?_missing, ofNamed_eq]
  cases (placeholders sql).find? fun name => !bindings.has name with
  | some first => simp
  | none =>
      cases bindings.names.find? fun name => !(placeholders sql).contains name <;> simp

theorem find?_missing_eq_none :
    ((placeholders sql).find? fun name => !bindings.has name) = none ↔
      ∀ name ∈ placeholders sql, name ∈ bindings.names := by
  simp [Bindings.has_iff]

theorem ofNamed_unused (ascending : bindings.Ascending) {name : String} :
    ofNamed sql bindings = .error (.unused name) ↔
      (∀ other ∈ placeholders sql, other ∈ bindings.names) ∧
        IsLeastUnused bindings (placeholders sql) name := by
  rw [← find?_missing_eq_none, ← find?_unused ascending, ofNamed_eq]
  cases (placeholders sql).find? fun name => !bindings.has name with
  | some first => simp
  | none =>
      cases bindings.names.find? fun name => !(placeholders sql).contains name <;> simp

theorem ofNamed_ok {positional : Positional} :
    ofNamed sql bindings = .ok positional ↔
      (∀ name, name ∈ placeholders sql ↔ name ∈ bindings.names) ∧
        positional =
          { sql := String.ofList ((scan sql.toList).flatMap (numbered (placeholders sql)))
            values := (distinct (placeholders sql)).filterMap bindings.get? } := by
  have used : (bindings.names.find? fun name => !(placeholders sql).contains name) = none ↔
      ∀ name ∈ bindings.names, name ∈ placeholders sql := by
    simp
  have both : (∀ name, name ∈ placeholders sql ↔ name ∈ bindings.names) ↔
      (∀ name ∈ placeholders sql, name ∈ bindings.names) ∧
        ∀ name ∈ bindings.names, name ∈ placeholders sql := by
    simp only [iff_def, forall_and]
  rw [both, ← find?_missing_eq_none, ← used, ofNamed_eq]
  cases (placeholders sql).find? fun name => !bindings.has name with
  | some first => simp
  | none =>
      cases bindings.names.find? fun name => !(placeholders sql).contains name with
      | some first => simp
      | none => simp [eq_comm]

/-! ## The values -/

theorem map_some_filterMap {α β : Type} {f : α → Option β} {list : List α}
    (each : ∀ item ∈ list, (f item).isSome = true) :
    (list.filterMap f).map some = list.map f := by
  induction list with
  | nil => rfl
  | cons item rest ih =>
      obtain ⟨value, found⟩ := Option.isSome_iff_exists.mp (each item List.mem_cons_self)
      rw [List.filterMap_cons_some found, List.map_cons, List.map_cons, found,
        ih fun other member => each other (List.mem_cons_of_mem _ member)]

theorem values_of_bound (ascending : bindings.Ascending)
    (bound : ∀ name ∈ names, name ∈ bindings.names) :
    ((distinct names).filterMap bindings.get?).length = names.toFinset.card ∧
      ∀ name ∈ names, ∃ value, bindings.get? name = some value ∧
        ((distinct names).filterMap bindings.get?)[rank names name - 1]? = some value := by
  have each : ∀ name ∈ distinct names, (bindings.get? name).isSome = true := by
    intro name member
    obtain ⟨value, listed⟩ := Bindings.mem_names.mp (bound name (mem_distinct.mp member))
    rw [Bindings.get?_of_mem ascending.nodup listed]
    rfl
  have listed := map_some_filterMap each
  refine ⟨?_, fun name member => ?_⟩
  · have same : (distinct names).toFinset = names.toFinset := by
      ext name
      simp [mem_distinct]
    have counted := congrArg List.length listed
    rw [List.length_map, List.length_map] at counted
    rw [counted, ← same, List.toFinset_card_of_nodup (nodup_distinct names)]
  · obtain ⟨value, found⟩ := Option.isSome_iff_exists.mp (each name (mem_distinct.mpr member))
    refine ⟨value, found, ?_⟩
    have place : rank names name - 1 = (distinct names).idxOf name := by
      rw [← idxOf_distinct member, Nat.add_sub_cancel]
    have here : (distinct names)[(distinct names).idxOf name]? = some name :=
      List.getElem?_idxOf (mem_distinct.mpr member)
    have read := congrArg (fun list => list[(distinct names).idxOf name]?) listed
    simp only [List.getElem?_map, here, Option.map_some, found] at read
    rw [place]
    simpa using read

/-- Numbered text is numbered already. -/
theorem ofNamed_numbered (split : Splits text lexemes) :
    ofNamed (String.ofList (lexemes.flatMap (numbered names))) [] =
      .ok ⟨String.ofList (lexemes.flatMap (numbered names)), []⟩ := by
  have again : Splits (lexemes.flatMap (numbered names)) (lexemes.flatMap (settled names)) :=
    splits_numbered split
  have found : scan (String.ofList (lexemes.flatMap (numbered names))).toList =
      lexemes.flatMap (settled names) := by
    rw [String.toList_ofList, again.scan_eq]
  have nothing : placeholders (String.ofList (lexemes.flatMap (numbered names))) = [] := by
    rw [placeholders, found, filterMap_settled]
  have kept : ∀ piece ∈ lexemes.flatMap (settled names), numbered [] piece = piece.text := by
    intro piece member
    have unnamed := List.filterMap_eq_nil_iff.mp (filterMap_settled lexemes) piece member
    cases piece with
    | placeholder name => cases unnamed
    | _ => rfl
  rw [ofNamed_ok, nothing, found]
  refine ⟨by simp [Bindings.names], ?_⟩
  rw [List.flatMap_congr kept, again.text_eq]
  rfl

/--
Every text splits in one way.  Its placeholders are numbered unless one of them has no
value, and then the first such is reported, or else a name has no placeholder, and then
the least such is reported.  Numbering replaces the placeholders by the ranks of their
names and keeps all else, and each rank leads to the value of its name.
-/
theorem ofNamed_numbers (sql : String) (bindings : Bindings) (ascending : bindings.Ascending) :
    ∃ lexemes used, (∀ pieces, Splits sql.toList pieces ↔ pieces = lexemes) ∧
      lexemes.flatMap Lexeme.text = sql.toList ∧ used = lexemes.filterMap name? ∧
      (∀ name, ofNamed sql bindings = .error (.missing name) ↔
        IsFirstMissing bindings used name) ∧
      (∀ name, ofNamed sql bindings = .error (.unused name) ↔
        (∀ other ∈ used, other ∈ bindings.names) ∧ IsLeastUnused bindings used name) ∧
      ((∃ positional, ofNamed sql bindings = .ok positional) ↔
        ∀ name, name ∈ used ↔ name ∈ bindings.names) ∧
      ∀ positional, ofNamed sql bindings = .ok positional →
        positional.sql.toList = lexemes.flatMap (numbered used) ∧
        positional.values.length = used.toFinset.card ∧
        (∀ name ∈ used, ∃ value, bindings.get? name = some value ∧
          positional.values[rank used name - 1]? = some value) ∧
        ofNamed positional.sql [] = .ok ⟨positional.sql, []⟩ := by
  have split := splits_scan sql.toList
  refine ⟨scan sql.toList, placeholders sql, fun _ => splits_iff, split.text_eq, rfl,
    fun _ => ofNamed_missing, fun _ => ofNamed_unused ascending, ?_, ?_⟩
  · simp only [ofNamed_ok, exists_and_left, exists_eq, and_true]
  · rintro positional done
    obtain ⟨same, rfl⟩ := ofNamed_ok.mp done
    obtain ⟨counted, valued⟩ := values_of_bound ascending fun name member => (same name).mp member
    exact ⟨String.toList_ofList, counted, valued, ofNamed_numbered split⟩

end Positional

namespace Sample

def remark : String := "SELECT 'it''s :here', a::text WHERE b = :q AND a = :p OR c = :q"

def remarked : Bindings := [("p", .natural 1), ("q", .string "x")]

theorem ofNamed_numbers_remark :
    remarked.Ascending ∧
      ∃ positional, Positional.ofNamed remark remarked = .ok positional ∧
        positional.sql = "SELECT 'it''s :here', a::text WHERE b = $1 AND a = $2 OR c = $1" ∧
        positional.values.length = 2 ∧ positional.values[0]? = some (.string "x") ∧
        Positional.ofNamed positional.sql [] = .ok ⟨positional.sql, []⟩ := by
  have ascending : remarked.Ascending := by
    unfold Bindings.Ascending
    decide +kernel
  obtain ⟨lexemes, used, split, -, rfl, -, -, succeeds, outcome⟩ :=
    Positional.ofNamed_numbers remark remarked ascending
  obtain rfl : scan remark.toList = lexemes := (split _).mp (splits_scan _)
  have listed : (scan remark.toList).filterMap name? = ["q", "p", "q"] := by decide +kernel
  rw [listed] at succeeds outcome
  obtain ⟨positional, done⟩ := succeeds.mpr fun name => by
    simp +contextual [remarked, Bindings.names, or_comm]
  obtain ⟨text, counted, valued, settled⟩ := outcome positional done
  obtain ⟨value, bound, placed⟩ := valued "q" (by simp)
  cases bound
  have written : String.ofList ((scan remark.toList).flatMap
      (Positional.numbered ["q", "p", "q"])) =
        "SELECT 'it''s :here', a::text WHERE b = $1 AND a = $2 OR c = $1" := by
    decide +kernel
  refine ⟨ascending, positional, done, ?_, counted, placed, settled⟩
  rw [← written, ← text, String.ofList_toList]

end Sample

end TreeQuery
