import Mathlib.Data.List.Induction
import TreeQuery.Proofs.StatementText

/-!
# Collapsing texts that are put together

Where a text ends with something other than a blank, collapsing what follows does
not depend on it.  So texts with single spaces between them collapse one by one.
The parts of a statement are such texts: none of them is blank.
-/

namespace TreeQuery.Text

def endsBlank : Bool → List Char → Bool
  | gap, [] => gap
  | _, c :: rest => endsBlank (isBlank c) rest

theorem squeeze_append (gap : Bool) (left right : List Char) :
    squeeze gap (left ++ right) = squeeze gap left ++ squeeze (endsBlank gap left) right := by
  induction left generalizing gap with
  | nil => rfl
  | cons c rest ih =>
      by_cases blank : isBlank c
      · simp [squeeze, endsBlank, blank, ih]
      · cases gap <;> simp [squeeze, endsBlank, blank, ih]

theorem squeeze_squeeze (gap : Bool) (text : List Char) :
    squeeze false (squeeze gap text) = squeeze gap text := by
  have space : isBlank ' ' = true := by decide
  induction text generalizing gap with
  | nil => rfl
  | cons c rest ih =>
      by_cases blank : isBlank c
      · simpa [squeeze, blank] using ih true
      · cases gap <;> simp [squeeze, blank, space, ih]

def isWritten (text : String) : Bool := text.toList.any fun c => !isBlank c

@[simp] theorem isWritten_append (left right : String) :
    isWritten (left ++ right) = (isWritten left || isWritten right) := by
  simp [isWritten]

theorem dropWhile_append_of_written {left : List Char}
    (written : (left.any fun c => !isBlank c) = true) (right : List Char) :
    (left ++ right).dropWhile isBlank = left.dropWhile isBlank ++ right := by
  induction left with
  | nil => cases written
  | cons c rest ih =>
      by_cases blank : isBlank c
      · simpa [blank] using ih (by simpa [blank] using written)
      · simp [blank]

theorem squeeze_gap {text : List Char} (written : (text.any fun c => !isBlank c) = true) :
    squeeze true text = ' ' :: squeeze false (text.dropWhile isBlank) := by
  induction text with
  | nil => cases written
  | cons c rest ih =>
      by_cases blank : isBlank c
      · simpa [squeeze, blank] using ih (by simpa [blank] using written)
      · simp [squeeze, blank]

theorem collapse_spaced {left right : String} (first : isWritten left = true)
    (second : isWritten right = true) :
    collapse (left ++ " " ++ right) = collapse left ++ " " ++ collapse right := by
  apply String.toList_injective
  have space : isBlank ' ' = true := by decide
  simp only [collapse, String.toList_append, String.toList_ofList, List.append_assoc]
  rw [dropWhile_append_of_written first, squeeze_append]
  simp only [String.reduceToList, List.cons_append, List.nil_append, squeeze, space, if_true]
  rw [squeeze_gap second]

theorem isWritten_intercalate (separator : String) {text : String} (written : isWritten text = true)
    (rest : List String) : isWritten (separator.intercalate (text :: rest)) = true := by
  cases rest with
  | nil => simpa using written
  | cons next rest => simp [written]

theorem collapse_intercalate {texts : List String}
    (written : ∀ text ∈ texts, isWritten text = true) :
    collapse (" ".intercalate texts) = " ".intercalate (texts.map collapse) := by
  induction texts with
  | nil => rfl
  | cons text rest ih =>
      obtain ⟨first, others⟩ := List.forall_mem_cons.mp written
      cases rest with
      | nil => simp
      | cons next rest =>
          have later := isWritten_intercalate " " (others next List.mem_cons_self) rest
          rw [List.map_cons, List.map_cons, String.intercalate_cons_cons,
            String.intercalate_cons_cons, collapse_spaced first later, ih others, List.map_cons]

theorem dropWhile_eq_self_of_dropWhile (text : List Char) :
    (squeeze false (text.dropWhile isBlank)).dropWhile isBlank =
      squeeze false (text.dropWhile isBlank) := by
  cases rest : text.dropWhile isBlank with
  | nil => rfl
  | cons c later =>
      have unblank : isBlank c = false := by
        have head := List.head?_dropWhile_not isBlank text
        rw [rest] at head
        simpa using head
      simp [squeeze, unblank]

@[simp] theorem collapse_collapse (text : String) : collapse (collapse text) = collapse text := by
  simp only [collapse, String.toList_ofList]
  rw [dropWhile_eq_self_of_dropWhile, squeeze_squeeze]

/-- The text is left as it is, whatever stands behind it. -/
def isLead (text : String) : Bool :=
  match text.toList with
  | [] => false
  | c :: rest =>
      !isBlank c && squeeze false (c :: rest) == c :: rest && !endsBlank false (c :: rest)

theorem collapse_lead {lead : String} (leads : isLead lead = true) (text : String) :
    collapse (lead ++ text) = lead ++ String.ofList (squeeze false text.toList) := by
  apply String.toList_injective
  unfold isLead at leads
  split at leads
  · cases leads
  · rename_i c rest characters
    obtain ⟨⟨written, settled⟩, ends⟩ : (isBlank c = false ∧
        squeeze false (c :: rest) = c :: rest) ∧ endsBlank false (c :: rest) = false := by
      simpa using leads
    have kept : (c :: rest ++ text.toList).dropWhile isBlank = c :: rest ++ text.toList := by
      simp [written]
    rw [collapse, String.toList_ofList, String.toList_append, String.toList_append, characters,
      kept, squeeze_append, settled, ends, String.toList_ofList]

theorem collapse_keyword (keyword : String) {spaced text : String} (same : spaced = keyword ++ " ")
    (kept : collapse keyword = keyword) (word : isWritten keyword = true)
    (written : isWritten text = true) : collapse (spaced ++ text) = spaced ++ collapse text := by
  rw [same, collapse_spaced word written, kept]

theorem collapse_of_unblank {text : String} (unblank : ∀ c ∈ text.toList, isBlank c = false) :
    collapse text = text := by
  have kept : ∀ {characters : List Char}, (∀ c ∈ characters, isBlank c = false) →
      squeeze false characters = characters := by
    intro characters unblank
    induction characters with
    | nil => rfl
    | cons c rest ih =>
        obtain ⟨here, later⟩ := List.forall_mem_cons.mp unblank
        simp [squeeze, here, ih later]
  have whole : text.toList.dropWhile isBlank = text.toList := by
    cases characters : text.toList with
    | nil => rfl
    | cons c rest =>
        have here := unblank c (by simp [characters])
        simp [here]
  rw [collapse, whole, kept unblank, String.ofList_toList]

/-! ## Texts that collapse alike -/

theorem endsBlank_append (gap : Bool) (left right : List Char) :
    endsBlank gap (left ++ right) = endsBlank (endsBlank gap left) right := by
  induction left generalizing gap with
  | nil => rfl
  | cons c rest ih => exact ih (isBlank c)

theorem collapse_eq (text : String) :
    collapse text = String.ofList ((squeeze false text.toList).dropWhile isBlank) := by
  have space : isBlank ' ' = true := by decide
  have squeezed : ∀ (gap : Bool) (characters : List Char),
      (squeeze gap characters).dropWhile isBlank =
        squeeze false (characters.dropWhile isBlank) := by
    intro gap characters
    induction characters generalizing gap with
    | nil => rfl
    | cons c rest ih =>
        by_cases blank : isBlank c
        · simpa [squeeze, blank] using ih true
        · cases gap <;> simp [squeeze, blank, space]
  rw [squeezed, collapse]

/-- Wherever the one text stands, the other may stand instead. -/
structure Alike (text other : String) : Prop where
  squeezed : ∀ gap, squeeze gap text.toList = squeeze gap other.toList
  ending : ∀ gap, endsBlank gap text.toList = endsBlank gap other.toList

namespace Alike

variable {text other left right first second : String}

theorem refl (text : String) : Alike text text := ⟨fun _ => rfl, fun _ => rfl⟩

theorem append (before : Alike left first) (after : Alike right second) :
    Alike (left ++ right) (first ++ second) where
  squeezed gap := by
    simp only [String.toList_append, squeeze_append, before.squeezed, before.ending,
      after.squeezed]
  ending gap := by
    simp only [String.toList_append, endsBlank_append, before.ending, after.ending]

theorem collapse (alike : Alike text other) : Text.collapse text = Text.collapse other := by
  rw [collapse_eq, collapse_eq, alike.squeezed]

theorem intercalate (separator : String) {α : Type} {items : List α} {render shown : α → String}
    (each : ∀ item ∈ items, Alike (render item) (shown item)) :
    Alike (separator.intercalate (items.map render)) (separator.intercalate (items.map shown)) := by
  induction items with
  | nil => exact refl _
  | cons item rest ih =>
      obtain ⟨here, later⟩ := List.forall_mem_cons.mp each
      cases rest with
      | nil => simpa using here
      | cons next rest =>
          simp only [List.map_cons, String.intercalate_cons_cons] at ih ⊢
          exact (here.append (refl separator)).append (ih later)

end Alike

def starts (text : String) : Bool := text.toList.head?.any fun c => !isBlank c

def ends (text : String) : Bool := text.toList.getLast?.any fun c => !isBlank c

theorem starts_append {left : String} (written : starts left = true) (right : String) :
    starts (left ++ right) = true := by
  unfold starts at written ⊢
  cases characters : left.toList with
  | nil => simp [characters] at written
  | cons c rest => simpa [characters] using written

theorem ends_append {right : String} (left : String) (written : ends right = true) :
    ends (left ++ right) = true := by
  unfold ends at written ⊢
  cases last : right.toList.getLast? with
  | none => simp [last] at written
  | some c => simpa [List.getLast?_append, last] using written

theorem ends_append_optional {left right : String} (written : ends left = true)
    (optional : right = "" ∨ ends right = true) : ends (left ++ right) = true := by
  rcases optional with rfl | later
  · simpa using written
  · exact ends_append left later

theorem endsBlank_of_ends {text : String} (written : ends text = true) (gap : Bool) :
    endsBlank gap text.toList = false := by
  unfold ends at written
  generalize text.toList = characters at written ⊢
  induction characters using List.reverseRecOn with
  | nil => simp at written
  | append_singleton before c ih =>
      rw [endsBlank_append]
      simpa [endsBlank] using written

theorem endsBlank_squeeze (gap : Bool) (text : List Char) :
    endsBlank false (squeeze gap text) = false := by
  induction text generalizing gap with
  | nil => rfl
  | cons c rest ih =>
      by_cases blank : isBlank c
      · simpa [squeeze, blank] using ih true
      · cases gap <;> simp [squeeze, blank, endsBlank, ih]

/-- A text that neither starts nor ends with a blank may be collapsed in its place. -/
theorem alike_collapse {text : String} (start : starts text = true) (finish : ends text = true) :
    Alike (collapse text) text := by
  have ended := endsBlank_of_ends finish
  cases characters : text.toList with
  | nil => simp [starts, characters] at start
  | cons c rest =>
      have unblank : isBlank c = false := by simpa [starts, characters] using start
      have collapsed : (collapse text).toList = c :: squeeze false rest := by
        simp [collapse, characters, unblank, squeeze]
      refine ⟨fun gap => ?_, fun gap => ?_⟩
      · rw [collapsed, characters]
        cases gap <;> simp [squeeze, unblank, squeeze_squeeze]
      · rw [collapsed, ended gap, endsBlank, unblank, endsBlank_squeeze]

theorem collapse_of_starts {text : String} (start : starts text = true) :
    collapse text = String.ofList (squeeze false text.toList) := by
  cases characters : text.toList with
  | nil => simp [starts, characters] at start
  | cons c rest =>
      have unblank : isBlank c = false := by simpa [starts, characters] using start
      simp [collapse, characters, unblank]

theorem ends_of_unblank {text : String} (nonempty : text.toList ≠ [])
    (unblank : ∀ c ∈ text.toList, isBlank c = false) : ends text = true := by
  unfold ends
  rw [List.getLast?_eq_some_getLast nonempty]
  simp [unblank _ (List.getLast_mem nonempty)]

end TreeQuery.Text

/-! ## Parts of a statement -/

namespace TreeQuery.Sql

open Text (isBlank isWritten ends)

theorem unblank_of_isNameChar {text : String}
    (named : text.toList.all Lexeme.isNameChar = true) : ∀ c ∈ text.toList, isBlank c = false := by
  intro c member
  have here := List.all_eq_true.mp named c member
  cases blank : isBlank c with
  | false => rfl
  | true =>
      have broken := Reader.isBreak_of_isBlank blank
      simp [Reader.isBreak, here] at broken

theorem unblank_number (number : Nat) : ∀ c ∈ (toString number).toList, isBlank c = false :=
  unblank_of_isNameChar (toString_isNameChar number)

theorem toString_ne_nil (number : Nat) : (toString number).toList ≠ [] := by
  change number.repr.toList ≠ []
  rw [Nat.toList_repr]
  exact Nat.toDigits_ne_nil

theorem ends_number (number : Nat) : ends (toString number) = true :=
  Text.ends_of_unblank (toString_ne_nil number) (unblank_number number)

theorem ends_label (label : Alias) : ends label.text = true :=
  Text.ends_append _ (ends_number label.index)

theorem ends_placeholder (parameter : Parameter) : ends parameter.placeholder = true :=
  Text.ends_append _ (Text.ends_append _ (ends_number parameter.number))

theorem isNameChar_of_isBare {name : String} (bare : isBare name = true) :
    name.toList.all Lexeme.isNameChar = true := by
  obtain ⟨⟨-, all⟩, -⟩ : (_ ∧ name.toList.all isBareChar = true) ∧ _ := by
    simpa only [isBare, Bool.and_eq_true] using bare
  refine List.all_eq_true.mpr fun c member => ?_
  have here := List.all_eq_true.mp all c member
  simp only [isBareChar, isBareStart, Bool.or_eq_true, Bool.and_eq_true, decide_eq_true_eq] at here
  simp only [Lexeme.isNameChar, Bool.or_eq_true, Bool.and_eq_true, decide_eq_true_eq]
  tauto

theorem ends_identifier (name : String) : ends (identifier name) = true := by
  unfold identifier
  split
  · rename_i bare
    refine Text.ends_of_unblank (fun empty => ?_)
      (unblank_of_isNameChar (isNameChar_of_isBare bare))
    simp [isBare, empty] at bare
  · have quote : isBlank '"' = false := by decide
    rw [ends, Text.quoted, String.toList_ofList, ← List.cons_append, List.getLast?_concat]
    simp [quote]

theorem isWritten_connected (word : String) {whenEmpty : String}
    (empty : isWritten whenEmpty = true) {operands : List String}
    (each : ∀ operand ∈ operands, isWritten operand = true) :
    isWritten (connected word whenEmpty operands) = true := by
  cases operands with
  | nil => exact empty
  | cons first rest =>
      have written := each first List.mem_cons_self
      cases rest with
      | nil => exact written
      | cons second rest => simp [connected, written]

theorem Test.isWritten_render {π : Type} (slotText : π → String) (subject : String)
    (test : Test π) : isWritten (test.render slotText subject) = true := by
  have left : ∀ {first : String} (second : String), isWritten first = true →
      isWritten (first ++ second) = true := fun second written => by simp [written]
  have right : ∀ (first : String) {second : String}, isWritten second = true →
      isWritten (first ++ second) = true := fun first second written => by simp [written]
  have bracket : isWritten "(" = true := by decide
  cases test with
  | constant value =>
      cases value with
      | true => exact (by decide : isWritten "TRUE" = true)
      | false => exact (by decide : isWritten "FALSE" = true)
  | isNull negated => exact right subject (by cases negated <;> decide)
  | compare comparison slot =>
      exact left _ (left _ (right _ (by cases comparison <;> decide)))
  | matchesWords slot => exact left _ (left _ (left _ (left _ (by decide))))
  | member negated cells => exact left _ (left _ (right _ (by cases negated <;> decide)))
  | memberOrNull negated cells => exact left _ (left _ (left _ (left _ bracket)))
  | between low high => exact left _ (left _ (left _ (right _ (by decide))))
  | contains cells => exact left _ (left _ (right _ (by decide)))

theorem isWritten_objectCall (pairs : List (String × String)) :
    isWritten (objectCall pairs) = true := by
  have called : isWritten "json_build_object(" = true := by decide
  unfold objectCall
  simp only [Text.isWritten_append, called, Bool.true_or]

theorem isWritten_objectText (size : Nat) (pairs : List (String × String)) :
    isWritten (objectText size pairs) = true := by
  have cast : isWritten ")::json" = true := by decide
  unfold objectText
  simp only
  split
  · exact isWritten_objectCall pairs
  · simp only [Text.isWritten_append, cast, Bool.or_true]

theorem isWritten_aliased (source : String) (label : Alias) :
    isWritten (aliased source label) = true := by
  simp [aliased, show isWritten " AS " = true by decide]

end TreeQuery.Sql
