import Mathlib.Logic.Function.Basic
import TreeQuery.Proofs.ObjectPieces
import TreeQuery.Settings

/-!
# Objects in several calls

A call takes a bounded number of arguments, so a large object is united from the
objects of several calls.  Where the pairs are cut does not matter: in one call the
later of two pairs with the same key wins, and in a union the right operand does.
-/

namespace TreeQuery.Sql

/-! ## Calls and what they build -/

def callArguments (pairs : List (String × String)) : List String :=
  pairs.flatMap fun pair => [literal pair.1, pair.2]

def callText (pairs : List (String × String)) : String :=
  "json_build_object(" ++ ", ".intercalate (callArguments pairs) ++ ")"

/-- Several calls are made binary and united with the operator `||`; a single call stands alone. -/
def unionText : List (List (String × String)) → String
  | [pairs] => callText pairs
  | calls =>
      "(" ++ " || ".intercalate (calls.map fun pairs => callText pairs ++ "::jsonb") ++ ")::json"

def assign (object : String → Option String) (pair : String × String) : String → Option String :=
  Function.update object pair.1 (some pair.2)

/-- The expression under each key of the object that a call builds: the last pair wins. -/
def builtObject (pairs : List (String × String)) : String → Option String :=
  pairs.foldl assign fun _ => none

/-- The union of two objects: the right operand wins. -/
def overlay (left right : String → Option String) : String → Option String :=
  fun key => (right key).or (left key)

def unitedObject (calls : List (List (String × String))) : String → Option String :=
  (calls.map builtObject).foldl overlay fun _ => none

theorem overlay_none (object : String → Option String) : overlay object (fun _ => none) = object := by
  funext key
  simp [overlay]

theorem overlay_assoc (first second third : String → Option String) :
    overlay (overlay first second) third = overlay first (overlay second third) := by
  funext key
  simp [overlay, Option.or_assoc]

theorem assign_overlay (left right : String → Option String) (pair : String × String) :
    assign (overlay left right) pair = overlay left (assign right pair) := by
  funext key
  by_cases same : key = pair.1 <;> simp [assign, overlay, same]

theorem foldl_assign (pairs : List (String × String)) (object : String → Option String) :
    pairs.foldl assign object = overlay object (builtObject pairs) := by
  -- `right` is what the pairs before have built
  have behind : ∀ right,
      pairs.foldl assign (overlay object right) = overlay object (pairs.foldl assign right) := by
    induction pairs with
    | nil => exact fun _ => rfl
    | cons pair rest ih =>
        intro right
        rw [List.foldl_cons, List.foldl_cons, assign_overlay, ih]
  have whole := behind fun _ => none
  rwa [overlay_none] at whole

theorem builtObject_append (left right : List (String × String)) :
    builtObject (left ++ right) = overlay (builtObject left) (builtObject right) := by
  rw [builtObject, List.foldl_append]
  exact foldl_assign right _

/-- The union of calls denotes what one call with all their pairs would build. -/
theorem unitedObject_eq (calls : List (List (String × String))) :
    unitedObject calls = builtObject calls.flatten := by
  have behind : ∀ object, (calls.map builtObject).foldl overlay object =
      overlay object (builtObject calls.flatten) := by
    induction calls with
    | nil => exact fun object => (overlay_none object).symm
    | cons call rest ih =>
        intro object
        rw [List.map_cons, List.foldl_cons, ih, List.flatten_cons, builtObject_append, overlay_assoc]
  rw [unitedObject, behind]
  funext key
  simp [overlay]

/-! ## Chunks -/

theorem length_le_of_mem_chunks {α : Type} {size : Nat} {items part : List α}
    (positive : 1 ≤ size) (listed : part ∈ chunks size items) : part.length ≤ size := by
  fun_induction chunks size items with
  | case1 => cases listed
  | case2 item rest ih =>
      rcases List.mem_cons.mp listed with rfl | later
      · rw [List.length_cons, List.length_take]
        omega
      · exact ih later

theorem ne_nil_of_mem_chunks {α : Type} {size : Nat} {items part : List α}
    (listed : part ∈ chunks size items) : part ≠ [] := by
  fun_induction chunks size items with
  | case1 => cases listed
  | case2 item rest ih =>
      rcases List.mem_cons.mp listed with rfl | later
      · exact List.cons_ne_nil _ _
      · exact ih later

theorem chunks_ne_singleton {α : Type} {size : Nat} {items : List α} (positive : 1 ≤ size)
    (long : size < items.length) (part : List α) : chunks size items ≠ [part] := by
  intro single
  have whole := flatten_chunks size items
  rw [single, List.flatten_singleton] at whole
  have short := length_le_of_mem_chunks positive (single ▸ List.mem_singleton_self part)
  rw [whole] at short
  omega

/-! ## Texts -/

theorem callArguments_cons (pair : String × String) (rest : List (String × String)) :
    callArguments (pair :: rest) = literal pair.1 :: pair.2 :: callArguments rest := rfl

theorem intercalate_callArguments (pairs : List (String × String)) :
    ", ".intercalate (pairs.map fun pair => literal pair.1 ++ ", " ++ pair.2) =
      ", ".intercalate (callArguments pairs) := by
  induction pairs with
  | nil => rfl
  | cons pair rest ih =>
      rw [List.map_cons, callArguments_cons, String.intercalate_cons_cons]
      cases rest with
      | nil => simp [callArguments]
      | cons next rest =>
          have more : callArguments (next :: rest) ≠ [] := List.cons_ne_nil _ _
          rw [String.intercalate_cons_of_ne_nil (by simp), ih,
            String.intercalate_cons_of_ne_nil more]
          simp only [String.append_assoc]

theorem objectCall_eq (pairs : List (String × String)) : objectCall pairs = callText pairs := by
  unfold objectCall callText
  rw [intercalate_callArguments]

theorem unionText_of_ne_singleton {calls : List (List (String × String))}
    (several : ∀ call, calls ≠ [call]) :
    unionText calls =
      "(" ++ " || ".intercalate (calls.map fun pairs => callText pairs ++ "::jsonb") ++ ")::json" := by
  match calls with
  | [] => rfl
  | [call] => exact absurd rfl (several call)
  | _ :: _ :: _ => rfl

theorem callArguments_length (pairs : List (String × String)) :
    (callArguments pairs).length = 2 * pairs.length := by
  induction pairs with
  | nil => rfl
  | cons pair rest ih =>
      simp only [callArguments_cons, List.length_cons, ih]
      omega

/--
An object text is written from calls that hold the pairs in their order.  No call takes more
pairs than the chunk size, and none is empty unless the object is; with valid settings no call
takes more than 100 arguments.  The calls denote the object of all pairs, so the chunk size
does not matter for what is denoted.
-/
theorem objectText_unites (size : Nat) (pairs : List (String × String)) :
    ∃ calls, objectText size pairs = unionText calls ∧ calls.flatten = pairs ∧
      (∀ call ∈ calls, call.length ≤ max size 1 ∧ (call = [] → pairs = [])) ∧
      (∀ settings : Settings, settings.violations = [] → settings.chunkSize = size →
        ∀ call ∈ calls, (callArguments call).length ≤ 100) ∧
      unitedObject calls = builtObject pairs := by
  obtain ⟨calls, text, whole, bounded⟩ : ∃ calls, objectText size pairs = unionText calls ∧
      calls.flatten = pairs ∧
      ∀ call ∈ calls, call.length ≤ max size 1 ∧ (call = [] → pairs = []) := by
    have positive : 1 ≤ max size 1 := Nat.le_max_right size 1
    by_cases short : pairs.length ≤ max size 1
    · refine ⟨[pairs], ?_, List.flatten_singleton, ?_⟩
      · simp only [objectText, short, if_true, unionText, objectCall_eq]
      · rintro call single
        rw [List.mem_singleton.mp single]
        exact ⟨short, id⟩
    · refine ⟨chunks (max size 1) pairs, ?_, flatten_chunks _ pairs, fun call listed => ?_⟩
      · rw [unionText_of_ne_singleton (chunks_ne_singleton positive (Nat.lt_of_not_le short))]
        simp only [objectText, short, if_false, objectCall_eq]
      · exact ⟨length_le_of_mem_chunks positive listed,
          fun empty => absurd empty (ne_nil_of_mem_chunks listed)⟩
  refine ⟨calls, text, whole, bounded, fun settings valid chosen call listed => ?_, ?_⟩
  · have range := List.filter_eq_nil_iff.mp valid .chunkSizeRange (by simp)
    have limit : settings.chunkSize ≤ 50 := by
      simp only [Settings.satisfies, Bool.not_eq_true', Bool.not_eq_false, Bool.and_eq_true,
        decide_eq_true_eq] at range
      exact range.2
    have fits := (bounded call listed).1
    rw [callArguments_length]
    omega
  · rw [unitedObject_eq, whole]

end TreeQuery.Sql

namespace TreeQuery.Sample

open Sql (builtObject callArguments objectText unionText unitedObject)

def repeated : List (String × String) :=
  [("captain's", "t_e1.first"), ("a, b", "t_e1.second"), ("captain's", "t_e1.third")]

theorem objectText_unites_repeated :
    ({ chunkSize := 2 } : Settings).violations = [] ∧
    ∃ calls, objectText 2 repeated = unionText calls ∧ calls.flatten = repeated ∧
      (∀ call ∈ calls, call.length ≤ 2 ∧ call ≠ [] ∧ (callArguments call).length ≤ 100) ∧
      unitedObject calls "captain's" = some "t_e1.third" := by
  have valid : ({ chunkSize := 2 } : Settings).violations = [] := by decide
  obtain ⟨calls, text, whole, bounded, arguments, denoted⟩ := Sql.objectText_unites 2 repeated
  refine ⟨valid, calls, text, whole, fun call listed => ⟨(bounded call listed).1, ?_, ?_⟩, ?_⟩
  · intro empty
    cases (bounded call listed).2 empty
  · exact arguments _ valid rfl call listed
  · rw [denoted]
    decide

end TreeQuery.Sample
