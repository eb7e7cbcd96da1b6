import TreeQuery.Compile.Filter

/-!
# Tests, their shapes and their slots

A test is its shape together with the list of its slots.  Filling the slots
keeps the shape and replaces the slots from left to right, so a filled test is
known once the shape and the drawn values are known.
-/

namespace TreeQuery.Sql

variable {π ρ σ : Type}

/-! ## Shapes -/

namespace Cell

def map (f : π → ρ) : Cell π → Cell ρ
  | .one slot => .one (f slot)
  | .row slots => .row (slots.map f)

def shape (cell : Cell π) : Cell Unit := cell.map fun _ => ()

theorem map_map {τ : Type} (f : π → ρ) (g : ρ → τ) (cell : Cell π) :
    (cell.map f).map g = cell.map fun slot => g (f slot) := by
  cases cell <;> simp [map]

theorem slots_map (f : π → ρ) (cell : Cell π) : (cell.map f).slots = cell.slots.map f := by
  cases cell <;> rfl

theorem slots_length_of_shape {cell : Cell π} {other : Cell ρ}
    (same : cell.shape = other.shape) : cell.slots.length = other.slots.length := by
  have lengths := congrArg (fun shape : Cell Unit => shape.slots.length) same
  simpa [shape, slots_map] using lengths

theorem map_eq_of_shape {τ : Type} {cell : Cell π} {other : Cell ρ} {f : π → τ} {g : ρ → τ}
    (same : cell.shape = other.shape) (slots : cell.slots.map f = other.slots.map g) :
    cell.map f = other.map g := by
  cases cell with
  | one slot =>
      cases other with
      | one slot' => simpa [Cell.slots, map] using slots
      | row slots' => simp [shape, map] at same
  | row slots =>
      cases other with
      | one slot' => simp [shape, map] at same
      | row slots' => simpa [Cell.slots, map] using slots

theorem map_eq_of_shapes {τ : Type} {cells : List (Cell π)} {others : List (Cell ρ)}
    {f : π → τ} {g : ρ → τ} (same : cells.map shape = others.map shape)
    (slots : (cells.flatMap Cell.slots).map f = (others.flatMap Cell.slots).map g) :
    cells.map (map f) = others.map (map g) := by
  induction cells generalizing others with
  | nil =>
      cases others with
      | nil => rfl
      | cons other rest => simp at same
  | cons cell cells ih =>
      cases others with
      | nil => simp at same
      | cons other rest =>
          simp only [List.map_cons, List.cons.injEq] at same
          simp only [List.flatMap_cons, List.map_append] at slots
          have lengths : (cell.slots.map f).length = (other.slots.map g).length := by
            simpa using slots_length_of_shape same.1
          obtain ⟨first, later⟩ := List.append_inj slots lengths
          simp only [List.map_cons, map_eq_of_shape same.1 first, ih same.2 later]

end Cell

namespace Test

def map (f : π → ρ) : Test π → Test ρ
  | .constant value => .constant value
  | .isNull negated => .isNull negated
  | .compare comparison slot => .compare comparison (f slot)
  | .matchesWords slot => .matchesWords (f slot)
  | .member negated cells => .member negated (cells.map (Cell.map f))
  | .memberOrNull negated cells => .memberOrNull negated (cells.map (Cell.map f))
  | .between low high => .between (low.map f) (high.map f)
  | .contains cells => .contains (cells.map (Cell.map f))

@[simp] theorem map_id (test : Test π) : test.map id = test := by
  have cells : (Cell.map id : Cell π → Cell π) = id := by
    funext cell
    cases cell <;> simp [Cell.map]
  cases test <;> simp [map, cells]

def shape (test : Test π) : Test Unit := test.map fun _ => ()

theorem map_eq_of_shape {τ : Type} {test : Test π} {other : Test ρ} {f : π → τ} {g : ρ → τ}
    (same : test.shape = other.shape) (slots : test.slots.map f = other.slots.map g) :
    test.map f = other.map g := by
  cases test <;> cases other <;> simp only [shape, map, reduceCtorEq] at same
  case constant.constant => simpa [map] using same
  case isNull.isNull => simpa [map] using same
  case compare.compare => simp_all [map, Test.slots]
  case matchesWords.matchesWords => simp_all [map, Test.slots]
  case member.member =>
    simp only [member.injEq] at same
    simp only [map, same.1, Cell.map_eq_of_shapes same.2 slots]
  case memberOrNull.memberOrNull =>
    simp only [memberOrNull.injEq] at same
    simp only [map, same.1, Cell.map_eq_of_shapes same.2 slots]
  case contains.contains =>
    simp only [contains.injEq] at same
    simp only [map, Cell.map_eq_of_shapes same slots]
  case between.between low high low' high' =>
    simp only [between.injEq] at same
    simp only [Test.slots, List.map_append] at slots
    -- the shapes say where the slots of the lower bound end
    have lengths : (low.slots.map f).length = (low'.slots.map g).length := by
      simpa using Cell.slots_length_of_shape same.1
    obtain ⟨first, second⟩ := List.append_inj slots lengths
    simp only [map, Cell.map_eq_of_shape same.1 first, Cell.map_eq_of_shape same.2 second]

theorem shape_map (f : π → ρ) (test : Test π) : (test.map f).shape = test.shape := by
  cases test <;> simp [shape, map, Cell.map_map]

theorem slots_map (f : π → ρ) (test : Test π) : (test.map f).slots = test.slots.map f := by
  cases test <;> simp [map, Test.slots, Cell.slots_map, List.map_flatMap, List.flatMap_map]

theorem slots_length_of_shape {test : Test π} {other : Test ρ} (same : test.shape = other.shape) :
    test.slots.length = other.slots.length := by
  have lengths := congrArg (fun shape : Test Unit => shape.slots.length) same
  simpa [shape, slots_map] using lengths

theorem eq_of_shape {test other : Test π} (same : test.shape = other.shape)
    (slots : test.slots = other.slots) : test = other := by
  simpa using map_eq_of_shape (f := id) (g := id) same (by simp [slots])

end Test

/-! ## Filling -/

variable (draw : π → σ → ρ × σ)

theorem fillList_append (left right : List π) (state : σ) :
    fillList draw (left ++ right) state =
      ((fillList draw left state).1 ++
          (fillList draw right (fillList draw left state).2).1,
        (fillList draw right (fillList draw left state).2).2) := by
  induction left generalizing state with
  | nil => rfl
  | cons value rest ih => simp [fillList, ih]

theorem Cell.fill_eq (cell : Cell π) (state : σ) :
    (cell.fill draw state).1.shape = cell.shape ∧
      (cell.fill draw state).1.slots = (fillList draw cell.slots state).1 ∧
      (cell.fill draw state).2 = (fillList draw cell.slots state).2 := by
  cases cell with
  | one slot => exact ⟨rfl, rfl, rfl⟩
  | row slots =>
      refine ⟨?_, rfl, rfl⟩
      have lengths : ∀ state : σ, (fillList draw slots state).1.length = slots.length := by
        induction slots with
        | nil => exact fun _ => rfl
        | cons slot rest ih => simp [fillList, ih]
      simp only [Cell.fill, shape, map, row.injEq]
      apply List.ext_getElem <;> simp [lengths]

theorem fillCells_eq (cells : List (Cell π)) (state : σ) :
    (fillList (Cell.fill draw) cells state).1.map Cell.shape = cells.map Cell.shape ∧
      (fillList (Cell.fill draw) cells state).1.flatMap Cell.slots =
        (fillList draw (cells.flatMap Cell.slots) state).1 ∧
      (fillList (Cell.fill draw) cells state).2 =
        (fillList draw (cells.flatMap Cell.slots) state).2 := by
  induction cells generalizing state with
  | nil => exact ⟨rfl, rfl, rfl⟩
  | cons cell rest ih =>
      obtain ⟨shape, slots, after⟩ := Cell.fill_eq draw cell state
      obtain ⟨shapes, others, final⟩ := ih (cell.fill draw state).2
      rw [after] at shapes others final
      simp only [fillList, List.map_cons, List.flatMap_cons, fillList_append, shape, slots,
        after, shapes, others, final, and_self]

/-- Filling keeps the shape of a test and fills its slots from left to right. -/
theorem Test.fill_eq (test : Test π) (state : σ) :
    (test.fill draw state).1.shape = test.shape ∧
      (test.fill draw state).1.slots = (fillList draw test.slots state).1 ∧
      (test.fill draw state).2 = (fillList draw test.slots state).2 := by
  cases test with
  | constant value => exact ⟨rfl, rfl, rfl⟩
  | isNull negated => exact ⟨rfl, rfl, rfl⟩
  | compare comparison slot => exact ⟨rfl, rfl, rfl⟩
  | matchesWords slot => exact ⟨rfl, rfl, rfl⟩
  | member negated cells =>
      obtain ⟨shapes, slots, after⟩ := fillCells_eq draw cells state
      exact ⟨congrArg (Test.member negated) shapes, slots, after⟩
  | memberOrNull negated cells =>
      obtain ⟨shapes, slots, after⟩ := fillCells_eq draw cells state
      exact ⟨congrArg (Test.memberOrNull negated) shapes, slots, after⟩
  | contains cells =>
      obtain ⟨shapes, slots, after⟩ := fillCells_eq draw cells state
      exact ⟨congrArg Test.contains shapes, slots, after⟩
  | between low high =>
      obtain ⟨lowShape, lowSlots, between⟩ := Cell.fill_eq draw low state
      obtain ⟨highShape, highSlots, after⟩ :=
        Cell.fill_eq draw high (low.fill draw state).2
      rw [between] at highShape highSlots after
      refine ⟨?_, ?_, ?_⟩
      · simp only [Cell.shape] at lowShape highShape
        simp only [Test.fill, shape, map, between, lowShape, highShape]
      · simp only [Test.fill, Test.slots, fillList_append, between, lowSlots, highSlots]
      · simp only [Test.fill, Test.slots, fillList_append, between, after]

end TreeQuery.Sql
