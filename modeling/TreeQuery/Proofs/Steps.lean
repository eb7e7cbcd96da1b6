import TreeQuery.Statement

/-!
# What the steps of a compilation do

A step takes a context and gives a value with the next context, or an error.
The lemmas below say, for each way of putting steps together, when it succeeds
and with which value, and when it fails.  Later files take compilations apart
with these lemmas and never unfold the state monad.
-/

namespace TreeQuery

namespace Compile

variable {α β : Type} {context after : Context}

theorem pure_ok {value result : α} :
    (pure value : Compile α) context = .ok (result, after) ↔
      result = value ∧ after = context := by
  change Except.ok (value, context) = Except.ok (result, after) ↔ _
  simp [eq_comm]

theorem bind_ok {first : Compile α} {next : α → Compile β} {result : β} :
    (first >>= next) context = .ok (result, after) ↔
      ∃ value between, first context = .ok (value, between) ∧
        next value between = .ok (result, after) := by
  change Except.bind (first context) (fun pair => next pair.1 pair.2) = _ ↔ _
  cases first context with
  | error error => simp [Except.bind]
  | ok pair =>
      obtain ⟨value, between⟩ := pair
      constructor
      · intro h
        exact ⟨value, between, rfl, h⟩
      · rintro ⟨_, _, found, h⟩
        cases found
        exact h

theorem bind_eq_of_ok {first : Compile α} {next other : α → Compile β}
    (same : ∀ value between, first context = .ok (value, between) →
      next value between = other value between) :
    (first >>= next) context = (first >>= other) context := by
  change Except.bind (first context) (fun pair => next pair.1 pair.2) =
    Except.bind (first context) (fun pair => other pair.1 pair.2)
  cases done : first context with
  | error error => rfl
  | ok pair => exact same pair.1 pair.2 done

theorem throw_ok {error : CompileError} {result : α} :
    (throw error : Compile α) context = .ok (result, after) ↔ False := by
  change Except.error error = Except.ok (result, after) ↔ False
  simp

theorem ofExcept_ok {outcome : Except CompileError α} {result : α} :
    ofExcept outcome context = .ok (result, after) ↔
      outcome = .ok result ∧ after = context := by
  cases outcome with
  | error error =>
      change Except.error error = Except.ok (result, after) ↔ _
      simp
  | ok value =>
      change Except.ok (value, context) = Except.ok (result, after) ↔ _
      simp [eq_comm]

theorem fromSupply_ok {draw : Sql.Supply → α × Sql.Supply} {result : α} :
    fromSupply draw context = .ok (result, after) ↔
      result = (draw context.supply).1 ∧
        after = { context with supply := (draw context.supply).2 } := by
  change Except.ok ((draw context.supply).1,
    { context with supply := (draw context.supply).2 }) = Except.ok (result, after) ↔ _
  simp [eq_comm]

theorem enter_ok {limit : Nat} {result : Unit} :
    enter limit context = .ok (result, after) ↔
      context.depth + 1 ≤ limit ∧ after = { context with depth := context.depth + 1 } := by
  by_cases h : limit < context.depth + 1
  · simp [enter, Context.enter, h, Nat.not_le_of_lt h]
  · simp [enter, Context.enter, h, eq_comm, Nat.le_of_not_lt h]

theorem leave_ok {result : Unit} :
    leave context = .ok (result, after) ↔ after = context.leave := by
  change Except.ok ((), context.leave) = Except.ok (result, after) ↔ _
  simp [eq_comm]

theorem entity_ok {compiler : Compiler} {name : String} {entity : Entity} :
    Compile.entity compiler name context = .ok (entity, after) ↔
      compiler.provider.entity name = .ok entity ∧ after = context := by
  unfold Compile.entity
  cases compiler.provider.entity name with
  | error error => simp [throw_ok]
  | ok found =>
      simp only [pure_ok, Except.ok.injEq]
      rw [eq_comm]

theorem reduce_ok {fragments : List Fragment} {fragment : Fragment} :
    reduce fragments context = .ok (fragment, after) ↔
      Fragment.reduce fragments = .ok fragment ∧ after = context :=
  ofExcept_ok

/-! ## Failing steps -/

variable {error : CompileError}

theorem pure_error {value : α} :
    (pure value : Compile α) context = .error error ↔ False := by
  change Except.ok (value, context) = Except.error error ↔ False
  simp

theorem bind_error {first : Compile α} {next : α → Compile β} :
    (first >>= next) context = .error error ↔
      first context = .error error ∨
        ∃ value between, first context = .ok (value, between) ∧
          next value between = .error error := by
  change Except.bind (first context) (fun pair => next pair.1 pair.2) = _ ↔ _
  cases first context with
  | error found => simp [Except.bind]
  | ok pair =>
      constructor
      · intro failed
        exact .inr ⟨pair.1, pair.2, rfl, failed⟩
      · rintro (failed | ⟨_, _, found, failed⟩)
        · cases failed
        · cases found
          exact failed

theorem throw_error {thrown : CompileError} :
    (throw thrown : Compile α) context = .error error ↔ thrown = error := by
  change Except.error thrown = Except.error error ↔ _
  simp

theorem ofExcept_error {outcome : Except CompileError α} :
    ofExcept outcome context = .error error ↔ outcome = .error error := by
  cases outcome with
  | error found =>
      change Except.error found = Except.error error ↔ _
      simp
  | ok value =>
      change Except.ok (value, context) = Except.error error ↔ _
      simp

theorem fromSupply_error {draw : Sql.Supply → α × Sql.Supply} :
    fromSupply draw context = .error error ↔ False := by
  change Except.ok ((draw context.supply).1,
    { context with supply := (draw context.supply).2 }) = Except.error error ↔ False
  simp

theorem freshAlias_error {kind : Sql.Alias.Kind} {stem : String} :
    freshAlias kind stem context = .error error ↔ False :=
  fromSupply_error

theorem enter_error {limit : Nat} :
    enter limit context = .error error ↔
      limit < context.depth + 1 ∧ error = .tooDeep (context.depth + 1) limit := by
  by_cases h : limit < context.depth + 1
  · simp [enter, Context.enter, h, eq_comm]
  · simp [enter, Context.enter, h]

theorem leave_error : leave context = .error error ↔ False := by
  change Except.ok ((), context.leave) = Except.error error ↔ False
  simp

theorem entity_error {compiler : Compiler} {name : String} :
    Compile.entity compiler name context = .error error ↔
      ∃ fault, compiler.provider.entity name = .error fault ∧ error = .catalog fault := by
  unfold Compile.entity
  cases compiler.provider.entity name with
  | error fault =>
      rw [throw_error]
      simp [eq_comm]
  | ok found => simp [pure_error]

theorem reduce_error {fragments : List Fragment} :
    reduce fragments context = .error error ↔ Fragment.reduce fragments = .error error :=
  ofExcept_error

end Compile

end TreeQuery
