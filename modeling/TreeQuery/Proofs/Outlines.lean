import TreeQuery.Fragment.Lowering
import TreeQuery.Proofs.Fragments
import TreeQuery.Proofs.Redaction

/-!
# Outlines of compilations

The outline of a fragment is the fragment without its values, together with the names
of the values.  Two steps agree on an outline if, from every context, both give values
with the same outline and the same next context, or both fail with errors that are
equal up to redaction.
-/

namespace TreeQuery

variable {α β γ δ : Type}

/-- What an outcome shows: the outline of the value, or the redacted error. -/
def visible (outline : α → β) : Except CompileError α → Except CompileError β
  | .ok value => .ok (outline value)
  | .error error => .error error.redacted

theorem visible_bind {outline : α → β} {final : γ → δ} {first other : Except CompileError α}
    {next follow : α → Except CompileError γ}
    (same : visible outline first = visible outline other)
    (later : ∀ value result, outline value = outline result →
      visible final (next value) = visible final (follow result)) :
    visible final (first >>= next) = visible final (other >>= follow) := by
  cases first with
  | error error =>
      cases other with
      | error fault =>
          simp only [visible, Except.error.injEq] at same
          exact congrArg Except.error same
      | ok result => cases same
  | ok value =>
      cases other with
      | error fault => cases same
      | ok result =>
          simp only [visible, Except.ok.injEq] at same
          exact later value result same

/-! ## Steps -/

namespace Compile

def Agree (outline : α → β) (step other : Compile α) : Prop :=
  ∀ context, visible (Prod.map outline id) (step context) =
    visible (Prod.map outline id) (other context)

theorem Agree.refl (outline : α → β) (step : Compile α) : Agree outline step step :=
  fun _ => rfl

theorem agree_pure {outline : α → β} {value result : α} (same : outline value = outline result) :
    Agree outline (pure value) (pure result) := by
  intro context
  change Except.ok (outline value, context) = Except.ok (outline result, context)
  rw [same]

theorem agree_throw {outline : α → β} {error fault : CompileError}
    (same : error.redacted = fault.redacted) :
    Agree outline (throw error) (throw fault) :=
  fun _ => congrArg Except.error same

theorem agree_ofExcept {outline : α → β} {outcome other : Except CompileError α}
    (same : visible outline outcome = visible outline other) :
    Agree outline (ofExcept outcome) (ofExcept other) := by
  intro context
  cases outcome with
  | error error =>
      cases other with
      | error fault =>
          simp only [visible, Except.error.injEq] at same
          exact congrArg Except.error same
      | ok result => cases same
  | ok value =>
      cases other with
      | error fault => cases same
      | ok result =>
          simp only [visible, Except.ok.injEq] at same
          exact agree_pure same context

theorem agree_fromSupply {outline : α → β} {draw other : Sql.Supply → α × Sql.Supply}
    (same : ∀ supply, outline (draw supply).1 = outline (other supply).1 ∧
      (draw supply).2 = (other supply).2) :
    Agree outline (fromSupply draw) (fromSupply other) := by
  intro context
  obtain ⟨value, supply⟩ := same context.supply
  change Except.ok (outline (draw context.supply).1,
      { context with supply := (draw context.supply).2 }) =
    Except.ok (outline (other context.supply).1,
      { context with supply := (other context.supply).2 })
  rw [value, supply]

theorem Agree.bind {outline : α → β} {final : γ → δ} {first other : Compile α}
    {next follow : α → Compile γ} (same : Agree outline first other)
    (later : ∀ value result, outline value = outline result →
      Agree final (next value) (follow result)) :
    Agree final (first >>= next) (other >>= follow) := by
  intro context
  refine visible_bind (same context) fun before after shown => ?_
  simp only [Prod.map, id, Prod.mk.injEq] at shown
  obtain ⟨value, between⟩ := before
  obtain ⟨result, final⟩ := after
  cases shown.2
  exact later value result shown.1 between

theorem Agree.after {final : γ → δ} (first : Compile α) {next follow : α → Compile γ}
    (later : ∀ value, Agree final (next value) (follow value)) :
    Agree final (first >>= next) (first >>= follow) :=
  (Agree.refl id first).bind fun value result same => by
    cases (same : value = result)
    exact later value

end Compile

/-! ## Bindings -/

namespace Bindings

theorem names_insert {bindings other : Bindings} (same : bindings.names = other.names)
    (name : String) (value result : Json) :
    (bindings.insert name value).names = (other.insert name result).names := by
  induction bindings generalizing other with
  | nil =>
      cases other with
      | nil => rfl
      | cons entry rest => simp [names] at same
  | cons entry rest ih =>
      cases other with
      | nil => simp [names] at same
      | cons first later =>
          simp only [names, List.map_cons, List.cons.injEq] at same
          obtain ⟨head, tail⟩ := same
          simp only [insert, head]
          split
          · simp [names, tail]
          · have inserted := ih tail
            simp only [names] at inserted
            simp [names, inserted]

theorem has_eq {bindings other : Bindings} (same : bindings.names = other.names) (name : String) :
    bindings.has name = other.has name := by
  rw [Bool.eq_iff_iff, has_iff, has_iff, same]

theorem names_bindAll {bindings other : Bindings} (same : bindings.names = other.names)
    {entries others : List (String × Json)} (alike : entries.map (·.1) = others.map (·.1)) :
    (bindings.bindAll entries).1.names = (other.bindAll others).1.names ∧
      (bindings.bindAll entries).2 = (other.bindAll others).2 := by
  induction entries generalizing bindings other others with
  | nil =>
      cases others with
      | nil => exact ⟨same, rfl⟩
      | cons entry rest => simp at alike
  | cons entry rest ih =>
      cases others with
      | nil => simp at alike
      | cons first later =>
          simp only [List.map_cons, List.cons.injEq] at alike
          simp only [bindAll, alike.1, has_eq same]
          split
          · exact ⟨same, rfl⟩
          · exact ih (names_insert same first.1 entry.2 first.2) alike.2

end Bindings

/-! ## Fragments -/

namespace Fragment

def outline (fragment : Fragment) : Fragment × List String :=
  (fragment.emptied, fragment.values.names)

theorem outline_eq_iff {fragment other : Fragment} :
    fragment.outline = other.outline ↔
      ∃ values, fragment = { other with values } ∧ values.names = other.values.names := by
  constructor
  · intro same
    obtain ⟨shown, names⟩ := Prod.mk.inj same
    refine ⟨fragment.values, ?_, names⟩
    cases fragment
    cases other
    simpa [emptied] using shown
  · rintro ⟨values, rfl, names⟩
    exact Prod.ext rfl names

theorem lower_withValues (scope : Scope) (fragment : Fragment) (values : Bindings) :
    { fragment with values }.lower scope = fragment.lower scope := by
  cases fragment
  rfl

theorem outline_bindAll {fragment other : Fragment} (same : fragment.outline = other.outline)
    {entries others : List (String × Json)} (alike : entries.map (·.1) = others.map (·.1)) :
    (fragment.bindAll entries).1.outline = (other.bindAll others).1.outline ∧
      (fragment.bindAll entries).2 = (other.bindAll others).2 := by
  obtain ⟨values, rfl, names⟩ := outline_eq_iff.mp same
  obtain ⟨bound, duplicate⟩ := Bindings.names_bindAll names alike
  exact ⟨Prod.ext rfl bound, duplicate⟩

theorem visible_checked {result other : Fragment × Option String}
    (same : result.1.outline = other.1.outline) (duplicate : result.2 = other.2) :
    visible outline (checked result) = visible outline (checked other) := by
  obtain ⟨fragment, found⟩ := result
  obtain ⟨rest, repeated⟩ := other
  cases duplicate
  cases found with
  | some name => rfl
  | none => exact congrArg Except.ok same

theorem merge_eq (fragment other : Fragment) :
    fragment.merge other = (do
      let bound ← checked ((fragment.addOwn other).bindAll other.values)
      pure (bound.addRest other)) := by
  rcases bound : (fragment.addOwn other).bindAll other.values with ⟨result, duplicate⟩
  cases duplicate <;> simp only [merge, absorb, bound] <;> rfl

theorem outline_addRest {fragment other first second : Fragment}
    (same : fragment.outline = first.outline) (alike : other.outline = second.outline) :
    (fragment.addRest other).outline = (first.addRest second).outline := by
  obtain ⟨values, rfl, names⟩ := outline_eq_iff.mp same
  obtain ⟨bound, rfl, -⟩ := outline_eq_iff.mp alike
  unfold addRest addGroup
  by_cases none : second.anyOf.isEmpty = true
  · simp only [none, if_true]
    exact Prod.ext rfl names
  · by_cases alone : first.anyOf.isEmpty = true
    · simp only [none, alone, if_true]
      exact Prod.ext rfl names
    · simp only [none, alone]
      exact Prod.ext rfl names

theorem visible_merge {fragment other first second : Fragment}
    (same : fragment.outline = first.outline) (alike : other.outline = second.outline) :
    visible outline (fragment.merge other) = visible outline (first.merge second) := by
  have own : (fragment.addOwn other).outline = (first.addOwn second).outline := by
    obtain ⟨values, rfl, names⟩ := outline_eq_iff.mp same
    obtain ⟨bound, rfl, -⟩ := outline_eq_iff.mp alike
    exact Prod.ext rfl names
  obtain ⟨result, duplicate⟩ := outline_bindAll own (Prod.mk.inj alike).2
  rw [merge_eq, merge_eq]
  refine visible_bind (visible_checked result duplicate) fun before after shown => ?_
  exact congrArg Except.ok (outline_addRest shown alike)

theorem visible_foldlM_merge {fragments others : List Fragment} {first second : Fragment}
    (same : first.outline = second.outline)
    (alike : fragments.map outline = others.map outline) :
    visible outline (fragments.foldlM merge first) =
      visible outline (others.foldlM merge second) := by
  induction fragments generalizing others first second with
  | nil =>
      cases others with
      | nil => exact congrArg Except.ok same
      | cons other rest => simp at alike
  | cons fragment fragments ih =>
      cases others with
      | nil => simp at alike
      | cons other rest =>
          simp only [List.map_cons, List.cons.injEq] at alike
          rw [List.foldlM_cons, List.foldlM_cons]
          exact visible_bind (visible_merge same alike.1) fun _ _ shown => ih shown alike.2

theorem agree_reduce {fragments others : List Fragment}
    (alike : fragments.map outline = others.map outline) :
    Compile.Agree outline (Compile.reduce fragments) (Compile.reduce others) :=
  Compile.agree_ofExcept (visible_foldlM_merge rfl alike)

theorem outline_hoist {fragment other : Fragment} {children others : List Fragment}
    (same : fragment.outline = other.outline)
    (alike : children.map outline = others.map outline) :
    (fragment.hoist children).1.outline = (other.hoist others).1.outline ∧
      (fragment.hoist children).2.2 = (other.hoist others).2.2 ∧
      ((fragment.hoist children).2.2 = none →
        (fragment.hoist children).2.1 = (other.hoist others).2.1) := by
  induction children generalizing fragment other others with
  | nil =>
      cases others with
      | nil => exact ⟨same, rfl, fun _ => rfl⟩
      | cons first rest => simp at alike
  | cons child children ih =>
      cases others with
      | nil => simp at alike
      | cons first rest =>
          simp only [List.map_cons, List.cons.injEq] at alike
          obtain ⟨shown, names⟩ := Prod.mk.inj alike.1
          obtain ⟨bound, duplicate⟩ := outline_bindAll same names
          rcases here : fragment.bindAll child.values with ⟨result, found⟩
          rcases there : other.bindAll first.values with ⟨outcome, repeated⟩
          rw [here, there] at bound duplicate
          cases duplicate
          simp only [hoist, here, there]
          cases found with
          | some name => exact ⟨bound, rfl, fun none => by cases none⟩
          | none =>
              obtain ⟨values, duplicates, hoisted⟩ := ih bound alike.2
              refine ⟨values, duplicates, fun none => ?_⟩
              exact congrArg₂ List.cons shown (hoisted none)

end Fragment

end TreeQuery
