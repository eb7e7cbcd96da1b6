import Mathlib.Data.List.Nodup
import TreeQuery.Fragment.Basic

/-!
# Binding values to names

Binding entries one after the other keeps every entry and adds the new ones, or
stops at a name that is bound already.  So the bindings of a fragment that was
put together without a duplicate are, up to order, the bindings of its parts,
and no name occurs in two parts.
-/

namespace TreeQuery

namespace Bindings

theorem mem_names {bindings : Bindings} {name : String} :
    name ∈ bindings.names ↔ ∃ value, (name, value) ∈ bindings := by
  simp [names]

theorem has_iff {bindings : Bindings} {name : String} :
    bindings.has name = true ↔ name ∈ bindings.names := by
  simp [has, names]

theorem insert_perm (name : String) (value : Json) (bindings : Bindings) :
    (bindings.insert name value).Perm ((name, value) :: bindings) := by
  induction bindings with
  | nil => exact .refl _
  | cons entry rest ih =>
      obtain ⟨other, bound⟩ := entry
      simp only [insert]
      split
      · exact .refl _
      · exact (ih.cons _).trans (.swap _ _ _)

theorem mem_names_insert {bindings : Bindings} {name other : String} {value : Json} :
    other ∈ (bindings.insert name value).names ↔ other = name ∨ other ∈ bindings.names := by
  rw [names, ((insert_perm name value bindings).map (·.1)).mem_iff, List.map_cons,
    List.mem_cons, names]

/-- The names of the entries are new and differ from each other. -/
def Fresh (bindings : Bindings) (entries : List (String × Json)) : Prop :=
  (∀ entry ∈ entries, entry.1 ∉ bindings.names) ∧ (entries.map (·.1)).Nodup

theorem bindAll_none {bindings result : Bindings}
    {entries : List (String × Json)}
    (bound : bindings.bindAll entries = (result, none)) :
    result.Perm (bindings ++ entries) ∧ bindings.Fresh entries := by
  induction entries generalizing bindings with
  | nil =>
      simp only [bindAll, Prod.mk.injEq, and_true] at bound
      subst result
      simp [Fresh]
  | cons entry rest ih =>
      obtain ⟨name, value⟩ := entry
      simp only [bindAll] at bound
      split at bound
      · simp at bound
      · rename_i unbound
        have absent : name ∉ bindings.names := fun h => unbound (has_iff.mpr h)
        obtain ⟨perm, fresh, distinct⟩ := ih bound
        have inserted := insert_perm name value bindings
        refine ⟨?_, ?_, ?_⟩
        · calc result
            _ |>.Perm (bindings.insert name value ++ rest) := perm
            _ |>.Perm ((name, value) :: bindings ++ rest) := inserted.append_right rest
            _ |>.Perm (bindings ++ (name, value) :: rest) := List.perm_middle.symm
        · intro other member
          rcases List.mem_cons.mp member with rfl | later
          · exact absent
          · exact fun h => fresh other later (mem_names_insert.mpr (.inr h))
        · simp only [List.map_cons, List.nodup_cons]
          refine ⟨?_, distinct⟩
          intro h
          obtain ⟨other, later, rfl⟩ := List.mem_map.mp h
          exact fresh other later (mem_names_insert.mpr (.inl rfl))

theorem bindAll_of_fresh {bindings : Bindings} {entries : List (String × Json)}
    (fresh : bindings.Fresh entries) :
    ∃ result, bindings.bindAll entries = (result, none) := by
  induction entries generalizing bindings with
  | nil => exact ⟨bindings, rfl⟩
  | cons entry rest ih =>
      obtain ⟨name, value⟩ := entry
      obtain ⟨absent, distinct⟩ := fresh
      rw [List.map_cons, List.nodup_cons] at distinct
      have unbound : bindings.has name ≠ true := fun bound =>
        absent (name, value) List.mem_cons_self (has_iff.mp bound)
      simp only [bindAll, unbound]
      refine ih ⟨fun other later listed => ?_, distinct.2⟩
      rcases mem_names_insert.mp listed with same | before
      · exact distinct.1 (List.mem_map.mpr ⟨other, later, same⟩)
      · exact absent other (List.mem_cons_of_mem _ later) before

theorem fresh_of_nodup {bindings : Bindings} {entries : List (String × Json)}
    (distinct : (bindings.names ++ entries.map (·.1)).Nodup) : bindings.Fresh entries := by
  rw [List.nodup_append] at distinct
  obtain ⟨-, second, apart⟩ := distinct
  refine ⟨fun entry member bound => ?_, second⟩
  exact apart _ bound _ (List.mem_map_of_mem member) rfl

theorem names_nodup_of_perm {bindings result : Bindings}
    {entries : List (String × Json)} (distinct : bindings.names.Nodup)
    (fresh : bindings.Fresh entries) (perm : result.Perm (bindings ++ entries)) :
    result.names.Nodup := by
  have renamed : result.names.Perm (bindings.names ++ entries.map (·.1)) := by
    simpa [names] using perm.map (·.1)
  rw [renamed.nodup_iff, List.nodup_append]
  refine ⟨distinct, fresh.2, ?_⟩
  intro name bound other listed
  obtain ⟨entry, member, rfl⟩ := List.mem_map.mp listed
  exact fun same => fresh.1 entry member (same ▸ bound)

theorem get?_of_mem {bindings : Bindings} {name : String} {value : Json}
    (distinct : bindings.names.Nodup) (member : (name, value) ∈ bindings) :
    bindings.get? name = some value := by
  induction bindings with
  | nil => simp at member
  | cons entry rest ih =>
      obtain ⟨other, bound⟩ := entry
      simp only [names, List.map_cons, List.nodup_cons] at distinct
      rcases List.mem_cons.mp member with same | later
      · cases same
        simp [get?]
      · have differs : name ≠ other := by
          rintro rfl
          exact distinct.1 (List.mem_map.mpr ⟨_, later, rfl⟩)
        simp only [get?, List.lookup_cons, beq_eq_false_iff_ne.mpr differs]
        exact ih distinct.2 later

end Bindings

end TreeQuery
