import TreeQuery.Proofs.AscendingNames
import TreeQuery.Proofs.FragmentMeaning

/-!
# Merging is conjunction

Two fragments can be merged when they bind different names.  The result then shows,
reads and binds what both do, and it is true when both are; a second group of
alternatives stays a group of its own.  When a name is bound in both, the merge stops at
it, and what was bound before keeps its value.
-/

namespace TreeQuery

/-! ## Bindings -/

namespace Bindings

theorem get?_insert_of_ne {bindings : Bindings} {name other : String} {value : Json}
    (differs : other ≠ name) : (bindings.insert name value).get? other = bindings.get? other := by
  have unequal : (other == name) = false := beq_eq_false_iff_ne.mpr differs
  induction bindings with
  | nil => simp [insert, get?, List.lookup_cons, unequal]
  | cons entry rest ih =>
      obtain ⟨first, bound⟩ := entry
      simp only [insert]
      split
      · simp [get?, List.lookup_cons, unequal]
      · simp only [get?, List.lookup_cons] at ih ⊢
        rw [ih]

theorem get?_bindAll {bindings : Bindings} {name : String} (bound : name ∈ bindings.names)
    (entries : List (String × Json)) :
    (bindings.bindAll entries).1.get? name = bindings.get? name := by
  induction entries generalizing bindings with
  | nil => rfl
  | cons entry rest ih =>
      obtain ⟨first, value⟩ := entry
      simp only [bindAll]
      split
      · rfl
      · rename_i unbound
        have differs : name ≠ first := by
          rintro rfl
          exact unbound (has_iff.mpr bound)
        rw [ih (mem_names_insert.mpr (.inr bound)), get?_insert_of_ne differs]

theorem bindAll_some {bindings kept : Bindings} {entries : List (String × Json)} {name : String}
    (distinct : (entries.map (·.1)).Nodup)
    (stopped : bindings.bindAll entries = (kept, some name)) :
    name ∈ bindings.names ∧ name ∈ entries.map (·.1) := by
  induction entries generalizing bindings with
  | nil => simp [bindAll] at stopped
  | cons entry rest ih =>
      obtain ⟨first, value⟩ := entry
      obtain ⟨unlisted, later⟩ := List.nodup_cons.mp distinct
      simp only [bindAll] at stopped
      split at stopped
      · rename_i bound
        obtain ⟨-, rfl⟩ : bindings = kept ∧ first = name := by simpa using stopped
        exact ⟨has_iff.mp bound, List.mem_cons_self⟩
      · obtain ⟨inserted, listed⟩ := ih later stopped
        rcases mem_names_insert.mp inserted with rfl | before
        · exact absurd listed unlisted
        · exact ⟨before, List.mem_cons_of_mem _ listed⟩

theorem get?_eq_some_iff {bindings : Bindings} {name : String} {value : Json}
    (distinct : bindings.names.Nodup) :
    bindings.get? name = some value ↔ (name, value) ∈ bindings := by
  refine ⟨fun found => ?_, get?_of_mem distinct⟩
  obtain ⟨before, after, rfl, -⟩ := List.lookup_eq_some_iff.mp found
  simp

theorem get?_of_perm {left right : Bindings} (same : left.Perm right)
    (distinct : left.names.Nodup) (name : String) : left.get? name = right.get? name := by
  have other : right.names.Nodup := (same.map Prod.fst).nodup_iff.mp distinct
  refine Option.ext fun value => ?_
  rw [get?_eq_some_iff distinct, get?_eq_some_iff other, same.mem_iff]

theorem mem_names_of_get? {bindings : Bindings} {name : String} {value : Json}
    (found : bindings.get? name = some value) : name ∈ bindings.names := by
  obtain ⟨before, after, rfl, -⟩ := List.lookup_eq_some_iff.mp found
  simp [names]

end Bindings

theorem insertName_ascending {names : List String} (ascending : names.Pairwise (· < ·))
    (name : String) : (insertName name names).Pairwise (· < ·) := by
  induction names with
  | nil => exact List.pairwise_singleton _ _
  | cons first rest ih =>
      obtain ⟨least, later⟩ := List.pairwise_cons.mp ascending
      unfold insertName
      split
      · rename_i less
        refine List.pairwise_cons.mpr ⟨fun other member => ?_, ascending⟩
        rcases List.mem_cons.mp member with rfl | behind
        · exact less
        · exact less.trans (least other behind)
      · split
        · exact ascending
        · rename_i notLess differs
          refine List.pairwise_cons.mpr ⟨fun other member => ?_, ih later⟩
          rcases mem_insertName.mp member with rfl | behind
          · exact lt_of_le_of_ne (not_lt.mp notLess) (Ne.symm differs)
          · exact least other behind

theorem unionNames_ascending {names : List String} (ascending : names.Pairwise (· < ·))
    (more : List String) : (unionNames names more).Pairwise (· < ·) := by
  induction more generalizing names with
  | nil => exact ascending
  | cons first rest ih => exact ih (insertName_ascending ascending first)

/-! ## Merging -/

namespace Fragment

/-- The columns and the bound names ascend, so that none occurs twice. -/
structure Canonical (fragment : Fragment) : Prop where
  columns : fragment.columns.Pairwise (· < ·)
  values : fragment.values.Ascending

instance (fragment : Fragment) : Decidable fragment.Canonical :=
  decidable_of_iff
    (fragment.columns.Pairwise (· < ·) ∧ fragment.values.names.Pairwise (· < ·))
    ⟨fun both => ⟨both.1, both.2⟩, fun canonical => ⟨canonical.columns, canonical.values⟩⟩

def Compatible (left right : Fragment) : Prop := left.values.names.Disjoint right.values.names

instance (left right : Fragment) : Decidable (left.Compatible right) :=
  inferInstanceAs (Decidable (∀ name ∈ left.values.names, name ∉ right.values.names))

structure Conjoins (left right result : Fragment) : Prop where
  canonical : result.Canonical
  values : ∀ name, result.values.get? name = (left.values.get? name).or (right.values.get? name)
  columns : ∀ name, name ∈ result.columns ↔ name ∈ left.columns ∨ name ∈ right.columns
  pairs : result.pairs = left.pairs ++ right.pairs
  computed : result.computed = (left.computed || right.computed)
  joins : result.joins = left.joins ++ right.joins
  filterJoins : result.filterJoins = left.filterJoins ++ right.filterJoins
  conditions : result.conditions = left.conditions ++ right.conditions
  order : result.order = left.order ++ right.order
  limit : result.limit = right.limit.or left.limit
  offset : result.offset = right.offset.or left.offset
  meaning : ∀ judgement : Judgement,
    judgement.accepts result = (judgement.accepts left && judgement.accepts right)

section Merge

variable {left right result : Fragment}

theorem fresh_iff_compatible (distinct : right.values.names.Nodup) :
    left.values.Fresh right.values ↔ left.Compatible right := by
  refine ⟨fun fresh name bound listed => ?_, fun compatible => ⟨fun _ member bound => ?_, distinct⟩⟩
  · obtain ⟨value, member⟩ := Bindings.mem_names.mp listed
    exact fresh.1 _ member bound
  · exact compatible bound (List.mem_map_of_mem member)

theorem merge_succeeds_iff (distinct : right.values.names.Nodup) :
    (∃ result, left.merge right = .ok result) ↔ left.Compatible right := by
  rw [← fresh_iff_compatible distinct]
  constructor
  · rintro ⟨result, merged⟩
    exact (merge_values merged).2
  · intro fresh
    obtain ⟨values, bound⟩ := Bindings.bindAll_of_fresh fresh
    exact ⟨_, merge_ok.mpr ⟨values, bound, rfl⟩⟩

theorem conjoins_of_merge (sorted : left.Canonical) (merged : left.merge right = .ok result) :
    left.Conjoins right result := by
  have meaning := fun judgement : Judgement => judgement.accepts_merge merged
  obtain ⟨values, allOf, anyOf, bound, rfl⟩ := merge_fields merged
  have ascending : values.Ascending := by
    have kept := sorted.values.bindAll right.values
    rwa [bound] at kept
  have united : ∀ name,
      values.get? name = (left.values.get? name).or (right.values.get? name) := by
    intro name
    rw [Bindings.get?_of_perm (Bindings.bindAll_none bound).1 ascending.nodup]
    exact List.lookup_append
  exact
    { canonical := ⟨unionNames_ascending sorted.columns right.columns, ascending⟩
      values := united
      columns := fun _ => mem_unionNames
      pairs := rfl
      computed := rfl
      joins := rfl
      filterJoins := rfl
      conditions := rfl
      order := rfl
      limit := by simp
      offset := by simp
      meaning }

/-- A merge that fails has found a name that both bind, and has changed no value. -/
theorem merge_error (distinct : right.values.names.Nodup) {error : CompileError}
    (failed : left.merge right = .error error) :
    ∃ name, error = .duplicateBinding name ∧
      name ∈ left.values.names ∧ name ∈ right.values.names ∧
      ∀ bound value, left.values.get? bound = some value →
        (left.absorb right).1.values.get? bound = some value := by
  rcases stopped : left.values.bindAll right.values with ⟨kept, _ | name⟩
  · rw [merge_ok.mpr ⟨kept, stopped, rfl⟩] at failed
    cases failed
  · obtain ⟨mine, theirs⟩ := Bindings.bindAll_some distinct stopped
    have absorbed : left.absorb right = ({ left.addOwn right with values := kept }, some name) := by
      simp [absorb, bindAll, addOwn, stopped]
    rw [merge, absorbed, checked] at failed
    cases failed
    refine ⟨name, rfl, mine, theirs, fun bound value found => ?_⟩
    have unchanged := Bindings.get?_bindAll (Bindings.mem_names_of_get? found) right.values
    rw [absorbed]
    rwa [stopped, found] at unchanged

end Merge

theorem reduce_succeeds_iff {fragments : List Fragment}
    (each : ∀ fragment ∈ fragments, fragment.values.names.Nodup) :
    (∃ result, reduce fragments = .ok result) ↔ fragments.Pairwise Compatible := by
  have nodup_iff : (boundNames fragments).Nodup ↔ fragments.Pairwise Compatible := by
    rw [boundNames, Bindings.names, List.map_flatMap, List.nodup_flatMap]
    exact and_iff_right each
  rw [← nodup_iff]
  constructor
  · rintro ⟨result, reduced⟩
    obtain ⟨perm, distinct⟩ := reduce_values reduced
    exact (perm.map Prod.fst).nodup_iff.mp distinct
  · exact reduce_of_nodup

/--
Two fragments can be merged exactly if they bind different names.  The result is then their
conjunction.  Otherwise the error names a duplicate, and what has been taken in up to there
leaves every value as it was.  A list of fragments can be reduced exactly if any two of them
can be merged, and the result is the conjunction of all.
-/
theorem merging_conjoins :
    (∀ left right : Fragment, left.Canonical → right.Canonical →
      ((∃ result, left.merge right = .ok result) ↔ left.Compatible right) ∧
      (∀ result, left.merge right = .ok result → left.Conjoins right result) ∧
      ∀ error, left.merge right = .error error →
        ∃ name, error = .duplicateBinding name ∧
          name ∈ left.values.names ∧ name ∈ right.values.names ∧
          ∀ bound value, left.values.get? bound = some value →
            (left.absorb right).1.values.get? bound = some value) ∧
    ∀ fragments : List Fragment, (∀ fragment ∈ fragments, fragment.Canonical) →
      ((∃ result, reduce fragments = .ok result) ↔ fragments.Pairwise Compatible) ∧
      ∀ result, reduce fragments = .ok result → ∀ judgement : Judgement,
        judgement.accepts result = fragments.all judgement.accepts := by
  refine ⟨fun left right first second => ?_, fun fragments each => ?_⟩
  · exact ⟨merge_succeeds_iff second.values.nodup, fun _ => conjoins_of_merge first,
      fun _ => merge_error second.values.nodup⟩
  · exact ⟨reduce_succeeds_iff fun fragment member => (each fragment member).values.nodup,
      fun _ reduced judgement => judgement.accepts_reduce reduced⟩

end Fragment

namespace Sample

def hobbits : Fragment :=
  { columns := ["id", "name"]
    values := [("t_e1_name_1", .string "Merry"), ("t_e1_name_2", .string "Pippin")]
    limit := some 2
    anyOf := [{ conditions := [.text "t_e1.name = :t_e1_name_1"] },
      { conditions := [.text "t_e1.name = :t_e1_name_2"] }] }

def bearers : Fragment :=
  { columns := ["id", "sword"]
    values := [("t_e1_sword_3", .string "Sting")]
    offset := some 1
    anyOf := [{ conditions := [.text "t_e1.sword = :t_e1_sword_3"] },
      { filterJoins := [.text "INNER JOIN LATERAL (SELECT 1) AS t_f1 ON TRUE"] }]
    noneOf := [{ conditions := [.text "t_e1.sword IS NULL"] }] }

def peregrin : Fragment :=
  { values := [("t_e1_id_9", .null), ("t_e1_name_2", .string "Peregrin")] }

theorem merging_conjoins_hobbits :
    (hobbits.Canonical ∧ bearers.Canonical ∧ peregrin.Canonical) ∧
    (∃ result, hobbits.merge bearers = .ok result ∧ hobbits.Conjoins bearers result) ∧
    (∃ result, Fragment.reduce [hobbits, bearers] = .ok result ∧
      ∀ judgement : Judgement,
        judgement.accepts result = (judgement.accepts hobbits && judgement.accepts bearers)) ∧
    hobbits.merge peregrin = .error (.duplicateBinding "t_e1_name_2") ∧
    (hobbits.absorb peregrin).1.values.get? "t_e1_name_2" = some (.string "Pippin") := by
  have first : hobbits.Canonical := by decide +kernel
  have second : bearers.Canonical := by decide +kernel
  have third : peregrin.Canonical := by decide +kernel
  have apart : hobbits.Compatible bearers := by decide +kernel
  obtain ⟨merging, reducing⟩ := Fragment.merging_conjoins
  obtain ⟨merges, conjoins, -⟩ := merging hobbits bearers first second
  obtain ⟨reduces, means⟩ := reducing [hobbits, bearers] (by simp [first, second])
  obtain ⟨merged, merge⟩ := merges.mpr apart
  obtain ⟨reduced, reduce⟩ := reduces.mpr (List.pairwise_pair.mpr apart)
  have failed : hobbits.merge peregrin = .error (.duplicateBinding "t_e1_name_2") := by rfl
  obtain ⟨-, -, -, -, kept⟩ := (merging hobbits peregrin first third).2.2 _ failed
  refine ⟨⟨first, second, third⟩, ⟨merged, merge, conjoins merged merge⟩,
    ⟨reduced, reduce, fun judgement => ?_⟩, failed, kept _ _ (by rfl)⟩
  simpa using means reduced reduce judgement

end Sample

end TreeQuery
