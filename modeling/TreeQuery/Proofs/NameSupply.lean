import TreeQuery.Proofs.Literals
import TreeQuery.Proofs.ScopedFilters

/-!
# The names of a supply never collide

A supply is asked for aliases and for parameters, in any order and with any stems,
aliases and fields.  Each name that it gives is new to it, and it remembers the names
it has given, so of two names the later one has the larger number.  The number of a
name can be read back from its text, whatever the stem and the field look like.
-/

namespace TreeQuery.Sql

/-! ## Aliases as they are written -/

theorem Alias.stem_of_text (label : Alias) :
    ((label.text.toList.reverse.dropWhile Char.isDigit).drop 2).reverse = label.stem.toList := by
  have digits : ∀ c ∈ (Nat.toDigits 10 label.index).reverse, c.isDigit = true := fun c member =>
    Nat.isDigit_of_mem_toDigits (by decide) (by decide) (List.mem_reverse.mp member)
  have split : label.text.toList =
      label.stem.toList ++ '_' :: label.kind.tag.toList ++ Nat.toDigits 10 label.index := by
    simp [Alias.text]
  rw [split, List.reverse_append, List.dropWhile_append_of_pos digits]
  cases label.kind <;> simp [Alias.Kind.tag]

theorem Alias.text_injective : Function.Injective Alias.text := by
  intro left right same
  have stems : left.stem.toList = right.stem.toList := by
    rw [← left.stem_of_text, same, right.stem_of_text]
  exact Alias.eq_of_text (String.toList_inj.mp stems) same

namespace Supply

/-! ## Demands -/

inductive Demand where
  | label (kind : Alias.Kind) (stem : String)
  | parameter (label : Alias) (field : String)

inductive Name where
  | label (label : Alias)
  | parameter (parameter : Parameter)

def Name.label? : Name → Option Alias
  | .label found => some found
  | .parameter _ => none

def Name.parameter? : Name → Option Parameter
  | .label _ => none
  | .parameter found => some found

def serve (supply : Supply) : Demand → Name × Supply
  | .label kind stem => (.label (supply.next kind stem).1, (supply.next kind stem).2)
  | .parameter label field =>
      (.parameter (supply.nextParameter label field).1, (supply.nextParameter label field).2)

def serveAll (supply : Supply) : List Demand → List Name × Supply
  | [] => ([], supply)
  | demand :: rest =>
      let (name, between) := supply.serve demand
      let (names, after) := between.serveAll rest
      (name :: names, after)

def labels (supply : Supply) (demands : List Demand) : List Alias :=
  (supply.serveAll demands).1.filterMap Name.label?

def parametersOf (supply : Supply) (demands : List Demand) : List Parameter :=
  (supply.serveAll demands).1.filterMap Name.parameter?

/-! ## One demand -/

/-- The supply has given the name, or counts as if it had. -/
def Given (supply : Supply) : Name → Prop
  | .label label => supply.Issued label
  | .parameter parameter => parameter.number ≤ supply.parameters

theorem serve_given (supply : Supply) (demand : Demand) :
    (supply.serve demand).2.Given (supply.serve demand).1 := by
  cases demand with
  | label kind stem => exact supply.next_issued kind stem
  | parameter label field => exact Nat.le_refl _

theorem serve_new (supply : Supply) (demand : Demand) :
    ¬ supply.Given (supply.serve demand).1 := by
  cases demand with
  | label kind stem => exact fun issued => supply.next_ne issued kind stem rfl
  | parameter label field => exact Nat.not_succ_le_self _

theorem Given.serve {supply : Supply} {name : Name} (given : supply.Given name)
    (demand : Demand) : (supply.serve demand).2.Given name := by
  cases demand with
  | label kind stem =>
      cases name with
      | label label => exact (supply.next_grows kind stem).issued given
      | parameter parameter => exact given
  | parameter label field =>
      cases name with
      | label label => exact given
      | parameter parameter => exact Nat.le_succ_of_le given

theorem serve_counts (supply : Supply) (demand : Demand) :
    (∀ kind stem, (supply.serve demand).2.last kind stem ≤ supply.last kind stem + 1) ∧
      (supply.serve demand).2.parameters ≤ supply.parameters + 1 := by
  cases demand with
  | label kind stem =>
      refine ⟨fun otherKind otherStem => ?_, Nat.le_succ _⟩
      simp only [serve, next, setLast]
      split
      · rename_i same
        rw [same.1, same.2]
      · exact Nat.le_succ _
  | parameter label field => exact ⟨fun _ _ => Nat.le_succ _, Nat.le_refl _⟩

/-! ## Many demands -/

theorem serveAll_new {supply : Supply} {demands : List Demand} {name : Name}
    (member : name ∈ (supply.serveAll demands).1) : ¬ supply.Given name := by
  induction demands generalizing supply with
  | nil => cases member
  | cons demand rest ih =>
      rcases List.mem_cons.mp member with rfl | later
      · exact supply.serve_new demand
      · exact fun given => ih later (given.serve demand)

theorem Given.serveAll {supply : Supply} {name : Name} (given : supply.Given name)
    (demands : List Demand) : (supply.serveAll demands).2.Given name := by
  induction demands generalizing supply with
  | nil => exact given
  | cons demand rest ih => exact ih (given.serve demand)

theorem serveAll_given {supply : Supply} {demands : List Demand} {name : Name}
    (member : name ∈ (supply.serveAll demands).1) : (supply.serveAll demands).2.Given name := by
  induction demands generalizing supply with
  | nil => cases member
  | cons demand rest ih =>
      rcases List.mem_cons.mp member with rfl | later
      · exact (supply.serve_given demand).serveAll rest
      · exact ih later

theorem serveAll_counts (supply : Supply) (demands : List Demand) :
    (∀ kind stem,
      (supply.serveAll demands).2.last kind stem ≤ supply.last kind stem + demands.length) ∧
      (supply.serveAll demands).2.parameters ≤ supply.parameters + demands.length := by
  induction demands generalizing supply with
  | nil => exact ⟨fun _ _ => Nat.le_refl _, Nat.le_refl _⟩
  | cons demand rest ih =>
      obtain ⟨indices, numbers⟩ := supply.serve_counts demand
      obtain ⟨laterIndices, laterNumbers⟩ := ih (supply.serve demand).2
      simp only [serveAll, List.length_cons]
      refine ⟨fun kind stem => ?_, ?_⟩
      · have := indices kind stem
        have := laterIndices kind stem
        omega
      · omega

def Name.Precedes : Name → Name → Prop
  | .label left, .label right =>
      left.kind = right.kind → left.stem = right.stem → left.index < right.index
  | .parameter left, .parameter right => left.number < right.number
  | _, _ => True

/-- A name that the supply remembers comes before one that is new to it. -/
theorem Given.precedes {supply : Supply} {left right : Name} (given : supply.Given left)
    (fresh : ¬ supply.Given right) : left.Precedes right := by
  cases left with
  | label left =>
      cases right with
      | label right =>
          intro kind stem
          simp only [Given, Issued, kind, stem] at given fresh
          omega
      | parameter right => trivial
  | parameter left =>
      cases right with
      | label right => trivial
      | parameter right =>
          simp only [Given] at given fresh
          change left.number < right.number
          omega

theorem serveAll_precedes (supply : Supply) (demands : List Demand) :
    (supply.serveAll demands).1.Pairwise Name.Precedes := by
  induction demands generalizing supply with
  | nil => exact .nil
  | cons demand rest ih =>
      refine .cons (fun name later => ?_) (ih _)
      exact (supply.serve_given demand).precedes (serveAll_new later)

theorem labels_ascend (supply : Supply) (demands : List Demand) :
    (supply.labels demands).Pairwise fun left right =>
      left.kind = right.kind → left.stem = right.stem → left.index < right.index := by
  refine (supply.serveAll_precedes demands).filterMap _ fun left right precedes label mine
    other theirs => ?_
  cases left <;> cases mine
  cases right <;> cases theirs
  exact precedes

theorem parametersOf_ascend (supply : Supply) (demands : List Demand) :
    (supply.parametersOf demands).Pairwise fun left right => left.number < right.number := by
  refine (supply.serveAll_precedes demands).filterMap _ fun left right precedes parameter mine
    other theirs => ?_
  cases left <;> cases mine
  cases right <;> cases theirs
  exact precedes

theorem index_le_of_mem_labels {supply : Supply} {demands : List Demand} {label : Alias}
    (member : label ∈ supply.labels demands) :
    label.index ≤ supply.last label.kind label.stem + demands.length := by
  obtain ⟨name, listed, same⟩ := List.mem_filterMap.mp member
  cases name <;> cases same
  exact (serveAll_given listed).trans ((supply.serveAll_counts demands).1 _ _)

theorem number_le_of_mem_parametersOf {supply : Supply} {demands : List Demand}
    {parameter : Parameter} (member : parameter ∈ supply.parametersOf demands) :
    parameter.number ≤ supply.parameters + demands.length := by
  obtain ⟨name, listed, same⟩ := List.mem_filterMap.mp member
  cases name <;> cases same
  exact (serveAll_given listed).trans (supply.serveAll_counts demands).2

/--
The aliases that a supply gives are written differently, and those of one kind and stem have
ascending indices.  The parameters have different names, which consist of name characters if
the stem does.  No counter is raised by more than the number of demands, so fewer than 2^32
demands on a new supply stay within 32 bits.
-/
theorem names_never_collide (supply : Supply) (demands : List Demand) :
    ((supply.labels demands).map Alias.text).Nodup ∧
    (∀ kind stem, (((supply.labels demands).filter fun label =>
      label.kind = kind ∧ label.stem = stem).map Alias.index).Pairwise (· < ·)) ∧
    ((supply.parametersOf demands).map Parameter.name).Nodup ∧
    (∀ parameter ∈ supply.parametersOf demands,
      parameter.label.stem.toList.all Lexeme.isNameChar = true →
        parameter.name.toList.all Lexeme.isNameChar = true) ∧
    (∀ label ∈ supply.labels demands,
      label.index ≤ supply.last label.kind label.stem + demands.length) ∧
    ∀ parameter ∈ supply.parametersOf demands,
      parameter.number ≤ supply.parameters + demands.length := by
  refine ⟨?_, fun kind stem => ?_, ?_, fun parameter _ plain => Parameter.name_isNameChar plain,
    fun label => index_le_of_mem_labels, fun parameter => number_le_of_mem_parametersOf⟩
  · refine List.pairwise_map.mpr ((supply.labels_ascend demands).imp ?_)
    intro left right ascend same
    cases Alias.text_injective same
    exact Nat.lt_irrefl _ (ascend rfl rfl)
  · refine List.pairwise_map.mpr (List.pairwise_filter.mpr ((supply.labels_ascend demands).imp ?_))
    intro left right ascend mine theirs
    simp only [decide_eq_true_eq] at mine theirs
    exact ascend (mine.1.trans theirs.1.symm) (mine.2.trans theirs.2.symm)
  · refine List.pairwise_map.mpr ((supply.parametersOf_ascend demands).imp ?_)
    intro left right ascend same
    exact Nat.ne_of_lt ascend (Parameter.number_of_name same)

end Supply

end TreeQuery.Sql

namespace TreeQuery.Sample

open Sql (Supply)

def confusing : List Supply.Demand :=
  [.label .entity "t", .label .entity "t_e1", .label .entity "t", .label .filter "t_e",
    .parameter ⟨.entity, "t", 1⟩ "e1_first-name", .parameter ⟨.entity, "t_e1", 1⟩ "first name",
    .label .entity "t_e1"]

theorem names_never_collide_confusing :
    (({} : Supply).labels confusing).map Sql.Alias.text =
        ["t_e1", "t_e1_e1", "t_e2", "t_e_f1", "t_e1_e2"] ∧
      (({} : Supply).parametersOf confusing).map Sql.Parameter.name =
        ["t_e1_e1_first_name_1", "t_e1_e1_first_name_2"] ∧
      ∀ parameter ∈ ({} : Supply).parametersOf confusing,
        parameter.label.stem.toList.all Lexeme.isNameChar = true ∧
          parameter.name.toList.all Lexeme.isNameChar = true := by
  refine ⟨by decide +kernel, by decide +kernel, fun parameter member => ?_⟩
  have plain : ∀ parameter ∈ ({} : Supply).parametersOf confusing,
      parameter.label.stem.toList.all Lexeme.isNameChar = true := by decide +kernel
  obtain ⟨-, -, -, named, -⟩ := ({} : Supply).names_never_collide confusing
  exact ⟨plain parameter member, named parameter member (plain parameter member)⟩

end TreeQuery.Sample
