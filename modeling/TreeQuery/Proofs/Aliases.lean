import TreeQuery.Proofs.Operators

/-!
# Aliases are handed out once

A supply only counts up, so an alias that it hands out differs from every alias
that it has handed out before.
-/

namespace TreeQuery

namespace Sql

namespace Supply

variable {supply later final : Supply} {kind : Alias.Kind} {stem : String}

/-- The supply has handed out the alias. -/
def Issued (supply : Supply) (label : Alias) : Prop :=
  label.index ≤ supply.last label.kind label.stem

def Grows (supply later : Supply) : Prop :=
  ∀ kind stem, supply.last kind stem ≤ later.last kind stem

theorem Grows.refl (supply : Supply) : supply.Grows supply := fun _ _ => Nat.le_refl _

theorem Grows.trans (first : supply.Grows later) (second : later.Grows final) :
    supply.Grows final :=
  fun kind stem => Nat.le_trans (first kind stem) (second kind stem)

theorem Grows.issued (grows : supply.Grows later) {label : Alias}
    (issued : supply.Issued label) : later.Issued label :=
  Nat.le_trans issued (grows label.kind label.stem)

theorem next_grows (supply : Supply) (kind : Alias.Kind) (stem : String) :
    supply.Grows (supply.next kind stem).2 := by
  intro otherKind otherStem
  simp only [next, setLast]
  split
  · rename_i same
    simp [same]
  · exact Nat.le_refl _

theorem next_issued (supply : Supply) (kind : Alias.Kind) (stem : String) :
    (supply.next kind stem).2.Issued (supply.next kind stem).1 := by
  simp [Issued, next, setLast]

theorem next_ne {label : Alias} (issued : supply.Issued label) (kind : Alias.Kind)
    (stem : String) : (supply.next kind stem).1 ≠ label := by
  rintro rfl
  simp only [Issued, next] at issued
  omega

theorem skip_grows (supply : Supply) (count : Nat) : supply.Grows (supply.skip count) :=
  Grows.refl supply

end Supply

end Sql

open Sql (Supply)

theorem Compile.freshAlias_ok {kind : Sql.Alias.Kind} {stem : String}
    {context after : Context} {label : Sql.Alias} :
    Compile.freshAlias kind stem context = .ok (label, after) ↔
      label = (context.supply.next kind stem).1 ∧
        after = { context with supply := (context.supply.next kind stem).2 } :=
  Compile.fromSupply_ok

namespace Site

def linking (parent child pivot : Sql.Alias) : Link → List Sql.Condition
  | .direct parentColumns childColumns =>
      ((child.columns childColumns).zip (parent.columns parentColumns)).map fun pair =>
        .equal pair.1 pair.2
  | .pivot table parentColumns pivotParentColumns pivotChildColumns childColumns =>
      [.linked (child.columns childColumns)
        (hop table pivot parent parentColumns pivotParentColumns pivotChildColumns)]

def linkedSupply (supply : Supply) (stem : String) : Link → Supply
  | .direct _ _ => supply
  | .pivot _ _ _ _ _ => (supply.next .pivot stem).2

theorem conditions_ok {site : Site} {context after : Context}
    {conditions : List Sql.Condition}
    (done : site.conditions context = .ok (conditions, after)) :
    ∃ link, Link.resolve site.parent.entity site.property site.child.entity = .ok link ∧
      conditions = linking site.parent.label site.child.label
        (context.supply.next .pivot site.child.label.stem).1 link ∧
      after = { context with
        supply := linkedSupply context.supply site.child.label.stem link } := by
  simp only [Site.conditions, Compile.bind_ok] at done
  obtain ⟨link, between, found, done⟩ := done
  unfold Site.link at found
  cases resolved : Link.resolve site.parent.entity site.property site.child.entity with
  | error error =>
      rw [resolved] at found
      exact (Compile.throw_ok.mp found).elim
  | ok resolvedLink =>
      rw [resolved] at found
      obtain ⟨rfl, rfl⟩ := Compile.pure_ok.mp found
      refine ⟨link, rfl, ?_⟩
      cases link with
      | direct parentColumns childColumns =>
          obtain ⟨rfl, rfl⟩ := Compile.pure_ok.mp done
          exact ⟨rfl, rfl⟩
      | pivot table parentColumns pivotParentColumns pivotChildColumns childColumns =>
          simp only [correlation, Compile.bind_ok, Compile.freshAlias_ok,
            Compile.pure_ok] at done
          obtain ⟨_, _, ⟨rfl, rfl⟩, rfl, rfl⟩ := done
          exact ⟨rfl, rfl⟩

theorem linkedSupply_grows (supply : Supply) (stem : String) (link : Link) :
    supply.Grows (linkedSupply supply stem link) := by
  cases link with
  | direct _ _ => exact Supply.Grows.refl supply
  | pivot _ _ _ _ _ => exact supply.next_grows .pivot stem

end Site

namespace Filter

theorem testSubjects_grows (label : Sql.Alias) (field : String) (test : Sql.Test Json)
    (subjects : List (List Sql.Column)) (drawn : Drawn) :
    drawn.1.Grows (testSubjects label field test subjects drawn).2.1 := by
  induction subjects generalizing drawn with
  | nil => exact Supply.Grows.refl _
  | cons subject rest ih =>
      obtain ⟨supply, bound⟩ := drawn
      rw [testSubjects_cons]
      exact (supply.skip_grows test.slots.length).trans (ih (_, _))

theorem Applied.grows {node : Node} {field : String} {columns : List String}
    {operator : Operator} {operand : Json} {context after : Context} {fragment : Fragment}
    (applied : Applied node field columns operator operand context fragment after) :
    context.supply.Grows after.supply := by
  obtain ⟨-, subjects, test, conditions, supply, bound, values, -, -, tested, rfl, -⟩ := applied
  have grows := testSubjects_grows node.label field test subjects (context.supply, [])
  rw [tested] at grows
  exact grows

theorem AppliedAll.grows {node : Node} {field : String} {columns : List String}
    {operators : List (String × Json)} {context after : Context} {fragments : List Fragment}
    (applied : AppliedAll node field columns operators context fragments after) :
    context.supply.Grows after.supply := by
  induction applied with
  | nil => exact Supply.Grows.refl _
  | cons named first later ih => exact first.grows.trans ih

theorem opened_grows (node : Node) (context : Context) :
    context.supply.Grows (opened node context).supply :=
  context.supply.next_grows .entity node.label.stem

theorem issued_childOf (node : Node) (entity : Entity) (context : Context) :
    (opened node context).supply.Issued (childOf node entity context).label :=
  context.supply.next_issued .entity node.label.stem

theorem Runs.grows {compiler : Compiler} {node : Node} {part : Part}
    {context after : Context} {fragments : List Fragment}
    (run : Runs compiler node part context fragments after) :
    context.supply.Grows after.supply := by
  induction run with
  | noMembers => exact Supply.Grows.refl _
  | members first later firstGrows laterGrows => exact firstGrows.trans laterGrows
  | noElements => exact Supply.Grows.refl _
  | elements first reduced compiled later firstGrows laterGrows => exact firstGrows.trans laterGrows
  | compared role plain applied => exact (applyOperator_ok applied).grows
  | operators role applied reduced => exact (applyOperators_ok applied).grows
  | suffixed role applied => exact (applyOperator_ok applied).grows
  | combinedList role elements combined grows => exact grows
  | combinedObject role elements combined grows => exact grows
  | related role found shallow members reduced correlated labelled perm distinct grows =>
      obtain ⟨link, -, -, rfl⟩ := Site.conditions_ok correlated
      obtain ⟨-, rfl⟩ := Compile.freshAlias_ok.mp labelled
      exact ((opened_grows _ _).trans grows).trans
        ((Site.linkedSupply_grows _ _ link).trans (Supply.next_grows _ .filter _))

end Filter

end TreeQuery
