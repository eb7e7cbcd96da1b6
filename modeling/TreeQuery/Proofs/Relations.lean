import TreeQuery.Proofs.Aliases
import TreeQuery.Proofs.StatementParameters

/-!
# Displayed relations

`Site.Brought` lists the three joins by which related rows are brought in: one
object, an array of all rows, and an array of a page of rows.
-/

namespace TreeQuery

namespace Site

open Sql (Supply)

def pageRows (site : Site) (body : Body) (correlation : List Sql.Condition) : Sql.Select :=
  { output := pageOutput body
    source := site.source
    joins := body.joins
    conditions := correlation ++ body.conditions
    order := body.order
    limit := body.limit
    offset := body.offset }

inductive Brought (stem : String) (site : Site) (body : Body)
    (correlation : List Sql.Condition) (supply : Supply) : Rendered → Supply → Prop
  | singular (limit : Option Nat) :
      Brought stem site body correlation supply
        (display
          { output := .object body.object "value"
            source := site.source
            joins := body.joins
            conditions := correlation ++ body.conditions
            order := body.order
            limit }
          (supply.next .subquery stem).1)
        (supply.next .subquery stem).2
  | collected :
      Brought stem site body correlation supply
        (display
          { output := .collected body.object
            source := site.source
            joins := body.joins
            conditions := correlation ++ body.conditions }
          (supply.next .subquery stem).1)
        (supply.next .subquery stem).2
  | paged :
      Brought stem site body correlation supply
        (display
          { output := .collectedPage (supply.next .page stem).1 body.order.isSome
            source := .page (pageRows site body correlation) (supply.next .page stem).1 }
          ((supply.next .page stem).2.next .subquery stem).1)
        ((supply.next .page stem).2.next .subquery stem).2

def Displayed (stem : String) (site : Site) (body : Body) (context : Context)
    (rendered : Rendered) (after : Context) : Prop :=
  ∃ link supply, Link.resolve site.parent.entity site.property site.child.entity = .ok link ∧
    Brought stem site body
      (linking site.parent.label site.child.label
        (context.supply.next .pivot site.child.label.stem).1 link)
      (linkedSupply context.supply site.child.label.stem link) rendered supply ∧
    after = { context with supply }

theorem singular_ok {settings : Settings} {site : Site} {body : Body} {limitOne : Bool}
    {context after : Context} {rendered : Rendered}
    (done : site.singular settings body limitOne context = .ok (rendered, after)) :
    Displayed settings.stem site body context rendered after := by
  simp only [singular, Compile.bind_ok, Compile.freshAlias_ok, Compile.pure_ok] at done
  obtain ⟨correlation, _, correlated, _, _, ⟨rfl, rfl⟩, rfl, rfl⟩ := done
  obtain ⟨link, resolved, rfl, rfl⟩ := conditions_ok correlated
  exact ⟨link, _, resolved, .singular _, rfl⟩

theorem plural_ok {settings : Settings} {site : Site} {body : Body}
    {context after : Context} {rendered : Rendered}
    (done : site.plural settings body context = .ok (rendered, after)) :
    Displayed settings.stem site body context rendered after := by
  cases paginated : body.isPaginated with
  | true =>
      simp only [plural, paginated, if_true, Compile.bind_ok, Compile.freshAlias_ok,
        Compile.pure_ok] at done
      obtain ⟨correlation, _, correlated, _, _, ⟨rfl, rfl⟩, _, _, ⟨rfl, rfl⟩, rfl, rfl⟩ := done
      obtain ⟨link, resolved, rfl, rfl⟩ := conditions_ok correlated
      exact ⟨link, _, resolved, .paged, rfl⟩
  | false =>
      simp only [plural, paginated, Bool.false_eq_true, if_false, Compile.bind_ok,
        Compile.freshAlias_ok, Compile.pure_ok] at done
      obtain ⟨correlation, _, correlated, _, _, ⟨rfl, rfl⟩, rfl, rfl⟩ := done
      obtain ⟨link, resolved, rfl, rfl⟩ := conditions_ok correlated
      exact ⟨link, _, resolved, .collected, rfl⟩

def isInverseSingle (site : Site) : Bool :=
  site.property.reference == .oneToOne && site.property.mappedBy.isSome

theorem render_cases {settings : Settings} {site : Site} {body : Body}
    {context after : Context} {rendered : Rendered}
    (done : site.render settings body context = .ok (rendered, after)) :
    (site.property.reference.isPlural = false ∧
        site.singular settings body site.isInverseSingle context = .ok (rendered, after)) ∨
      (site.property.reference.isPlural = true ∧
        site.plural settings body context = .ok (rendered, after)) := by
  unfold render at done
  cases reference : site.property.reference with
  | scalar =>
      rw [reference] at done
      exact (Compile.throw_ok.mp done).elim
  | oneToOne =>
      rw [reference] at done
      have inverse : site.isInverseSingle = site.property.mappedBy.isSome := by
        simp [isInverseSingle, reference]
      rw [inverse]
      exact .inl ⟨rfl, done⟩
  | oneToMany =>
      rw [reference] at done
      simp only [oneToMany] at done
      split at done
      · exact (Compile.throw_ok.mp done).elim
      · exact .inr ⟨rfl, done⟩
  | manyToOne =>
      rw [reference] at done
      simp only [manyToOne] at done
      split at done
      · exact (Compile.throw_ok.mp done).elim
      · have inverse : site.isInverseSingle = false := by simp [isInverseSingle, reference]
        rw [inverse]
        exact .inl ⟨rfl, done⟩
  | manyToMany =>
      rw [reference] at done
      exact .inr ⟨rfl, done⟩

theorem render_ok {settings : Settings} {site : Site} {body : Body}
    {context after : Context} {rendered : Rendered}
    (done : site.render settings body context = .ok (rendered, after)) :
    Displayed settings.stem site body context rendered after := by
  rcases render_cases done with ⟨-, done⟩ | ⟨-, done⟩
  · exact singular_ok done
  · exact plural_ok done

/-! ## Parameters -/

theorem linking_parameters (parent child pivot : Sql.Alias) (link : Link) :
    (linking parent child pivot link).flatMap Sql.Condition.parameters = [] := by
  refine List.flatMap_eq_nil_iff.mpr fun condition member => ?_
  cases link with
  | direct parentColumns childColumns =>
      obtain ⟨pair, -, rfl⟩ := List.mem_map.mp member
      simp [Sql.Condition.parameters]
  | pivot table parentColumns pivotParentColumns pivotChildColumns childColumns =>
      simp [List.mem_singleton.mp member, Sql.Condition.parameters]

/-- A displayed relation holds the parameters of its body, and no others. -/
theorem Displayed.parameters {stem : String} {site : Site} {body : Body} {context after : Context}
    {rendered : Rendered} (displayed : Displayed stem site body context rendered after) :
    rendered.join.parameters =
      body.joins.flatMap Sql.Join.parameters ++
        body.conditions.flatMap Sql.Condition.parameters := by
  obtain ⟨link, supply, -, brought, -⟩ := displayed
  cases brought <;>
    simp [display, pageRows, Site.source, Sql.Join.parameters, Sql.Select.parameters,
      Sql.Source.parameters, Sql.Join.parametersAll_eq, Sql.Condition.parametersAll_eq,
      linking_parameters]

end Site

end TreeQuery
