import TreeQuery.Proofs.Aliases
import TreeQuery.Proofs.MirroredLinks
import TreeQuery.Proofs.Registry

/-!
# Columns that are compared in pairs

The columns of a link come from the join columns of a property, from the columns it names
on the other side, or from a primary key.  Comparing two lists of them pair by pair leaves
out what one list has more than the other, and two empty lists compare nothing at all.
No link that was resolved has such lists, whatever the entities look like.
-/

namespace TreeQuery

namespace Link

/-- The lists have as many columns as each other, and at least one. -/
def Paired (left right : List String) : Prop := left.length = right.length ∧ 0 < left.length

theorem Paired.symm {left right : List String} (paired : Paired left right) : Paired right left :=
  ⟨paired.1.symm, paired.1 ▸ paired.2⟩

def IsPaired : Link → Prop
  | .direct parentColumns childColumns => Paired parentColumns childColumns
  | .pivot _ parentColumns pivotParentColumns pivotChildColumns childColumns =>
      Paired parentColumns pivotParentColumns ∧ Paired pivotChildColumns childColumns

variable {parent child owner target : Entity} {property : Property} {link : Link}

/-! ## Resolving checks the counts -/

theorem paired_of_checkCount {entity name : String} {side : ColumnSide}
    {left right : List String}
    (checked : checkCount entity name side right.length left.length = .ok ()) :
    Paired left right := by
  unfold checkCount at checked
  split at checked
  · cases checked
  · rename_i accepted
    simp only [not_or, ne_eq, Decidable.not_not] at accepted
    exact ⟨accepted.2, Nat.pos_of_ne_zero accepted.1⟩

theorem paired_of_owningColumns {columns : List String × List String}
    (found : owningColumns owner property target = .ok columns) :
    Paired columns.1 columns.2 := by
  unfold owningColumns at found
  split at found
  · cases found
  · obtain ⟨checked, result⟩ := Except.seq_ok.mp found
    cases result
    exact paired_of_checkCount checked

theorem paired_of_pivotColumns {columns : String × List String × List String}
    (found : pivotColumns owner property target = .ok columns) :
    Paired columns.2.1 owner.primaryKeys ∧ Paired columns.2.2 target.primaryKeys := by
  unfold pivotColumns at found
  split at found
  · cases found
  · simp only [Except.seq_ok] at found
    obtain ⟨join, inverse, result⟩ := found
    cases result
    exact ⟨paired_of_checkCount join, paired_of_checkCount inverse⟩

theorem isPaired_of_owning (found : owning parent property child = .ok link) : link.IsPaired := by
  obtain ⟨columns, given, result⟩ := Except.bind_ok.mp found
  cases result
  exact paired_of_owningColumns given

theorem isPaired_of_inverse (found : inverse parent property child = .ok link) :
    link.IsPaired := by
  unfold inverse at found
  split at found
  · cases found
  · obtain ⟨owner, -, found⟩ := Except.bind_ok.mp found
    split at found
    · cases found
    · obtain ⟨columns, given, result⟩ := Except.bind_ok.mp found
      cases result
      -- the child holds the join columns, so the two lists change places
      exact (paired_of_owningColumns given).symm

theorem isPaired_of_throughPivot (found : throughPivot parent property child = .ok link) :
    link.IsPaired := by
  unfold throughPivot at found
  split at found
  · obtain ⟨columns, given, result⟩ := Except.bind_ok.mp found
    cases result
    obtain ⟨join, inverse⟩ := paired_of_pivotColumns given
    exact ⟨join.symm, inverse⟩
  · obtain ⟨owner, -, found⟩ := Except.bind_ok.mp found
    split at found
    · cases found
    · obtain ⟨columns, given, result⟩ := Except.bind_ok.mp found
      cases result
      obtain ⟨join, inverse⟩ := paired_of_pivotColumns given
      exact ⟨inverse.symm, join⟩

theorem isPaired_of_resolve (resolved : resolve parent property child = .ok link) :
    link.IsPaired := by
  unfold resolve at resolved
  split at resolved
  · cases resolved
  · exact isPaired_of_owning resolved
  · split at resolved
    · exact isPaired_of_owning resolved
    · exact isPaired_of_inverse resolved
  · exact isPaired_of_inverse resolved
  · exact isPaired_of_throughPivot resolved

/-! ## Nothing is left out -/

open Sql (Alias Column Condition Hop)

/--
The conditions compare the columns of a link under the aliases of its two sides.  The pairs
are listed with both sides in full, so no column is without its partner; through a pivot
table, the row that is looked up is as wide as the rows that are selected.
-/
inductive ComparedBy (parent child : Alias) : Link → List Condition → Prop
  | direct {parentColumns childColumns : List String} {pairs : List (Column × Column)}
      (children : pairs.map Prod.fst = child.columns childColumns)
      (parents : pairs.map Prod.snd = parent.columns parentColumns) :
      ComparedBy parent child (.direct parentColumns childColumns)
        (pairs.map fun pair => .equal pair.1 pair.2)
  | pivot {parentColumns pivotParentColumns pivotChildColumns childColumns : List String}
      (hop : Hop)
      (keys : hop.keys = hop.label.columns pivotChildColumns)
      (wide : (child.columns childColumns).length = hop.keys.length)
      (pivots : hop.pairs.map Prod.fst = hop.label.columns pivotParentColumns)
      (parents : hop.pairs.map Prod.snd = parent.columns parentColumns)
      (restricted : hop.pairs ≠ []) :
      ComparedBy parent child
        (.pivot hop.table parentColumns pivotParentColumns pivotChildColumns childColumns)
        [.linked (child.columns childColumns) hop]

theorem map_zip_columns (first second : Alias) {left right : List String}
    (same : left.length = right.length) :
    ((first.columns left).zip (second.columns right)).map Prod.fst = first.columns left ∧
      ((first.columns left).zip (second.columns right)).map Prod.snd = second.columns right :=
  ⟨List.map_fst_zip (by simp [Alias.columns, same]),
    List.map_snd_zip (by simp [Alias.columns, same])⟩

theorem zip_columns_ne_nil (first second : Alias) {left right : List String}
    (paired : Paired left right) :
    (first.columns left).zip (second.columns right) ≠ [] := by
  obtain ⟨same, some⟩ := paired
  rw [← List.length_pos_iff, List.length_zip]
  simpa [Alias.columns, ← same] using some

theorem IsPaired.compared (paired : link.IsPaired) (parent child pivot : Alias) :
    ComparedBy parent child link (Site.linking parent child pivot link) ∧
      Site.linking parent child pivot link ≠ [] := by
  cases link with
  | direct parentColumns childColumns =>
      obtain ⟨children, parents⟩ := map_zip_columns child parent paired.symm.1
      refine ⟨.direct children parents, ?_⟩
      simpa [Site.linking] using zip_columns_ne_nil child parent paired.symm
  | pivot table parentColumns pivotParentColumns pivotChildColumns childColumns =>
      obtain ⟨outer, inner⟩ := paired
      obtain ⟨pivots, parents⟩ := map_zip_columns pivot parent outer.symm.1
      refine ⟨.pivot
        (Site.hop table pivot parent parentColumns pivotParentColumns pivotChildColumns)
        rfl ?_ pivots parents (zip_columns_ne_nil pivot parent outer.symm), ?_⟩
      · simp [Site.hop, Alias.columns, inner.1]
      · simp [Site.linking]

theorem correlation_eq (link : Link) (parent child : Alias) (context : Context) :
    Site.correlation link parent child context =
      .ok (Site.linking parent child (context.supply.next .pivot child.stem).1 link,
        { context with supply := Site.linkedSupply context.supply child.stem link }) := by
  cases link <;> rfl

theorem whereClause_ne_empty {conditions : List Condition} (some : conditions ≠ []) :
    Sql.whereClause (Condition.renderAll conditions) ≠ "" := by
  cases conditions with
  | nil => exact (some rfl).elim
  | cons condition rest =>
      have start : ("WHERE " : String) ≠ "" := by decide
      simp [Condition.renderAll, Sql.whereClause, start]

/--
A link that resolves has paired lists of columns.  So the conditions that tie a child row to
its parent row compare every column with its partner, and there is always one to be met.
-/
theorem resolved_columns_paired (resolved : resolve parent property child = .ok link)
    (upper lower : Alias) (context : Context) :
    link.IsPaired ∧ ∃ conditions after,
      Site.correlation link upper lower context = .ok (conditions, after) ∧
      ComparedBy upper lower link conditions ∧
      Sql.whereClause (Condition.renderAll conditions) ≠ "" := by
  have paired := isPaired_of_resolve resolved
  obtain ⟨compared, some⟩ := paired.compared upper lower (context.supply.next .pivot lower.stem).1
  exact ⟨paired, _, _, correlation_eq link upper lower context, compared,
    whereClause_ne_empty some⟩

end Link

/-- Hosts have two key columns, so the pivot table has two for each side. -/
theorem Sample.resolved_columns_paired_alliance :
    ∃ alliedBy link, host.property? "alliedBy" = some alliedBy ∧
      Link.resolve host alliedBy host = .ok link ∧ link.IsPaired ∧
      ∃ conditions after,
        Site.correlation link ⟨.entity, "t", 1⟩ ⟨.entity, "t", 2⟩ {} = .ok (conditions, after) ∧
        link.ComparedBy ⟨.entity, "t", 1⟩ ⟨.entity, "t", 2⟩ conditions ∧
        Sql.whereClause (Sql.Condition.renderAll conditions) ≠ "" := by
  have resolved : Link.resolve host
      ((Property.ofReference "alliedBy" "Host" .manyToMany).withMappedBy "allies") host =
      .ok (.pivot "alliance" ["realm", "number"] ["ally_realm", "ally_number"]
        ["realm", "number"] ["realm", "number"]) := rfl
  exact ⟨_, _, rfl, resolved,
    Link.resolved_columns_paired resolved ⟨.entity, "t", 1⟩ ⟨.entity, "t", 2⟩ {}⟩

end TreeQuery
