import TreeQuery.Fragment.Lowering
import TreeQuery.Proofs.Scoping

/-!
# Selects of the rows of a scope

Most selects of a statement restrict the rows of one scope.  `Scope.Fitting` says
when joins and conditions can stand together in such a select, wherever it stands:
each of them refers to the scope or to what it declares itself, and no two of them
declare the same alias.
-/

namespace TreeQuery.Sql

/-! ## Declared aliases -/

mutual

/-- The aliases declared in a condition, apart from those that its lookups of keys renew. -/
def Condition.declared : Condition → List String
  | .text _ => []
  | .test _ _ => []
  | .equal _ _ => []
  | .linked _ hop => [hop.label.text]
  | .not operand => operand.declared
  | .all operands => Condition.declaredAll operands
  | .any operands => Condition.declaredAll operands
  | .keyIn _ queries => Select.addedAll queries

def Condition.declaredAll : List Condition → List String
  | [] => []
  | condition :: rest => condition.declared ++ Condition.declaredAll rest

def Join.declared : Join → List String
  | .text _ => []
  | .lateral _ query label => label.text :: query.declared

def Join.declaredAll : List Join → List String
  | [] => []
  | join :: rest => join.declared ++ Join.declaredAll rest

def Source.declared : Source → List String
  | .table _ label => [label.text]
  | .page query label => label.text :: query.declared

def Select.declared : Select → List String
  | ⟨_, source, joins, conditions, _, _, _⟩ =>
      source.declared ++ (Join.declaredAll joins ++ Condition.declaredAll conditions)

def Select.added : Select → List String
  | ⟨_, _, joins, conditions, _, _, _⟩ =>
      Join.declaredAll joins ++ Condition.declaredAll conditions

def Select.addedAll : List Select → List String
  | [] => []
  | query :: rest => query.added ++ Select.addedAll rest

end

theorem Condition.declaredAll_eq (list : List Condition) :
    Condition.declaredAll list = list.flatMap Condition.declared := by
  induction list with
  | nil => simp [Condition.declaredAll]
  | cons condition rest ih => simp [Condition.declaredAll, ih]

theorem Join.declaredAll_eq (list : List Join) :
    Join.declaredAll list = list.flatMap Join.declared := by
  induction list with
  | nil => simp [Join.declaredAll]
  | cons join rest ih => simp [Join.declaredAll, ih]

theorem Select.addedAll_eq (list : List Select) :
    Select.addedAll list = list.flatMap Select.added := by
  induction list with
  | nil => simp [Select.addedAll]
  | cons query rest ih => simp [Select.addedAll, ih]

theorem Select.added_eq (output : Output) (source : Source) (joins : List Join)
    (conditions : List Condition) (order : Option Order) (limit offset : Option Nat) :
    Select.added ⟨output, source, joins, conditions, order, limit, offset⟩ =
      (joins.map Join.declared ++ conditions.map Condition.declared).flatten := by
  rw [Select.added, Join.declaredAll_eq, Condition.declaredAll_eq, List.flatten_append,
    List.flatMap_def, List.flatMap_def]

theorem Select.declared_eq (query : Select) :
    query.declared = query.source.declared ++ query.added := by
  cases query
  rw [Select.declared, Select.added]

/-! ## Places -/

namespace Place

variable {place : Place}

def Clear (place : Place) (names : List String) : Prop :=
  ∀ name ∈ names, place.isNew name = true

/-- The rows of the scope can be referred to, and their alias stands for nothing else. -/
structure Hosts (place : Place) (scope : Scope) : Prop where
  visible : scope.label.text ∈ place.visible
  same : ∀ declared ∈ place.surrounding, declared.name = scope.label.text →
    declared.table = some scope.table

theorem isNew_iff {name : String} :
    place.isNew name = true ↔ ∀ declared ∈ place.surrounding, declared.name ≠ name := by
  simp [isNew]

theorem sees_iff {label : Alias} : place.sees label = true ↔ label.text ∈ place.visible := by
  simp [sees]

theorem seesAll_columns {label : Alias} (seen : label.text ∈ place.visible)
    (names : List String) : place.seesAll (label.columns names) = true := by
  simp [seesAll, Alias.columns, sees, seen]

theorem Clear.subset {names more : List String} (clear : place.Clear more)
    (fewer : names ⊆ more) : place.Clear names :=
  fun name member => clear name (fewer member)

theorem Clear.inside {names shown : List String} {declared : List Declaration}
    (clear : place.Clear names) (other : (declared.map Declaration.name).Disjoint names) :
    (place.inside declared shown).Clear names := by
  intro name member
  refine isNew_iff.mpr fun item listed => ?_
  rcases List.mem_append.mp listed with here | outside
  · rintro rfl
    exact other (List.mem_map_of_mem here) member
  · exact isNew_iff.mp (clear name member) item outside

end Place

/-! ## Selects of the rows of a scope -/

section Fits

variable (isKey : String → List String → Bool) (scope : Scope)

def Condition.Fits (needs : List String) (condition : Condition) : Prop :=
  ∀ place : Place, place.Hosts scope → needs ⊆ place.visible → place.Clear condition.declared →
    condition.isScoped isKey place = true

def Join.Fits : Join → Prop
  | .text _ => False
  | .lateral _ query label =>
      isPlainName label.text = true ∧ label.text ∉ query.declared ∧
        ∀ place : Place, place.Hosts scope → place.Clear query.declared →
          query.isScoped isKey place = true

end Fits

variable {isKey : String → List String → Bool} {scope : Scope}

theorem Condition.Fits.mono {needs more : List String} {condition : Condition}
    (fits : condition.Fits isKey scope needs) (fewer : needs ⊆ more) :
    condition.Fits isKey scope more :=
  fun place hosts seen clear => fits place hosts (List.Subset.trans fewer seen) clear

theorem Condition.areScoped_of_fits {needs : List String} {conditions : List Condition}
    {place : Place} (fits : ∀ condition ∈ conditions, condition.Fits isKey scope needs)
    (hosts : place.Hosts scope) (seen : needs ⊆ place.visible)
    (clear : place.Clear (conditions.flatMap Condition.declared)) :
    Condition.areScoped isKey place conditions = true := by
  rw [Condition.areScoped_eq, List.all_eq_true]
  intro condition listed
  refine fits condition listed place hosts seen (clear.subset fun name member => ?_)
  exact List.mem_flatMap.mpr ⟨condition, listed, member⟩

theorem Condition.fits_all {needs : List String} {operands : List Condition}
    (fits : ∀ operand ∈ operands, operand.Fits isKey scope needs) :
    (Condition.all operands).Fits isKey scope needs := by
  intro place hosts seen clear
  rw [Condition.declared, Condition.declaredAll_eq] at clear
  rw [Condition.isScoped]
  exact Condition.areScoped_of_fits fits hosts seen clear

theorem Condition.fits_any {needs : List String} {operands : List Condition}
    (fits : ∀ operand ∈ operands, operand.Fits isKey scope needs) :
    (Condition.any operands).Fits isKey scope needs := by
  intro place hosts seen clear
  rw [Condition.declared, Condition.declaredAll_eq] at clear
  rw [Condition.isScoped]
  exact Condition.areScoped_of_fits fits hosts seen clear

theorem Condition.Fits.not {needs : List String} {operand : Condition}
    (fits : operand.Fits isKey scope needs) : (Condition.not operand).Fits isKey scope needs := by
  intro place hosts seen clear
  rw [Condition.declared] at clear
  rw [Condition.isScoped]
  exact fits place hosts seen clear

def Join.names (joins : List Join) : List String := (Join.declarations joins).map Declaration.name

theorem Join.declarations_append (left right : List Join) :
    Join.declarations (left ++ right) = Join.declarations left ++ Join.declarations right := by
  induction left with
  | nil => rfl
  | cons join rest ih => cases join <;> simp [Join.declarations, ih]

theorem Join.names_subset (joins : List Join) : Join.names joins ⊆ joins.flatMap Join.declared := by
  induction joins with
  | nil => simp [Join.names, Join.declarations]
  | cons join rest ih =>
      intro name member
      cases join with
      | text sql => exact List.mem_append_right _ (ih member)
      | lateral kind query label =>
          rcases List.mem_cons.mp member with rfl | later
          · simp [Join.declared]
          · exact List.mem_append_right _ (ih later)

theorem Join.areScoped_of_fits {joins : List Join} {place : Place}
    (fits : ∀ join ∈ joins, join.Fits isKey scope) (hosts : place.Hosts scope)
    (clear : ∀ kind query label, Join.lateral kind query label ∈ joins →
      place.Clear query.declared) :
    Join.areScoped isKey place joins = true := by
  induction joins generalizing place with
  | nil => simp [Join.areScoped]
  | cons join rest ih =>
      cases join with
      | text sql => exact (fits _ List.mem_cons_self).elim
      | lateral kind query label =>
          obtain ⟨-, -, stands⟩ := fits _ List.mem_cons_self
          have first := stands place hosts (clear kind query label List.mem_cons_self)
          have later : Join.areScoped isKey
              { place with visible := label.text :: place.visible } rest = true := by
            refine ih (fun join listed => fits join (List.mem_cons_of_mem _ listed))
              ⟨List.mem_cons_of_mem _ hosts.visible, hosts.same⟩ ?_
            exact fun kind query label listed =>
              clear kind query label (List.mem_cons_of_mem _ listed)
          simp [Join.areScoped, first, later]

end TreeQuery.Sql

namespace TreeQuery.Scope

open Sql

abbrev Apart (lists : List (List String)) : Prop := lists.Pairwise List.Disjoint

section Apart

variable {left right : List (List String)}

theorem apart_append :
    Apart (left ++ right) ↔ Apart left ∧ Apart right ∧ left.flatten.Disjoint right.flatten := by
  simp only [Apart, List.pairwise_append, List.Disjoint, List.mem_flatten]
  constructor
  · rintro ⟨first, second, between⟩
    refine ⟨first, second, ?_⟩
    rintro name ⟨one, oneListed, held⟩ ⟨other, otherListed, also⟩
    exact between one oneListed other otherListed held also
  · rintro ⟨first, second, between⟩
    exact ⟨first, second, fun one oneListed other otherListed name held also =>
      between ⟨one, oneListed, held⟩ ⟨other, otherListed, also⟩⟩

theorem apart_of_silent (silent : ∀ names ∈ left, names = []) : Apart left := by
  refine List.pairwise_of_forall_mem_list fun names listed other _ => ?_
  rw [silent names listed]
  exact List.disjoint_nil_left other

structure Spread (scope : Scope) (lists : List (List String)) : Prop where
  apart : Apart lists
  own : scope.label.text ∉ lists.flatten

theorem spread_append {scope : Scope} :
    scope.Spread (left ++ right) ↔
      scope.Spread left ∧ scope.Spread right ∧ left.flatten.Disjoint right.flatten := by
  constructor
  · rintro ⟨apart, own⟩
    obtain ⟨first, second, between⟩ := apart_append.mp apart
    rw [List.flatten_append, List.mem_append] at own
    exact ⟨⟨first, fun member => own (.inl member)⟩, ⟨second, fun member => own (.inr member)⟩,
      between⟩
  · rintro ⟨first, second, between⟩
    refine ⟨apart_append.mpr ⟨first.apart, second.apart, between⟩, ?_⟩
    rw [List.flatten_append, List.mem_append]
    exact fun member => member.elim first.own second.own

theorem Apart.perm (apart : Apart left) (perm : left.Perm right) : Apart right :=
  (perm.pairwise_iff List.disjoint_comm.mp).mp apart

theorem Spread.perm {scope : Scope} (spread : scope.Spread left) (perm : left.Perm right) :
    scope.Spread right :=
  ⟨spread.apart.perm perm, fun member => spread.own (perm.flatten.symm.subset member)⟩

end Apart

/-- Joins and conditions that can stand together in a select of the rows of a scope. -/
structure Fitting (isKey : String → List String → Bool) (scope : Scope) (needs : List String)
    (joins : List Join) (conditions : List Condition) : Prop where
  joining : ∀ join ∈ joins, join.Fits isKey scope
  testing : ∀ condition ∈ conditions, condition.Fits isKey scope needs
  spread : scope.Spread (joins.map Join.declared ++ conditions.map Condition.declared)

variable {isKey : String → List String → Bool} {scope : Scope} {needs : List String}
  {joins : List Join} {conditions : List Condition}

theorem nodup_names (fits : ∀ join ∈ joins, join.Fits isKey scope)
    (apart : Apart (joins.map Join.declared)) : (Join.names joins).Nodup := by
  induction joins with
  | nil => simp [Join.names, Join.declarations]
  | cons join rest ih =>
      obtain ⟨here, later⟩ := List.forall_mem_cons.mp fits
      obtain ⟨first, others⟩ := List.pairwise_cons.mp apart
      cases join with
      | text sql => exact here.elim
      | lateral kind query label =>
          refine List.nodup_cons.mpr ⟨fun member => ?_, ih later others⟩
          obtain ⟨join, listed, declared⟩ := List.mem_flatMap.mp (Join.names_subset rest member)
          exact first _ (List.mem_map_of_mem listed) (by simp [Join.declared]) declared

theorem all_isPlainName (fits : ∀ join ∈ joins, join.Fits isKey scope) :
    (Join.names joins).all isPlainName = true := by
  induction joins with
  | nil => simp [Join.names, Join.declarations]
  | cons join rest ih =>
      obtain ⟨here, later⟩ := List.forall_mem_cons.mp fits
      cases join with
      | text sql => exact here.elim
      | lateral kind query label =>
          rw [Join.names, Join.declarations, List.map_cons, List.all_cons, here.1]
          exact ih later

theorem names_disjoint (fits : ∀ join ∈ joins, join.Fits isKey scope)
    (apart : Apart (joins.map Join.declared)) {kind : JoinKind} {query : Select} {label : Alias}
    (listed : Join.lateral kind query label ∈ joins) :
    (Join.names joins).Disjoint query.declared := by
  induction joins with
  | nil => cases listed
  | cons join rest ih =>
      obtain ⟨here, later⟩ := List.forall_mem_cons.mp fits
      obtain ⟨first, others⟩ := List.pairwise_cons.mp apart
      cases join with
      | text sql => exact here.elim
      | lateral otherKind other otherLabel =>
          refine List.disjoint_cons_left.mpr ?_
          rcases List.mem_cons.mp listed with same | listed
          · cases same
            refine ⟨here.2.1, fun name member declared => ?_⟩
            obtain ⟨join, within, held⟩ := List.mem_flatMap.mp (Join.names_subset rest member)
            exact first _ (List.mem_map_of_mem within) (List.mem_cons_of_mem _ declared) held
          · refine ⟨fun declared => ?_, ih later others listed⟩
            exact first _ (List.mem_map_of_mem listed) (by simp [Join.declared])
              (List.mem_cons_of_mem _ declared)

theorem hosts_inside {place : Place} {shown : List String} (visible : scope.label.text ∈ shown)
    (same : ∀ declared ∈ place.surrounding, declared.name = scope.label.text →
      declared.table = some scope.table)
    (own : scope.label.text ∉ Join.names joins) :
    (place.inside (scope.source.declaration :: Join.declarations joins) shown).Hosts scope := by
  refine ⟨List.mem_append_left _ visible, fun declared listed name => ?_⟩
  rcases List.mem_append.mp listed with here | outside
  · rcases List.mem_cons.mp here with rfl | join
    · rfl
    · exact (own (name ▸ List.mem_map_of_mem join)).elim
  · exact same declared outside name

namespace Fitting

variable {place : Place} (fitting : Fitting isKey scope needs joins conditions)

include fitting

theorem label_notin_names : scope.label.text ∉ Join.names joins := by
  intro member
  refine fitting.spread.own ?_
  rw [List.flatten_append, ← List.flatMap_def]
  exact List.mem_append_left _ (Join.names_subset joins member)

theorem areScoped_joins
    (same : ∀ declared ∈ place.surrounding, declared.name = scope.label.text →
      declared.table = some scope.table)
    (clear : place.Clear
      (joins.map Join.declared ++ conditions.map Condition.declared).flatten) :
    Join.areScoped isKey (place.inside (scope.source.declaration :: Join.declarations joins)
      [scope.label.text]) joins = true := by
  obtain ⟨apart, -, -⟩ := apart_append.mp fitting.spread.apart
  refine Join.areScoped_of_fits fitting.joining
    (hosts_inside (by simp) same fitting.label_notin_names) ?_
  intro kind query label listed
  have inner : query.declared ⊆
      (joins.map Join.declared ++ conditions.map Condition.declared).flatten := by
    intro name member
    rw [List.flatten_append, ← List.flatMap_def]
    exact List.mem_append_left _ (List.mem_flatMap.mpr
      ⟨_, listed, List.mem_cons_of_mem _ member⟩)
  refine (clear.subset inner).inside (List.disjoint_cons_left.mpr ⟨?_, ?_⟩)
  · exact fun member => fitting.spread.own (inner member)
  · exact names_disjoint fitting.joining apart listed

theorem areScoped_conditions (seen : needs ⊆ place.visible)
    (same : ∀ declared ∈ place.surrounding, declared.name = scope.label.text →
      declared.table = some scope.table)
    (clear : place.Clear
      (joins.map Join.declared ++ conditions.map Condition.declared).flatten) :
    Condition.areScoped isKey (place.inside (scope.source.declaration :: Join.declarations joins)
      (scope.label.text :: Join.names joins)) conditions = true := by
  obtain ⟨-, -, between⟩ := apart_append.mp fitting.spread.apart
  rw [← List.flatMap_def, ← List.flatMap_def] at between
  have inner : conditions.flatMap Condition.declared ⊆
      (joins.map Join.declared ++ conditions.map Condition.declared).flatten := by
    rw [List.flatten_append, ← List.flatMap_def, ← List.flatMap_def]
    exact List.subset_append_right _ _
  refine Condition.areScoped_of_fits fitting.testing
    (hosts_inside (by simp) same fitting.label_notin_names)
    (List.Subset.trans seen (List.subset_append_right _ _))
    ((clear.subset inner).inside (List.disjoint_cons_left.mpr ⟨?_, ?_⟩))
  · exact fun member => fitting.spread.own (inner member)
  · exact fun name member declared => between (Join.names_subset joins member) declared

end Fitting

/--
A select of the rows of a scope stands in a place where its alias is new, or is declared
again for a lookup of keys.
-/
theorem Fitting.isScoped {query : Select} {place : Place}
    (fitting : Fitting isKey scope needs query.joins query.conditions)
    (source : query.source = scope.source) (plain : isPlainName scope.label.text = true)
    (seen : needs ⊆ place.visible) (clear : place.Clear query.added)
    (same : ∀ declared ∈ place.surrounding, declared.name = scope.label.text →
      declared.table = some scope.table)
    (fresh : place.isNew scope.label.text = true ∨
      scope.source.renews isKey place query.output = true)
    (shown : ∀ inner : Place, scope.label.text :: Join.names query.joins ⊆ inner.visible →
      query.output.isScoped inner = true ∧ query.order.all (Order.isScoped inner) = true) :
    query.isScoped isKey place = true := by
  obtain ⟨output, _, joins, conditions, order, limit, offset⟩ := query
  dsimp only at fitting source fresh shown
  subst source
  rw [Select.added_eq] at clear
  have names : (scope.source.declaration :: Join.declarations joins).map Declaration.name =
      scope.label.text :: Join.names joins := rfl
  have sourceName : scope.source.declaration.name = scope.label.text := rfl
  have nodup : (scope.label.text :: Join.names joins).Nodup :=
    List.nodup_cons.mpr ⟨fitting.label_notin_names,
      nodup_names fitting.joining (apart_append.mp fitting.spread.apart).1⟩
  have joinsNew : ∀ item ∈ Join.declarations joins, place.isNew item.name = true := by
    intro item listed
    refine clear item.name ?_
    rw [List.flatten_append, ← List.flatMap_def]
    exact List.mem_append_left _ (Join.names_subset joins (List.mem_map_of_mem listed))
  have sourceScoped : ∀ inner, Source.isScoped isKey inner scope.source = true := by
    simp [Scope.source, Source.isScoped]
  obtain ⟨outputScoped, orderScoped⟩ := shown (place.inside
    (scope.source.declaration :: Join.declarations joins)
    (scope.label.text :: Join.names joins)) (List.subset_append_left _ _)
  simp only [Select.isScoped, names, sourceName, List.all_cons, plain,
    all_isPlainName fitting.joining, nodup, List.all_eq_true.mpr joinsNew,
    (Bool.or_eq_true _ _).mpr fresh, sourceScoped, fitting.areScoped_joins same clear,
    fitting.areScoped_conditions seen same clear, outputScoped, orderScoped, decide_true,
    Bool.and_self]

end TreeQuery.Scope
