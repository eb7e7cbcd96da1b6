import TreeQuery.Compile.Context

/-!
Relations between the rows of two nodes.

The condition that ties a child row to its parent row is the same for displaying and for filtering.
A displayed relation becomes a lateral join whose value is an object or null for a singular
reference, and an array for a plural one.  Ordering and slicing of a plural reference take place in
a page, a subquery of its own, before the rows are collected.
-/

namespace TreeQuery

/-- A property of the parent under which rows of the child belong to a row of the parent. -/
structure Site where
  parent : Node
  property : Property
  child : Node

/-- The rows of the child: what they show, and what restricts, orders and slices them. -/
structure Body where
  object : Sql.ObjectExpr
  joins : List Sql.Join := []
  conditions : List Sql.Condition := []
  order : Option Sql.Order := none
  limit : Option Nat := none
  offset : Option Nat := none

def Body.isPaginated (body : Body) : Bool :=
  body.order.isSome || body.limit.isSome || body.offset.isSome

structure Rendered where
  join : Sql.Join
  label : Sql.Alias

def Rendered.value (rendered : Rendered) : Sql.Value := .nested rendered.label

namespace Site

def fail {α : Type} (site : Site) (fault : RelationFault) : Compile α :=
  throw (.relation site.parent.entity.name site.property.name site.property.reference fault)

def source (site : Site) : Sql.Source := .table site.child.entity.table site.child.label

def link (site : Site) : Compile Link :=
  match Link.resolve site.parent.entity site.property site.child.entity with
  | .ok link => pure link
  | .error error => site.fail (.unlinked error)

def hop (table : String) (pivot parent : Sql.Alias)
    (parentColumns pivotParentColumns pivotChildColumns : List String) : Sql.Hop :=
  { table
    label := pivot
    keys := pivot.columns pivotChildColumns
    pairs := (pivot.columns pivotParentColumns).zip (parent.columns parentColumns) }

def correlation (link : Link) (parent child : Sql.Alias) : Compile (List Sql.Condition) :=
  match link with
  | .direct parentColumns childColumns =>
      pure
        (((child.columns childColumns).zip (parent.columns parentColumns)).map fun pair =>
          .equal pair.1 pair.2)
  | .pivot table parentColumns pivotParentColumns pivotChildColumns childColumns => do
      let pivot ← Compile.freshAlias .pivot child.stem
      pure
        [.linked (child.columns childColumns)
          (hop table pivot parent parentColumns pivotParentColumns pivotChildColumns)]

def conditions (site : Site) : Compile (List Sql.Condition) := do
  let link ← site.link
  correlation link site.parent.label site.child.label

/-! ## Display -/

def display (query : Sql.Select) (label : Sql.Alias) : Rendered :=
  ⟨.lateral .leftOuter query label, label⟩

/-- One object, or null; of several child rows only the first counts if `limitOne`. -/
def singular (settings : Settings) (site : Site) (body : Body) (limitOne : Bool) :
    Compile Rendered := do
  let conditions ← site.conditions
  let label ← Compile.freshAlias .subquery settings.stem
  pure
    (display
      { output := .object body.object "value"
        source := site.source
        joins := body.joins
        conditions := conditions ++ body.conditions
        order := body.order
        limit := if limitOne then some 1 else none }
      label)

/-- The output of a page; an ordered page numbers its rows. -/
def pageOutput (body : Body) : Sql.Output :=
  match body.order with
  | some order => .numbered body.object order
  | none => .object body.object "value"

def plural (settings : Settings) (site : Site) (body : Body) : Compile Rendered := do
  let conditions ← site.conditions
  if body.isPaginated then
    let page ← Compile.freshAlias .page settings.stem
    let label ← Compile.freshAlias .subquery settings.stem
    let rows : Sql.Select :=
      { output := pageOutput body
        source := site.source
        joins := body.joins
        conditions := conditions ++ body.conditions
        order := body.order
        limit := body.limit
        offset := body.offset }
    pure
      (display
        { output := .collectedPage page body.order.isSome, source := .page rows page } label)
  else
    let label ← Compile.freshAlias .subquery settings.stem
    pure
      (display
        { output := .collected body.object
          source := site.source
          joins := body.joins
          conditions := conditions ++ body.conditions }
        label)

/-- The side without the columns may be referred to by several rows, of which one is shown. -/
def oneToOne (settings : Settings) (site : Site) (body : Body) : Compile Rendered :=
  site.singular settings body site.property.mappedBy.isSome

def manyToOne (settings : Settings) (site : Site) (body : Body) : Compile Rendered :=
  if site.property.mappedBy.isSome then site.fail .alwaysOwning
  else site.singular settings body false

def oneToMany (settings : Settings) (site : Site) (body : Body) : Compile Rendered :=
  if site.property.mappedBy.isNone then site.fail .needsMappedBy else site.plural settings body

def manyToMany (settings : Settings) (site : Site) (body : Body) : Compile Rendered :=
  site.plural settings body

def render (settings : Settings) (site : Site) (body : Body) : Compile Rendered :=
  match site.property.reference with
  | .scalar => site.fail .notRelation
  | .oneToOne => site.oneToOne settings body
  | .oneToMany => site.oneToMany settings body
  | .manyToOne => site.manyToOne settings body
  | .manyToMany => site.manyToMany settings body

end Site

end TreeQuery
