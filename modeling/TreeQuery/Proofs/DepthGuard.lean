import TreeQuery.Proofs.SelectionFailures

/-!
# The guard on nested relations

A request opens relations inside relations, in its selection and in its filters.  A
chain lists the keys along which it does so.  The compiler only counts how many relations
are open.  `Compile.Guards` says of a step how this count and the chains below the step
belong together: a step that succeeds has closed what it opened, and no chain leads beyond
the limit; a step that the limit stops was one relation too deep along a chain.
-/

namespace TreeQuery

/-! ## Steps under a limit -/

def CompileError.isTooDeep : CompileError → Bool
  | .tooDeep _ _ => true
  | _ => false

theorem CompileError.isTooDeep_of_naming {error : CompileError} (blamed : error.blame = .naming) :
    error.isTooDeep = false := by
  cases error with
  | tooDeep depth limit => cases blamed
  | _ => rfl

namespace Compile

/-- The step opens relations along the chains and minds the limit. -/
structure Guards {α : Type} (limit : Nat) (chain : List String → Prop) (step : Compile α) :
    Prop where
  balanced : ∀ {context value after}, step context = .ok (value, after) →
    after.depth = context.depth
  bounded : ∀ {context value after}, step context = .ok (value, after) →
    context.depth ≤ limit → ∀ path, chain path → context.depth + path.length ≤ limit
  stopped : ∀ {context depth bound}, step context = .error (.tooDeep depth bound) →
    context.depth ≤ limit →
      bound = limit ∧ depth = limit + 1 ∧ ∃ path, chain path ∧ context.depth + path.length = depth

abbrev Level {α : Type} (limit : Nat) (step : Compile α) : Prop := Guards limit (fun _ => False) step

variable {α β γ : Type} {limit : Nat} {chain other : List String → Prop}

theorem Guards.congr {step : Compile α} (guards : Guards limit chain step)
    (same : ∀ path, path ≠ [] → (chain path ↔ other path)) : Guards limit other step where
  balanced := guards.balanced
  bounded {context value after} done shallow path listed := by
    -- the empty chain asks for no more than the relations that are open already
    by_cases empty : path = []
    · subst empty
      exact shallow
    · exact guards.bounded done shallow path ((same path empty).mpr listed)
  stopped {context depth bound} failed shallow := by
    obtain ⟨here, reported, path, listed, length⟩ := guards.stopped failed shallow
    have nonempty : path ≠ [] := by
      rintro rfl
      simp only [List.length_nil] at length
      omega
    exact ⟨here, reported, path, (same path nonempty).mp listed, length⟩

theorem Level.guards {step : Compile α} (level : Level limit step)
    (empty : ∀ path, chain path → path = []) : Guards limit chain step :=
  Guards.congr level fun path nonempty => ⟨False.elim, fun listed => nonempty (empty path listed)⟩

theorem Guards.bind {first : Compile α} {next : α → Compile β} (here : Guards limit chain first)
    (later : ∀ value, Guards limit other (next value)) :
    Guards limit (fun path => chain path ∨ other path) (first >>= next) where
  balanced done := by
    obtain ⟨value, between, ran, rest⟩ := bind_ok.mp done
    exact ((later value).balanced rest).trans (here.balanced ran)
  bounded {context result after} done shallow path listed := by
    obtain ⟨value, between, ran, rest⟩ := bind_ok.mp done
    have level := here.balanced ran
    rcases listed with first | second
    · exact here.bounded ran shallow path first
    · rw [← level] at shallow ⊢
      exact (later value).bounded rest shallow path second
  stopped {context depth bound} failed shallow := by
    rcases bind_error.mp failed with failed | ⟨value, between, ran, failed⟩
    · obtain ⟨limited, reported, path, listed, length⟩ := here.stopped failed shallow
      exact ⟨limited, reported, path, .inl listed, length⟩
    · have level := here.balanced ran
      rw [← level] at shallow ⊢
      obtain ⟨limited, reported, path, listed, length⟩ := (later value).stopped failed shallow
      exact ⟨limited, reported, path, .inr listed, length⟩

theorem Guards.then_level {first : Compile α} {next : α → Compile β}
    (here : Guards limit chain first) (later : ∀ value, Level limit (next value)) :
    Guards limit chain (first >>= next) :=
  (here.bind later).congr fun _ _ => or_iff_left id

theorem Level.then_guards {first : Compile α} {next : α → Compile β} (here : Level limit first)
    (later : ∀ value, Guards limit chain (next value)) : Guards limit chain (first >>= next) :=
  (Guards.bind here later).congr fun _ _ => or_iff_right id

theorem guards_throw {error : CompileError} (other : error.isTooDeep = false) :
    Guards limit chain (throw error : Compile α) where
  balanced done := (throw_ok.mp done).elim
  bounded done := (throw_ok.mp done).elim
  stopped failed := by
    rw [throw_error.mp failed] at other
    cases other

theorem level_pure (value : α) : Level limit (pure value : Compile α) where
  balanced done := by rw [(pure_ok.mp done).2]
  bounded _ _ _ listed := listed.elim
  stopped failed := (pure_error.mp failed).elim

theorem level_ofExcept {outcome : Except CompileError α}
    (others : ∀ error, outcome = .error error → error.isTooDeep = false) :
    Level limit (ofExcept outcome) := by
  cases outcome with
  | ok value => exact level_pure value
  | error error => exact guards_throw (others error rfl)

theorem level_fromSupply (draw : Sql.Supply → α × Sql.Supply) : Level limit (fromSupply draw) where
  balanced done := by rw [(fromSupply_ok.mp done).2]
  bounded _ _ _ listed := listed.elim
  stopped failed := (fromSupply_error.mp failed).elim

theorem level_checked (outcome : Fragment × Option String) :
    Level limit (ofExcept (Fragment.checked outcome)) :=
  level_ofExcept fun _ failed => CompileError.isTooDeep_of_naming (Fragment.blame_of_checked failed)

theorem level_reduce (fragments : List Fragment) : Level limit (reduce fragments) :=
  level_ofExcept fun _ failed => CompileError.isTooDeep_of_naming (Fragment.blame_of_reduce failed)

theorem Guards.enclosed {opening : Compile α} {body : α → Compile β} {rest : α → β → Compile γ}
    (key : String) (closed : chain []) (level : Level limit opening)
    (inner : ∀ value, Guards limit chain (body value))
    (later : ∀ value result, Level limit (rest value result)) :
    Guards limit (fun path => ∃ below, chain below ∧ path = key :: below)
      (enter limit >>= fun _ => opening >>= fun value => body value >>= fun result =>
        leave >>= fun _ => rest value result) := by
  constructor
  · intro context value after done
    obtain ⟨⟨⟩, entered, enters, done⟩ := bind_ok.mp done
    obtain ⟨opened, between, opens, done⟩ := bind_ok.mp done
    obtain ⟨result, finished, runs, done⟩ := bind_ok.mp done
    obtain ⟨⟨⟩, left, leaves, done⟩ := bind_ok.mp done
    rw [(later opened result).balanced done, leave_ok.mp leaves, Context.leave]
    rw [(inner opened).balanced runs, level.balanced opens, (enter_ok.mp enters).2]
    rfl
  · rintro context value after done shallow path ⟨below, listed, rfl⟩
    obtain ⟨⟨⟩, entered, enters, done⟩ := bind_ok.mp done
    obtain ⟨opened, between, opens, done⟩ := bind_ok.mp done
    obtain ⟨result, finished, runs, done⟩ := bind_ok.mp done
    obtain ⟨room, rfl⟩ := enter_ok.mp enters
    have deeper := level.balanced opens
    have fits := (inner opened).bounded runs (by rw [deeper]; exact room) below listed
    rw [deeper] at fits
    simp only [List.length_cons] at fits ⊢
    omega
  · intro context depth bound failed shallow
    rcases bind_error.mp failed with refused | ⟨⟨⟩, entered, enters, failed⟩
    -- refused at the door: all that may be open is open, and the key is the one too many
    · obtain ⟨full, reported⟩ := enter_error.mp refused
      injection reported with depth_eq bound_eq
      exact ⟨bound_eq, by omega, [key], ⟨[], closed, rfl⟩, depth_eq.symm⟩
    · obtain ⟨room, rfl⟩ := enter_ok.mp enters
      rcases bind_error.mp failed with refused | ⟨opened, between, opens, failed⟩
      · obtain ⟨-, -, path, listed, -⟩ := level.stopped refused room
        exact listed.elim
      have deeper : between.depth = context.depth + 1 := level.balanced opens
      rcases bind_error.mp failed with refused | ⟨result, finished, runs, failed⟩
      · obtain ⟨limited, reported, path, listed, length⟩ :=
          (inner opened).stopped refused (by omega)
        refine ⟨limited, reported, key :: path, ⟨path, listed, rfl⟩, ?_⟩
        simp only [List.length_cons]
        omega
      have unchanged := (inner opened).balanced runs
      rcases bind_error.mp failed with refused | ⟨⟨⟩, left, leaves, failed⟩
      · exact (leave_error.mp refused).elim
      have back : left.depth = context.depth := by
        rw [leave_ok.mp leaves, Context.leave, unchanged, deeper]
        rfl
      obtain ⟨-, -, path, listed, -⟩ := (later opened result).stopped failed (by omega)
      exact listed.elim

end Compile

/-! ## Steps that open no relation -/

namespace Filter

open TreeQuery.Compile (Level)

variable {limit : Nat} {node : Node}

theorem level_applyOperator (field : String) (columns : List String) (operator : Operator)
    (operand : Json) : Level limit (applyOperator node field columns operator operand) := by
  unfold applyOperator
  cases columns with
  | nil => exact Compile.guards_throw rfl
  | cons column columns =>
      refine Level.then_guards (Compile.level_ofExcept ?_) fun _ => ?_
      · intro error failed
        obtain ⟨found, rfl⟩ := subjects_error failed
        rfl
      refine Level.then_guards (Compile.level_ofExcept ?_) fun _ => ?_
      · intro error failed
        obtain ⟨fault, rfl⟩ := readOperand_error failed
        rfl
      exact Level.then_guards (Compile.level_fromSupply _) fun _ => Compile.level_checked _

theorem level_applyOperators (field : String) (columns : List String)
    (operators : List (String × Json)) :
    Level limit (applyOperators node field columns operators) := by
  induction operators with
  | nil => exact Compile.level_pure []
  | cons entry rest ih =>
      obtain ⟨name, operand⟩ := entry
      unfold applyOperators
      cases Operator.ofName? name with
      | none => exact Compile.guards_throw rfl
      | some operator =>
          exact (level_applyOperator field columns operator operand).then_guards fun _ =>
            ih.then_guards fun _ => Compile.level_pure _

theorem level_leafFilter (key : String) (role : FilterRole) (value : Json) :
    Level limit (leafFilter node key role value) := by
  cases role with
  | combinator _ | relation _ | suffixedRelation _ | unknown => exact Compile.guards_throw rfl
  | suffixed stem columns operator => exact level_applyOperator stem columns operator value
  | field columns =>
      cases value with
      | object operators =>
          exact (level_applyOperators key columns operators).then_guards fun fragments =>
            Compile.level_reduce fragments
      | _ => exact level_applyOperator key columns .eq _

theorem level_combine (combinator : Combinator) (siblings : List Fragment) :
    Level limit (combine combinator siblings) := by
  unfold combine
  split
  · exact Compile.level_pure _
  · refine Level.then_guards (Compile.level_checked _) fun group => ?_
    cases combinator <;> exact Compile.level_pure _

end Filter

namespace Site

open TreeQuery.Compile (Level)

variable {limit : Nat} (site : Site)

theorem level_conditions : Level limit site.conditions := by
  unfold conditions link
  refine Level.then_guards ?_ fun link => ?_
  · cases Link.resolve site.parent.entity site.property site.child.entity with
    | error error => exact Compile.guards_throw rfl
    | ok link => exact Compile.level_pure link
  · cases link with
    | direct parentColumns childColumns => exact Compile.level_pure _
    | pivot table parentColumns pivotParentColumns pivotChildColumns childColumns =>
        exact Level.then_guards (Compile.level_fromSupply _) fun _ => Compile.level_pure _

theorem level_singular (settings : Settings) (body : Body) (limitOne : Bool) :
    Level limit (site.singular settings body limitOne) :=
  Level.then_guards site.level_conditions fun _ =>
    Level.then_guards (Compile.level_fromSupply _) fun _ => Compile.level_pure _

theorem level_plural (settings : Settings) (body : Body) :
    Level limit (site.plural settings body) := by
  refine Level.then_guards site.level_conditions fun _ => ?_
  split
  · exact Level.then_guards (Compile.level_fromSupply _) fun _ =>
      Level.then_guards (Compile.level_fromSupply _) fun _ => Compile.level_pure _
  · exact Level.then_guards (Compile.level_fromSupply _) fun _ => Compile.level_pure _

theorem level_render (settings : Settings) (body : Body) :
    Level limit (site.render settings body) := by
  unfold render
  cases site.property.reference with
  | scalar => exact Compile.guards_throw rfl
  | oneToOne => exact site.level_singular settings body _
  | oneToMany =>
      simp only [oneToMany]
      split
      · exact Compile.guards_throw rfl
      · exact site.level_plural settings body
  | manyToOne =>
      simp only [manyToOne]
      split
      · exact Compile.guards_throw rfl
      · exact site.level_singular settings body false
  | manyToMany => exact site.level_plural settings body

end Site

/-! ## Relations -/

namespace Compile

theorem entity_eq_throw {compiler : Compiler} {name : String} {error : CatalogError}
    (missing : compiler.provider.entity name = .error error) :
    Compile.entity compiler name = throw (.catalog error) := by
  simp only [Compile.entity, missing]

theorem entity_eq_pure {compiler : Compiler} {name : String} {entity : Entity}
    (found : compiler.provider.entity name = .ok entity) :
    Compile.entity compiler name = pure entity := by
  simp only [Compile.entity, found]

/--
A relation that filters or shows rows is one step of a chain, which goes on at the entity
that it refers to.
-/
theorem guards_related {compiler : Compiler} {name stem : String} (key : String)
    (chain : Entity → List String → Prop) {inner : Node → Compile Fragment}
    {rest : Entity → Sql.Alias → Fragment → Compile Fragment}
    (closed : ∀ entity, chain entity [])
    (guards : ∀ child, Guards compiler.settings.maxDepth (chain child.entity) (inner child))
    (later : ∀ child label result, Level compiler.settings.maxDepth (rest child label result)) :
    Guards compiler.settings.maxDepth
      (fun path => ∃ child, compiler.provider.entity name = .ok child ∧
        ∃ below, chain child below ∧ path = key :: below)
      (Compile.entity compiler name >>= fun entity =>
        enter compiler.settings.maxDepth >>= fun _ =>
          freshAlias .entity stem >>= fun label =>
            inner ⟨entity, label⟩ >>= fun result => leave >>= fun _ => rest entity label result) := by
  cases found : compiler.provider.entity name with
  | error error =>
      rw [entity_eq_throw found]
      exact guards_throw rfl
  | ok child =>
      rw [entity_eq_pure found]
      refine Guards.congr (Guards.enclosed key (closed child) (level_fromSupply _)
        (fun label => guards ⟨child, label⟩) (later child)) ?_
      simp

end Compile

end TreeQuery
