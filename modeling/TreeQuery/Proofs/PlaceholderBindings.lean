import TreeQuery.Proofs.PlainStatements
import TreeQuery.Proofs.Sample
import TreeQuery.Proofs.VanishingAlternatives

/-!
# Placeholders and bindings of a statement

The placeholders that are read back from the text of a statement are the parameters
of its tree, so every one of them is bound.  The numbering of placeholders fails only
for a query that wastes a literal, and then with a name that is bound in vain.
-/

namespace TreeQuery

namespace Positional

def placeholders (sql : String) : List String :=
  (Lexeme.scan sql.toList).filterMap Lexeme.name?

variable {sql : String} {bindings : Bindings}

theorem mem_distinct {names : List String} {name : String} :
    name ∈ distinct names ↔ name ∈ names := by
  simp [distinct]

theorem nodup_distinct : ∀ names : List String, (distinct names).Nodup
  | [] => List.nodup_nil
  | first :: rest => by
      rw [distinct, List.eraseDups_cons, List.nodup_cons]
      exact ⟨by simp, nodup_distinct (rest.filter fun other => !other == first)⟩
termination_by names => names.length
decreasing_by exact Nat.lt_succ_of_le (List.length_filter_le _ rest)

theorem ofNamed_of_bound (bound : ∀ name ∈ placeholders sql, name ∈ bindings.names) :
    (∃ name ∈ bindings.names, name ∉ placeholders sql ∧
        ofNamed sql bindings = .error (.unused name)) ∨
      ((∀ name ∈ bindings.names, name ∈ placeholders sql) ∧
        ∃ positional, ofNamed sql bindings = .ok positional ∧
          positional.values = (distinct (placeholders sql)).filterMap bindings.get?) := by
  have backed : (distinct (placeholders sql)).find? (fun name => !bindings.has name) = none := by
    refine List.find?_eq_none.mpr fun name member => ?_
    simpa using Bindings.has_iff.mpr (bound name (mem_distinct.mp member))
  unfold placeholders at backed
  simp only [ofNamed, backed]
  cases unused : bindings.names.find? fun name =>
      !(distinct ((Lexeme.scan sql.toList).filterMap Lexeme.name?)).contains name with
  | some name =>
      refine .inl ⟨name, List.mem_of_find?_eq_some unused, fun listed => ?_, rfl⟩
      have absent := List.find?_some unused
      have present := mem_distinct.mpr listed
      unfold placeholders at present
      simp [present] at absent
  | none =>
      refine .inr ⟨fun name member => ?_, _, rfl, rfl⟩
      have present := List.find?_eq_none.mp unused name member
      exact mem_distinct.mp (by simpa [placeholders] using present)

theorem length_filterMap_get? (once : bindings.names.Nodup)
    (bound : ∀ name ∈ placeholders sql, name ∈ bindings.names)
    (used : ∀ name ∈ bindings.names, name ∈ placeholders sql) :
    ((distinct (placeholders sql)).filterMap bindings.get?).length = bindings.length := by
  -- both lists are free of repetitions and have the same members
  have same : (distinct (placeholders sql)).Perm bindings.names :=
    (List.perm_ext_iff_of_nodup (nodup_distinct _) once).mpr fun name =>
      mem_distinct.trans ⟨bound name, used name⟩
  have each : ∀ name ∈ distinct (placeholders sql), (bindings.get? name).isSome = true := by
    intro name member
    obtain ⟨value, listed⟩ := Bindings.mem_names.mp (same.mem_iff.mp member)
    rw [Bindings.get?_of_mem once listed]
    rfl
  calc ((distinct (placeholders sql)).filterMap bindings.get?).length
    _ = (distinct (placeholders sql)).length := List.filterMap_length_eq_length.mpr each
    _ = bindings.names.length := same.length_eq
    _ = bindings.length := List.length_map _

end Positional

/-! ## Statements -/

namespace Compiler

open Positional (placeholders)

variable {entities : List Entity} {registry : Registry} {compiler : Compiler} {query : Query}
  {statement : Statement}

theorem quiet_of_accepted (accepted : Registry.ofEntities entities = .ok registry)
    (provided : compiler.provider = registry.provider) : compiler.Quiet := by
  intro name entity found
  rw [provided] at found
  exact Registry.isQuiet_of_accepted accepted found

/-- The text of a plain statement names exactly the parameters of the tree. -/
theorem placeholders_sql (plain : statement.query.isPlain = true) :
    placeholders statement.sql = statement.query.parameters.map Sql.Parameter.name :=
  (Sql.Select.lexes_render statement.query plain).scan

theorem placeholders_bound (compiled : compiler.compile query = .ok statement)
    (plain : statement.query.isPlain = true) :
    ∀ name ∈ placeholders statement.sql, name ∈ statement.bindings.names := by
  intro name member
  rw [placeholders_sql plain] at member
  obtain ⟨parameter, held, rfl⟩ := List.mem_map.mp member
  exact (compile_balanced compiled).1 parameter held

theorem unused_iff (compiled : compiler.compile query = .ok statement)
    (plain : statement.query.isPlain = true) :
    (∃ name ∈ statement.bindings.names, name ∉ placeholders statement.sql) ↔
      query.wastes compiler = true := by
  rw [placeholders_sql plain]
  exact (compile_balanced compiled).2.1

/--
Every placeholder of a statement is bound, and if no alternative of the query vanishes,
every binding has a placeholder.
-/
theorem placeholders_match_bindings (accepted : Registry.ofEntities entities = .ok registry)
    (provided : compiler.provider = registry.provider)
    (valid : compiler.settings.violations = [])
    (uncomputed : query.computedFields compiler = [])
    (compiled : compiler.compile query = .ok statement) :
    (∀ name ∈ placeholders statement.sql, name ∈ statement.bindings.names) ∧
    (∀ name, Positional.ofNamed statement.sql statement.bindings ≠ .error (.missing name)) ∧
    ((∀ alternative ∈ query.alternatives compiler, ¬ Filter.Vanishes compiler alternative) →
      ∃ positional, Positional.ofNamed statement.sql statement.bindings = .ok positional ∧
        positional.values.length = statement.bindings.length) := by
  have plain := compile_isPlain (quiet_of_accepted accepted provided) valid
    (by simp [uncomputed]) compiled
  have bound := placeholders_bound compiled plain
  refine ⟨bound, fun name => ?_, fun demanding => ?_⟩
  · rcases Positional.ofNamed_of_bound bound with ⟨other, -, -, failed⟩ | ⟨-, result, done, -⟩
    · simp [failed]
    · simp [done]
  · have used : ¬ ∃ name ∈ statement.bindings.names, name ∉ placeholders statement.sql := by
      rw [unused_iff compiled plain]
      intro wastes
      obtain ⟨alternative, listed, vanishes⟩ := Query.exists_vanishing compiled wastes
      exact demanding alternative listed vanishes
    rcases Positional.ofNamed_of_bound bound with
      ⟨name, listed, unused, -⟩ | ⟨all, result, done, values⟩
    · exact (used ⟨name, listed, unused⟩).elim
    · refine ⟨result, done, ?_⟩
      rw [values]
      exact Positional.length_filterMap_get? (compile_balanced compiled).2.2 bound all

end Compiler

namespace Sample

open Positional (placeholders)

def veterans : Query :=
  { entity := "Person"
    selection :=
      { fields :=
          [("name", .leaf),
            ("battles",
              .nested
                { fields := [("name", .leaf)]
                  arguments :=
                    some
                      { filter := some [("_not", .array [.object [("name", .string "Bywater")]])]
                        pagination :=
                          some { limit := some 2, order := [⟨"name", .ascending⟩] } } })] }
    filter :=
      some
        [("_or",
            .array
              [.object [("fellowship", .object [("name_in", .array [.string "Nine", .null])])],
                .object
                  [("battles", .object [("name", .string "Pelennor")]),
                    ("_not", .object [("name", .string "Sauron")])]])] }

theorem placeholders_match_bindings_veterans :
    ∃ statement, compiler.compile veterans = .ok statement ∧
      (∀ name ∈ placeholders statement.sql, name ∈ statement.bindings.names) ∧
      ∃ positional, Positional.ofNamed statement.sql statement.bindings = .ok positional ∧
        positional.values.length = statement.bindings.length := by
  cases compiled : compiler.compile veterans with
  | error error =>
      have succeeds : (compiler.compile veterans).isOk = true := by decide +kernel
      simp [compiled, Except.isOk, Except.toBool] at succeeds
  | ok statement =>
      obtain ⟨bound, -, numbered⟩ := Compiler.placeholders_match_bindings registry_accepted rfl
        (by decide) rfl compiled
      have demanding : ∀ alternative ∈ veterans.alternatives compiler,
          (Filter.tally compiler alternative.1 alternative.2).vacuous = false := by decide +kernel
      refine ⟨statement, rfl, bound, numbered fun alternative member => ?_⟩
      exact Filter.not_vanishes (demanding alternative member)

end Sample

/-- A binding without a placeholder is reported for the queries that waste a literal. -/
theorem Compiler.unused_iff_wastes {entities : List Entity} {registry : Registry}
    {compiler : Compiler} {query : Query} {statement : Statement}
    (accepted : Registry.ofEntities entities = .ok registry)
    (provided : compiler.provider = registry.provider)
    (valid : compiler.settings.violations = [])
    (quiet : ∀ found ∈ query.computedFields compiler, found.isQuiet = true)
    (compiled : compiler.compile query = .ok statement) :
    (∃ name, Positional.ofNamed statement.sql statement.bindings = .error (.unused name)) ↔
      query.wastes compiler = true := by
  have plain := compile_isPlain (quiet_of_accepted accepted provided) valid quiet compiled
  have bound := placeholders_bound compiled plain
  rw [← unused_iff compiled plain]
  rcases Positional.ofNamed_of_bound bound with
    ⟨name, listed, unused, failed⟩ | ⟨all, result, done, -⟩
  · exact ⟨fun _ => ⟨name, listed, unused⟩, fun _ => ⟨name, failed⟩⟩
  · refine ⟨?_, ?_⟩
    · rintro ⟨name, failed⟩
      rw [done] at failed
      cases failed
    · rintro ⟨name, listed, unused⟩
      exact (unused (all name listed)).elim

namespace Sample

def anyone : Query :=
  { entity := "Person"
    filter := some [("_or", .array [.object [], .object [("name", .string "Frodo")]])] }

theorem unused_iff_wastes_anyone :
    anyone.wastes compiler = true ∧
      ∃ statement, compiler.compile anyone = .ok statement ∧
        ∃ name, Positional.ofNamed statement.sql statement.bindings = .error (.unused name) := by
  have wastes : anyone.wastes compiler = true := by decide +kernel
  cases compiled : compiler.compile anyone with
  | error error =>
      have succeeds : (compiler.compile anyone).isOk = true := by decide +kernel
      simp [compiled, Except.isOk, Except.toBool] at succeeds
  | ok statement =>
      have none : anyone.computedFields compiler = [] := rfl
      have reported := Compiler.unused_iff_wastes registry_accepted rfl (by decide)
        (by simp [none]) compiled
      exact ⟨wastes, statement, rfl, reported.mpr wastes⟩

def numberingError (query : Query) : Option PlaceholderError :=
  match compiler.compile query with
  | .ok statement =>
      match Positional.ofNamed statement.sql statement.bindings with
      | .ok _ => none
      | .error error => some error
  | .error _ => none

/-- A statement binds Frodo's name but compares nothing with it. -/
theorem anyone_binds_unused_name :
    ∃ statement, compiler.compile anyone = .ok statement ∧
      Positional.ofNamed statement.sql statement.bindings =
        .error (.unused "t_e1_name_1") := by
  have failed : numberingError anyone = some (.unused "t_e1_name_1") := by decide +kernel
  unfold numberingError at failed
  split at failed
  · rename_i statement compiled
    split at failed
    · cases failed
    · rename_i error numbered
      cases failed
      exact ⟨statement, compiled, numbered⟩
  · cases failed

end Sample

end TreeQuery
