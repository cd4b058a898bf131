import Mathlib
import RandomTables.Proofs.Lint.References
import RandomTables.Proofs.Strict
import RandomTables.Random.Scripted

/-!
Tables without a warning about a reference are expanded without a fallback. Each reference of each
entry is looked at in the scope in which it is expanded, whether or not the entry can be picked, so
that one stored table after another leads to settled references only.
-/

namespace RandomTables

namespace Lint

variable {expander : Expander} {table : Table} {alternative : Alternative} {reference : String}

theorem mem_warnings_of_referenceWarning? {problem : Problem}
    (hstored : expander.tables.get? table.name = some table)
    (halternative : alternative ∈ table.alternatives)
    (hreference : reference ∈ Template.references alternative.text)
    (h : referenceWarning? expander table.name reference = some problem) :
    problem ∈ warnings expander := by
  refine List.mem_append_left _ (List.mem_flatMap.2 ⟨table, Store.mem_tables_iff.2 hstored, ?_⟩)
  refine List.mem_flatMap.2 ⟨alternative, halternative, List.mem_append_right _ ?_⟩
  exact List.mem_filterMap.2 ⟨reference, hreference, h⟩

theorem settled_of_no_warning
    (matched : ∀ table reference, .unmatched table reference ∉ warnings expander)
    (registered : ∀ table reference die, .unknownDie table reference die ∉ warnings expander)
    (hstored : expander.tables.get? table.name = some table)
    (halternative : alternative ∈ table.alternatives)
    (hreference : reference ∈ Template.references alternative.text) :
    expander.Settled reference (some (Name.topLevel table.name)) where
  matched := by
    intro hmeaning
    refine matched table.name reference
      (mem_warnings_of_referenceWarning? hstored halternative hreference ?_)
    rw [referenceWarning?, classify_eq_ofMeaning, hmeaning]
    rfl
  registered := by
    rintro ⟨count, faces, modifier⟩ die hmeaning hfaces
    obtain rfl : faces = .named die := hfaces
    by_contra hunknown
    refine registered table.name reference die
      (mem_warnings_of_referenceWarning? hstored halternative hreference ?_)
    rw [referenceWarning?, classify_eq_ofMeaning, hmeaning]
    exact if_neg hunknown

end Lint

namespace Expander

variable {σ : Type} [RandomSource σ]

/-- Where the linter finds every reference matched and every die registered, a stored table is
expanded strictly: with the same result, and from there on with the same random words. -/
theorem expandStrictly_eq_expand (expander : Expander)
    (matched : ∀ table reference, .unmatched table reference ∉ Lint.warnings expander)
    (registered : ∀ table reference die,
      .unknownDie table reference die ∉ Lint.warnings expander)
    (table : Table) (stored : table ∈ expander.tables.tables) (source : σ) :
    (expander.expandStrictly table.name none : StrictExpansion σ String).run source =
      ((expander.expand table.name none : Expansion σ String).run source).map
        fun (result, rest) => (result.mapError .expansion, rest) := by
  have hmeaning : expander.meaning table.name none = .table table := by
    rw [meaning_eq_table_iff, findTable_none, Store.mem_tables_iff.1 stored]
  have hname : expander.Settled table.name none :=
    ⟨by simp [hmeaning], by simp [hmeaning]⟩
  rw [← Expansion.run_asStrict, expandStrictly, expand, expandWithinStrictly_eq _ _ hname]
  exact fun table hstored alternative halternative reference hreference =>
    Lint.settled_of_no_warning matched registered hstored halternative hreference

def treasures : Expander where
  tables := (Store.empty.insert ⟨"treasure", [.literal "[dF+3] [gem]s"]⟩).insert
    ⟨"treasure.gem", [.literal "opal", .literal "[1-9]"]⟩
  dice := Dice.Registry.builtin
  standardFaces := .standard
  maxDepth := 2

theorem expandStrictly_eq_expand_treasures :
    (∀ table reference, .unmatched table reference ∉ Lint.warnings treasures) ∧
      (∀ table reference die, .unknownDie table reference die ∉ Lint.warnings treasures) ∧
      (treasures.expandStrictly "treasure" none : StrictExpansion Scripted String).run
        (Scripted.ofWords [1, 1, 1]) = .ok (.ok "2 opals", ⟨[], 3⟩) := by
  have htables : treasures.tables.tables = [⟨"treasure", [.literal "[dF+3] [gem]s"]⟩,
      ⟨"treasure.gem", [.literal "opal", .literal "[1-9]"]⟩] := by cbv
  have hwarnings : treasures.tables.tables.flatMap (Lint.tableWarnings treasures) = [] := by cbv
  have matched : ∀ table reference, .unmatched table reference ∉ Lint.warnings treasures := by
    simp [Lint.warnings, hwarnings]
  have registered : ∀ table reference die,
      .unknownDie table reference die ∉ Lint.warnings treasures := by
    simp [Lint.warnings, hwarnings]
  have stored : ⟨"treasure", [.literal "[dF+3] [gem]s"]⟩ ∈ treasures.tables.tables := by
    simp [htables]
  refine ⟨matched, registered, ?_⟩
  rw [expandStrictly_eq_expand treasures matched registered _ stored]
  cbv

end Expander

end RandomTables
