import RandomTables.Lint
import RandomTables.Proofs.Expansion.Meaning
import RandomTables.Proofs.ReferenceGraph.Edge

/-!
The reference graph of tables: its edges are the steps from a table to a table that an expansion can
take, whatever alternative is picked.
-/

namespace RandomTables.Lint

variable {expander : Expander} {name target : String} {alternative : Alternative}

/-! ### What references stand for -/

def Target.ofMeaning : Meaning → Target
  | .table found => .table found.name
  | .dice spec => .dice spec
  | .range _ => .range
  | .text => .text

/-- A reference is classified as what it means when its table is expanded. -/
theorem classify_eq_ofMeaning (expander : Expander) (reference scope : String) :
    classify expander reference scope = .ofMeaning (expander.meaning reference (some scope)) := by
  unfold classify Expander.meaning
  cases expander.findTable reference (some scope) with
  | some table => rfl
  | none =>
      cases Dice.Spec.parse expander.standardFaces reference with
      | ok spec => rfl
      | error error => cases Range.Spec.parse reference <;> rfl

theorem classify_eq_table_iff {reference scope : String} :
    classify expander reference scope = .table target ↔
      ∃ table, expander.findTable reference (some scope) = some table ∧ table.name = target := by
  simp only [classify_eq_ofMeaning, ← Expander.meaning_eq_table_iff]
  cases expander.meaning reference (some scope) <;> simp [Target.ofMeaning]

/-! ### The reference graph -/

theorem mem_tableTargets_iff :
    target ∈ tableTargets expander name alternative ↔
      ∃ reference ∈ Template.references alternative.text, ∃ table,
        expander.findTable reference (some (Name.topLevel name)) = some table ∧
          table.name = target := by
  simp only [tableTargets, List.mem_filterMap, ← classify_eq_table_iff]
  refine exists_congr fun reference => and_congr_right fun _ => ?_
  cases classify expander reference (Name.topLevel name) <;> simp

theorem edge_foldl_addTargets_iff {targets : Table → List String} {tables : List Table}
    {graph : ReferenceGraph} {source : String} :
    (tables.foldl (fun graph table => graph.addTargets table.name (targets table)) graph).Edge
        source target ↔
      graph.Edge source target ∨
        ∃ table ∈ tables, source = table.name ∧ target ∈ targets table := by
  induction tables generalizing graph with
  | nil => simp
  | cons table tables ih =>
      simp only [List.foldl_cons, ih, ReferenceGraph.edge_addTargets_iff, or_assoc, List.mem_cons,
        exists_eq_or_imp]

/-- A table refers to what its alternatives find in its own scope. -/
theorem edge_graph_iff {source : String} :
    (graph expander).Edge source target ↔
      ∃ table, expander.tables.get? source = some table ∧
        ∃ alternative ∈ table.alternatives, target ∈ tableTargets expander source alternative := by
  rw [graph, edge_foldl_addTargets_iff, or_iff_right ReferenceGraph.not_edge_empty]
  constructor
  · rintro ⟨table, htable, rfl, htarget⟩
    exact ⟨table, Store.mem_tables_iff.1 htable, List.mem_flatMap.1 htarget⟩
  · rintro ⟨table, hget, htarget⟩
    obtain rfl := Store.name_of_get? hget
    exact ⟨table, Store.mem_tables_iff.2 hget, rfl, List.mem_flatMap.2 htarget⟩

theorem cycle_mem_warnings_iff {path : List String} :
    .cycle path ∈ warnings expander ↔ path ∈ (graph expander).cycles := by
  have htables : Problem.cycle path ∉ expander.tables.tables.flatMap (tableWarnings expander) := by
    simp only [tableWarnings, alternativeWarnings, referenceWarning?, List.mem_flatMap,
      List.mem_append, List.mem_filterMap, not_exists, not_and, not_or]
    intro table _ alternative _
    refine ⟨by split <;> simp, fun reference _ => ?_⟩
    split <;> try split
    all_goals simp
  rw [warnings, List.mem_append, or_iff_right htables]
  simp

end RandomTables.Lint
