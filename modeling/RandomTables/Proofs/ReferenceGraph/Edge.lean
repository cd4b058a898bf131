import Mathlib.Logic.Relation
import Mathlib.Tactic.Common
import RandomTables.ReferenceGraph

/-!
The edges of a reference graph, and how each operation changes them.
-/

namespace RandomTables.ReferenceGraph

variable {graph : ReferenceGraph} {source target : String}

def Edge (graph : ReferenceGraph) (source target : String) : Prop :=
  target ∈ graph.targets source

/-- No way along the edges leads back to where it began. -/
def Acyclic (graph : ReferenceGraph) : Prop :=
  ∀ name, ¬ Relation.TransGen graph.Edge name name

theorem edge_iff : graph.Edge source target ↔ target ∈ graph.targetSet source :=
  Std.ExtTreeSet.mem_toList

theorem mem_foldl_insert {name : String} {names : List String} {set : Std.ExtTreeSet String} :
    name ∈ names.foldl (fun set name => set.insert name) set ↔ name ∈ names ∨ name ∈ set := by
  induction names generalizing set with
  | nil => simp
  | cons first names ih =>
      rw [List.foldl_cons, ih, Std.ExtTreeSet.mem_insert, Std.LawfulEqCmp.compare_eq_iff_eq,
        List.mem_cons, eq_comm (a := first)]
      tauto

theorem mem_sources_of_edge (h : graph.Edge source target) : source ∈ graph.sources := by
  rw [sources, Std.ExtTreeMap.mem_keys]
  by_contra habsent
  rw [edge_iff, targetSet, Std.ExtTreeMap.getD_eq_fallback habsent] at h
  exact Std.ExtTreeSet.not_mem_empty h

theorem mem_targetNames_of_edge (h : graph.Edge source target) : target ∈ graph.targetNames := by
  rw [targetNames, mem_foldl_insert]
  exact Or.inl (List.mem_flatMap.2 ⟨source, mem_sources_of_edge h, h⟩)

theorem not_edge_empty : ¬ empty.Edge source target := by
  rw [edge_iff, targetSet, empty, Std.ExtTreeMap.getD_eq_fallback Std.ExtTreeMap.not_mem_empty]
  exact Std.ExtTreeSet.not_mem_empty

theorem edge_addTargets_iff {name : String} {targets : List String} :
    (graph.addTargets name targets).Edge source target ↔
      graph.Edge source target ∨ source = name ∧ target ∈ targets := by
  simp only [edge_iff, targetSet, addTargets, Std.ExtTreeMap.getD_insert,
    Std.LawfulEqCmp.compare_eq_iff_eq]
  split
  · next heq =>
      subst heq
      rw [mem_foldl_insert]
      tauto
  · next hne =>
      have hne' : source ≠ name := fun heq => hne heq.symm
      tauto

end RandomTables.ReferenceGraph
