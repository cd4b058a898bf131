import RandomTables.Proofs.Name
import RandomTables.ReferenceGraph

/-!
The search for cycles over names that come in any order. The names to start from and the targets of
each name are sorted before they are gone through, so the cycles are found in the same order and
along the same ways.
-/

namespace RandomTables.ReferenceGraph

/-- The search for a way back to `start`, with `targets` for what a name refers to. -/
def wayBackAlong (targets : String → List String) (start : String) :
    Nat → List String → Std.ExtTreeSet String → Option (List String) × Std.ExtTreeSet String
  | 0, _, seen => (none, seen)
  | _ + 1, [], seen => (none, seen)
  | fuel + 1, name :: names, seen =>
      if name = start then
        (some [name], seen)
      else if name < start ∨ seen.contains name then
        wayBackAlong targets start (fuel + 1) names seen
      else
        match wayBackAlong targets start fuel (targets name) (seen.insert name) with
        | (some way, seen) => (some (name :: way), seen)
        | (none, seen) => wayBackAlong targets start (fuel + 1) names seen
termination_by fuel names => (fuel, names.length)

/-- The names of a graph in whatever order they come: those that refer to others, and what each of
them refers to. -/
structure Order (graph : ReferenceGraph) where
  starts : List String
  next : String → List String
  starts_perm : starts.Perm (graph.sources.filter fun name => graph.targets name ≠ [])
  next_perm : ∀ name, (next name).Perm (graph.targets name)

instance (graph : ReferenceGraph) : Inhabited graph.Order :=
  ⟨_, graph.targets, .refl _, fun _ => .refl _⟩

variable {graph : ReferenceGraph} {start : String}

def Order.targets (order : graph.Order) (name : String) : List String :=
  Name.sort (order.next name)

def Order.cycleFrom? (order : graph.Order) (start : String) : Option (List String) :=
  ((wayBackAlong order.targets start (graph.targetNames.size + 1) (order.targets start) ∅).1).map
    (start :: ·)

def Order.cycles (order : graph.Order) : List (List String) :=
  (Name.sort order.starts).filterMap order.cycleFrom?

theorem wayBackAlong_targets (graph : ReferenceGraph) (start : String) (fuel : Nat)
    (names : List String) (seen : Std.ExtTreeSet String) :
    wayBackAlong graph.targets start fuel names seen = graph.wayBack start fuel names seen := by
  fun_induction wayBack graph start fuel names seen with
  | case1 => rw [wayBackAlong]
  | case2 => rw [wayBackAlong]
  | case3 fuel names seen => rw [wayBackAlong, if_pos rfl]
  | case4 fuel name names seen hne hskip ih => rw [wayBackAlong, if_neg hne, if_pos hskip, ih]
  | case5 fuel name names seen hne hskip way after hway ih =>
      rw [wayBackAlong, if_neg hne, if_neg hskip, ih, hway]
  | case6 fuel name names seen hne hskip after hway ih ihRest =>
      rw [wayBackAlong, if_neg hne, if_neg hskip, ih, hway]
      exact ihRest

theorem sorted_sources (graph : ReferenceGraph) : graph.sources.Pairwise (· < ·) :=
  Name.pairwise_lt_of_compare Std.ExtTreeMap.ordered_keys

theorem sorted_targets (graph : ReferenceGraph) (name : String) :
    (graph.targets name).Pairwise (· < ·) :=
  Name.pairwise_lt_of_compare Std.ExtTreeSet.ordered_toList

/-- A name without targets is on no cycle, so that it need not be started from. -/
theorem cycleFrom?_of_targets_eq_nil (h : graph.targets start = []) :
    graph.cycleFrom? start = none := by
  rw [cycleFrom?, h, wayBack]
  rfl

theorem Order.targets_eq (order : graph.Order) : order.targets = graph.targets := by
  funext name
  exact Name.sort_eq_of_perm (order.next_perm name) (graph.sorted_targets name)

theorem Order.cycleFrom?_eq (order : graph.Order) (start : String) :
    order.cycleFrom? start = graph.cycleFrom? start := by
  rw [cycleFrom?, order.targets_eq, wayBackAlong_targets, ReferenceGraph.cycleFrom?]

theorem Order.cycles_eq (order : graph.Order) : order.cycles = graph.cycles := by
  rw [cycles, Name.sort_eq_of_perm order.starts_perm (graph.sorted_sources.filter _),
    ReferenceGraph.cycles, List.filterMap_filter]
  refine List.filterMap_congr fun start _ => ?_
  rw [order.cycleFrom?_eq]
  by_cases htargets : graph.targets start = []
  · rw [cycleFrom?_of_targets_eq_nil htargets, ite_self]
  · rw [if_pos (decide_eq_true htargets)]

end RandomTables.ReferenceGraph
