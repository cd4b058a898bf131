import Std.Data.ExtTreeMap
import Std.Data.ExtTreeSet

/-!
Which table refers to which. A cycle is reported once, from its smallest name: from there the search
goes through larger names only, each at most once, in increasing order.
-/

namespace RandomTables

structure ReferenceGraph where
  edges : Std.ExtTreeMap String (Std.ExtTreeSet String)

namespace ReferenceGraph

def empty : ReferenceGraph := ⟨∅⟩

def targetSet (graph : ReferenceGraph) (name : String) : Std.ExtTreeSet String :=
  graph.edges.getD name ∅

/-- The names that `name` refers to, in increasing order. -/
def targets (graph : ReferenceGraph) (name : String) : List String :=
  (graph.targetSet name).toList

def addTargets (graph : ReferenceGraph) (name : String) (targets : List String) : ReferenceGraph :=
  ⟨graph.edges.insert name (targets.foldl (fun set target => set.insert target)
    (graph.targetSet name))⟩

/-- The names that refer to others, in increasing order. -/
def sources (graph : ReferenceGraph) : List String :=
  graph.edges.keys

def targetNames (graph : ReferenceGraph) : Std.ExtTreeSet String :=
  (graph.sources.flatMap graph.targets).foldl (fun set name => set.insert name) ∅

/-- Looks for a way back to `start` through one of `names`, nested at most `fuel` deep. Gives the
way from there on, and the names that were tried. -/
def wayBack (graph : ReferenceGraph) (start : String) :
    Nat → List String → Std.ExtTreeSet String → Option (List String) × Std.ExtTreeSet String
  | 0, _, seen => (none, seen)
  | _ + 1, [], seen => (none, seen)
  | fuel + 1, name :: names, seen =>
      if name = start then
        (some [name], seen)
      else if name < start ∨ seen.contains name then
        graph.wayBack start (fuel + 1) names seen
      else
        match graph.wayBack start fuel (graph.targets name) (seen.insert name) with
        | (some way, seen) => (some (name :: way), seen)
        | (none, seen) => graph.wayBack start (fuel + 1) names seen
termination_by fuel names => (fuel, names.length)

/-- The cycle found from `start`, with `start` at both ends. No way is longer than there are
names. -/
def cycleFrom? (graph : ReferenceGraph) (start : String) : Option (List String) :=
  ((graph.wayBack start (graph.targetNames.size + 1) (graph.targets start) ∅).1).map (start :: ·)

def cycles (graph : ReferenceGraph) : List (List String) :=
  graph.sources.filterMap graph.cycleFrom?

end ReferenceGraph

end RandomTables
