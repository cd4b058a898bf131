import Mathlib
import RandomTables.Proofs.ReferenceGraph.Search
import RandomTables.Proofs.ReferenceGraph.Walk

/-!
The reported cycles, exactly. The search comes to an end without a bound on its depth, and it leaves
the names that led nowhere off its path. A path that it reports goes once round a cycle from the
least of its names, and each name that is the least one of some cycle has a path reported for it.
-/

namespace RandomTables.ReferenceGraph

variable {graph : ReferenceGraph} {start : String}

/-! ### The search without a bound on its depth -/

/-- A search through `names` that carries the path to them and the names seen so far. It ends with
or without a way back to `start`, with a path, and with the names seen. A name is put at the end of
the path when the search goes on from there, and taken off when that leads nowhere. -/
inductive Explores (graph : ReferenceGraph) (start : String) :
    List String → List String → Std.ExtTreeSet String →
      Bool × List String × Std.ExtTreeSet String → Prop
  | exhausted {path seen} : Explores graph start [] path seen (false, path, seen)
  | back {names path seen} : Explores graph start (start :: names) path seen
      (true, path ++ [start], seen)
  | passed {name names path seen outcome} (hne : name ≠ start)
      (hskip : name < start ∨ seen.contains name)
      (hrest : Explores graph start names path seen outcome) :
      Explores graph start (name :: names) path seen outcome
  | found {name names path seen whole after} (hne : name ≠ start)
      (hfresh : ¬ (name < start ∨ seen.contains name))
      (hdown : Explores graph start (graph.targets name) (path ++ [name]) (seen.insert name)
        (true, whole, after)) :
      Explores graph start (name :: names) path seen (true, whole, after)
  | failed {name names path seen tried after outcome} (hne : name ≠ start)
      (hfresh : ¬ (name < start ∨ seen.contains name))
      (hdown : Explores graph start (graph.targets name) (path ++ [name]) (seen.insert name)
        (false, tried, after))
      (hrest : Explores graph start names tried.dropLast after outcome) :
      Explores graph start (name :: names) path seen outcome

/-- A search has one outcome. -/
theorem Explores.unique {names path : List String} {seen : Std.ExtTreeSet String}
    {outcome other : Bool × List String × Std.ExtTreeSet String}
    (h : graph.Explores start names path seen outcome)
    (hother : graph.Explores start names path seen other) : outcome = other := by
  induction h generalizing other with
  | exhausted =>
      cases hother
      rfl
  | back =>
      cases hother with
      | back => rfl
      | passed hne => exact absurd rfl hne
      | found hne => exact absurd rfl hne
      | failed hne => exact absurd rfl hne
  | passed hne hskip _ ih =>
      cases hother with
      | back => exact absurd rfl hne
      | passed _ _ hrest => exact ih hrest
      | found _ hfresh => exact absurd hskip hfresh
      | failed _ hfresh => exact absurd hskip hfresh
  | found hne hfresh _ ih =>
      cases hother with
      | back => exact absurd rfl hne
      | passed _ hskip => exact absurd hskip hfresh
      | found _ _ hdown => exact ih hdown
      | failed _ _ hdown => exact absurd (congrArg Prod.fst (ih hdown)) (by simp)
  | failed hne hfresh _ _ ihDown ihRest =>
      cases hother with
      | back => exact absurd rfl hne
      | passed _ hskip => exact absurd hskip hfresh
      | found _ _ hdown => exact absurd (congrArg Prod.fst (ihDown hdown)) (by simp)
      | failed _ _ hdown hrest =>
          obtain ⟨rfl, rfl⟩ := Prod.mk.inj (Prod.mk.inj (ihDown hdown)).2
          exact ihRest hrest

theorem mem_of_wayBack {fuel : Nat} {names : List String} {seen after : Std.ExtTreeSet String}
    {way : Option (List String)} (hrun : graph.wayBack start fuel names seen = (way, after))
    {name : String} (h : name ∈ seen) : name ∈ after := by
  fun_induction wayBack graph start fuel names seen generalizing way after with
  | case1 =>
      cases hrun
      exact h
  | case2 =>
      cases hrun
      exact h
  | case3 =>
      cases hrun
      exact h
  | case4 fuel first names seen hne hskip ih => exact ih hrun h
  | case5 fuel first names seen hne hskip found mid hmid ih =>
      obtain rfl : mid = after := congrArg Prod.snd hrun
      exact ih hmid (Std.ExtTreeSet.mem_insert.2 (Or.inr h))
  | case6 fuel first names seen hne hskip mid hmid ihDown ihRest =>
      exact ihRest hrun (ihDown hmid (Std.ExtTreeSet.mem_insert.2 (Or.inr h)))

/-- The outcome of the search behind `path`, from the way that is found. -/
def outcomeOf (path : List String) :
    Option (List String) × Std.ExtTreeSet String → Bool × List String × Std.ExtTreeSet String
  | (some way, seen) => (true, path ++ way, seen)
  | (none, seen) => (false, path, seen)

/-- A bound on the depth that leaves room for all names unseen is none. -/
theorem explores_wayBack {fuel : Nat} {names path : List String} {seen : Std.ExtTreeSet String}
    (known : ∀ name ∈ names, name ∈ graph.targetNames)
    (room : (graph.unseen seen).card < fuel) :
    graph.Explores start names path seen
      (outcomeOf path (graph.wayBack start fuel names seen)) := by
  fun_induction wayBack graph start fuel names seen generalizing path with
  | case1 => omega
  | case2 => exact .exhausted
  | case3 => exact .back
  | case4 fuel name names seen hne hskip ih =>
      exact .passed hne hskip (ih (fun other h => known other (List.mem_cons_of_mem _ h)) room)
  | case5 fuel name names seen hne hskip way after hway ih =>
      have hless := card_unseen_insert_lt (known name List.mem_cons_self)
        (not_mem_of_not_skipped hskip)
      have hdown := @ih (path ++ [name]) (fun _ => mem_targetNames_of_edge) (by omega)
      rw [hway, outcomeOf, List.append_assoc] at hdown
      exact .found hne hskip hdown
  | case6 fuel name names seen hne hskip mid hmid ihDown ihRest =>
      have hless := card_unseen_insert_lt (known name List.mem_cons_self)
        (not_mem_of_not_skipped hskip)
      have hdown := @ihDown (path ++ [name]) (fun _ => mem_targetNames_of_edge) (by omega)
      have hgrows : ∀ other, other ∈ seen → other ∈ mid := fun other hother =>
        mem_of_wayBack hmid (Std.ExtTreeSet.mem_insert.2 (Or.inr hother))
      have hrest := @ihRest path (fun other h => known other (List.mem_cons_of_mem _ h))
        (lt_of_le_of_lt (card_unseen_le hgrows) room)
      rw [hmid, outcomeOf] at hdown
      refine .failed hne hskip hdown ?_
      rwa [List.dropLast_concat]

/-- The search from `start` comes to an end in one way, and what it has found then is reported. -/
theorem exists_explores (graph : ReferenceGraph) (start : String) :
    ∃ found path seen,
      (∀ outcome, graph.Explores start (graph.targets start) [start] ∅ outcome ↔
        outcome = (found, path, seen)) ∧
      graph.cycleFrom? start = if found then some path else none := by
  have hexplores := @explores_wayBack graph start (graph.targetNames.size + 1)
    (graph.targets start) [start] ∅ (fun _ => mem_targetNames_of_edge)
    (Nat.lt_succ_of_le card_unseen_empty_le)
  rw [cycleFrom?]
  generalize graph.wayBack start (graph.targetNames.size + 1) (graph.targets start) ∅ = result
    at hexplores ⊢
  refine ⟨_, _, _, fun outcome => ⟨fun houtcome => houtcome.unique hexplores, ?_⟩, ?_⟩
  · rintro rfl
    exact hexplores
  · obtain ⟨way?, seen⟩ := result
    cases way? <;> rfl

/-! ### What is reported -/

/-- Once round a cycle from `least`, the least of its names: through the names in `rest`, each of
them once, and back. -/
structure Round (graph : ReferenceGraph) (least : String) (rest : List String) : Prop where
  nodup : (least :: rest).Nodup
  least_lt : ∀ name ∈ rest, least < name
  edges : (least :: (rest ++ [least])).IsChain graph.Edge

/-- A way back goes on from one of the names that it is looked for through, through new names that
are larger than `start`, none of them twice. -/
theorem way_of_wayBack {fuel : Nat} {names way : List String} {seen after : Std.ExtTreeSet String}
    (hrun : graph.wayBack start fuel names seen = (some way, after)) :
    ∃ rest, way = rest ++ [start] ∧ rest.Nodup ∧ (∀ name ∈ rest, start < name ∧ name ∉ seen) ∧
      (∀ first ∈ way.head?, first ∈ names) ∧ way.IsChain graph.Edge := by
  fun_induction wayBack graph start fuel names seen generalizing way after with
  | case1 => cases hrun
  | case2 => cases hrun
  | case3 fuel names seen =>
      cases hrun
      exact ⟨[], rfl, List.nodup_nil, by simp, by simp, List.isChain_singleton _⟩
  | case4 fuel name names seen hne hskip ih =>
      obtain ⟨rest, hway, hnodup, hnew, hfirst, hchain⟩ := ih hrun
      exact ⟨rest, hway, hnodup, hnew, fun first h => List.mem_cons_of_mem _ (hfirst first h),
        hchain⟩
  | case5 fuel name names seen hne hskip inner mid hinner ih =>
      cases hrun
      obtain ⟨rest, rfl, hnodup, hnew, hfirst, hchain⟩ := ih hinner
      rw [not_or, Std.ExtTreeSet.contains_iff_mem] at hskip
      have hlarger : start < name := lt_of_le_of_ne (not_lt.1 hskip.1) (Ne.symm hne)
      refine ⟨name :: rest, rfl, ?_, ?_, ?_, ?_⟩
      · refine List.nodup_cons.2 ⟨fun hname => ?_, hnodup⟩
        exact (hnew name hname).2 Std.ExtTreeSet.mem_insert_self
      · intro other hother
        rcases List.mem_cons.1 hother with rfl | hother
        · exact ⟨hlarger, hskip.2⟩
        · refine ⟨(hnew other hother).1, fun hseen => (hnew other hother).2 ?_⟩
          exact Std.ExtTreeSet.mem_insert.2 (Or.inr hseen)
      · rintro first ⟨⟩
        exact List.mem_cons_self
      · exact hchain.cons hfirst
  | case6 fuel name names seen hne hskip mid hmid ihDown ihRest =>
      obtain ⟨rest, hway, hnodup, hnew, hfirst, hchain⟩ := ihRest hrun
      refine ⟨rest, hway, hnodup, fun other hother => ?_, ?_, hchain⟩
      · refine ⟨(hnew other hother).1, fun hseen => (hnew other hother).2 ?_⟩
        exact mem_of_wayBack hmid (Std.ExtTreeSet.mem_insert.2 (Or.inr hseen))
      · exact fun first h => List.mem_cons_of_mem _ (hfirst first h)

theorem round_of_cycleFrom? {path : List String} (h : graph.cycleFrom? start = some path) :
    ∃ rest, path = start :: (rest ++ [start]) ∧ graph.Round start rest := by
  obtain ⟨way, hway, rfl⟩ := Option.map_eq_some_iff.1 h
  obtain ⟨rest, rfl, hnodup, hnew, hfirst, hchain⟩ :=
    way_of_wayBack (Prod.ext hway rfl : _ = (some way, _))
  have hfresh : start ∉ rest := fun hstart => lt_irrefl start (hnew start hstart).1
  exact ⟨rest, rfl, List.nodup_cons.2 ⟨hfresh, hnodup⟩, fun name hname => (hnew name hname).1,
    hchain.cons hfirst⟩

theorem head?_of_cycleFrom? {path : List String} (h : graph.cycleFrom? start = some path) :
    path.head? = some start := by
  obtain ⟨rest, rfl, _⟩ := round_of_cycleFrom? h
  rfl

theorem exists_round_of_mem_cycles {path : List String} (h : path ∈ graph.cycles) :
    ∃ least rest, path = least :: (rest ++ [least]) ∧ graph.Round least rest := by
  obtain ⟨start, _, hstart⟩ := List.mem_filterMap.1 h
  exact ⟨start, round_of_cycleFrom? hstart⟩

/-- The names that paths are reported from come in order, as the sources do. -/
theorem sorted_starts (graph : ReferenceGraph) :
    (graph.cycles.filterMap List.head?).Pairwise (· < ·) := by
  rw [cycles, List.filterMap_filterMap, List.pairwise_filterMap]
  refine graph.sorted_sources.imp fun {first second} hless least hfirst other hsecond => ?_
  obtain ⟨path, hpath, hleast⟩ := Option.bind_eq_some_iff.1 hfirst
  obtain ⟨later, hlater, hother⟩ := Option.bind_eq_some_iff.1 hsecond
  rw [head?_of_cycleFrom? hpath] at hleast
  rw [head?_of_cycleFrom? hlater] at hother
  rw [← Option.some.inj hleast, ← Option.some.inj hother]
  exact hless

/-! ### What is not missed -/

/-- The name is on a cycle, which may be a name that refers to itself, and no name of the cycle is
smaller. -/
def IsLeastOfCycle (graph : ReferenceGraph) (name : String) : Prop :=
  ∃ cycle : Cycle String, cycle.Chain graph.Edge ∧ name ∈ cycle ∧ ∀ other ∈ cycle, name ≤ other

theorem transGen_of_isChain {relation : String → String → Prop} {first last : String}
    {rest : List String} (h : (first :: (rest ++ [last])).IsChain relation) :
    Relation.TransGen relation first last := by
  induction rest generalizing first with
  | nil => exact .single (List.isChain_pair.1 h)
  | cons second rest ih =>
      obtain ⟨hstep, hrest⟩ := List.isChain_cons_cons.1 h
      exact .head hstep (ih hrest)

/-- A cycle can be gone round from each of its names. -/
theorem exists_coe_cons_eq {cycle : Cycle String} {name : String} (h : name ∈ cycle) :
    ∃ rest : List String, cycle = ↑(name :: rest) := by
  induction cycle using Quotient.inductionOn with
  | h names =>
      obtain ⟨before, after, rfl⟩ := List.append_of_mem h
      exact ⟨after ++ before, Cycle.coe_eq_coe.2 List.isRotated_append⟩

theorem Round.isLeastOfCycle {least : String} {rest : List String} (h : graph.Round least rest) :
    graph.IsLeastOfCycle least := by
  refine ⟨↑(least :: rest), (Cycle.chain_coe_cons _ _ _).2 h.edges, ?_, fun other hother => ?_⟩
  · exact Cycle.mem_coe_iff.2 List.mem_cons_self
  · rcases List.mem_cons.1 (Cycle.mem_coe_iff.1 hother) with rfl | hother
    · exact le_rfl
    · exact (h.least_lt other hother).le

theorem IsLeastOfCycle.transGen {name : String} (h : graph.IsLeastOfCycle name) :
    Relation.TransGen (graph.EdgeAbove name) name name := by
  obtain ⟨cycle, hchain, hname, hleast⟩ := h
  obtain ⟨rest, rfl⟩ := exists_coe_cons_eq hname
  rw [Cycle.chain_coe_cons] at hchain
  have habove : ∀ other ∈ rest ++ [name], name ≤ other := by
    intro other hother
    rcases List.mem_append.1 hother with hother | hother
    · exact hleast other (Cycle.mem_coe_iff.2 (List.mem_cons_of_mem _ hother))
    · rw [List.mem_singleton.1 hother]
  apply transGen_of_isChain
  exact hchain.imp_of_mem_tail_imp fun _ target _ htarget hedge => ⟨hedge, habove target htarget⟩

theorem exists_mem_cycles_iff {name : String} :
    (∃ path ∈ graph.cycles, path.head? = some name) ↔ graph.IsLeastOfCycle name := by
  constructor
  · rintro ⟨path, hpath, hhead⟩
    obtain ⟨least, rest, rfl, hround⟩ := exists_round_of_mem_cycles hpath
    rw [← Option.some.inj hhead]
    exact hround.isLeastOfCycle
  · intro hleast
    obtain ⟨path, hpath⟩ := Option.ne_none_iff_exists'.1 (cycleFrom?_ne_none hleast.transGen)
    obtain ⟨_, hedge, _⟩ := Relation.TransGen.head'_iff.1 hleast.transGen
    exact ⟨path, List.mem_filterMap.2 ⟨name, mem_sources_of_edge hedge.1, hpath⟩,
      head?_of_cycleFrom? hpath⟩

theorem cycles_eq_nil_iff : graph.cycles = [] ↔ graph.Acyclic := by
  refine ⟨acyclic_of_cycles_eq_nil, fun hacyclic => ?_⟩
  refine List.eq_nil_iff_forall_not_mem.2 fun path hpath => ?_
  obtain ⟨least, rest, _, hround⟩ := exists_round_of_mem_cycles hpath
  exact hacyclic least (transGen_of_isChain hround.edges)

/-- The search for cycles is exact for the least name of each: it comes to an end from every name,
its paths go once round a cycle from the least name, in the order of these names, and a path starts
from just the names that are the least of some cycle. -/
theorem cycles_exact (graph : ReferenceGraph) :
    (∀ start, ∃ found path seen,
      (∀ outcome, graph.Explores start (graph.targets start) [start] ∅ outcome ↔
        outcome = (found, path, seen)) ∧
      graph.cycleFrom? start = if found then some path else none) ∧
    (graph.cycles.filterMap List.head?).Pairwise (· < ·) ∧
    (∀ path ∈ graph.cycles, ∃ least rest, path = least :: (rest ++ [least]) ∧
      (least :: rest).Nodup ∧ (∀ name ∈ rest, least < name) ∧ path.IsChain graph.Edge) ∧
    (∀ name, (∃ path ∈ graph.cycles, path.head? = some name) ↔
      ∃ cycle : Cycle String, cycle.Chain graph.Edge ∧ name ∈ cycle ∧
        ∀ other ∈ cycle, name ≤ other) ∧
    (graph.cycles = [] ↔ ∀ name, ¬ Relation.TransGen graph.Edge name name) := by
  refine ⟨exists_explores graph, sorted_starts graph, fun path hpath => ?_,
    fun name => exists_mem_cycles_iff, cycles_eq_nil_iff⟩
  obtain ⟨least, rest, rfl, hround⟩ := exists_round_of_mem_cycles hpath
  exact ⟨least, rest, rfl, hround.nodup, hround.least_lt, hround.edges⟩

/-- Three names in a ring, one of which also refers to itself, and a name that refers to nothing. -/
def ring : ReferenceGraph :=
  ((empty.addTargets "a" ["b", "c"]).addTargets "b" ["c"]).addTargets "c" ["a", "c", "d"]

theorem cycles_ring : ring.cycles = [["a", "b", "c", "a"], ["c", "c"]] := by
  cbv

/-- No cycle has `b` as its least name, though `b` is on one. -/
theorem cycles_exact_ring :
    ["a", "b", "c", "a"] ∈ ring.cycles ∧ ["a", "b", "c", "a"].IsChain ring.Edge ∧
      ring.IsLeastOfCycle "c" ∧ ¬ ring.IsLeastOfCycle "b" := by
  obtain ⟨_, _, hround, hstarts, _⟩ := cycles_exact ring
  have hpath : ["a", "b", "c", "a"] ∈ ring.cycles := by
    rw [cycles_ring]
    exact List.mem_cons_self
  obtain ⟨_, _, _, _, _, hedges⟩ := hround _ hpath
  refine ⟨hpath, hedges, (hstarts "c").1 ?_, fun hleast => ?_⟩
  · simp [cycles_ring]
  · have hreported := (hstarts "b").2 hleast
    simp [cycles_ring] at hreported

end RandomTables.ReferenceGraph
