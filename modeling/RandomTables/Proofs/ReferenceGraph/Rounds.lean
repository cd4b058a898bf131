import Mathlib
import RandomTables.Proofs.ReferenceGraph.Cycles

/-!
Which of the cycles with the same least name is reported. The search goes through the names in
order, and a name that it has given up leads back only through names that are on its path. So no way
back that is earlier in the order of a dictionary is passed over, and of all rounds from a least
name the first one is reported, and no other.
-/

namespace RandomTables.ReferenceGraph

variable {graph : ReferenceGraph} {start : String}

/-! ### Names on cycles -/

/-- The shortest way between two names goes through no name twice. -/
theorem exists_nodup_of_reflTransGen {relation : String → String → Prop} {first last : String}
    (h : Relation.ReflTransGen relation first last) :
    ∃ rest, (rest ++ [last]).head? = some first ∧ (rest ++ [last]).Nodup ∧
      (rest ++ [last]).IsChain relation := by
  induction h using Relation.ReflTransGen.head_induction_on with
  | refl => exact ⟨[], rfl, List.nodup_singleton last, List.isChain_singleton last⟩
  | @head first second hstep _ ih =>
      obtain ⟨rest, hhead, hnodup, hchain⟩ := ih
      by_cases hlast : first = last
      · subst hlast
        exact ⟨[], rfl, List.nodup_singleton first, List.isChain_singleton first⟩
      by_cases hfirst : first ∈ rest
      · -- The way comes back to where it began; what is before that is left out.
        obtain ⟨before, after, rfl⟩ := List.append_of_mem hfirst
        rw [List.append_assoc] at hnodup hchain
        exact ⟨first :: after, rfl, hnodup.of_append_right, hchain.right_of_append⟩
      · refine ⟨first :: rest, rfl, List.nodup_cons.2 ⟨?_, hnodup⟩, hchain.cons ?_⟩
        · simp [hfirst, hlast]
        · intro next hnext
          rw [hhead] at hnext
          cases hnext
          exact hstep

/-- Once round a cycle, the least name leads to each of the others and they lead back to it. -/
theorem Round.transGen {least name : String} {rest : List String} (h : graph.Round least rest)
    (hname : name ∈ least :: rest) :
    Relation.TransGen graph.Edge least name ∧ Relation.TransGen graph.Edge name least := by
  rcases List.mem_cons.1 hname with rfl | hname
  · exact ⟨transGen_of_isChain h.edges, transGen_of_isChain h.edges⟩
  · obtain ⟨before, after, rfl⟩ := List.append_of_mem hname
    have hedges := h.edges
    rw [List.append_assoc, List.cons_append, ← List.cons_append] at hedges
    obtain ⟨hforth, hback⟩ := List.isChain_split.1 hedges
    exact ⟨transGen_of_isChain hforth, transGen_of_isChain hback⟩

/-- A name that leads back to itself is on a cycle that can be gone round from its least name. -/
theorem exists_round_of_transGen {name : String} (h : Relation.TransGen graph.Edge name name) :
    ∃ least rest, graph.Round least rest ∧ name ∈ least :: rest := by
  obtain ⟨next, hedge, hback⟩ := Relation.TransGen.head'_iff.1 h
  obtain ⟨way, hhead, hnodup, hchain⟩ := exists_nodup_of_reflTransGen hback
  have hwhole : (name :: (way ++ [name])).IsChain graph.Edge := by
    refine hchain.cons fun first hfirst => ?_
    rw [hhead] at hfirst
    cases hfirst
    exact hedge
  have hdistinct : (name :: way).Nodup := List.nodup_append_comm.1 hnodup
  obtain ⟨least, hleast, hsmallest⟩ :=
    (name :: way).toFinset.exists_min_image id ⟨name, by simp⟩
  have hcycle : (↑(name :: way) : Cycle String).Chain graph.Edge :=
    (Cycle.chain_coe_cons _ _ _).2 hwhole
  obtain ⟨rest, hrest⟩ := exists_coe_cons_eq (Cycle.mem_coe_iff.2 (List.mem_toFinset.1 hleast))
  have hsame : ∀ other, other ∈ name :: way ↔ other ∈ least :: rest := by
    intro other
    rw [← Cycle.mem_coe_iff, hrest, Cycle.mem_coe_iff]
  have hdistinct' : (least :: rest).Nodup := by
    rw [← Cycle.nodup_coe_iff, ← hrest, Cycle.nodup_coe_iff]
    exact hdistinct
  rw [hrest, Cycle.chain_coe_cons] at hcycle
  refine ⟨least, rest, ⟨hdistinct', fun other hother => ?_, hcycle⟩, ?_⟩
  · have hle : least ≤ other := by
      refine hsmallest other (List.mem_toFinset.2 ((hsame other).2 ?_))
      exact List.mem_cons_of_mem _ hother
    refine lt_of_le_of_ne hle ?_
    rintro rfl
    exact (List.nodup_cons.1 hdistinct').1 hother
  · exact (hsame name).1 List.mem_cons_self

/-- Where each edge leads from a hub to a larger name, or back to the hub, every round goes from the
hub to one other name and back. -/
theorem Round.of_hub {least : String} {rest : List String} (h : graph.Round least rest)
    (hub : String) (edges : ∀ source target, graph.Edge source target →
      source = hub ∧ hub < target ∨ target = hub ∧ hub < source) :
    least = hub ∧ ∃ next, rest = [next] ∧ graph.Edge hub next := by
  have hchain := h.edges
  cases rest with
  | nil =>
      rcases edges _ _ (List.isChain_pair.1 hchain) with ⟨rfl, hless⟩ | ⟨rfl, hless⟩ <;>
        exact absurd hless (lt_irrefl _)
  | cons next rest =>
      obtain ⟨hedge, hchain⟩ := List.isChain_cons_cons.1 hchain
      have hnext : least < next := h.least_lt next List.mem_cons_self
      obtain ⟨rfl, -⟩ := (edges _ _ hedge).resolve_right fun ⟨heq, hless⟩ =>
        lt_asymm hnext (heq ▸ hless)
      cases rest with
      | nil => exact ⟨rfl, next, rfl, hedge⟩
      | cons third rest =>
          have hthird : least < third := h.least_lt third (by simp)
          rcases edges _ _ (List.isChain_cons_cons.1 hchain).1 with ⟨rfl, -⟩ | ⟨rfl, -⟩
          · exact absurd hnext (lt_irrefl _)
          · exact absurd hthird (lt_irrefl _)

/-! ### The search and the ways that it passes over -/

/-- The names seen that are off `path` are dead ends: none of them leads to `start`, nor to a larger
name that is not seen. -/
def DeadEnds (graph : ReferenceGraph) (start : String) (path : List String)
    (seen : Std.ExtTreeSet String) : Prop :=
  ∀ name, name ∈ seen → name ∉ path → ∀ target, graph.Edge name target → Passed start seen target

/-- A way through `rest` back to `start`, off `path` and through larger names, none of them
twice. -/
structure Way (graph : ReferenceGraph) (start : String) (path rest : List String) : Prop where
  nodup : rest.Nodup
  start_lt : ∀ name ∈ rest, start < name
  off : ∀ name ∈ rest, name ∉ path
  edges : (rest ++ [start]).IsChain graph.Edge

namespace Way

variable {path rest : List String} {name : String} {seen : Std.ExtTreeSet String}

theorem tail (h : graph.Way start path (name :: rest)) : graph.Way start path rest where
  nodup := h.nodup.of_cons
  start_lt other hother := h.start_lt other (List.mem_cons_of_mem _ hother)
  off other hother := h.off other (List.mem_cons_of_mem _ hother)
  edges := h.edges.tail

/-- Behind its first name a way keeps off that name as well. -/
theorem below (h : graph.Way start path (name :: rest)) :
    graph.Way start (name :: path) rest := by
  refine { h.tail with off := fun other hother hpath => ?_ }
  rcases List.mem_cons.1 hpath with rfl | hpath
  · exact (List.nodup_cons.1 h.nodup).1 hother
  · exact h.tail.off other hother hpath

/-- A way that keeps off the path goes through no name that is seen: it could not leave the dead
ends again. -/
theorem not_mem_of_deadEnds (h : graph.Way start path (name :: rest))
    (hdead : graph.DeadEnds start path seen) : name ∉ seen := by
  intro hseen
  have hpassed : ∀ target, graph.Edge name target → Passed start seen target :=
    hdead name hseen (h.off name List.mem_cons_self)
  induction rest generalizing name with
  | nil =>
      have hedge : graph.Edge name start := List.isChain_pair.1 h.edges
      exact (hpassed start hedge).ne rfl
  | cons next rest ih =>
      have hedge : graph.Edge name next := (List.isChain_cons_cons.1 h.edges).1
      rcases hpassed next hedge with hless | ⟨_, hnext⟩
      · exact lt_asymm hless (h.tail.start_lt next List.mem_cons_self)
      · exact ih h.tail hnext (hdead next hnext (h.tail.off next List.mem_cons_self))

end Way

theorem DeadEnds.insert {path : List String} {seen : Std.ExtTreeSet String} {name : String}
    (h : graph.DeadEnds start path seen) :
    graph.DeadEnds start (name :: path) (seen.insert name) := by
  intro other hother hoff target hedge
  rw [List.mem_cons, not_or] at hoff
  rw [Std.ExtTreeSet.mem_insert, Std.LawfulEqCmp.compare_eq_iff_eq] at hother
  have hseen : other ∈ seen := hother.resolve_left fun heq => hoff.1 heq.symm
  exact (h other hseen hoff.2 target hedge).mono fun _ hseen =>
    Std.ExtTreeSet.mem_insert.2 (Or.inr hseen)

/-- When a search from `name` fails, `name` and whatever it has been at are dead ends as well. -/
theorem DeadEnds.of_exhausted {path : List String} {seen after : Std.ExtTreeSet String}
    {name : String} (h : graph.DeadEnds start path seen)
    (hfailed : Exhausted graph start (graph.targets name) (seen.insert name) after) :
    graph.DeadEnds start path after := by
  intro other hother hoff target hedge
  by_cases hbefore : other ∈ seen.insert name
  · rw [Std.ExtTreeSet.mem_insert, Std.LawfulEqCmp.compare_eq_iff_eq] at hbefore
    rcases hbefore with rfl | hseen
    · exact hfailed.passed target hedge
    · exact (h other hseen hoff target hedge).mono fun middle hmiddle =>
        hfailed.grows middle (Std.ExtTreeSet.mem_insert.2 (Or.inr hmiddle))
  · exact hfailed.closed other hother hbefore target hedge

/-- A way through one of several names goes through the first of them, or through a later one. -/
theorem eq_cons_or_mem {name : String} {names rest : List String} (hne : name ≠ start)
    (hfirst : ∀ first ∈ (rest ++ [start]).head?, first ∈ name :: names) :
    (∃ tail, rest = name :: tail) ∨ ∀ first ∈ (rest ++ [start]).head?, first ∈ names := by
  cases rest with
  | nil =>
      refine Or.inr fun first hhead => (List.mem_cons.1 (hfirst first hhead)).resolve_left ?_
      rintro rfl
      exact hne (Option.some.inj hhead).symm
  | cons next tail =>
      rcases List.mem_cons.1 (hfirst next rfl) with rfl | hnext
      · exact Or.inl ⟨tail, rfl⟩
      · refine Or.inr fun first hhead => ?_
        rwa [← Option.some.inj hhead]

/-- The way that the search finds is not behind any other in the order of a dictionary. -/
theorem le_of_wayBack {fuel : Nat} {names path way rest : List String}
    {seen after : Std.ExtTreeSet String} (known : ∀ name ∈ names, name ∈ graph.targetNames)
    (room : (graph.unseen seen).card < fuel) (sorted : names.Pairwise (· < ·))
    (dead : graph.DeadEnds start path seen)
    (hrun : graph.wayBack start fuel names seen = (some (way ++ [start]), after))
    (hrest : graph.Way start path rest)
    (hfirst : ∀ first ∈ (rest ++ [start]).head?, first ∈ names) : way ≤ rest := by
  fun_induction wayBack graph start fuel names seen generalizing path way rest after with
  | case1 => cases hrun
  | case2 => cases hrun
  | case3 fuel names seen =>
      obtain rfl : way = [] :=
        List.append_left_eq_self.1 (Option.some.inj (Prod.mk.inj hrun).1).symm
      exact not_lt.1 (List.not_lt_nil rest)
  | case4 fuel name names seen hne hskip ih =>
      rcases eq_cons_or_mem hne hfirst with ⟨tail, rfl⟩ | hlater
      · -- A name that is skipped is too small for a way or, being seen, a dead end.
        rcases hskip with hless | hseen
        · exact absurd hless (lt_asymm (hrest.start_lt name List.mem_cons_self))
        · have hseen' : name ∈ seen := Std.ExtTreeSet.contains_iff_mem.1 hseen
          exact absurd hseen' (hrest.not_mem_of_deadEnds dead)
      · exact ih (fun other h => known other (List.mem_cons_of_mem _ h)) room sorted.of_cons dead
          hrun hrest hlater
  | case5 fuel name names seen hne hskip inner mid hinner ih =>
      have hless := card_unseen_insert_lt (known name List.mem_cons_self)
        (not_mem_of_not_skipped hskip)
      cases way with
      | nil => exact absurd (List.cons.inj (Option.some.inj (Prod.mk.inj hrun).1)).1 hne
      | cons first way =>
          obtain ⟨rfl, rfl⟩ := List.cons.inj (Option.some.inj (Prod.mk.inj hrun).1)
          rcases eq_cons_or_mem hne hfirst with ⟨tail, rfl⟩ | hlater
          · refine List.cons_le_cons name ?_
            refine ih (fun _ => mem_targetNames_of_edge) (by omega) (graph.sorted_targets name)
              dead.insert hinner hrest.below ?_
            exact (List.isChain_cons.1 hrest.edges).1
          · -- Any later name is larger, and a way has no smaller names than `start`.
            have hlarger : ∀ other ∈ names, name < other := (List.pairwise_cons.1 sorted).1
            cases rest with
            | nil => exact absurd (Or.inl (hlarger start (hlater start rfl))) hskip
            | cons next tail => exact le_of_lt (List.Lex.rel (hlarger next (hlater next rfl)))
  | case6 fuel name names seen hne hskip mid hmid ihDown ihRest =>
      have hless := card_unseen_insert_lt (known name List.mem_cons_self)
        (not_mem_of_not_skipped hskip)
      have hfailed := exhausted_of_wayBack_eq_none (fun _ => mem_targetNames_of_edge)
        (by omega) hmid
      have hdead := dead.of_exhausted hfailed
      rcases eq_cons_or_mem hne hfirst with ⟨tail, rfl⟩ | hlater
      · have hmem : name ∈ mid := hfailed.grows name Std.ExtTreeSet.mem_insert_self
        exact absurd hmem (hrest.not_mem_of_deadEnds hdead)
      · have hgrows : ∀ other, other ∈ seen → other ∈ mid := fun other h =>
          hfailed.grows other (Std.ExtTreeSet.mem_insert.2 (Or.inr h))
        exact ihRest (fun other h => known other (List.mem_cons_of_mem _ h))
          (lt_of_le_of_lt (card_unseen_le hgrows) room) sorted.of_cons hdead hrun hrest hlater

/-! ### The first round -/

/-- The first, in the order of a dictionary, of the rounds from `least`. -/
structure FirstRound (graph : ReferenceGraph) (least : String) (rest : List String) : Prop where
  round : graph.Round least rest
  le : ∀ other, graph.Round least other → rest ≤ other

theorem Round.way {rest : List String} (h : graph.Round start rest) :
    graph.Way start [start] rest where
  nodup := h.nodup.of_cons
  start_lt := h.least_lt
  off other hother := by
    rw [List.mem_singleton]
    exact (h.least_lt other hother).ne'
  edges := h.edges.tail

theorem firstRound_of_cycleFrom? {path : List String} (h : graph.cycleFrom? start = some path) :
    ∃ rest, path = start :: (rest ++ [start]) ∧ graph.FirstRound start rest := by
  obtain ⟨rest, rfl, hround⟩ := round_of_cycleFrom? h
  refine ⟨rest, rfl, hround, fun other hother => ?_⟩
  obtain ⟨way, hway, heq⟩ := Option.map_eq_some_iff.1 h
  obtain rfl : way = rest ++ [start] := (List.cons.inj heq).2
  refine le_of_wayBack (fun _ => mem_targetNames_of_edge) (Nat.lt_succ_of_le card_unseen_empty_le)
    (graph.sorted_targets start) ?_ (Prod.ext hway rfl) hother.way
    (List.isChain_cons.1 hother.edges).1
  exact fun name hname => absurd hname Std.ExtTreeSet.not_mem_empty

/-- The reported paths are the first rounds from each name. -/
theorem mem_cycles_iff {path : List String} :
    path ∈ graph.cycles ↔
      ∃ least rest, path = least :: (rest ++ [least]) ∧ graph.FirstRound least rest := by
  constructor
  · intro h
    obtain ⟨start, _, hstart⟩ := List.mem_filterMap.1 h
    exact ⟨start, firstRound_of_cycleFrom? hstart⟩
  · rintro ⟨least, rest, rfl, hfirst⟩
    obtain ⟨path, hpath, hhead⟩ := exists_mem_cycles_iff.2 hfirst.round.isLeastOfCycle
    obtain ⟨start, _, hstart⟩ := List.mem_filterMap.1 hpath
    obtain ⟨other, rfl, hother⟩ := firstRound_of_cycleFrom? hstart
    cases hhead
    have heq : other = rest :=
      le_antisymm (hother.le rest hfirst.round) (hfirst.le other hother.round)
    rwa [heq] at hpath

end RandomTables.ReferenceGraph
