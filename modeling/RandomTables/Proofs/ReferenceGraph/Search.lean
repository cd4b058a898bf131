import Mathlib.Data.Finset.Max
import Mathlib.Data.String.Basic
import RandomTables.Proofs.ReferenceGraph.Edge

/-!
A search from a name goes through larger names only and never twice through one. What it has been at
when it fails is closed under the edges, as far as they lead to such names. So a search that fails
shows that no cycle has its smallest name where the search began, and a graph without reported
cycles has none.
-/

namespace RandomTables.ReferenceGraph

variable {graph : ReferenceGraph} {start : String}

/-- A search from `start` does not go on to `name`: it is smaller, or it has been seen. -/
def Passed (start : String) (seen : Std.ExtTreeSet String) (name : String) : Prop :=
  name < start ∨ name ≠ start ∧ name ∈ seen

theorem Passed.ne {seen : Std.ExtTreeSet String} {name : String} (h : Passed start seen name) :
    name ≠ start := by
  rcases h with hless | ⟨hne, _⟩
  · exact hless.ne
  · exact hne

theorem Passed.mono {before after : Std.ExtTreeSet String} {name : String}
    (h : Passed start before name) (grows : ∀ other, other ∈ before → other ∈ after) :
    Passed start after name :=
  h.imp_right (And.imp_right (grows name))

theorem not_mem_of_not_skipped {seen : Std.ExtTreeSet String} {name : String}
    (h : ¬ (name < start ∨ seen.contains name = true)) : name ∉ seen :=
  fun hseen => h (Or.inr (Std.ExtTreeSet.contains_iff_mem.2 hseen))

/-- What a search through `names` that finds no way back has done to the names seen before. -/
structure Exhausted (graph : ReferenceGraph) (start : String) (names : List String)
    (before after : Std.ExtTreeSet String) : Prop where
  grows : ∀ name, name ∈ before → name ∈ after
  passed : ∀ name ∈ names, Passed start after name
  closed : ∀ name, name ∈ after → name ∉ before →
    ∀ target, graph.Edge name target → Passed start after target

def unseen (graph : ReferenceGraph) (seen : Std.ExtTreeSet String) : Finset String :=
  graph.targetNames.toList.toFinset.filter (· ∉ seen)

theorem mem_unseen {seen : Std.ExtTreeSet String} {name : String} :
    name ∈ graph.unseen seen ↔ name ∈ graph.targetNames ∧ name ∉ seen := by
  simp [unseen]

theorem card_unseen_empty_le : (graph.unseen ∅).card ≤ graph.targetNames.size := by
  calc (graph.unseen ∅).card
      ≤ graph.targetNames.toList.toFinset.card := Finset.card_filter_le _ _
    _ ≤ graph.targetNames.toList.length := List.toFinset_card_le _
    _ = graph.targetNames.size := Std.ExtTreeSet.length_toList

theorem card_unseen_le {before after : Std.ExtTreeSet String}
    (grows : ∀ name, name ∈ before → name ∈ after) :
    (graph.unseen after).card ≤ (graph.unseen before).card := by
  refine Finset.card_le_card ?_
  intro name hname
  rw [mem_unseen] at hname ⊢
  exact ⟨hname.1, fun hseen => hname.2 (grows name hseen)⟩

theorem card_unseen_insert_lt {seen : Std.ExtTreeSet String} {name : String}
    (known : name ∈ graph.targetNames) (fresh : name ∉ seen) :
    (graph.unseen (seen.insert name)).card < (graph.unseen seen).card := by
  refine Finset.card_lt_card ((Finset.ssubset_iff_of_subset fun other hother => ?_).2
    ⟨name, mem_unseen.2 ⟨known, fresh⟩, fun hname => ?_⟩)
  · rw [mem_unseen] at hother ⊢
    exact ⟨hother.1, fun hseen => hother.2 (Std.ExtTreeSet.mem_insert.2 (Or.inr hseen))⟩
  · exact (mem_unseen.1 hname).2 Std.ExtTreeSet.mem_insert_self

/-- The search goes one name deeper only after it has marked the name, so that there is room for as
many steps down as there are names unseen. -/
theorem exhausted_of_wayBack_eq_none {fuel : Nat} {names : List String}
    {seen after : Std.ExtTreeSet String} (known : ∀ name ∈ names, name ∈ graph.targetNames)
    (room : (graph.unseen seen).card < fuel)
    (failed : graph.wayBack start fuel names seen = (none, after)) :
    Exhausted graph start names seen after := by
  fun_induction wayBack graph start fuel names seen generalizing after with
  | case1 => omega
  | case2 =>
      obtain rfl : _ = after := congrArg Prod.snd failed
      exact ⟨fun _ h => h, by simp, fun _ hafter hbefore => absurd hafter hbefore⟩
  | case3 => simp at failed
  | case4 fuel name names seen hne hskip ih =>
      have hrest := ih (fun other h => known other (List.mem_cons_of_mem _ h)) room failed
      refine ⟨hrest.grows, ?_, hrest.closed⟩
      intro other hother
      rcases List.mem_cons.1 hother with rfl | hother
      · refine hskip.imp_right fun hseen => ⟨hne, hrest.grows _ ?_⟩
        exact Std.ExtTreeSet.contains_iff_mem.1 hseen
      · exact hrest.passed other hother
  | case5 => simp at failed
  | case6 fuel name names seen hne hskip mid hmid ihDown ihRest =>
      have hname : name ∈ graph.targetNames := known name List.mem_cons_self
      have hless := card_unseen_insert_lt hname (not_mem_of_not_skipped hskip)
      have hdown := ihDown (fun _ => mem_targetNames_of_edge) (by omega) hmid
      have hgrows : ∀ other, other ∈ seen → other ∈ mid := fun other h =>
        hdown.grows other (Std.ExtTreeSet.mem_insert.2 (Or.inr h))
      have hrest := ihRest (fun other h => known other (List.mem_cons_of_mem _ h))
        (lt_of_le_of_lt (card_unseen_le hgrows) room) failed
      have hpassed : ∀ other, Passed start mid other → Passed start after other :=
        fun _ hother => hother.mono hrest.grows
      refine ⟨fun other h => hrest.grows other (hgrows other h), ?_, ?_⟩
      · intro other hother
        rcases List.mem_cons.1 hother with rfl | hother
        · exact Or.inr ⟨hne, hrest.grows _ (hdown.grows _ Std.ExtTreeSet.mem_insert_self)⟩
        · exact hrest.passed other hother
      · intro other hafter hbefore target hedge
        by_cases hother : other ∈ mid
        · by_cases heq : name = other
          · subst heq
            exact hpassed target (hdown.passed target hedge)
          · refine hpassed target (hdown.closed other hother ?_ target hedge)
            rw [Std.ExtTreeSet.mem_insert, Std.LawfulEqCmp.compare_eq_iff_eq]
            exact fun h => h.elim heq hbefore
        · exact hrest.closed other hafter hother target hedge

def EdgeAbove (graph : ReferenceGraph) (start source target : String) : Prop :=
  graph.Edge source target ∧ start ≤ target

/-- The search misses no way back through names that are not smaller. -/
theorem cycleFrom?_ne_none (h : Relation.TransGen (graph.EdgeAbove start) start start) :
    graph.cycleFrom? start ≠ none := by
  intro hnone
  obtain ⟨after, hfailed⟩ : ∃ after,
      graph.wayBack start (graph.targetNames.size + 1) (graph.targets start) ∅ = (none, after) :=
    ⟨_, Prod.ext (Option.map_eq_none_iff.1 hnone) rfl⟩
  have hexhausted := exhausted_of_wayBack_eq_none (fun _ => mem_targetNames_of_edge)
    (Nat.lt_succ_of_le card_unseen_empty_le) hfailed
  have hpassed : ∀ name, Relation.TransGen (graph.EdgeAbove start) start name →
      Passed start after name := by
    intro name hway
    induction hway with
    | single hedge => exact hexhausted.passed _ hedge.1
    | tail hway hedge ih =>
        rename_i middle target
        have hmiddle : start ≤ middle := by
          cases hway with
          | single hedge => exact hedge.2
          | tail _ hedge => exact hedge.2
        rcases ih with hless | ⟨_, hseen⟩
        · exact absurd hless (not_lt_of_ge hmiddle)
        · exact hexhausted.closed _ hseen Std.ExtTreeSet.not_mem_empty _ hedge.1
  exact (hpassed start h).ne rfl

/-- From the smallest of the names that lie on cycles, every name of its cycle is larger. -/
theorem edgeAbove_of_least {least name : String}
    (smallest : ∀ other, Relation.TransGen graph.Edge other other → least ≤ other)
    (forth : Relation.TransGen graph.Edge least name)
    (back : Relation.TransGen graph.Edge name least) :
    Relation.TransGen (graph.EdgeAbove least) least name := by
  induction forth with
  | single hedge =>
      exact .single ⟨hedge, smallest _ (back.trans (.single hedge))⟩
  | tail hway hedge ih =>
      exact (ih (.head hedge back)).tail ⟨hedge, smallest _ (back.trans (hway.tail hedge))⟩

theorem acyclic_of_cycles_eq_nil (h : graph.cycles = []) : graph.Acyclic := by
  classical
  by_contra hcyclic
  obtain ⟨name, hname⟩ : ∃ name, Relation.TransGen graph.Edge name name := by
    simpa [Acyclic] using hcyclic
  have hsource : ∀ name, Relation.TransGen graph.Edge name name → name ∈ graph.sources := by
    intro name hway
    obtain ⟨_, hedge, _⟩ := Relation.TransGen.head'_iff.1 hway
    exact mem_sources_of_edge hedge
  set cyclic := graph.sources.toFinset.filter fun name => Relation.TransGen graph.Edge name name
    with hdef
  have hmem : ∀ name, name ∈ cyclic ↔ Relation.TransGen graph.Edge name name := by
    intro name
    simp only [hdef, Finset.mem_filter, List.mem_toFinset]
    exact ⟨And.right, fun hway => ⟨hsource name hway, hway⟩⟩
  obtain ⟨least, hleast, hsmallest⟩ :=
    cyclic.exists_min_image id ⟨name, (hmem name).2 hname⟩
  have hway : Relation.TransGen graph.Edge least least := (hmem least).1 hleast
  have habove := edgeAbove_of_least (fun other h => hsmallest other ((hmem other).2 h)) hway hway
  have hfound := cycleFrom?_ne_none habove
  have hnone : graph.cycleFrom? least = none :=
    List.filterMap_eq_nil_iff.1 h least (hsource least hway)
  exact hfound hnone

end RandomTables.ReferenceGraph
