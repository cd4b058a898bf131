import Mathlib
import RandomTables.Proofs.Expansion.Ensures
import RandomTables.Proofs.Lint.References
import RandomTables.Proofs.ReferenceGraph.Search
import RandomTables.Random.Scripted

/-!
Tables without a reported cycle are expanded to the end. The tables that enclose one another in an
expansion lie along a way in the reference graph, so that without a cycle no table encloses itself,
and no more tables can be nested than there are.
-/

namespace RandomTables

namespace Lint

variable {expander : Expander}

theorem acyclic_of_no_cycle (h : ∀ path, .cycle path ∉ warnings expander) :
    (graph expander).Acyclic := by
  refine ReferenceGraph.acyclic_of_cycles_eq_nil (List.eq_nil_iff_forall_not_mem.2 fun path => ?_)
  exact fun hpath => h path (cycle_mem_warnings_iff.2 hpath)

/-- The tables that enclose the expansion of `name` in `scope`: stored ones, none of them twice, and
each refers, perhaps through others, to the table that `name` finds. -/
structure Enclosing (expander : Expander) (enclosing : List String) (name : String)
    (scope : Option String) : Prop where
  nodup : enclosing.Nodup
  stored : ∀ outer ∈ enclosing, outer ∈ expander.tables.names
  reaches : ∀ table, expander.findTable name scope = some table →
    ∀ outer ∈ enclosing, Relation.TransGen (graph expander).Edge outer table.name

variable {enclosing : List String} {name : String} {scope : Option String} {table : Table}

theorem Enclosing.nodup_cons (h : Enclosing expander enclosing name scope)
    (acyclic : (graph expander).Acyclic) (hfound : expander.findTable name scope = some table) :
    (table.name :: enclosing).Nodup := by
  rw [List.nodup_cons]
  exact ⟨fun hmem => acyclic table.name (h.reaches table hfound table.name hmem), h.nodup⟩

theorem Enclosing.stored_cons (h : Enclosing expander enclosing name scope)
    (hfound : expander.findTable name scope = some table) :
    ∀ outer ∈ table.name :: enclosing, outer ∈ expander.tables.names := by
  intro outer houter
  rcases List.mem_cons.1 houter with rfl | houter
  · exact Store.mem_names_of_get? (Expander.get?_of_findTable hfound)
  · exact h.stored outer houter

theorem Enclosing.length_lt_size (h : Enclosing expander enclosing name scope)
    (acyclic : (graph expander).Acyclic) (hfound : expander.findTable name scope = some table) :
    enclosing.length < expander.tables.size := by
  have hlength := ((h.nodup_cons acyclic hfound).subperm (h.stored_cons hfound)).length_le
  rw [Store.length_names, List.length_cons] at hlength
  omega

theorem Enclosing.step (h : Enclosing expander enclosing name scope)
    (acyclic : (graph expander).Acyclic) (hfound : expander.findTable name scope = some table)
    {alternative : Alternative} (hpicked : alternative ∈ table.alternatives) {reference : String}
    (hreference : reference ∈ Template.references alternative.text) :
    Enclosing expander (table.name :: enclosing) reference (some (Name.topLevel table.name)) where
  nodup := h.nodup_cons acyclic hfound
  stored := h.stored_cons hfound
  reaches := by
    intro inner hinner outer houter
    have hedge : (graph expander).Edge table.name inner.name :=
      edge_graph_iff.2 ⟨table, Expander.get?_of_findTable hfound, alternative, hpicked,
        mem_tableTargets_iff.2 ⟨reference, hreference, inner, hinner, rfl⟩⟩
    rcases List.mem_cons.1 houter with rfl | houter
    · exact .single hedge
    · exact (h.reaches table hfound outer houter).tail hedge

end Lint

namespace Expander

variable {σ : Type} [RandomSource σ] {expander : Expander}

/-- The tables that enclose an expansion and those that may still be nested are together at least as
many as there are tables, and each step inwards keeps their number. -/
theorem ensures_expandWithin_of_acyclic (acyclic : (Lint.graph expander).Acyclic)
    {remaining : Nat} {enclosing : List String} {name : String} {scope : Option String}
    (henclosing : Lint.Enclosing expander enclosing name scope)
    (room : expander.tables.size ≤ enclosing.length + remaining) :
    Expansion.Ensures (expander.expandWithin remaining name scope : Expansion σ String)
      (fun _ => True) fun _ => False := by
  induction remaining generalizing enclosing name scope with
  | zero =>
      refine ensures_expandWith_error ?_
      intro table hfound
      have hless := henclosing.length_lt_size acyclic hfound
      omega
  | succ remaining ih =>
      refine ensures_expandWith_error ?_
      intro table hfound
      refine ensures_expandPicked_error ?_
      intro alternative hpicked reference hreference
      refine ih (henclosing.step acyclic hfound hpicked hreference) ?_
      rw [List.length_cons]
      omega

theorem ensures_expand_of_acyclic (acyclic : (Lint.graph expander).Acyclic)
    (deep : expander.tables.size ≤ expander.maxDepth) (name : String) (scope : Option String) :
    Expansion.Ensures (expander.expand name scope : Expansion σ String) (fun _ => True)
      fun _ => False :=
  ensures_expandWithin_of_acyclic acyclic ⟨List.nodup_nil, by simp, by simp⟩ (by simpa using deep)

/-- Where the linter reports no cycle and the limit is not below the number of tables, no name, as a
reference or by itself, and no text runs into the limit. -/
theorem expand_ok_of_no_cycle (expander : Expander)
    (deep : expander.tables.size ≤ expander.maxDepth)
    (clean : ∀ path, Problem.cycle path ∉ Lint.warnings expander) (scope : Option String)
    (source : σ) :
    (∀ name result rest,
      (expander.expand name scope : Expansion σ String).run source = .ok (result, rest) →
        ∃ out, result = .ok out) ∧
    (∀ text result rest,
      (expander.expandText text scope : Expansion σ String).run source = .ok (result, rest) →
        ∃ out, result = .ok out) := by
  have acyclic := Lint.acyclic_of_no_cycle clean
  constructor
  · intro name result rest hrun
    obtain ⟨out, hout, -⟩ := (ensures_expand_of_acyclic acyclic deep name scope).exists_ok hrun
    exact ⟨out, hout⟩
  · intro text result rest hrun
    have hnames : ∀ name ∈ Template.references text,
        Expansion.Ensures (expander.expand name scope : Expansion σ String) (fun _ => True)
          fun _ => False :=
      fun name _ => ensures_expand_of_acyclic acyclic deep name scope
    obtain ⟨out, hout, -⟩ := (Expansion.ensures_substitute hnames).exists_ok hrun
    exact ⟨out, hout⟩

def cards : Expander where
  tables := (Store.empty.insert ⟨"card", [.literal "[rank] of Spades"]⟩).insert
    ⟨"card.rank", [.literal "Ace", .weighted "[2-10]" 9]⟩
  dice := Dice.Registry.empty
  standardFaces := .standard
  maxDepth := 2

theorem graph_cards : Lint.graph cards =
    (ReferenceGraph.empty.addTargets "card" ["card.rank"]).addTargets "card.rank" [] := by
  have htables : cards.tables.tables = [⟨"card", [.literal "[rank] of Spades"]⟩,
      ⟨"card.rank", [.literal "Ace", .weighted "[2-10]" 9]⟩] := by cbv
  have hcard : Lint.tableTargets cards "card" (.literal "[rank] of Spades") = ["card.rank"] := by
    cbv
  have hace : Lint.tableTargets cards "card.rank" (.literal "Ace") = [] := by cbv
  have hnumber : Lint.tableTargets cards "card.rank" (.weighted "[2-10]" 9) = [] := by cbv
  simp [Lint.graph, htables, hcard, hace, hnumber]

theorem cycles_cards : (Lint.graph cards).cycles = [] := by
  have hsources : (Lint.graph cards).sources = ["card", "card.rank"] := by
    rw [graph_cards]
    cbv
  have hcard : (Lint.graph cards).targets "card" = ["card.rank"] := by
    rw [graph_cards]
    cbv
  have hrank : (Lint.graph cards).targets "card.rank" = [] := by
    rw [graph_cards]
    cbv
  have hsize : (Lint.graph cards).targetNames.size = 1 := by
    rw [graph_cards]
    cbv
  have hfromCard : (Lint.graph cards).cycleFrom? "card" = none := by
    simp [ReferenceGraph.cycleFrom?, ReferenceGraph.wayBack, hcard, hrank, hsize]
    split <;> rfl
  have hfromRank : (Lint.graph cards).cycleFrom? "card.rank" = none := by
    simp [ReferenceGraph.cycleFrom?, ReferenceGraph.wayBack, hrank]
  simp [ReferenceGraph.cycles, hsources, hfromCard, hfromRank]

theorem expand_ok_of_no_cycle_cards :
    cards.tables.size ≤ cards.maxDepth ∧ (∀ path, .cycle path ∉ Lint.warnings cards) ∧
      ∃ out rest, (cards.expand "card" none : Expansion Scripted String).run
        (Scripted.ofWords [1, 2]) = .ok (.ok out, rest) := by
  have deep : cards.tables.size ≤ cards.maxDepth := by cbv
  have clean : ∀ path, .cycle path ∉ Lint.warnings cards := by
    simp [Lint.cycle_mem_warnings_iff, cycles_cards]
  have hrun : (cards.expand "card" none : Expansion Scripted String).run (Scripted.ofWords [1, 2]) =
      .ok (.ok "Ace of Spades", ⟨[], 2⟩) := by cbv
  obtain ⟨out, hout⟩ :=
    (expand_ok_of_no_cycle cards deep clean none (Scripted.ofWords [1, 2])).1 "card" _ _ hrun
  exact ⟨deep, clean, out, _, hout ▸ hrun⟩

end Expander

end RandomTables
