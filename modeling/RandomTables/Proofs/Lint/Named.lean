import Mathlib
import RandomTables.Proofs.Lint.References
import RandomTables.Proofs.ReferenceGraph.Rounds

/-!
Which tables the warnings of cycles name. For all cycles with the same least table there is one
warning, which goes along the first of them. A table is named if it is on such a first cycle, and
being on some cycle is not enough; but the least table of each cycle is named.
-/

namespace RandomTables.Lint

variable {expander : Expander} {name : String}

theorem named_iff :
    (∃ path, .cycle path ∈ warnings expander ∧ name ∈ path) ↔
      ∃ least rest, (graph expander).FirstRound least rest ∧ name ∈ least :: rest := by
  simp only [cycle_mem_warnings_iff, ReferenceGraph.mem_cycles_iff]
  constructor
  · rintro ⟨path, ⟨least, rest, rfl, hfirst⟩, hname⟩
    refine ⟨least, rest, hfirst, ?_⟩
    simpa [or_comm] using hname
  · rintro ⟨least, rest, hfirst, hname⟩
    refine ⟨_, ⟨least, rest, rfl, hfirst⟩, ?_⟩
    rw [← List.cons_append]
    exact List.mem_append_left _ hname

/-- The least table of each cycle is named, at both ends of a warning. -/
theorem exists_path_of_round {least : String} {rest : List String}
    (h : (graph expander).Round least rest) :
    ∃ path, .cycle path ∈ warnings expander ∧ path.head? = some least := by
  obtain ⟨path, hpath, hhead⟩ := ReferenceGraph.exists_mem_cycles_iff.2 h.isLeastOfCycle
  exact ⟨path, cycle_mem_warnings_iff.2 hpath, hhead⟩

/-- A table is named in a warning of a cycle just if it is on the first of the cycles with the same
least table. That is so for every table on a cycle that shares its least table with no other; and
for every table on a cycle a warning begins with a table that it leads to and that leads back. -/
theorem cycle_warnings_name_firstRounds (expander : Expander) (name : String) :
    ((∃ path, .cycle path ∈ warnings expander ∧ name ∈ path) ↔
      ∃ least rest, (graph expander).FirstRound least rest ∧ name ∈ least :: rest) ∧
    (Relation.TransGen (graph expander).Edge name name →
      ((∀ least rest, (graph expander).Round least rest → name ∈ least :: rest →
          ∀ other, (graph expander).Round least other → other = rest) →
        ∃ path, .cycle path ∈ warnings expander ∧ name ∈ path) ∧
      ∃ path least, .cycle path ∈ warnings expander ∧ path.head? = some least ∧
        Relation.TransGen (graph expander).Edge least name ∧
        Relation.TransGen (graph expander).Edge name least) := by
  refine ⟨named_iff, fun hcycle => ?_⟩
  obtain ⟨least, rest, hround, hname⟩ := ReferenceGraph.exists_round_of_transGen hcycle
  constructor
  · intro halone
    refine named_iff.2 ⟨least, rest, ⟨hround, fun other hother => ?_⟩, hname⟩
    exact (halone least rest hround hname other hother).ge
  · obtain ⟨path, hpath, hhead⟩ := exists_path_of_round hround
    exact ⟨path, least, hpath, hhead, hround.transGen hname⟩

/-- Day and night refer to each other, and to nothing else. -/
def hours : Expander where
  tables := (Store.empty.insert ⟨"day", [.literal "[night]"]⟩).insert
    ⟨"night", [.literal "[day]", .literal "the end"]⟩
  dice := Dice.Registry.empty
  standardFaces := .standard
  maxDepth := 2

theorem graph_hours : graph hours =
    (ReferenceGraph.empty.addTargets "day" ["night"]).addTargets "night" ["day"] := by
  have htables : hours.tables.tables = [⟨"day", [.literal "[night]"]⟩,
      ⟨"night", [.literal "[day]", .literal "the end"]⟩] := by cbv
  have hday : tableTargets hours "day" (.literal "[night]") = ["night"] := by cbv
  have hnight : tableTargets hours "night" (.literal "[day]") = ["day"] := by cbv
  have hend : tableTargets hours "night" (.literal "the end") = [] := by cbv
  simp [graph, htables, hday, hnight, hend]

theorem edge_hours_iff {source target : String} :
    (graph hours).Edge source target ↔
      source = "day" ∧ target = "night" ∨ source = "night" ∧ target = "day" := by
  rw [graph_hours, ReferenceGraph.edge_addTargets_iff, ReferenceGraph.edge_addTargets_iff]
  simp [ReferenceGraph.not_edge_empty]

theorem round_hours {least : String} {rest : List String} (h : (graph hours).Round least rest) :
    rest = ["night"] := by
  obtain ⟨-, next, rfl, hedge⟩ := h.of_hub "day" fun source target hedge => by
    rcases edge_hours_iff.1 hedge with ⟨rfl, rfl⟩ | ⟨rfl, rfl⟩
    · exact Or.inl ⟨rfl, by decide +kernel⟩
    · exact Or.inr ⟨rfl, by decide +kernel⟩
  simpa [edge_hours_iff] using hedge

/-- There is one cycle, and both tables on it are named. -/
theorem cycle_warnings_name_firstRounds_hours :
    Relation.TransGen (graph hours).Edge "night" "night" ∧
      ∃ path, .cycle path ∈ warnings hours ∧ "night" ∈ path := by
  have hday : (graph hours).Edge "day" "night" := edge_hours_iff.2 (by simp)
  have hnight : (graph hours).Edge "night" "day" := edge_hours_iff.2 (by simp)
  have hcycle : Relation.TransGen (graph hours).Edge "night" "night" := .head hnight (.single hday)
  refine ⟨hcycle, ((cycle_warnings_name_firstRounds hours "night").2 hcycle).1 ?_⟩
  intro least rest hrest _ other hother
  rw [round_hours hrest, round_hours hother]

/-- Two ways round that begin in the same place. -/
def maze : Expander where
  tables := ((Store.empty.insert ⟨"maze", [.literal "[left] or [right]"]⟩).insert
    ⟨"maze.left", [.literal "[maze]"]⟩).insert ⟨"maze.right", [.literal "[maze]"]⟩
  dice := Dice.Registry.empty
  standardFaces := .standard
  maxDepth := 2

theorem graph_maze : graph maze =
    ((ReferenceGraph.empty.addTargets "maze" ["maze.left", "maze.right"]).addTargets
      "maze.left" ["maze"]).addTargets "maze.right" ["maze"] := by
  have htables : maze.tables.tables = [⟨"maze", [.literal "[left] or [right]"]⟩,
      ⟨"maze.left", [.literal "[maze]"]⟩, ⟨"maze.right", [.literal "[maze]"]⟩] := by cbv
  have hmaze : tableTargets maze "maze" (.literal "[left] or [right]") =
      ["maze.left", "maze.right"] := by cbv
  have hleft : tableTargets maze "maze.left" (.literal "[maze]") = ["maze"] := by cbv
  have hright : tableTargets maze "maze.right" (.literal "[maze]") = ["maze"] := by cbv
  simp [graph, htables, hmaze, hleft, hright]

theorem edge_maze_iff {source target : String} :
    (graph maze).Edge source target ↔
      source = "maze" ∧ (target = "maze.left" ∨ target = "maze.right") ∨
        target = "maze" ∧ (source = "maze.left" ∨ source = "maze.right") := by
  rw [graph_maze]
  simp only [ReferenceGraph.edge_addTargets_iff, ReferenceGraph.not_edge_empty, false_or,
    List.mem_cons, List.not_mem_nil, or_false]
  tauto

theorem round_maze {least : String} {rest : List String} (h : (graph maze).Round least rest) :
    least = "maze" ∧ (rest = ["maze.left"] ∨ rest = ["maze.right"]) := by
  have hless : "maze" < "maze.left" ∧ "maze" < "maze.right" := by decide +kernel
  obtain ⟨rfl, next, rfl, hedge⟩ := h.of_hub "maze" fun source target hedge => by
    rcases edge_maze_iff.1 hedge with ⟨rfl, rfl | rfl⟩ | ⟨rfl, rfl | rfl⟩ <;> simp [hless]
  simpa [edge_maze_iff] using hedge

theorem round_left : (graph maze).Round "maze" ["maze.left"] where
  nodup := by decide
  least_lt := by decide +kernel
  edges := by simp [edge_maze_iff]

/-- The way round on the right goes unmentioned. -/
theorem cycle_warnings_miss_maze :
    Relation.TransGen (graph maze).Edge "maze.right" "maze.right" ∧
      ∀ path, .cycle path ∈ warnings maze → "maze.right" ∉ path := by
  have hforth : (graph maze).Edge "maze" "maze.right" := edge_maze_iff.2 (by simp)
  have hback : (graph maze).Edge "maze.right" "maze" := edge_maze_iff.2 (by simp)
  refine ⟨.head hback (.single hforth), fun path hpath hname => ?_⟩
  obtain ⟨least, rest, hfirst, hmem⟩ := named_iff.1 ⟨path, hpath, hname⟩
  obtain ⟨rfl, rfl | rfl⟩ := round_maze hfirst.round
  · simp at hmem
  · have hless : "maze.left" < "maze.right" := by decide +kernel
    exact not_lt.2 (hfirst.le _ round_left) (List.Lex.rel hless)

end RandomTables.Lint
