import Mathlib.Data.Finset.Card
import Mathlib.Data.Finset.Image
import RandomTables.Proofs.Lint.References
import RandomTables.Proofs.ReferenceGraph.Walk
import RandomTables.Proofs.Store.Listing
import RandomTables.Proofs.Text.Cut
import RandomTables.Report
import RandomTables.TableFile

/-!
The tally of a report. The tables with problems are read off the messages again, each up to the next
quote, so that tables whose names are the same up to a quote are counted once. The tally is right as
long as no two tables with problems have such names, and it never counts too few tables as clean.
-/

namespace RandomTables

open Report

/-- The table that a message begins with. -/
def Problem.table? : Problem → Option String
  | .unselectable table => some table
  | .unclosed table _ => some table
  | .unknownDie table _ _ => some table
  | .unmatched table _ => some table
  | .endless table => some table
  | .cycle _ => none

namespace Report

/-! ### Reading messages -/

theorem prefix_toList_append {front : List Char} {text : String} (h : front <+: text.toList)
    (rest : String) : front <+: (text ++ rest).toList := by
  rw [String.toList_append]
  exact h.trans (List.prefix_append _ _)

theorem opening_isPrefix (table : String) {rest : String} {tail : List Char}
    (hrest : rest.toList = '\x27' :: tail) :
    tableMark ++ table.toList ++ ['\x27'] <+: ("Table '" ++ table ++ rest).toList := by
  rw [String.toList_append, String.toList_append, hrest]
  exact (List.prefix_append_right_inj _).2 (List.prefix_append ['\x27'] tail)

/-- The message of a table's problem names the table between quotes. -/
theorem prefix_message {problem : Problem} {table : String} (h : problem.table? = some table) :
    tableMark ++ table.toList ++ ['\x27'] <+: problem.message.toList := by
  cases problem with
  | unselectable name =>
      cases h
      exact opening_isPrefix table rfl
  | unclosed name text =>
      cases h
      exact prefix_toList_append (opening_isPrefix table rfl) text
  | unknownDie name reference die =>
      cases h
      apply prefix_toList_append
      apply prefix_toList_append
      apply prefix_toList_append
      exact prefix_toList_append (opening_isPrefix table rfl) reference
  | unmatched name reference =>
      cases h
      apply prefix_toList_append
      exact prefix_toList_append (opening_isPrefix table rfl) reference
  | endless name =>
      cases h
      exact opening_isPrefix table rfl
  | cycle path => cases h

/-- What stands in a name before its first quote. -/
def beforeQuote (name : String) : String :=
  String.ofList (name.toList.takeWhile fun c => !c == '\x27')

theorem beforeQuote_eq_self {name : String} (h : '\x27' ∉ name.toList) :
    beforeQuote name = name := by
  rw [beforeQuote, Text.takeWhile_eq_self_of_not_mem h, String.ofList_toList]

/-- A table is read off the message of its problem up to the first quote of its name. -/
theorem tableOf?_message (problem : Problem) :
    tableOf? problem.message = problem.table?.map beforeQuote := by
  cases htable : problem.table? with
  | some table =>
      obtain ⟨rest, hmessage⟩ := prefix_message htable
      rw [List.append_assoc, List.append_assoc, List.singleton_append] at hmessage
      have hcut : (Text.cutFirst? (· == '\x27') (table.toList ++ '\x27' :: rest)).map Prod.fst =
          some (table.toList.takeWhile fun c => !c == '\x27') :=
        Text.cutFirst?_append_of_isCut rfl table.toList rest
      rw [tableOf?, ← hmessage, if_pos (List.isPrefixOf_iff_prefix.2 (List.prefix_append _ _)),
        List.drop_left]
      calc (Text.cutFirst? (· == '\x27') (table.toList ++ '\x27' :: rest)).map
            (fun cut => String.ofList cut.1)
          = ((Text.cutFirst? (· == '\x27') (table.toList ++ '\x27' :: rest)).map Prod.fst).map
              String.ofList := by rw [Option.map_map]; rfl
        _ = some (beforeQuote table) := by rw [hcut]; rfl
  | none =>
      cases problem with
      | cycle path =>
          have hfront : ['R'] <+: (Problem.cycle path).message.toList :=
            prefix_toList_append ⟨_, rfl⟩ _
          obtain ⟨rest, hmessage⟩ := hfront
          rw [tableOf?, ← hmessage]
          rfl
      | _ => cases htable

theorem size_foldl_insert (names : List String) :
    (names.foldl (fun set name => set.insert name) (∅ : Std.ExtTreeSet String)).size =
      names.toFinset.card := by
  generalize hset : names.foldl (fun set name => set.insert name) (∅ : Std.ExtTreeSet String) = set
  have hnodup : set.toList.Nodup := by
    refine Std.ExtTreeSet.distinct_toList.imp fun {first second} hne heq => hne ?_
    exact Std.LawfulEqCmp.compare_eq_iff_eq.2 heq
  have hmem : set.toList.toFinset = names.toFinset := by
    ext name
    rw [List.mem_toFinset, List.mem_toFinset, Std.ExtTreeSet.mem_toList, ← hset,
      ReferenceGraph.mem_foldl_insert]
    simp
  rw [← hmem, List.toFinset_card_of_nodup hnodup, Std.ExtTreeSet.length_toList]

end Report

namespace Lint

variable {expander : Expander} {table : Table} {problem : Problem}

def problems (expander : Expander) : List Problem :=
  errors expander ++ warnings expander

/-- The names of the tables with a problem of their own, which a cycle is not. -/
def faulty (expander : Expander) : Finset String :=
  ((problems expander).filterMap Problem.table?).toFinset

def IsClean (expander : Expander) (table : Table) : Prop :=
  ∀ problem ∈ errors expander ++ warnings expander, problem.table? ≠ some table.name

instance (expander : Expander) (table : Table) : Decidable (IsClean expander table) :=
  inferInstanceAs (Decidable (∀ problem ∈ _, _))

def cleanTables (expander : Expander) : List Table :=
  expander.tables.tables.filter (IsClean expander ·)

theorem table?_of_mem_tableErrors (h : problem ∈ tableErrors expander table) :
    problem.table? = some table.name := by
  rw [tableErrors, List.mem_append] at h
  rcases h with h | h
  · split at h
    · rw [List.mem_singleton.1 h]
      rfl
    · cases h
  · split at h
    · rw [List.mem_singleton.1 h]
      rfl
    · cases h

theorem table?_of_referenceWarning? {name reference : String}
    (h : referenceWarning? expander name reference = some problem) :
    problem.table? = some name := by
  unfold referenceWarning? at h
  split at h
  · split at h
    · cases h
    · cases h
      rfl
  · cases h
    rfl
  · cases h

theorem table?_of_mem_tableWarnings (h : problem ∈ tableWarnings expander table) :
    problem.table? = some table.name := by
  obtain ⟨alternative, _, hproblem⟩ := List.mem_flatMap.1 h
  rw [alternativeWarnings, List.mem_append] at hproblem
  rcases hproblem with hproblem | hproblem
  · split at hproblem
    · rw [List.mem_singleton.1 hproblem]
      rfl
    · cases hproblem
  · obtain ⟨reference, _, hwarning⟩ := List.mem_filterMap.1 hproblem
    exact table?_of_referenceWarning? hwarning

/-- Problems are found in stored tables. -/
theorem faulty_subset (expander : Expander) :
    faulty expander ⊆ expander.tables.names.toFinset := by
  intro name hname
  rw [List.mem_toFinset, ← Store.map_name_tables]
  obtain ⟨problem, hproblem, htable⟩ := List.mem_filterMap.1 (List.mem_toFinset.1 hname)
  have hstored : ∀ table ∈ expander.tables.tables, problem.table? = some table.name →
      name ∈ expander.tables.tables.map Table.name := by
    intro table hstored hsubject
    rw [htable] at hsubject
    rw [Option.some.inj hsubject]
    exact List.mem_map_of_mem hstored
  rcases List.mem_append.1 hproblem with herror | hwarning
  · obtain ⟨table, hmem, herror⟩ := List.mem_flatMap.1 herror
    exact hstored table hmem (table?_of_mem_tableErrors herror)
  · rcases List.mem_append.1 hwarning with hwarning | hcycle
    · obtain ⟨table, hmem, hwarning⟩ := List.mem_flatMap.1 hwarning
      exact hstored table hmem (table?_of_mem_tableWarnings hwarning)
    · obtain ⟨path, _, rfl⟩ := List.mem_map.1 hcycle
      cases htable

theorem isClean_iff : IsClean expander table ↔ table.name ∉ faulty expander := by
  simp only [IsClean, faulty, problems, List.mem_toFinset, List.mem_filterMap, not_exists, not_and]

/-- Each stored table is clean or has a problem. -/
theorem length_cleanTables_add (expander : Expander) :
    (cleanTables expander).length + (faulty expander).card = expander.tables.size := by
  have hnames : (cleanTables expander).map Table.name =
      expander.tables.names.filter (· ∉ faulty expander) := by
    rw [cleanTables, ← Store.map_name_tables, List.filter_map]
    refine congrArg _ (List.filter_congr fun table _ => ?_)
    exact decide_eq_decide.2 isClean_iff
  have hset : (expander.tables.names.filter (· ∉ faulty expander)).toFinset =
      expander.tables.names.toFinset \ faulty expander := by
    ext name
    simp
  have hnodup := expander.tables.nodup_names
  calc (cleanTables expander).length + (faulty expander).card
      = (expander.tables.names.toFinset \ faulty expander).card + (faulty expander).card := by
        rw [← hset, List.toFinset_card_of_nodup (hnodup.filter _), ← hnames, List.length_map]
    _ = expander.tables.names.toFinset.card :=
        Finset.card_sdiff_add_card_eq_card (faulty_subset expander)
    _ = expander.tables.size := by rw [List.toFinset_card_of_nodup hnodup, Store.length_names]

/-- Tables with problems are counted by their names up to the first quote. -/
theorem countTables_messages (expander : Expander) :
    countTables ((problems expander).map Problem.message) =
      ((faulty expander).image beforeQuote).card := by
  have htables : ((problems expander).map Problem.message).filterMap tableOf? =
      ((problems expander).filterMap Problem.table?).map beforeQuote := by
    rw [List.filterMap_map, List.map_filterMap]
    exact List.filterMap_congr fun problem _ => tableOf?_message problem
  have hset : (((problems expander).filterMap Problem.table?).map beforeQuote).toFinset =
      (faulty expander).image beforeQuote := by
    ext name
    simp only [faulty, List.mem_toFinset, List.mem_map, Finset.mem_image]
  rw [countTables, size_foldl_insert, htables, hset]

/-- Without references to tables there are no cycles to warn of. -/
theorem warnings_of_targets_eq_nil
    (h : ∀ name ∈ (graph expander).sources, (graph expander).targets name = []) :
    warnings expander = expander.tables.tables.flatMap (tableWarnings expander) := by
  have hcycles : (graph expander).cycles = [] :=
    List.filterMap_eq_nil_iff.2 fun name hname =>
      ReferenceGraph.cycleFrom?_of_targets_eq_nil (h name hname)
  rw [warnings, hcycles, List.map_nil, List.append_nil]

/-- No two tables with problems have the same name up to the first quote. -/
def ToldApart (expander : Expander) : Prop :=
  ∀ first ∈ expander.tables.tables, ∀ second ∈ expander.tables.tables,
    ¬ IsClean expander first → ¬ IsClean expander second →
      beforeQuote first.name = beforeQuote second.name → first = second

theorem mem_faulty_iff {name : String} :
    name ∈ faulty expander ↔
      ∃ table ∈ expander.tables.tables, ¬ IsClean expander table ∧ table.name = name := by
  constructor
  · intro hname
    have hstored := List.mem_toFinset.1 (faulty_subset expander hname)
    rw [← Store.map_name_tables] at hstored
    obtain ⟨table, htable, rfl⟩ := List.mem_map.1 hstored
    exact ⟨table, htable, fun hclean => isClean_iff.1 hclean hname, rfl⟩
  · rintro ⟨table, _, hfaulty, rfl⟩
    by_contra hname
    exact hfaulty (isClean_iff.2 hname)

theorem injOn_beforeQuote_iff :
    Set.InjOn beforeQuote (faulty expander) ↔ ToldApart expander := by
  constructor
  · intro hinj first hfirst second hsecond hfaulty hother hquote
    have hname : first.name = second.name :=
      hinj (mem_faulty_iff.2 ⟨first, hfirst, hfaulty, rfl⟩)
        (mem_faulty_iff.2 ⟨second, hsecond, hother, rfl⟩) hquote
    have hget := Store.mem_tables_iff.1 hfirst
    rw [hname, Store.mem_tables_iff.1 hsecond] at hget
    exact (Option.some.inj hget).symm
  · intro hapart name hname other hother hquote
    obtain ⟨first, hfirst, hfaulty, rfl⟩ := mem_faulty_iff.1 hname
    obtain ⟨second, hsecond, hfaulty', rfl⟩ := mem_faulty_iff.1 hother
    rw [hapart first hfirst second hsecond hfaulty hfaulty' hquote]

theorem toldApart_of_not_mem
    (h : ∀ table ∈ expander.tables.tables, ¬ IsClean expander table → '\x27' ∉ table.name.toList) :
    ToldApart expander := by
  rw [← injOn_beforeQuote_iff]
  intro name hname other hother hquote
  obtain ⟨first, hfirst, hfaulty, rfl⟩ := mem_faulty_iff.1 hname
  obtain ⟨second, hsecond, hfaulty', rfl⟩ := mem_faulty_iff.1 hother
  rwa [beforeQuote_eq_self (h first hfirst hfaulty),
    beforeQuote_eq_self (h second hsecond hfaulty')] at hquote

end Lint

namespace Report

/-- The last line of a report with problems. -/
def tallyLine (clean checked errors warnings : Nat) : String :=
  s!"\n{clean} of {checked} tables clean, {errors} errors, {warnings} warnings\n"

theorem exists_render_eq {errors warnings : List String} (h : errors ≠ [] ∨ warnings ≠ [])
    (checked : Nat) :
    ∃ listed, render checked errors warnings = listed ++
      tallyLine (checked - countTables (errors ++ warnings)) checked errors.length
        warnings.length := by
  have hproblems : (errors.isEmpty && warnings.isEmpty) = false := by
    rw [Bool.and_eq_false_iff, List.isEmpty_eq_false_iff, List.isEmpty_eq_false_iff]
    exact h
  have htally : tally checked errors warnings =
      tallyLine (checked - countTables (errors ++ warnings)) checked errors.length
        warnings.length := by
    rw [tally, hproblems]
    rfl
  rw [← htally]
  exact ⟨_, rfl⟩

/-- The tally of a report with problems counts the clean tables just where the tables with problems
are told apart by their names up to the first quote; where they are not, it counts too many. -/
theorem render_counts_clean (expander : Expander)
    (found : Lint.errors expander ≠ [] ∨ Lint.warnings expander ≠ []) :
    ∃ listed clean,
      render expander.tables.size ((Lint.errors expander).map Problem.message)
          ((Lint.warnings expander).map Problem.message) =
        listed ++ tallyLine clean expander.tables.size (Lint.errors expander).length
          (Lint.warnings expander).length ∧
      (Lint.cleanTables expander).length ≤ clean ∧
      (clean = (Lint.cleanTables expander).length ↔ Lint.ToldApart expander) ∧
      ((∀ table ∈ expander.tables.tables, ¬ Lint.IsClean expander table →
        '\x27' ∉ table.name.toList) → clean = (Lint.cleanTables expander).length) := by
  have hmessages : (Lint.errors expander).map Problem.message ≠ [] ∨
      (Lint.warnings expander).map Problem.message ≠ [] := by
    simpa using found
  obtain ⟨listed, hrender⟩ := exists_render_eq hmessages expander.tables.size
  have hcounted := Lint.countTables_messages expander
  rw [Lint.problems, List.map_append] at hcounted
  rw [hcounted, List.length_map, List.length_map] at hrender
  have hsize := Lint.length_cleanTables_add expander
  have hle : ((Lint.faulty expander).image beforeQuote).card ≤ (Lint.faulty expander).card :=
    Finset.card_image_le
  have hexact : expander.tables.size - ((Lint.faulty expander).image beforeQuote).card =
      (Lint.cleanTables expander).length ↔ Lint.ToldApart expander := by
    rw [← Lint.injOn_beforeQuote_iff, ← Finset.card_image_iff]
    omega
  refine ⟨listed, _, hrender, by omega, hexact, fun hquotes => ?_⟩
  exact hexact.2 (Lint.toldApart_of_not_mem hquotes)

/-- The tables of a file `shop` and no others. -/
def shop (contents : String) : Expander where
  tables := (TableFile.parse? "shop" contents).getD Store.empty
  dice := Dice.Registry.builtin
  standardFaces := .standard
  maxDepth := 2

def baker : Expander := shop ";main\nbread\n;smith's wares\n[sword]\n"

theorem tables_baker : baker.tables.tables =
    [⟨"shop", [.literal "bread"]⟩, ⟨"shop.smith's wares", [.literal "[sword]"]⟩] := by
  decide +kernel

theorem problems_baker : Lint.errors baker = [] ∧
    Lint.warnings baker = [.unmatched "shop.smith's wares" "sword"] := by
  refine ⟨by decide +kernel, ?_⟩
  rw [Lint.warnings_of_targets_eq_nil (by decide +kernel)]
  decide +kernel

/-- One table has a problem and a quote in its name, and the other one is clean. -/
theorem render_counts_clean_baker :
    Lint.warnings baker ≠ [] ∧
      Lint.cleanTables baker = [⟨"shop", [.literal "bread"]⟩] ∧
      ∃ listed, render baker.tables.size ((Lint.errors baker).map Problem.message)
          ((Lint.warnings baker).map Problem.message) =
        listed ++ "\n1 of 2 tables clean, 0 errors, 1 warnings\n" := by
  obtain ⟨herrors, hwarnings⟩ := problems_baker
  have hsize : baker.tables.size = 2 := by decide +kernel
  have found : Lint.warnings baker ≠ [] := by simp [hwarnings]
  have hclean : Lint.cleanTables baker = [⟨"shop", [.literal "bread"]⟩] := by
    simp [Lint.cleanTables, tables_baker, Lint.IsClean, herrors, hwarnings, Problem.table?]
  have hapart : Lint.ToldApart baker := by
    simp [Lint.ToldApart, tables_baker, Lint.IsClean, herrors, hwarnings, Problem.table?]
  obtain ⟨listed, clean, hrender, _, hexact, _⟩ := render_counts_clean baker (Or.inr found)
  obtain rfl : clean = 1 := by rw [hexact.2 hapart, hclean, List.length_singleton]
  rw [hsize, herrors, hwarnings] at hrender
  refine ⟨found, hclean, listed, ?_⟩
  rw [hsize, herrors, hwarnings, hrender]
  rfl

def smith : Expander := shop ";smith's wares\n[sword]\n;smith's tools\n[hammer]\n"

theorem tables_smith : smith.tables.tables =
    [⟨"shop.smith's tools", [.literal "[hammer]"]⟩,
      ⟨"shop.smith's wares", [.literal "[sword]"]⟩] := by
  decide +kernel

theorem problems_smith : Lint.errors smith = [] ∧
    Lint.warnings smith =
      [.unmatched "shop.smith's tools" "hammer", .unmatched "shop.smith's wares" "sword"] := by
  refine ⟨by decide +kernel, ?_⟩
  rw [Lint.warnings_of_targets_eq_nil (by decide +kernel)]
  decide +kernel

/-- Both tables have a problem, and one of them is counted as clean. -/
theorem render_miscounts_smith :
    Lint.cleanTables smith = [] ∧
      render smith.tables.size ((Lint.errors smith).map Problem.message)
          ((Lint.warnings smith).map Problem.message) =
        "\nChecked 2 tables\n\n2 warnings:\n" ++
          "  - Table 'shop.smith's tools' reference '[hammer]' matches no table" ++
          " and is kept as text\n" ++
          "  - Table 'shop.smith's wares' reference '[sword]' matches no table" ++
          " and is kept as text\n" ++
          "\n1 of 2 tables clean, 0 errors, 2 warnings\n" := by
  obtain ⟨herrors, hwarnings⟩ := problems_smith
  refine ⟨?_, ?_⟩
  · simp [Lint.cleanTables, tables_smith, Lint.IsClean, herrors, hwarnings, Problem.table?]
  · rw [herrors, hwarnings]
    decide +kernel

end Report

end RandomTables
