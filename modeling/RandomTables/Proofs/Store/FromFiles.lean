import Mathlib
import RandomTables.Engine.Setup
import RandomTables.Lint
import RandomTables.Proofs.Choice
import RandomTables.Proofs.Store.Load
import RandomTables.Proofs.TableFile
import RandomTables.Proofs.Text.Cut
import RandomTables.Proofs.Text.Trim

/-!
Tables that come from files. Whatever the files say, a table that is read has entries, each of a
positive weight that fits into a word and with a trimmed text of one line. Such a table can always
be chosen from, and nothing that loads or merges tables takes that from it.
-/

namespace RandomTables

/-- What is true of every entry that is read from a line. -/
structure Alternative.Written (alternative : Alternative) : Prop where
  weight_pos : 1 ≤ alternative.weight
  weight_le : alternative.weight ≤ TableFile.mostWeight
  trimmed : Text.trim alternative.text.toList = alternative.text.toList
  oneLine : '\n' ∉ alternative.text.toList
  /-- A weight of 1 is not written. -/
  unmarked : ∀ text, alternative ≠ .weighted text 1

structure Table.Written (table : Table) : Prop where
  nonempty : table.alternatives ≠ []
  entries : ∀ alternative ∈ table.alternatives, alternative.Written

namespace TableFile

variable {file contents name : String}

/-! ### Lines -/

theorem readWeight_pos (digits : List Char) : 1 ≤ readWeight digits := by
  unfold readWeight mostWeight
  split
  · exact Nat.le_refl 1
  · split <;> omega

theorem readWeight_le (digits : List Char) : readWeight digits ≤ mostWeight := by
  unfold readWeight mostWeight
  split
  · decide
  · split <;> omega

theorem written_literal {line : List Char} (htrim : Text.trim line = line) (hline : '\n' ∉ line) :
    (Alternative.literal (String.ofList line)).Written where
  weight_pos := Nat.le_refl 1
  weight_le := show 1 ≤ mostWeight by decide
  trimmed := by simpa [Alternative.text] using htrim
  oneLine := by simpa [Alternative.text] using hline
  unmarked := fun _ => by simp

theorem written_ofWeight {text : List Char} (hline : '\n' ∉ text) (digits : List Char) :
    (Alternative.ofWeight (String.ofList (Text.trim text)) (readWeight digits)).Written where
  weight_pos := by simpa using readWeight_pos digits
  weight_le := by simpa using readWeight_le digits
  trimmed := by simp [Text.trim_trim]
  oneLine := by
    rw [Alternative.text_ofWeight, String.toList_ofList]
    exact fun hmem => hline (Text.mem_of_mem_trim hmem)
  unmarked := fun _ heq => by
    unfold Alternative.ofWeight at heq
    split at heq
    · cases heq
    · next hweight =>
        injection heq with _ hone
        exact hweight hone

theorem written_readEntry {line : List Char} (htrim : Text.trim line = line)
    (hline : '\n' ∉ line) : (readEntry line).Written := by
  unfold readEntry
  split
  · next digits text hcut =>
      split
      · exact written_ofWeight (fun hmem => hline (Text.mem_of_cutFirst? hcut hmem)) digits
      · exact written_literal htrim hline
  · exact written_literal htrim hline

theorem written_of_entry_mem {alternative : Alternative}
    (h : .entry alternative ∈ lines file contents) : alternative.Written := by
  obtain ⟨line, hsplit, hread⟩ := List.mem_map.1 h
  have hline : '\n' ∉ Text.trim line := fun hmem =>
    Text.not_mem_of_mem_splitOn hsplit (Text.mem_of_mem_trim hmem)
  unfold readTrimmed at hread
  split at hread
  · cases hread
  · cases hread
  · cases hread
  · cases hread
    exact written_readEntry (Text.trim_trim line) hline

theorem written_of_parse? {tables : Store} {table : Table} (h : parse? file contents = some tables)
    (hget : tables.get? name = some table) : table.Written := by
  rw [eq_collect_of_parse? h, get?_collect] at hget
  split at hget
  · cases hget
  · next hentries =>
      cases hget
      refine ⟨hentries, fun alternative halternative => ?_⟩
      obtain ⟨⟨other, _⟩, hmem, rfl⟩ := List.mem_map.1 halternative
      exact written_of_entry_mem (entry_mem_of_mem_assign (List.mem_filter.1 hmem).1)

end TableFile

namespace Store

variable {store other loaded : Store} {name : String} {table : Table}

def Written (store : Store) : Prop :=
  ∀ name table, store.get? name = some table → table.Written

theorem written_empty : empty.Written := by
  intro name table hget
  rw [get?_empty] at hget
  cases hget

theorem Written.merge (h : store.Written) (hother : other.Written) :
    (store.merge other).Written := by
  intro name table hget
  rw [get?_merge, Option.or_eq_some_iff] at hget
  rcases hget with hget | ⟨_, hget⟩
  · exact hother name table hget
  · exact h name table hget

/-- Whatever a load has come to, the tables that it has left in the store are written. -/
theorem Written.onText (h : store.Written) (file contents : String) :
    ((Load.text file contents).on store).1.Written := by
  obtain ⟨read, hreads, hparse⟩ := Load.exists_reads_text file contents
  rw [hreads]
  cases read with
  | error error => exact h
  | ok tables => exact h.merge fun _ _ => TableFile.written_of_parse? hparse.symm

theorem Written.onNamed (h : store.Written) (name : String) (file : FileTree) :
    ((Load.named name file).on store).1.Written := by
  unfold Load.named
  split
  · exact h.onText _ _
  · exact h

theorem Written.onFile (h : store.Written) (disk : Disk) (path : String) :
    ((Load.file disk path).on store).1.Written := by
  unfold Load.file
  split
  · exact h
  · split
    · exact h.onNamed _ _
    · exact h

theorem Written.onEach (h : store.Written) (files : List (String × FileTree)) :
    ((Load.each files).on store).1.Written := by
  induction files generalizing store with
  | nil => exact h
  | cons entry rest ih =>
      obtain ⟨name, file⟩ := entry
      have hnamed := h.onNamed name file
      rw [Load.on_each_cons]
      generalize (Load.named name file).on store = step at hnamed ⊢
      rcases step with ⟨after, failure | count⟩
      · exact hnamed
      · exact ih hnamed

theorem Written.loadDirectory (h : store.Written) (disk : Disk) (path : String) :
    (store.loadDirectory disk path).1.Written := by
  unfold Store.loadDirectory Load.directory
  split
  · exact h.onEach _
  · exact h

theorem written_builtin : Builtin.tables.Written := by
  have hfold : ∀ (files : List (String × String)) (store : Store), store.Written →
      (files.foldl (fun store entry =>
        store.merge ((TableFile.parse? entry.1 entry.2).getD empty)) store).Written := by
    intro files
    induction files with
    | nil => exact fun _ h => h
    | cons entry files ih =>
        intro store h
        refine ih _ (h.merge ?_)
        cases hparse : TableFile.parse? entry.1 entry.2 with
        | none => exact written_empty
        | some tables => exact fun _ _ => TableFile.written_of_parse? hparse
  exact hfold Builtin.files empty written_empty

/-- The stores that table files alone can fill. -/
inductive FromFiles : Store → Prop
  | empty : FromFiles .empty
  | builtin : FromFiles Builtin.tables
  | text {store loaded : Store} {file contents : String} {count : Nat} :
      FromFiles store → store.loadText file contents = .ok (loaded, count) → FromFiles loaded
  | file {store loaded : Store} {disk : Disk} {path : String} {count : Nat} :
      FromFiles store → store.loadFile disk path = .ok (loaded, count) → FromFiles loaded
  | directory {store : Store} (disk : Disk) (path : String) :
      FromFiles store → FromFiles (store.loadDirectory disk path).1
  | merge {store other : Store} :
      FromFiles store → FromFiles other → FromFiles (store.merge other)

theorem FromFiles.written (h : FromFiles store) : store.Written := by
  induction h with
  | empty => exact written_empty
  | builtin => exact written_builtin
  | @text _ loaded file contents _ _ hload ih =>
      have hwritten := ih.onText file contents
      rwa [Load.complete_eq_ok_iff.1 hload] at hwritten
  | @file _ loaded disk path _ _ hload ih =>
      have hwritten := ih.onFile disk path
      rwa [Load.complete_eq_ok_iff.1 hload] at hwritten
  | directory disk path _ ih => exact ih.loadDirectory disk path
  | merge _ _ ih ihOther => exact ih.merge ihOther

end Store

theorem Table.Written.length_le_totalWeight {table : Table} (h : table.Written) :
    table.alternatives.length ≤ table.totalWeight := by
  have hweights : ∀ weight ∈ table.alternatives.map Alternative.weight, 1 ≤ weight := by
    intro weight hweight
    obtain ⟨alternative, hmem, rfl⟩ := List.mem_map.1 hweight
    exact (h.entries alternative hmem).weight_pos
  have hlength := Weights.length_le_total hweights
  rwa [List.length_map] at hlength

theorem Lint.unselectable_mem_errors_iff {expander : Expander} {name : String} :
    .unselectable name ∈ errors expander ↔
      ∃ table ∈ expander.tables.tables, table.totalWeight = 0 ∧ table.name = name := by
  unfold errors tableErrors
  simp only [List.mem_flatMap, List.mem_append]
  constructor
  · rintro ⟨table, hmem, hproblem | hproblem⟩
    · split at hproblem
      · next hzero =>
          obtain rfl : name = table.name := by simpa using hproblem
          exact ⟨table, hmem, hzero, rfl⟩
      · cases hproblem
    · split at hproblem
      · simp at hproblem
      · cases hproblem
  · rintro ⟨table, hmem, hzero, rfl⟩
    exact ⟨table, hmem, Or.inl (by simp [hzero])⟩

namespace Store

/-- A table that came from files can be chosen from: the choice falls on an entry of positive weight
as soon as a word counts, as one always does in a script, and no entry is missed by the linter. -/
theorem selectable_of_fromFiles {store : Store} (filled : FromFiles store) {name : String}
    {table : Table} (stored : store.get? name = some table) :
    table.Written ∧ 1 ≤ table.alternatives.length ∧
      table.alternatives.length ≤ table.totalWeight ∧
      (table.totalWeight < wordCount →
        (∀ (σ : Type) [RandomSource σ] (source : σ), Choice.Picks table.alternatives source ∨
          (∀ position < RandomSource.patience source,
            ¬ Choice.Counts table.totalWeight (wordAt RandomSource.next64 position source)) ∧
          Choice.choose table.alternatives source = .error .stalled) ∧
        ∀ source : Scripted, Choice.Picks table.alternatives source) ∧
      ∀ expander : Expander, expander.tables = store →
        ∀ name, .unselectable name ∉ Lint.errors expander := by
  have hwritten : table.Written := filled.written name table stored
  have hlength : 1 ≤ table.alternatives.length := List.length_pos_iff.2 hwritten.nonempty
  have htotal : table.alternatives.length ≤ table.totalWeight := hwritten.length_le_totalWeight
  have positive : 0 < table.totalWeight := Nat.lt_of_lt_of_le hlength htotal
  refine ⟨hwritten, hlength, htotal, fun _ => ⟨?_, ?_⟩, ?_⟩
  · exact fun _ _ source => Choice.picks_or_stalled positive source
  · exact fun source => Choice.picks_scripted positive source
  · rintro expander rfl name hproblem
    obtain ⟨other, hother, hzero, -⟩ := Lint.unselectable_mem_errors_iff.1 hproblem
    have hotherWritten := filled.written other.name other (mem_tables_iff.1 hother)
    have hotherLength := List.length_pos_iff.2 hotherWritten.nonempty
    have hotherTotal := hotherWritten.length_le_totalWeight
    omega

def ruinFile : String := ";\n0,dust\n99999999999, gold \n;hall\n7,\n# none\n;MAIN\n1,rats"

/-- The ruin beside the built-in tables. -/
def ruins : Store :=
  Builtin.tables.merge ((TableFile.parse? "ruin" ruinFile).getD empty)

def ruin : Table :=
  ⟨"ruin", [.literal "dust", .weighted "gold" 4294967295, .literal "rats"]⟩

theorem selectable_of_fromFiles_ruin :
    FromFiles ruins ∧ ruins.get? "ruin" = some ruin ∧ ruin.Written ∧
      ruin.totalWeight < wordCount ∧
      Choice.Picks ruin.alternatives (Scripted.ofWords [BitVec.allOnes 64]) := by
  obtain ⟨tables, hparse⟩ : ∃ tables, TableFile.parse? "ruin" ruinFile = some tables := by
    rw [← Option.isSome_iff_exists]
    cbv
  have hload : empty.loadText "ruin" ruinFile = .ok (tables, tables.size) := by
    rw [loadText_eq_ok_iff]
    exact ⟨tables, hparse, (empty_merge tables).symm, rfl⟩
  have filled : FromFiles ruins := by
    rw [ruins, hparse, Option.getD_some]
    exact .merge .builtin (.text .empty hload)
  have hentries : TableFile.sectionEntries "ruin" ruinFile "main" = ruin.alternatives := by cbv
  have hget : tables.get? (Name.ofSection "ruin" "main") =
      some (TableFile.sectionTable "ruin" ruinFile "main") :=
    TableFile.get?_ofSection_of_parse? hparse (by simp [hentries, ruin])
  have hname : Name.ofSection "ruin" "main" = "ruin" := by decide
  have stored : ruins.get? "ruin" = some ruin := by
    rw [TableFile.sectionTable, hentries, hname] at hget
    rw [ruins, hparse, Option.getD_some, get?_merge, hget]
    rfl
  have htotal : ruin.totalWeight < wordCount := by decide
  obtain ⟨hwritten, -, -, hpicks, -⟩ := selectable_of_fromFiles filled stored
  exact ⟨filled, stored, hwritten, htotal, (hpicks htotal).2 _⟩

end Store

end RandomTables
