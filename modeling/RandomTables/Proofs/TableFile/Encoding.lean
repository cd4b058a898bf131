import RandomTables.Proofs.TableFile
import RandomTables.Proofs.Text.Cut
import RandomTables.Proofs.Text.Decimal
import RandomTables.Proofs.Text.Trim

/-!
Writing tables down and reading them back. A section is a line with its heading and then a line for
every entry. Whatever blank lines, comments and blanks at the ends of lines are put in between, the
tables that are read are the tables that were written.
-/

namespace RandomTables.TableFile

/-- An entry that can be written in a line. -/
structure Entry where
  text : String
  weight : Nat
  trimmed : Text.trim text.toList = text.toList
  oneLine : '\n' ∉ text.toList
  weight_pos : 1 ≤ weight
  weight_le : weight ≤ mostWeight

/-- A section that can be written in lines. -/
structure Section where
  heading : String
  entries : List Entry
  headed : heading.toList ≠ []
  trimmed : Text.trim heading.toList = heading.toList
  oneLine : '\n' ∉ heading.toList
  nonempty : entries ≠ []

namespace Entry

def alternative (entry : Entry) : Alternative :=
  .ofWeight entry.text entry.weight

def line (entry : Entry) : List Char :=
  Nat.toDigits 10 entry.weight ++ ',' :: entry.text.toList

end Entry

namespace Section

def key (file : String) (part : Section) : String :=
  Name.ofSection file part.heading

def table (file : String) (part : Section) : Table :=
  ⟨part.key file, part.entries.map Entry.alternative⟩

def lines (part : Section) : List (List Char) :=
  (';' :: part.heading.toList) :: part.entries.map Entry.line

/-- What the lines of a section say. -/
def meaning (file : String) (part : Section) : List Line :=
  .header (part.key file) :: part.entries.map fun entry => .entry entry.alternative

end Section

/-- Blanks within a line. -/
def Blank (text : List Char) : Prop :=
  ∀ c ∈ text, Text.isBlank c ∧ c ≠ '\n'

instance (text : List Char) : Decidable (Blank text) :=
  List.decidableBAll (fun c => Text.isBlank c ∧ c ≠ '\n') text

/-- The lines of a file in which the lines `written` stand, in order and among lines that do not
count. A carriage return is a blank like any other. -/
inductive Spaced : List (List Char) → List (List Char) → Prop
  | nil : Spaced [] []
  | line {before after line : List Char} {written spaced : List (List Char)} :
      Blank before → Blank after → Spaced written spaced →
      Spaced (line :: written) ((before ++ line ++ after) :: spaced)
  | blank {before : List Char} {written spaced : List (List Char)} :
      Blank before → Spaced written spaced → Spaced written (before :: spaced)
  | comment {before remark : List Char} {written spaced : List (List Char)} :
      Blank before → '\n' ∉ remark → Spaced written spaced →
      Spaced written ((before ++ '#' :: remark) :: spaced)

variable {file : String} {before after line : List Char} {written spaced : List (List Char)}

/-! ### Lines that count -/

theorem readWeight_toDigits {weight : Nat} (hpos : 1 ≤ weight) (hle : weight ≤ mostWeight) :
    readWeight (Nat.toDigits 10 weight) = weight := by
  rw [readWeight, Text.decimal_toDigits, if_neg (by omega), if_neg (by omega)]

namespace Entry

variable (entry : Entry)

theorem trim_line : Text.trim entry.line = entry.line := by
  have hmark : entry.line = (Nat.toDigits 10 entry.weight ++ [',']) ++ entry.text.toList := by
    rw [line, List.append_assoc, List.singleton_append]
  rw [hmark]
  refine Text.trim_append_of_not_blank (fun c hc => ?_) entry.trimmed
  rcases List.mem_append.1 hc with hdigit | hcomma
  · exact Text.isBlank_of_isDigit (Text.isDigit_of_mem_toDigits hdigit)
  · obtain rfl : c = ',' := by simpa using hcomma
    decide

theorem readEntry_line : readEntry entry.line = entry.alternative := by
  have hcut : Text.cutFirst? (· == ',') entry.line =
      some (Nat.toDigits 10 entry.weight, entry.text.toList) := by
    refine Text.cutFirst?_append_cons (fun c hc => ?_) rfl _
    have hdigit := Text.isDigit_of_mem_toDigits hc
    by_contra hcomma
    obtain rfl : c = ',' := by simpa using hcomma
    exact absurd hdigit (by decide)
  rw [readEntry, hcut]
  simp only [Text.isDigits_toDigits, if_true]
  rw [readWeight_toDigits entry.weight_pos entry.weight_le, entry.trimmed, String.ofList_toList,
    alternative]

theorem read_line : readTrimmed file (Text.trim entry.line) = .entry entry.alternative := by
  rw [entry.trim_line, ← entry.readEntry_line]
  obtain ⟨digit, rest, hline⟩ : ∃ digit rest, Nat.toDigits 10 entry.weight = digit :: rest :=
    List.exists_cons_of_ne_nil Nat.toDigits_ne_nil
  have hdigit : digit.isDigit := Text.isDigit_of_mem_toDigits (hline ▸ List.mem_cons_self)
  rw [line, hline, List.cons_append]
  refine readTrimmed_cons_of_ne ?_ ?_ _
  · rintro rfl
    exact absurd hdigit (by decide)
  · rintro rfl
    exact absurd hdigit (by decide)

theorem oneLine_line : '\n' ∉ entry.line := by
  rw [line, List.mem_append, List.mem_cons]
  rintro (hdigit | hcomma | htext)
  · exact absurd (Text.isDigit_of_mem_toDigits hdigit) (by decide)
  · exact absurd hcomma (by decide)
  · exact entry.oneLine htext

end Entry

namespace Section

variable (part : Section)

theorem read_heading :
    readTrimmed file (Text.trim (';' :: part.heading.toList)) = .header (part.key file) := by
  have htrim : Text.trim (';' :: part.heading.toList) = ';' :: part.heading.toList :=
    Text.trim_append_of_not_blank (List.forall_mem_singleton.2 rfl) part.trimmed
  rw [htrim, readTrimmed, part.trimmed, sectionName, if_neg, String.ofList_toList, key]
  simpa using part.headed

theorem read_lines :
    (part.lines.map fun line => readTrimmed file (Text.trim line)) = part.meaning file := by
  rw [lines, List.map_cons, read_heading, List.map_map, meaning]
  congr 1
  exact List.map_congr_left fun entry _ => entry.read_line

theorem oneLine_of_mem_lines (h : line ∈ part.lines) : '\n' ∉ line := by
  rcases List.mem_cons.1 h with rfl | hentry
  · simpa using part.oneLine
  · obtain ⟨entry, -, rfl⟩ := List.mem_map.1 hentry
    exact entry.oneLine_line

end Section

/-! ### Lines that do not count -/

theorem read_blank (h : Blank before) : readTrimmed file (Text.trim before) = .skipped := by
  rw [Text.trim_eq_nil_of_blank fun c hc => (h c hc).1, readTrimmed]

theorem read_comment (h : Blank before) (remark : List Char) :
    readTrimmed file (Text.trim (before ++ '#' :: remark)) = .skipped := by
  rw [Text.trim, Text.trimStart_append_of_blank fun c hc => (h c hc).1, Text.trimStart,
    List.dropWhile_cons_of_neg (by decide), Text.trimEnd_cons_of_not_blank (by decide), readTrimmed]

theorem assign_filter (current : Option String) (lines : List Line) :
    assign current (lines.filter (· ≠ .skipped)) = assign current lines := by
  induction lines generalizing current with
  | nil => rfl
  | cons line lines ih =>
      cases line with
      | header table => simpa [assign] using ih (some table)
      | skipped => simpa [assign] using ih current
      | entry alternative => cases current <;> simpa [assign] using ih _

namespace Spaced

theorem oneLine (h : Spaced written spaced) (hwritten : ∀ line ∈ written, '\n' ∉ line) :
    ∀ line ∈ spaced, '\n' ∉ line := by
  induction h with
  | nil => exact hwritten
  | line hbefore hafter _ ih =>
      intro line hline
      rw [List.forall_mem_cons] at hwritten
      rcases List.mem_cons.1 hline with rfl | hline
      · simp only [List.mem_append, not_or]
        exact ⟨⟨fun hc => (hbefore _ hc).2 rfl, hwritten.1⟩, fun hc => (hafter _ hc).2 rfl⟩
      · exact ih hwritten.2 line hline
  | blank hbefore _ ih =>
      intro line hline
      rcases List.mem_cons.1 hline with rfl | hline
      · exact fun hc => (hbefore _ hc).2 rfl
      · exact ih hwritten line hline
  | comment hbefore hremark _ ih =>
      intro line hline
      rcases List.mem_cons.1 hline with rfl | hline
      · simp only [List.mem_append, List.mem_cons, not_or]
        exact ⟨fun hc => (hbefore _ hc).2 rfl, by decide, hremark⟩
      · exact ih hwritten line hline

theorem ne_nil (h : Spaced written spaced) (hwritten : written ≠ []) : spaced ≠ [] := by
  cases h with
  | nil => exact hwritten
  | line => exact List.cons_ne_nil _ _
  | blank => exact List.cons_ne_nil _ _
  | comment => exact List.cons_ne_nil _ _

/-- The lines that are put in between are skipped, and blanks around a line are trimmed. -/
theorem read_filter (h : Spaced written spaced) :
    (spaced.map fun line => readTrimmed file (Text.trim line)).filter (· ≠ .skipped) =
      (written.map fun line => readTrimmed file (Text.trim line)).filter (· ≠ .skipped) := by
  induction h with
  | nil => rfl
  | line hbefore hafter _ ih =>
      rw [List.map_cons, List.map_cons, List.filter_cons, List.filter_cons, ih,
        Text.trim_pad (fun c hc => (hbefore c hc).1) fun c hc => (hafter c hc).1]
  | blank hbefore _ ih =>
      rw [List.map_cons, read_blank hbefore, List.filter_cons_of_neg (by simp), ih]
  | comment hbefore _ _ ih =>
      rw [List.map_cons, read_comment hbefore, List.filter_cons_of_neg (by simp), ih]

end Spaced

/-! ### Whole files -/

variable {sections : List Section}

theorem assign_meaning (part : Section) (current : Option String) (rest : List Line) :
    assign current (part.meaning file ++ rest) =
      (part.entries.map fun entry => (part.key file, entry.alternative)) ++
        assign (some (part.key file)) rest := by
  rw [Section.meaning, List.cons_append, assign]
  induction part.entries with
  | nil => rfl
  | cons entry entries ih =>
      rw [List.map_cons, List.cons_append, assign, ih, List.map_cons, List.cons_append]

theorem assign_flatMap_meaning (sections : List Section) (current : Option String) :
    assign current (sections.flatMap (Section.meaning file)) =
      sections.flatMap fun part =>
        part.entries.map fun entry => (part.key file, entry.alternative) := by
  induction sections generalizing current with
  | nil => rfl
  | cons part sections ih => rw [List.flatMap_cons, assign_meaning, ih, List.flatMap_cons]

theorem entriesOf_append (name : String) (entries later : List (String × Alternative)) :
    entriesOf name (entries ++ later) = entriesOf name entries ++ entriesOf name later := by
  rw [entriesOf, List.filter_append, List.map_append, entriesOf, entriesOf]

theorem entriesOf_map_self (part : Section) :
    entriesOf (part.key file)
        (part.entries.map fun entry => (part.key file, entry.alternative)) =
      (part.table file).alternatives := by
  simp [entriesOf, Section.table, List.filter_map, Function.comp_def]

theorem entriesOf_map_of_ne {name : String} {part : Section} (h : part.key file ≠ name) :
    entriesOf name (part.entries.map fun entry => (part.key file, entry.alternative)) = [] := by
  simp [entriesOf, List.filter_map, Function.comp_def, h]

theorem entriesOf_flatMap_of_not_mem {name : String}
    (h : name ∉ sections.map (Section.key file)) :
    entriesOf name (sections.flatMap fun part =>
      part.entries.map fun entry => (part.key file, entry.alternative)) = [] := by
  induction sections with
  | nil => rfl
  | cons part sections ih =>
      rw [List.map_cons, List.mem_cons, not_or] at h
      rw [List.flatMap_cons, entriesOf_append, entriesOf_map_of_ne (Ne.symm h.1), ih h.2,
        List.nil_append]

theorem entriesOf_flatMap_of_mem (hkeys : (sections.map (Section.key file)).Nodup)
    {part : Section} (h : part ∈ sections) :
    entriesOf (part.key file) (sections.flatMap fun part =>
      part.entries.map fun entry => (part.key file, entry.alternative)) =
      (part.table file).alternatives := by
  induction sections with
  | nil => cases h
  | cons first sections ih =>
      rw [List.map_cons, List.nodup_cons] at hkeys
      rw [List.flatMap_cons, entriesOf_append]
      rcases List.mem_cons.1 h with rfl | hmem
      · rw [entriesOf_map_self, entriesOf_flatMap_of_not_mem hkeys.1, List.append_nil]
      · have hne : first.key file ≠ part.key file := fun heq =>
          hkeys.1 (heq ▸ List.mem_map_of_mem hmem)
        rw [entriesOf_map_of_ne hne, ih hkeys.2 hmem, List.nil_append]

theorem lines_filter_of_spaced (hsections : sections ≠ [])
    (hspaced : Spaced (sections.flatMap Section.lines) spaced) {contents : String}
    (hcontents : contents.toList = ['\n'].intercalate spaced) :
    (lines file contents).filter (· ≠ .skipped) = sections.flatMap (Section.meaning file) := by
  have honeLine : ∀ line ∈ spaced, '\n' ∉ line := by
    refine hspaced.oneLine fun line hline => ?_
    obtain ⟨part, -, hpart⟩ := List.mem_flatMap.1 hline
    exact part.oneLine_of_mem_lines hpart
  have hwritten : sections.flatMap Section.lines ≠ [] := by
    obtain ⟨part, rest, rfl⟩ := List.exists_cons_of_ne_nil hsections
    exact List.cons_ne_nil _ _
  have hsplit : contents.toList.splitOn '\n' = spaced := by
    rw [hcontents, List.splitOn_intercalate '\n' honeLine (hspaced.ne_nil hwritten)]
  have hread : (sections.flatMap Section.lines).map
      (fun line => readTrimmed file (Text.trim line)) =
        sections.flatMap (Section.meaning file) := by
    rw [List.map_flatMap]
    exact List.flatMap_congr fun part _ => part.read_lines
  rw [lines, hsplit, hspaced.read_filter, hread, List.filter_eq_self]
  intro line hline
  obtain ⟨part, -, hpart⟩ := List.mem_flatMap.1 hline
  rcases List.mem_cons.1 hpart with rfl | hentry
  · simp
  · obtain ⟨entry, -, rfl⟩ := List.mem_map.1 hentry
    simp

/-- What is read from the text of a file are the tables that were written, and nothing else. -/
theorem parse_of_spaced (hsections : sections ≠ [])
    (hkeys : (sections.map (Section.key file)).Nodup)
    (hspaced : Spaced (sections.flatMap Section.lines) spaced) {contents : String}
    (hcontents : contents.toList = ['\n'].intercalate spaced) :
    ∃ tables, parse? file contents = some tables ∧
      (∀ part ∈ sections, tables.get? (part.key file) = some (part.table file)) ∧
      ∀ name, name ∉ sections.map (Section.key file) → tables.get? name = none := by
  have hlines : (lines file contents).filter (· ≠ .skipped) =
      sections.flatMap (Section.meaning file) :=
    lines_filter_of_spaced hsections hspaced hcontents
  have hheader : (lines file contents).any Line.isHeader = true := by
    obtain ⟨part, rest, rfl⟩ := List.exists_cons_of_ne_nil hsections
    rw [List.flatMap_cons, Section.meaning, List.cons_append] at hlines
    have hmem : .header (part.key file) ∈ (lines file contents).filter (· ≠ .skipped) :=
      hlines ▸ List.mem_cons_self
    exact List.any_eq_true.2 ⟨_, (List.mem_filter.1 hmem).1, rfl⟩
  have hassign : assign none (lines file contents) = sections.flatMap fun part =>
      part.entries.map fun entry => (part.key file, entry.alternative) := by
    rw [← assign_filter, hlines, assign_flatMap_meaning]
  refine ⟨_, if_pos hheader, fun part hpart => ?_, fun name hname => ?_⟩
  · have hentries := entriesOf_flatMap_of_mem hkeys hpart
    rw [get?_collect, hassign, hentries, if_neg]
    · rfl
    · simpa [Section.table] using part.nonempty
  · rw [get?_collect, hassign, entriesOf_flatMap_of_not_mem hname, if_pos rfl]

/-! An inn, with entries that look like headers, comments and weights. -/

def innMain : Section where
  heading := "MAIN"
  entries := [
    ⟨"", 4294967295, by decide, by decide, by decide, by decide⟩,
    ⟨"2,3 # ;[d6]", 1, by decide, by decide, by decide, by decide⟩,
    ⟨"# 5", 7, by decide, by decide, by decide, by decide⟩]
  headed := by decide
  trimmed := by decide
  oneLine := by decide
  nonempty := by decide

def innCellar : Section where
  heading := ";a,b"
  entries := [⟨";main", 10, by decide, by decide, by decide, by decide⟩]
  headed := by decide
  trimmed := by decide
  oneLine := by decide
  nonempty := by decide

def innFile : String :=
  "# rooms\r\n;MAIN\r\n4294967295,\r\n1,2,3 # ;[d6]\n\n  7,# 5\u00a0\n;;a,b\n10,;main\n"

theorem parse_of_spaced_inn :
    ∃ tables, parse? "inn" innFile = some tables ∧
      (∀ part ∈ [innMain, innCellar],
        tables.get? (part.key "inn") = some (part.table "inn")) ∧
      ∀ name, name ∉ ["inn", "inn.;a,b"] → tables.get? name = none := by
  have hspaced : Spaced ([innMain, innCellar].flatMap Section.lines)
      (innFile.toList.splitOn '\n') := by
    have hnone : Blank [] := by decide
    have hreturn : Blank ['\r'] := by decide
    have hspaces : Blank [' ', ' '] := by decide
    have hnoBreak : Blank ['\u00a0'] := by decide
    have hremark : '\n' ∉ " rooms\r".toList := by decide
    exact .comment hnone hremark <| .line hnone hreturn <| .line hnone hreturn <|
      .line hnone hnone <| .blank hnone <| .line hspaces hnoBreak <| .line hnone hnone <|
      .line hnone hnone <| .blank hnone .nil
  have hcontents : innFile.toList = ['\n'].intercalate (innFile.toList.splitOn '\n') :=
    (List.intercalate_splitOn '\n').symm
  exact parse_of_spaced (by decide) (by decide) hspaced hcontents

end RandomTables.TableFile
