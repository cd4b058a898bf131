import Mathlib
import RandomTables.Proofs.Store.Load
import RandomTables.Proofs.TableFile.Reading

/-!
Which lines of a table file make up which table. A line is an entry of the section whose header is
the last one before it, and the alternatives of a table are the entries of its section in the order
of the lines, wherever the section is opened again.
-/

namespace RandomTables.TableFile

/-- The lines of a file, trimmed. -/
def trimmedLines (contents : String) : List (List Char) :=
  (contents.toList.splitOn '\n').map Text.trim

def IsHeader (line : List Char) : Prop :=
  line.head? = some ';'

def IsEntry (line : List Char) : Prop :=
  line ≠ [] ∧ line.head? ≠ some ';' ∧ line.head? ≠ some '#'

instance (line : List Char) : Decidable (IsEntry line) :=
  inferInstanceAs (Decidable (_ ∧ _ ∧ _))

/-- The name that the section with this heading is stored under. -/
def keyOf (file : String) (heading : List Char) : String :=
  if heading = [] ∨ heading.map Char.toLower = "main".toList then file
  else file ++ "." ++ String.ofList heading

/-- The line at this position is an entry, and the last header before it has this key. -/
def Belongs (file : String) (trimmed : List (List Char)) (key : String) (position : Nat) : Prop :=
  ∃ line before heading between, trimmed[position]? = some line ∧ IsEntry line ∧
    trimmed.take position = before ++ (';' :: heading) :: between ∧
    (∀ other ∈ between, ¬ IsHeader other) ∧ keyOf file (Text.trim heading) = key

variable {file key : String} {line : List Char} {trimmed before : List (List Char)}
  {current : Option String}

theorem sectionName_eq_keyOf (file : String) (heading : List Char) :
    sectionName file heading = keyOf file heading := by
  cases heading with
  | nil => rfl
  | cons c heading => simp [sectionName, keyOf, Name.ofSection, Name.isMain, Name.mainSection]

/-! ### The open section -/

def headerKey? (file : String) : List Char → Option String
  | ';' :: heading => some (keyOf file (Text.trim heading))
  | _ => none

theorem headerKey?_eq_some_iff :
    headerKey? file line = some key ↔
      ∃ heading, line = ';' :: heading ∧ keyOf file (Text.trim heading) = key := by
  unfold headerKey?
  split <;> simp_all

theorem headerKey?_eq_none_iff : headerKey? file line = none ↔ ¬ IsHeader line := by
  unfold headerKey? IsHeader
  split
  · simp
  · next h => cases line <;> simp_all

/-- The key of the last header in a row of lines, or else of the section that was open before. -/
def openAfter (file : String) (current : Option String) (before : List (List Char)) :
    Option String :=
  (before.reverse.findSome? (headerKey? file)).or current

theorem openAfter_cons : openAfter file current (line :: before) =
    openAfter file ((headerKey? file line).or current) before := by
  simp [openAfter, List.findSome?_append, Option.or_assoc]

theorem openAfter_none_eq_some_iff :
    openAfter file none before = some key ↔
      ∃ outer heading between, before = outer ++ (';' :: heading) :: between ∧
        (∀ other ∈ between, ¬ IsHeader other) ∧ keyOf file (Text.trim heading) = key := by
  rw [openAfter, Option.or_none, List.findSome?_eq_some_iff]
  constructor
  · rintro ⟨later, header, earlier, hreverse, hkey, hlater⟩
    obtain ⟨heading, rfl, hheading⟩ := headerKey?_eq_some_iff.1 hkey
    refine ⟨earlier.reverse, heading, later.reverse, ?_, fun other hother => ?_, hheading⟩
    · rw [← List.reverse_reverse before, hreverse]
      simp
    · exact headerKey?_eq_none_iff.1 (hlater other (List.mem_reverse.1 hother))
  · rintro ⟨outer, heading, between, rfl, hbetween, hheading⟩
    refine ⟨between.reverse, ';' :: heading, outer.reverse, by simp, congrArg some hheading, ?_⟩
    exact fun other hother => headerKey?_eq_none_iff.2 (hbetween other (List.mem_reverse.1 hother))

theorem belongs_iff {position : Nat} :
    Belongs file trimmed key position ↔
      ∃ line, trimmed[position]? = some line ∧ IsEntry line ∧
        openAfter file none (trimmed.take position) = some key := by
  simp only [Belongs, openAfter_none_eq_some_iff]
  constructor
  · rintro ⟨line, before, heading, between, hline, hentry, htake, hbetween, hkey⟩
    exact ⟨line, hline, hentry, before, heading, between, htake, hbetween, hkey⟩
  · rintro ⟨line, hline, hentry, before, heading, between, htake, hbetween, hkey⟩
    exact ⟨line, before, heading, between, hline, hentry, htake, hbetween, hkey⟩

/-! ### The entries of a section -/

/-- All that a line can be. -/
theorem readTrimmed_cases (file : String) (line : List Char) :
    (∃ name, headerKey? file line = some name ∧ ¬ IsEntry line ∧
      readTrimmed file line = .header name) ∨
    headerKey? file line = none ∧
      (IsEntry line ∧ readTrimmed file line = .entry (readEntry line) ∨
        ¬ IsEntry line ∧ readTrimmed file line = .skipped) := by
  cases line with
  | nil => exact Or.inr ⟨rfl, Or.inr ⟨fun h => h.1 rfl, rfl⟩⟩
  | cons c rest =>
      by_cases hheader : c = ';'
      · subst hheader
        exact Or.inl ⟨_, rfl, fun h => h.2.1 rfl, congrArg _ (sectionName_eq_keyOf file _)⟩
      · have hnone : headerKey? file (c :: rest) = none :=
          headerKey?_eq_none_iff.2 (by simpa [IsHeader] using hheader)
        by_cases hcomment : c = '#'
        · subst hcomment
          exact Or.inr ⟨hnone, Or.inr ⟨fun h => h.2.2 rfl, rfl⟩⟩
        · have hentry : IsEntry (c :: rest) := by simp [IsEntry, hheader, hcomment]
          exact Or.inr ⟨hnone, Or.inl ⟨hentry, readTrimmed_cons_of_ne hheader hcomment rest⟩⟩

theorem entriesOf_assign_cons (file key : String) (current : Option String) (line : List Char)
    (lines : List Line) :
    entriesOf key (assign current (readTrimmed file line :: lines)) =
      (if IsEntry line ∧ current = some key then [readEntry line] else []) ++
        entriesOf key (assign ((headerKey? file line).or current) lines) := by
  rcases readTrimmed_cases file line with
    ⟨name, hkey, hentry, hread⟩ | ⟨hkey, ⟨hentry, hread⟩ | ⟨hentry, hread⟩⟩
  · simp [hkey, hentry, hread, assign]
  · rw [hkey, hread, Option.none_or]
    cases current with
    | none => simp [assign]
    | some opened =>
        rw [assign]
        by_cases hname : opened = key
        · simp [hname, hentry, entriesOf_cons_self]
        · simp [hname, entriesOf_cons_of_ne hname]
  · simp [hkey, hentry, hread, assign]

/-- The positions of the entries of a section, when `current` is open before the first line. -/
theorem exists_positions (file key : String) (current : Option String)
    (trimmed : List (List Char)) :
    ∃ positions : List Nat, positions.Pairwise (· < ·) ∧
      (∀ position, position ∈ positions ↔
        ∃ line, trimmed[position]? = some line ∧ IsEntry line ∧
          openAfter file current (trimmed.take position) = some key) ∧
      entriesOf key (assign current (trimmed.map (readTrimmed file))) =
        positions.filterMap fun position => trimmed[position]?.map readEntry := by
  induction trimmed generalizing current with
  | nil => exact ⟨[], .nil, by simp, rfl⟩
  | cons line trimmed ih =>
      obtain ⟨positions, hsorted, hmem, hentries⟩ := ih ((headerKey? file line).or current)
      have hsorted' : (positions.map (· + 1)).Pairwise (· < ·) :=
        List.pairwise_map.2 (hsorted.imp Nat.succ_lt_succ)
      have hlater : ∀ position, position ∈ positions ↔
          ∃ later, (line :: trimmed)[position + 1]? = some later ∧ IsEntry later ∧
            openAfter file current ((line :: trimmed).take (position + 1)) = some key := by
        simp [hmem, openAfter_cons]
      have hentries' : entriesOf key (assign ((headerKey? file line).or current)
          (trimmed.map (readTrimmed file))) =
            (positions.map (· + 1)).filterMap fun position =>
              (line :: trimmed)[position]?.map readEntry := by
        rw [hentries, List.filterMap_map]
        rfl
      rw [List.map_cons, entriesOf_assign_cons, hentries']
      by_cases hown : IsEntry line ∧ current = some key
      · refine ⟨0 :: positions.map (· + 1), ?_, fun position => ?_, ?_⟩
        · exact List.pairwise_cons.2 ⟨by simp, hsorted'⟩
        · cases position with
          | zero => simp [openAfter, hown]
          | succ position => rw [← hlater]; simp
        · rw [if_pos hown]
          rfl
      · refine ⟨positions.map (· + 1), hsorted', fun position => ?_, ?_⟩
        · cases position with
          | zero => simpa [openAfter] using hown
          | succ position => rw [← hlater]; simp
        · rw [if_neg hown, List.nil_append]

theorem lines_eq_map (file contents : String) :
    lines file contents = (trimmedLines contents).map (readTrimmed file) := by
  rw [lines, trimmedLines, List.map_map]
  rfl

theorem isHeader_readTrimmed_iff : (readTrimmed file line).isHeader = true ↔ IsHeader line := by
  rcases readTrimmed_cases file line with
    ⟨name, hkey, -, hread⟩ | ⟨hkey, ⟨-, hread⟩ | ⟨-, hread⟩⟩
  · have hheader : IsHeader line := by
      by_contra hnone
      rw [headerKey?_eq_none_iff.2 hnone] at hkey
      cases hkey
    simp [hread, Line.isHeader, hheader]
  · simp [hread, Line.isHeader, headerKey?_eq_none_iff.1 hkey]
  · simp [hread, Line.isHeader, headerKey?_eq_none_iff.1 hkey]

theorem parse?_eq_none_iff (file contents : String) :
    parse? file contents = none ↔ ∀ line ∈ trimmedLines contents, ¬ IsHeader line := by
  unfold parse?
  rw [ite_eq_right_iff, lines_eq_map, List.any_map]
  simp [isHeader_readTrimmed_iff]

theorem loadText_eq_malformed_iff (store : Store) (file contents : String) :
    store.loadText file contents = .error (.malformed file) ↔ parse? file contents = none := by
  rw [Store.loadText, Load.complete_eq_error_iff, Load.text]
  cases parse? file contents with
  | none => exact iff_of_true rfl rfl
  | some tables => exact iff_of_false (fun h => by cases h) (fun h => by cases h)

/-- A table holds the entries that belong to it, and there is one for every key with entries. -/
theorem get?_of_parse? {contents : String} {tables : Store}
    (h : parse? file contents = some tables) (key : String) :
    ∃ positions : List Nat, positions.Pairwise (· < ·) ∧
      (∀ position, position ∈ positions ↔ Belongs file (trimmedLines contents) key position) ∧
      tables.get? key = if positions = [] then none else
        some ⟨key, positions.filterMap fun position =>
          (trimmedLines contents)[position]?.map readEntry⟩ := by
  obtain ⟨positions, hsorted, hmem, hentries⟩ :=
    exists_positions file key none (trimmedLines contents)
  refine ⟨positions, hsorted, fun position => (hmem position).trans belongs_iff.symm, ?_⟩
  rw [eq_collect_of_parse? h, get?_collect, lines_eq_map, hentries]
  congr 1
  rw [List.filterMap_eq_nil_iff, List.eq_nil_iff_forall_not_mem, eq_iff_iff]
  refine forall_congr' fun position => imp_congr_right fun hposition => ?_
  obtain ⟨line, hline, -⟩ := (hmem position).1 hposition
  simp [hline]

/-- A file without a header is refused. In any other file the tables are the sections with entries,
and their alternatives are the entries that belong to them, in the order of the lines. Reading line
by line into a list of sections gives the same tables. -/
theorem parse?_collects_sections (file contents : String) :
    (parse? file contents = none ↔ ∀ line ∈ trimmedLines contents, ¬ IsHeader line) ∧
    (∀ store : Store, store.loadText file contents = .error (.malformed file) ↔
      ∀ line ∈ trimmedLines contents, ¬ IsHeader line) ∧
    (∀ tables, parse? file contents = some tables → ∀ key,
      ((∃ table, tables.get? key = some table) ↔
        ∃ position, Belongs file (trimmedLines contents) key position) ∧
      ∀ table, tables.get? key = some table → table.name = key ∧
        ∃ positions : List Nat, positions.Pairwise (· < ·) ∧
          (∀ position, position ∈ positions ↔
            Belongs file (trimmedLines contents) key position) ∧
          table.alternatives = positions.filterMap fun position =>
            (trimmedLines contents)[position]?.map readEntry) ∧
    readInPlace? file contents = parse? file contents := by
  have hnone := parse?_eq_none_iff file contents
  refine ⟨hnone, fun store => (loadText_eq_malformed_iff store file contents).trans hnone, ?_,
    readInPlace?_eq_parse? file contents⟩
  intro tables hparse key
  obtain ⟨positions, hsorted, hmem, hget⟩ := get?_of_parse? hparse key
  constructor
  · simp only [← hmem, hget]
    by_cases hempty : positions = []
    · simp [hempty]
    · simp [hempty, List.exists_mem_of_ne_nil positions hempty]
  · intro table htable
    rw [hget] at htable
    split at htable
    · cases htable
    · cases htable
      exact ⟨rfl, positions, hsorted, hmem, rfl⟩

/-- The main section is opened twice, the second time without a name. -/
def stable : String :=
  "lost\n;Main\n[horse]\n;horse\n  3,grey \n# white\n;\nnobody\n; horse\nblack\n"

theorem parse?_collects_sections_stable :
    ∃ tables, parse? "stable" stable = some tables ∧
      tables.get? "stable" = some ⟨"stable", [.literal "[horse]", .literal "nobody"]⟩ ∧
      ∃ positions : List Nat, positions.Pairwise (· < ·) ∧
        (∀ position, position ∈ positions ↔
          Belongs "stable" (trimmedLines stable) "stable" position) ∧
        [.literal "[horse]", .literal "nobody"] = positions.filterMap fun position =>
          (trimmedLines stable)[position]?.map readEntry := by
  have hparse : parse? "stable" stable =
      some (collect (assign none (lines "stable" stable))) := by
    rw [parse?, if_pos (by cbv)]
  have hget : (collect (assign none (lines "stable" stable))).get? "stable" =
      some ⟨"stable", [.literal "[horse]", .literal "nobody"]⟩ := by cbv
  have htable := ((parse?_collects_sections "stable" stable).2.2.1 _ hparse "stable").2 _ hget
  exact ⟨_, hparse, hget, htable.2⟩

end RandomTables.TableFile
