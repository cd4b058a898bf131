import RandomTables.Proofs.Store.Listing
import RandomTables.Proofs.TableFile

/-!
Reading a table file line by line into a list of sections that grows, with the position of the
section that is open. A header goes back to its section if the list has it already, and an entry
goes to the end of the open section. The sections with entries are the tables of the file.
-/

namespace RandomTables.TableFile

structure Reading where
  sections : List Table
  /-- The position of the open section. -/
  current : Option Nat

namespace Reading

def start : Reading := ⟨[], none⟩

def openSection (reading : Reading) (name : String) : Reading :=
  match reading.sections.findIdx? (·.name == name) with
  | some position => ⟨reading.sections, some position⟩
  | none => ⟨reading.sections ++ [⟨name, []⟩], some reading.sections.length⟩

def withEntry (alternative : Alternative) (table : Table) : Table :=
  { table with alternatives := table.alternatives ++ [alternative] }

def addEntry (reading : Reading) (alternative : Alternative) : Reading :=
  match reading.current with
  | some position =>
      { reading with sections := reading.sections.modify position (withEntry alternative) }
  | none => reading

def readLine (reading : Reading) : Line → Reading
  | .header name => reading.openSection name
  | .entry alternative => reading.addEntry alternative
  | .skipped => reading

def store (reading : Reading) : Store :=
  (reading.sections.filter (!·.alternatives.isEmpty)).foldl Store.insert Store.empty

/-- The name of the open section. -/
def openName (reading : Reading) : Option String :=
  reading.current.bind fun position => reading.sections[position]?.map Table.name

/-- The entries of the section `name`, as far as it has been read. -/
def entriesAt (reading : Reading) (name : String) : List Alternative :=
  (reading.sections.find? (·.name == name)).elim [] Table.alternatives

/-- No two sections have the same name, and the open one is among them. -/
structure WellFormed (reading : Reading) : Prop where
  distinct : (reading.sections.map Table.name).Nodup
  opened : ∀ position, reading.current = some position → position < reading.sections.length

variable {reading : Reading} {name : String}

theorem wellFormed_start : start.WellFormed :=
  ⟨List.nodup_nil, nofun⟩

theorem find?_name_eq_none {sections : List Table} (h : name ∉ sections.map Table.name) :
    sections.find? (·.name == name) = none := by
  rw [List.find?_eq_none]
  intro table hmem hname
  exact h (List.mem_map.2 ⟨table, hmem, beq_iff_eq.1 hname⟩)

/-! ### One line -/

theorem WellFormed.openSection (h : reading.WellFormed) (name : String) :
    (reading.openSection name).WellFormed := by
  unfold Reading.openSection
  split
  · next position hposition =>
      obtain ⟨hless, -⟩ := List.findIdx?_eq_some_iff_getElem.1 hposition
      refine ⟨h.distinct, ?_⟩
      rintro _ ⟨⟩
      exact hless
  · next hnone =>
      have hnew : name ∉ reading.sections.map Table.name := by
        simpa [List.findIdx?_eq_none_iff] using hnone
      refine ⟨?_, ?_⟩
      · rw [List.map_append, List.map_singleton, ← List.concat_eq_append, List.nodup_concat]
        exact ⟨hnew, h.distinct⟩
      · rintro _ ⟨⟩
        simp

theorem openName_openSection (reading : Reading) (name : String) :
    (reading.openSection name).openName = some name := by
  unfold Reading.openSection openName
  split
  · next position hposition =>
      obtain ⟨hless, hname, -⟩ := List.findIdx?_eq_some_iff_getElem.1 hposition
      simpa [hless] using hname
  · simp

theorem entriesAt_openSection (reading : Reading) (name other : String) :
    (reading.openSection name).entriesAt other = reading.entriesAt other := by
  unfold Reading.openSection entriesAt
  split
  · rfl
  · rw [List.find?_append]
    cases reading.sections.find? (·.name == other) with
    | some table => rfl
    | none =>
        rw [Option.none_or, List.find?_singleton]
        split <;> rfl

theorem WellFormed.addEntry (h : reading.WellFormed) (alternative : Alternative) :
    (reading.addEntry alternative).WellFormed := by
  unfold Reading.addEntry
  split
  · next position hcurrent =>
      obtain ⟨before, table, after, hsections, -, hmodified⟩ :=
        List.exists_of_modify (withEntry alternative) (h.opened position hcurrent)
      have hdistinct := h.distinct
      refine ⟨?_, fun other hother => ?_⟩
      · rw [hmodified]
        rw [hsections] at hdistinct
        simpa [withEntry] using hdistinct
      · rw [List.length_modify]
        exact h.opened other hother
  · exact h

theorem openName_addEntry (reading : Reading) (alternative : Alternative) :
    (reading.addEntry alternative).openName = reading.openName := by
  unfold Reading.addEntry
  split
  · next position hcurrent =>
      simp only [openName, hcurrent, Option.bind_some, List.getElem?_modify]
      cases reading.sections[position]? <;> simp [withEntry]
  · rfl

theorem entriesAt_addEntry (h : reading.WellFormed) (alternative : Alternative) (name : String) :
    (reading.addEntry alternative).entriesAt name =
      reading.entriesAt name ++ if reading.openName = some name then [alternative] else [] := by
  unfold Reading.addEntry
  split
  · next position hcurrent =>
      obtain ⟨before, table, after, hsections, hlength, hmodified⟩ :=
        List.exists_of_modify (withEntry alternative) (h.opened position hcurrent)
      have hopen : reading.openName = some table.name := by
        simp [openName, hcurrent, hsections, ← hlength]
      have hdistinct := h.distinct
      rw [hsections, List.map_append, List.nodup_append] at hdistinct
      rw [entriesAt, entriesAt, hmodified, hsections, List.find?_append, List.find?_append, hopen]
      by_cases hname : table.name = name
      · have hnone : before.find? (·.name == name) = none :=
          find?_name_eq_none fun hmem => hdistinct.2.2 _ hmem _ List.mem_cons_self hname.symm
        simp [withEntry, hname, hnone]
      · simp [withEntry, hname]
  · next hcurrent => simp [openName, hcurrent]

theorem WellFormed.readLine (h : reading.WellFormed) (line : Line) :
    (reading.readLine line).WellFormed := by
  cases line with
  | header name => exact h.openSection name
  | entry alternative => exact h.addEntry alternative
  | skipped => exact h

/-! ### All lines -/

theorem WellFormed.foldl_readLine (h : reading.WellFormed) (lines : List Line) :
    (lines.foldl Reading.readLine reading).WellFormed := by
  induction lines generalizing reading with
  | nil => exact h
  | cons line lines ih => exact ih (h.readLine line)

/-- Every section keeps the entries it has, and the entries that belong to it come after them. -/
theorem entriesAt_foldl_readLine (h : reading.WellFormed) (lines : List Line) (name : String) :
    (lines.foldl readLine reading).entriesAt name =
      reading.entriesAt name ++ entriesOf name (assign reading.openName lines) := by
  induction lines generalizing reading with
  | nil => simp [assign, entriesOf]
  | cons line lines ih =>
      rw [List.foldl_cons, ih (h.readLine line)]
      cases line with
      | header opened =>
          rw [readLine, entriesAt_openSection, openName_openSection, assign]
      | skipped => rw [readLine, assign]
      | entry alternative =>
          rw [readLine, entriesAt_addEntry h, openName_addEntry, List.append_assoc]
          congr 1
          cases hopen : reading.openName with
          | none => simp [assign]
          | some opened =>
              rw [assign]
              by_cases hname : opened = name
              · subst hname
                rw [if_pos rfl, entriesOf_cons_self, List.singleton_append]
              · rw [if_neg (by simpa using hname), entriesOf_cons_of_ne hname, List.nil_append]

theorem sections_readLine_eq_nil_iff (reading : Reading) (line : Line) :
    (reading.readLine line).sections = [] ↔ reading.sections = [] ∧ line.isHeader = false := by
  cases line with
  | header name =>
      rw [readLine, Reading.openSection]
      split
      · next position hposition =>
          obtain ⟨hless, -⟩ := List.findIdx?_eq_some_iff_getElem.1 hposition
          simp [List.ne_nil_of_length_pos (Nat.zero_lt_of_lt hless), Line.isHeader]
      · simp [Line.isHeader]
  | entry alternative =>
      rw [readLine, Reading.addEntry]
      split <;> simp [Line.isHeader, ← List.length_eq_zero_iff]
  | skipped => simp [readLine, Line.isHeader]

theorem sections_foldl_readLine_eq_nil_iff (reading : Reading) (lines : List Line) :
    (lines.foldl readLine reading).sections = [] ↔
      reading.sections = [] ∧ lines.any Line.isHeader = false := by
  induction lines generalizing reading with
  | nil => simp
  | cons line lines ih =>
      rw [List.foldl_cons, ih, sections_readLine_eq_nil_iff, List.any_cons, Bool.or_eq_false_iff,
        and_assoc]

/-! ### The tables -/

theorem find?_filter_of_distinct {sections : List Table} (h : (sections.map Table.name).Nodup)
    (kept : Table → Bool) (name : String) :
    (sections.filter kept).find? (·.name == name) =
      (sections.find? (·.name == name)).filter kept := by
  induction sections with
  | nil => rfl
  | cons table sections ih =>
      rw [List.map_cons, List.nodup_cons] at h
      by_cases hname : table.name = name
      · have hothers := find?_name_eq_none (hname ▸ h.1)
        rw [hothers] at ih
        cases hkept : kept table <;> simp [hname, hkept, ih h.2, Option.filter_some]
      · cases hkept : kept table <;> simp [hname, hkept, ih h.2]

theorem get?_store (h : reading.WellFormed) (name : String) :
    reading.store.get? name =
      if reading.entriesAt name = [] then none else some ⟨name, reading.entriesAt name⟩ := by
  have hkept : ((reading.sections.filter (!·.alternatives.isEmpty)).map Table.name).Nodup :=
    h.distinct.sublist (List.filter_sublist.map _)
  rw [store, Store.get?_foldl_insert hkept, Store.get?_empty, Option.or_none,
    find?_filter_of_distinct h.distinct, entriesAt]
  cases hfind : reading.sections.find? (·.name == name) with
  | none => rfl
  | some table =>
      obtain rfl : table.name = name := by simpa using List.find?_some hfind
      by_cases hempty : table.alternatives = [] <;> simp [hempty]

end Reading

/-- What a file says, read line by line. -/
def readInPlace? (file contents : String) : Option Store :=
  let reading := (lines file contents).foldl Reading.readLine Reading.start
  if reading.sections.isEmpty then none else some reading.store

/-- Reading into a growing list of sections finds the same tables. -/
theorem readInPlace?_eq_parse? (file contents : String) :
    readInPlace? file contents = parse? file contents := by
  have hread := Reading.wellFormed_start.foldl_readLine (lines file contents)
  have hstore : ((lines file contents).foldl Reading.readLine Reading.start).store =
      collect (assign none (lines file contents)) := by
    refine Store.ext_get? fun name => ?_
    rw [Reading.get?_store hread, get?_collect,
      Reading.entriesAt_foldl_readLine Reading.wellFormed_start]
    rfl
  have hnone := Reading.sections_foldl_readLine_eq_nil_iff Reading.start (lines file contents)
  rw [readInPlace?, parse?, hstore]
  cases hheader : (lines file contents).any Line.isHeader with
  | false => simp [hnone.2 ⟨rfl, hheader⟩]
  | true => simp [hnone, hheader]

end RandomTables.TableFile
