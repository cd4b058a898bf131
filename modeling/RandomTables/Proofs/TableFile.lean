import RandomTables.Proofs.Name
import RandomTables.Proofs.Store
import RandomTables.TableFile

/-!
The tables of a table file, one for each section with entries. A section holds its entries in order,
wherever it is opened again, and all tables of a file have the scope of the file.
-/

namespace RandomTables.TableFile

variable {file contents name : String} {entries : List (String × Alternative)}

/-- The alternatives of the entries that belong to the table `name`. -/
def entriesOf (name : String) (entries : List (String × Alternative)) : List Alternative :=
  (entries.filter fun entry => entry.1 == name).map Prod.snd

theorem entriesOf_cons_self (name : String) (alternative : Alternative) :
    entriesOf name ((name, alternative) :: entries) = alternative :: entriesOf name entries := by
  simp [entriesOf]

theorem entriesOf_cons_of_ne {other : String} (h : other ≠ name) (alternative : Alternative) :
    entriesOf name ((other, alternative) :: entries) = entriesOf name entries := by
  simp [entriesOf, h]

/-- A table is stored for a name if and only if there are entries of it, and they are its
alternatives. -/
theorem get?_collect (name : String) (entries : List (String × Alternative)) :
    (collect entries).get? name =
      if entriesOf name entries = [] then none else some ⟨name, entriesOf name entries⟩ := by
  induction entries with
  | nil => exact Store.get?_empty name
  | cons entry entries ih =>
      obtain ⟨other, alternative⟩ := entry
      change (prepend other alternative (collect entries)).get? name = _
      rw [prepend, Store.get?_insert]
      by_cases h : other = name
      · subst h
        rw [entriesOf_cons_self, if_pos rfl, if_neg (List.cons_ne_nil _ _), ih]
        split
        · next hnil => rw [hnil]; rfl
        · rfl
      · rw [entriesOf_cons_of_ne h, if_neg h, ih]

theorem readTrimmed_cons_of_ne {c : Char} (hheader : c ≠ ';') (hcomment : c ≠ '#')
    (rest : List Char) : readTrimmed file (c :: rest) = .entry (readEntry (c :: rest)) := by
  unfold readTrimmed
  split
  · next h => cases h
  · next h => exact absurd (List.cons.inj h).1 hheader
  · next h => exact absurd (List.cons.inj h).1 hcomment
  · rfl

theorem entry_mem_of_mem_assign {lines : List Line} {current : Option String}
    {alternative : Alternative} (h : (name, alternative) ∈ assign current lines) :
    .entry alternative ∈ lines := by
  fun_induction assign current lines with
  | case1 => cases h
  | case2 current table rest ih => exact List.mem_cons_of_mem _ (ih h)
  | case3 current rest ih => exact List.mem_cons_of_mem _ (ih h)
  | case4 other rest table ih =>
      rcases List.mem_cons.1 h with heq | hmem
      · cases heq
        exact List.mem_cons_self
      · exact List.mem_cons_of_mem _ (ih hmem)
  | case5 other rest ih => exact List.mem_cons_of_mem _ (ih h)

/-- An entry belongs to a section that was opened before it. -/
theorem header_mem_of_mem_assign {lines : List Line} {current : Option String}
    {alternative : Alternative} (h : (name, alternative) ∈ assign current lines) :
    current = some name ∨ .header name ∈ lines := by
  fun_induction assign current lines with
  | case1 => cases h
  | case2 current table rest ih =>
      rcases ih h with heq | hmem
      · cases heq
        exact Or.inr List.mem_cons_self
      · exact Or.inr (List.mem_cons_of_mem _ hmem)
  | case3 current rest ih => exact (ih h).imp_right (List.mem_cons_of_mem _)
  | case4 other rest table ih =>
      rcases List.mem_cons.1 h with heq | hmem
      · cases heq
        exact Or.inl rfl
      · exact (ih hmem).imp_right (List.mem_cons_of_mem _)
  | case5 other rest ih => exact (ih h).imp_right (List.mem_cons_of_mem _)

theorem exists_ofSection_of_header_mem (h : .header name ∈ lines file contents) :
    ∃ heading, name = Name.ofSection file heading := by
  obtain ⟨line, _, hline⟩ := List.mem_map.1 h
  unfold readTrimmed at hline
  split at hline
  · cases hline
  · next heading _ =>
      obtain rfl : _ = name := Line.header.inj hline
      unfold sectionName
      split
      · exact ⟨_, rfl⟩
      · exact ⟨_, rfl⟩
  · cases hline
  · cases hline

/-- What the text of a file has to say on the section `heading`. -/
def sectionEntries (file contents heading : String) : List Alternative :=
  entriesOf (Name.ofSection file heading) (assign none (lines file contents))

def sectionTable (file contents heading : String) : Table :=
  ⟨Name.ofSection file heading, sectionEntries file contents heading⟩

variable {tables : Store} {table : Table}

theorem eq_collect_of_parse? (h : parse? file contents = some tables) :
    tables = collect (assign none (lines file contents)) := by
  unfold parse? at h
  split at h
  · exact (Option.some.inj h).symm
  · cases h

theorem get?_ofSection_of_parse? (h : parse? file contents = some tables) {heading : String}
    (hentries : sectionEntries file contents heading ≠ []) :
    tables.get? (Name.ofSection file heading) = some (sectionTable file contents heading) := by
  rw [eq_collect_of_parse? h, get?_collect]
  exact if_neg hentries

theorem exists_ofSection_of_get? (h : parse? file contents = some tables)
    (hget : tables.get? name = some table) : ∃ heading, name = Name.ofSection file heading := by
  rw [eq_collect_of_parse? h, get?_collect] at hget
  split at hget
  · cases hget
  · next hentries =>
      obtain ⟨alternative, halternative⟩ := List.exists_mem_of_ne_nil _ hentries
      obtain ⟨⟨other, _⟩, hmem, rfl⟩ := List.mem_map.1 halternative
      obtain ⟨hassigned, heq⟩ := List.mem_filter.1 hmem
      obtain rfl : other = name := by simpa using heq
      rcases header_mem_of_mem_assign hassigned with hnone | hheader
      · cases hnone
      · exact exists_ofSection_of_header_mem hheader

theorem topLevel_of_get? (h : parse? file contents = some tables)
    (hget : tables.get? name = some table) : Name.topLevel name = Name.topLevel file := by
  obtain ⟨heading, rfl⟩ := exists_ofSection_of_get? h hget
  exact Name.topLevel_ofSection file heading

end RandomTables.TableFile
