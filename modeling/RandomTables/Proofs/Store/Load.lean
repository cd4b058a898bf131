import RandomTables.Proofs.Store
import RandomTables.Store.Load

/-!
What loads do to a store. A load of one text or file merges all the tables that are read, or it
fails and leaves the store as it was. Every load adds to a store what it makes of an empty one.
-/

namespace RandomTables

namespace Load

variable {load : Load Nat} {read : Except LoadError Store} {store after : Store}
  {error : LoadError} {count : Nat}

theorem on_bind {α β : Type} (load : Load α) (next : α → Load β) (store : Store) :
    (load >>= next).on store =
      match load.on store with
      | (after, .error error) => (after, .error error)
      | (after, .ok value) => (next value).on after := by
  rw [on, on, ExceptT.run_bind, StateT.run_bind]
  rcases load.run.run store with ⟨failure | value, after⟩ <;> rfl

theorem on_map {α β : Type} (f : α → β) (load : Load α) (store : Store) :
    (f <$> load).on store = ((load.on store).1, (load.on store).2.map f) := by
  rw [map_eq_pure_bind, on_bind]
  rcases load.on store with ⟨after, failure | value⟩ <;> rfl

theorem complete_eq_ok_iff :
    load.complete store = .ok (after, count) ↔ load.on store = (after, .ok count) := by
  rw [complete]
  rcases load.on store with ⟨loaded, failure | result⟩ <;> simp [Except.map]

theorem complete_eq_error_iff :
    load.complete store = .error error ↔ (load.on store).2 = .error error := by
  rw [complete]
  rcases load.on store with ⟨loaded, failure | result⟩ <;> simp [Except.map]

/-! ### One text or file -/

/-- The load merges the tables that are read and counts them, or it fails as the reading does and
leaves the store as it was. -/
def Reads (load : Load Nat) (read : Except LoadError Store) : Prop :=
  ∀ store, load.on store =
    match read with
    | .ok tables => (store.merge tables, .ok tables.size)
    | .error error => (store, .error error)

theorem reads_throw (error : LoadError) : Reads (throw error) (.error error) :=
  fun _ => rfl

theorem exists_reads_text (file contents : String) :
    ∃ read, Reads (text file contents) read ∧ read.toOption = TableFile.parse? file contents := by
  unfold text
  cases TableFile.parse? file contents with
  | none => exact ⟨_, reads_throw _, rfl⟩
  | some tables => exact ⟨.ok tables, fun _ => rfl, rfl⟩

theorem exists_reads_named (name : String) (file : FileTree) :
    ∃ read, Reads (named name file) read ∧
      read.toOption = file.text.toOption.bind (TableFile.parse? (Path.stem name)) := by
  unfold named
  cases file.text with
  | error error => exact ⟨_, reads_throw _, rfl⟩
  | ok contents => exact exists_reads_text (Path.stem name) contents

theorem reads_named {name contents : String} {file : FileTree} {tables : Store}
    (htext : file.text = .ok contents)
    (hparse : TableFile.parse? (Path.stem name) contents = some tables) :
    Reads (named name file) (.ok tables) := by
  unfold named text
  rw [htext]
  simp only [hparse]
  exact fun _ => rfl

/-- The tables of the file at a path; none if it cannot be read. -/
def tablesAt? (disk : Disk) (path : String) : Option Store := do
  let name ← Path.fileName? path
  let place ← (disk path).toOption
  let contents ← place.text.toOption
  TableFile.parse? (Path.stem name) contents

theorem exists_reads_file (disk : Disk) (path : String) :
    ∃ read, Reads (file disk path) read ∧ read.toOption = tablesAt? disk path := by
  unfold file tablesAt?
  cases Path.fileName? path with
  | none => exact ⟨_, reads_throw _, rfl⟩
  | some name =>
      cases disk path with
      | error error => exact ⟨_, reads_throw _, rfl⟩
      | ok place => exact exists_reads_named name place

/-- Such a load is all or nothing. -/
theorem Reads.on_of_error (h : load.Reads read) (hfails : (load.on store).2 = .error error) :
    load.on store = (store, .error error) := by
  rw [h] at hfails ⊢
  cases read with
  | ok tables => cases hfails
  | error failure => rw [Except.error.inj hfails]

/-! ### What a load adds -/

/-- Whatever the store is, the load adds the same tables to it and comes to the same. -/
def Adds (load : Load Nat) : Prop :=
  ∀ store, load.on store = (store.merge (load.on .empty).1, (load.on .empty).2)

theorem Reads.adds (h : load.Reads read) : load.Adds := by
  intro store
  rw [h, h]
  cases read with
  | ok tables => simp only [Store.empty_merge]
  | error error => simp only [Store.merge_empty]

theorem adds_text (file contents : String) : (text file contents).Adds := by
  obtain ⟨_, hreads, _⟩ := exists_reads_text file contents
  exact hreads.adds

theorem adds_named (name : String) (file : FileTree) : (named name file).Adds := by
  obtain ⟨_, hreads, _⟩ := exists_reads_named name file
  exact hreads.adds

theorem adds_file (disk : Disk) (path : String) : (file disk path).Adds := by
  obtain ⟨_, hreads, _⟩ := exists_reads_file disk path
  exact hreads.adds

theorem on_each_cons (name : String) (file : FileTree) (rest : List (String × FileTree))
    (store : Store) : (each ((name, file) :: rest)).on store =
      match (named name file).on store with
      | (after, .error error) => (after, .error error)
      | (after, .ok count) =>
          (((each rest).on after).1, ((each rest).on after).2.map (count + ·)) := by
  rw [each, on_bind]
  rcases (named name file).on store with ⟨after, failure | count⟩
  · rfl
  · simp only
    rw [on_bind]
    rcases (each rest).on after with ⟨last, failure | later⟩ <;> rfl

theorem adds_each (files : List (String × FileTree)) : (each files).Adds := by
  intro store
  induction files generalizing store with
  | nil =>
      change (store, Except.ok 0) = (store.merge .empty, .ok 0)
      rw [Store.merge_empty]
  | cons entry rest ih =>
      obtain ⟨name, file⟩ := entry
      rw [on_each_cons, on_each_cons, adds_named name file store]
      rcases (named name file).on .empty with ⟨tables, failure | count⟩
      · rfl
      · simp only
        rw [ih (store.merge tables), ih tables, Store.merge_assoc]

theorem adds_directory (disk : Disk) (path : String) : (directory disk path).Adds := by
  unfold directory
  split
  · exact adds_each _
  · exact (reads_throw _).adds

theorem Adds.complete_eq_merge (h : load.Adds) (store : Store) :
    load.complete store = (load.complete .empty).map fun (tables, count) =>
      (store.merge tables, count) := by
  rw [complete, complete, h store]
  rcases load.on .empty with ⟨tables, failure | count⟩ <;> rfl

end Load

namespace Store

variable {store loaded : Store} {file contents : String} {count : Nat}

theorem loadText_eq_ok_iff :
    store.loadText file contents = .ok (loaded, count) ↔
      ∃ tables, TableFile.parse? file contents = some tables ∧ loaded = store.merge tables ∧
        count = tables.size := by
  obtain ⟨read, hreads, hread⟩ := Load.exists_reads_text file contents
  rw [loadText, Load.complete_eq_ok_iff, hreads, ← hread]
  cases read with
  | error error => simp [Except.toOption]
  | ok tables => simp [Except.toOption, eq_comm]

theorem loadFile_eq_merge (store : Store) (disk : Disk) (path : String) :
    store.loadFile disk path = (empty.loadFile disk path).map fun (tables, count) =>
      (store.merge tables, count) :=
  (Load.adds_file disk path).complete_eq_merge store

/-- Whether a file can be loaded does not depend on the tables that are there already. -/
theorem loadFile_fails_iff {other : Store} {disk : Disk} {path : String} :
    (∃ error, store.loadFile disk path = .error error) ↔
      ∃ error, other.loadFile disk path = .error error := by
  rw [loadFile_eq_merge store, loadFile_eq_merge other]
  cases empty.loadFile disk path with
  | error error => exact Iff.rfl
  | ok result => simp [Except.map]

theorem loadDirectory_eq_merge (store : Store) (disk : Disk) (path : String) :
    store.loadDirectory disk path =
      (store.merge (empty.loadDirectory disk path).1, (empty.loadDirectory disk path).2) :=
  Load.adds_directory disk path store

end Store

end RandomTables
