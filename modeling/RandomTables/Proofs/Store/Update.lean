import RandomTables.Proofs.Store.Listing
import RandomTables.Proofs.Store.Load

/-!
The history of a store. A store that is filled by one update after another holds under every name
the table that was last written under it: a load that fails writes nothing, and one that succeeds
writes as many names as it says and no others. Every store has such a history.
-/

namespace RandomTables

/-- What is asked of a store. Each load has its own disk, for files may change in between. -/
inductive Update where
  | insert (table : Table)
  | insertAlternatives (name : String) (alternatives : List Alternative)
  | merge (other : Store)
  | loadText (file contents : String)
  | loadFile (disk : Disk) (path : String)

namespace Update

/-- What an update does, and how many tables it tells to have loaded. -/
def perform : Update → Load (Option Nat)
  | insert table => do
      modify (·.insert table)
      pure none
  | insertAlternatives name alternatives => do
      modify (·.insert ⟨name, alternatives⟩)
      pure none
  | merge other => do
      modify (·.merge other)
      pure none
  | loadText file contents => some <$> Load.text file contents
  | loadFile disk path => some <$> Load.file disk path

/-- The store after an update, whether it fails or not. -/
def apply (store : Store) (update : Update) : Store :=
  (update.perform.on store).1

def run (updates : List Update) : Store :=
  updates.foldl apply Store.empty

/-- What an update writes under a name, if it succeeds and writes anything. -/
def written? : Update → String → Option Table
  | insert table, name => if table.name = name then some table else none
  | insertAlternatives other alternatives, name =>
      if other = name then some ⟨other, alternatives⟩ else none
  | merge other, name => other.get? name
  | loadText file contents, name => (TableFile.parse? file contents).bind (·.get? name)
  | loadFile disk path, name => (Load.tablesAt? disk path).bind (·.get? name)

def lastWritten? (name : String) : List Update → Option Table
  | [] => none
  | update :: later => (lastWritten? name later).or (update.written? name)

variable {store : Store} {update : Update} {name : String}

/-! ### One update -/

theorem insert_eq_merge (store : Store) (table : Table) :
    store.insert table = store.merge (Store.empty.insert table) := by
  refine Store.ext_get? fun name => ?_
  rw [Store.get?_insert, Store.get?_merge, Store.get?_insert, Store.get?_empty]
  split <;> rfl

/-- The outcome of an update of `store` that writes the tables `written`: it merges them, and a load
counts them; or it fails, writes nothing and leaves the store as it was. -/
def Outcome (store : Store) (written : String → Option Table) :
    Store × Except LoadError (Option Nat) → Prop
  | (after, .ok answer) => ∃ tables : Store, after = store.merge tables ∧
      (∀ count, answer = some count → count = tables.size) ∧ ∀ name, written name = tables.get? name
  | (after, .error _) => after = store ∧ ∀ name, written name = none

theorem outcome_insert (store : Store) (table : Table) :
    Outcome store (fun name => if table.name = name then some table else none)
      (store.insert table, .ok none) := by
  refine ⟨Store.empty.insert table, insert_eq_merge store table, by simp, fun name => ?_⟩
  rw [Store.get?_insert, Store.get?_empty]

theorem outcome_load {load : Load Nat} {read : Except LoadError Store} (h : load.Reads read)
    (store : Store) :
    Outcome store (fun name => read.toOption.bind (·.get? name)) ((some <$> load).on store) := by
  rw [Load.on_map, h]
  cases read with
  | error error => exact ⟨rfl, fun name => rfl⟩
  | ok tables =>
      refine ⟨tables, rfl, fun count hcount => ?_, fun name => rfl⟩
      exact (Option.some.inj hcount).symm

theorem outcome_perform (store : Store) (update : Update) :
    Outcome store update.written? (update.perform.on store) := by
  cases update with
  | insert table => exact outcome_insert store table
  | insertAlternatives other alternatives => exact outcome_insert store ⟨other, alternatives⟩
  | merge other => exact ⟨other, rfl, by simp, fun _ => rfl⟩
  | loadText file contents =>
      obtain ⟨read, hreads, hparse⟩ := Load.exists_reads_text file contents
      have houtcome := outcome_load hreads store
      rwa [hparse] at houtcome
  | loadFile disk path =>
      obtain ⟨read, hreads, htables⟩ := Load.exists_reads_file disk path
      have houtcome := outcome_load hreads store
      rwa [htables] at houtcome

theorem get?_apply (store : Store) (update : Update) (name : String) :
    (apply store update).get? name = (update.written? name).or (store.get? name) := by
  have houtcome := outcome_perform store update
  rw [apply]
  generalize update.perform.on store = step at houtcome ⊢
  rcases step with ⟨after, error | answer⟩
  · obtain ⟨rfl, hwritten⟩ := houtcome
    rw [hwritten, Option.none_or]
  · obtain ⟨tables, rfl, -, hwritten⟩ := houtcome
    rw [hwritten, Store.get?_merge]

/-- An update that fails leaves the store as it was. -/
theorem apply_of_error {error : LoadError} (h : (update.perform.on store).2 = .error error) :
    apply store update = store := by
  have houtcome := outcome_perform store update
  rw [apply]
  generalize update.perform.on store = step at h houtcome ⊢
  rcases step with ⟨after, failure | answer⟩
  · exact houtcome.1
  · cases h

/-- A load that succeeds writes as many names as it says, and it leaves all other names alone. -/
theorem exists_names_of_perform {count : Nat} (h : (update.perform.on store).2 = .ok (some count)) :
    ∃ written : List String, written.Nodup ∧ written.length = count ∧
      (∀ name, name ∈ written ↔ (update.written? name).isSome) ∧
      (∀ name ∈ written, (apply store update).get? name = update.written? name) ∧
      ∀ name, name ∉ written → (apply store update).get? name = store.get? name := by
  have houtcome := outcome_perform store update
  generalize update.perform.on store = step at h houtcome
  rcases step with ⟨after, failure | answer⟩
  · cases h
  · obtain ⟨tables, -, hcount, hwritten⟩ := houtcome
    have hmem : ∀ name, name ∈ tables.names ↔ (update.written? name).isSome := by
      intro name
      rw [hwritten, Store.mem_names_iff]
    refine ⟨tables.names, tables.nodup_names, ?_, hmem, fun name hname => ?_, fun name hname => ?_⟩
    · rw [Store.length_names, hcount count (Except.ok.inj h)]
    · obtain ⟨table, htable⟩ := Option.isSome_iff_exists.1 ((hmem name).1 hname)
      rw [get?_apply, htable, Option.some_or]
    · rw [hmem, Option.not_isSome_iff_eq_none] at hname
      rw [get?_apply, hname, Option.none_or]

/-! ### A history -/

theorem get?_foldl_apply (updates : List Update) (store : Store) (name : String) :
    (updates.foldl apply store).get? name = (lastWritten? name updates).or (store.get? name) := by
  induction updates generalizing store with
  | nil => rfl
  | cons update later ih =>
      rw [List.foldl_cons, ih, get?_apply, lastWritten?, Option.or_assoc]

theorem get?_run (updates : List Update) (name : String) :
    (run updates).get? name = lastWritten? name updates := by
  rw [run, get?_foldl_apply, Store.get?_empty, Option.or_none]

theorem run_append (updates later : List Update) :
    run (updates ++ later) = later.foldl apply (run updates) :=
  List.foldl_append

theorem run_append_singleton (updates : List Update) (update : Update) :
    run (updates ++ [update]) = apply (run updates) update := by
  rw [run_append, List.foldl_cons, List.foldl_nil]

theorem contains_run_append {updates : List Update} (h : (run updates).contains name)
    (later : List Update) : (run (updates ++ later)).contains name := by
  rw [Store.contains_iff_isSome_get?] at h ⊢
  rw [run_append, get?_foldl_apply, Option.isSome_or, h, Bool.or_true]

theorem run_map_insert (store : Store) : run (store.tables.map insert) = store := by
  have hlisting := Store.Listing.addTo_eq_merge ⟨store.tables, .refl _⟩ Store.empty
  rw [Store.empty_merge] at hlisting
  rw [run, List.foldl_map]
  exact hlisting

/-- Updates can make just those entries whose tables bear the names they are stored under. -/
theorem exists_entries_run_iff {entries : Std.ExtTreeMap String Table} :
    (∃ updates, (run updates).entries = entries) ↔ Store.Named entries := by
  constructor
  · rintro ⟨updates, rfl⟩
    exact (run updates).named
  · intro hnamed
    exact ⟨_, congrArg Store.entries (run_map_insert ⟨entries, hnamed⟩)⟩

/-- The last write wins, and a load is all or nothing. -/
theorem run_lastWriterWins (updates : List Update) :
    (∀ name, (run updates).get? name = lastWritten? name updates) ∧
    (∀ name table, (run updates).get? name = some table → table.name = name) ∧
    (∀ name later, (run updates).contains name → (run (updates ++ later)).contains name) ∧
    (∀ update error, (update.perform.on (run updates)).2 = .error error →
      run (updates ++ [update]) = run updates) ∧
    (∀ update count, (update.perform.on (run updates)).2 = .ok (some count) →
      ∃ written : List String, written.Nodup ∧ written.length = count ∧
        (∀ name, name ∈ written ↔ (update.written? name).isSome) ∧
        (∀ name ∈ written, (run (updates ++ [update])).get? name = update.written? name) ∧
        ∀ name, name ∉ written →
          (run (updates ++ [update])).get? name = (run updates).get? name) ∧
    ((run updates).names.Pairwise (· < ·) ∧
      ∀ name, name ∈ (run updates).names ↔ (run updates).contains name) ∧
    (run updates).visibleNames.Pairwise (· < ·) ∧
      ∀ name, name ∈ (run updates).visibleNames ↔
        (run updates).contains name ∧ '.' ∉ name.toList := by
  refine ⟨get?_run updates, fun _ _ => Store.name_of_get?, fun _ later h =>
    contains_run_append h later, ?_, ?_, ⟨Store.sorted_names _, ?_⟩,
    Store.sorted_visibleNames _, ?_⟩
  · intro update error hfails
    rw [run_append_singleton, apply_of_error hfails]
  · intro update count hloads
    rw [run_append_singleton]
    exact exists_names_of_perform hloads
  · intro name
    rw [Store.mem_names_iff, Store.contains_iff_isSome_get?]
  · intro name
    rw [Store.mem_visibleNames_iff]

/-- An inn is put down by hand, then loaded from a file, and then its cellar comes from another
store. The text of the notes has no section. -/
def innHistory : List Update :=
  [.insertAlternatives "inn" [.literal "closed"],
    .loadText "inn" ";main\nthe [cellar]\n;cellar\nrats",
    .loadText "notes" "ask the innkeeper",
    .merge (Store.empty.insert ⟨"inn.cellar", [.literal "wine"]⟩)]

theorem run_lastWriterWins_inn :
    (innHistory[1].perform.on (run (innHistory.take 1))).2 = .ok (some 2) ∧
      (innHistory[2].perform.on (run (innHistory.take 2))).2 = .error (.malformed "notes") ∧
      run (innHistory.take 3) = run (innHistory.take 2) ∧
      (run innHistory).get? "inn" = some ⟨"inn", [.literal "the [cellar]"]⟩ ∧
      (run innHistory).get? "inn.cellar" = some ⟨"inn.cellar", [.literal "wine"]⟩ ∧
      (run innHistory).visibleNames = ["inn"] := by
  have hcount : (innHistory[1].perform.on (run (innHistory.take 1))).2 = .ok (some 2) := by
    decide +kernel
  have hfails : (innHistory[2].perform.on (run (innHistory.take 2))).2 =
      .error (.malformed "notes") := by
    decide +kernel
  have hget := (run_lastWriterWins innHistory).1
  have hinn : lastWritten? "inn" innHistory = some ⟨"inn", [.literal "the [cellar]"]⟩ := by
    decide +kernel
  have hcellar : lastWritten? "inn.cellar" innHistory =
      some ⟨"inn.cellar", [.literal "wine"]⟩ := by
    decide +kernel
  refine ⟨hcount, hfails, ?_, (hget "inn").trans hinn, (hget "inn.cellar").trans hcellar, ?_⟩
  · obtain ⟨-, -, -, hkeeps, -⟩ := run_lastWriterWins (innHistory.take 2)
    exact hkeeps _ _ hfails
  · decide +kernel

end Update

end RandomTables
