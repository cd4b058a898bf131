import Mathlib
import RandomTables.Proofs.FileTree
import RandomTables.Proofs.Name
import RandomTables.Proofs.Store.Update

/-!
Loading a directory. Whatever the order in which its entries come, its table files are loaded in the
order of their names, each as if it were loaded by its own path. The first one that fails ends the
load, and what was loaded before it stays.
-/

namespace RandomTables.Store

/-! ### The table files of a directory -/

variable {entries enumerated : List (String × FileTree)} {entry : String × FileTree}

theorem mem_tableFiles_iff :
    entry ∈ tableFiles entries ↔ entry ∈ entries ∧ isTableFile entry = true := by
  rw [tableFiles, List.mem_mergeSort, List.mem_filter]

theorem isTableFile_iff :
    isTableFile entry = true ↔ ∃ bytes, entry.2 = .file bytes ∧
      (Path.extension? entry.1 = some "txt" ∨ Path.extension? entry.1 = some "tbl") := by
  rw [isTableFile]
  cases entry.2 with
  | file bytes => simp [FileTree.isFile]
  | directory entries => simp [FileTree.isFile]

theorem mem_names_tableFiles_iff {name : String} :
    name ∈ (tableFiles entries).map Prod.fst ↔ ∃ bytes, (name, .file bytes) ∈ entries ∧
      (Path.extension? name = some "txt" ∨ Path.extension? name = some "tbl") := by
  rw [List.mem_map]
  constructor
  · rintro ⟨⟨name, tree⟩, hentry, rfl⟩
    obtain ⟨hmem, htable⟩ := mem_tableFiles_iff.1 hentry
    obtain ⟨bytes, rfl, hextension⟩ := isTableFile_iff.1 htable
    exact ⟨bytes, hmem, hextension⟩
  · rintro ⟨bytes, hmem, hextension⟩
    refine ⟨(name, .file bytes), mem_tableFiles_iff.2 ⟨hmem, ?_⟩, rfl⟩
    exact isTableFile_iff.2 ⟨bytes, rfl, hextension⟩

theorem sorted_tableFiles (hnodup : (entries.map Prod.fst).Nodup) :
    (tableFiles entries).Pairwise fun first second => first.1 < second.1 := by
  have hmerged : (tableFiles entries).Pairwise fun first second =>
      (compare first.1 second.1).isLE = true := by
    refine List.pairwise_mergeSort (fun _ _ _ => Std.TransCmp.isLE_trans) (fun first second => ?_) _
    have hswap : compare second.1 first.1 = (compare first.1 second.1).swap :=
      Std.OrientedCmp.eq_swap
    rw [hswap]
    cases compare first.1 second.1 <;> rfl
  have hdistinct : (tableFiles entries).Pairwise fun first second => first.1 ≠ second.1 := by
    have hperm := List.mergeSort_perm (entries.filter isTableFile) fun first second =>
      (compare first.1 second.1).isLE
    rw [← List.pairwise_map (R := (· ≠ ·))]
    refine (hperm.map Prod.fst).nodup_iff.2 (hnodup.sublist ?_)
    exact List.filter_sublist.map Prod.fst
  refine (hmerged.and hdistinct).imp fun {first second} ⟨hle, hne⟩ => ?_
  refine compareOfLessAndEq_eq_lt.1 ?_
  change compare first.1 second.1 = .lt
  cases hcompare : compare first.1 second.1 with
  | lt => rfl
  | eq => exact absurd (Std.LawfulEqCmp.compare_eq_iff_eq.1 hcompare) hne
  | gt => simp [hcompare] at hle

theorem tableFiles_eq_of_perm (hnodup : (entries.map Prod.fst).Nodup)
    (hperm : enumerated.Perm entries) : tableFiles enumerated = tableFiles entries := by
  have hnodup' : (enumerated.map Prod.fst).Nodup := (hperm.map Prod.fst).nodup_iff.2 hnodup
  refine List.Perm.eq_of_pairwise (fun _ _ _ _ hless hmore => absurd hless (lt_asymm hmore))
    (sorted_tableFiles hnodup') (sorted_tableFiles hnodup) ?_
  exact (List.mergeSort_perm _ _).trans ((hperm.filter _).trans (List.mergeSort_perm _ _).symm)

/-! ### One file after another -/

/-- The files at these paths are loaded one after another, each with so many tables. -/
inductive LoadsAll (disk : Disk) : Store → List String → List Nat → Store → Prop
  | nil {store} : LoadsAll disk store [] [] store
  | cons {store loaded after path rest count counts}
      (hfirst : store.loadFile disk path = .ok (loaded, count))
      (hrest : LoadsAll disk loaded rest counts after) :
      LoadsAll disk store (path :: rest) (count :: counts) after

variable {disk : Disk} {store after : Store} {counts : List Nat} {paths : List String}

theorem LoadsAll.eq_foldl (h : LoadsAll disk store paths counts after) :
    (paths.map (.loadFile disk)).foldl Update.apply store = after := by
  induction h with
  | nil => rfl
  | cons hfirst _ ih =>
      rw [List.map_cons, List.foldl_cons, Update.apply, Update.perform, Load.on_map,
        Load.complete_eq_ok_iff.1 hfirst]
      exact ih

theorem LoadsAll.get?_eq (h : LoadsAll disk store paths counts after) (name : String) :
    after.get? name =
      (Update.lastWritten? name (paths.map (.loadFile disk))).or (store.get? name) := by
  rw [← h.eq_foldl, Update.get?_foldl_apply]

/-- Either all of the files can be loaded in turn, or one of them is the first to fail. -/
theorem exists_loadsAll_or_error (disk : Disk) (pathOf : String → String) (names : List String)
    (store : Store) :
    (∃ counts after, LoadsAll disk store (names.map pathOf) counts after) ∨
      ∃ before failing later counts after error, names = before ++ failing :: later ∧
        LoadsAll disk store (before.map pathOf) counts after ∧
        after.loadFile disk (pathOf failing) = .error error := by
  induction names generalizing store with
  | nil => exact Or.inl ⟨[], store, .nil⟩
  | cons name names ih =>
      cases hload : store.loadFile disk (pathOf name) with
      | error error => exact Or.inr ⟨[], name, names, [], store, error, rfl, .nil, hload⟩
      | ok result =>
          obtain ⟨loaded, count⟩ := result
          rcases ih loaded with ⟨counts, after, hall⟩ |
            ⟨before, failing, later, counts, after, error, rfl, hbefore, hfailing⟩
          · exact Or.inl ⟨count :: counts, after, .cons hload hall⟩
          · exact Or.inr ⟨name :: before, failing, later, count :: counts, after, error, rfl,
              .cons hload hbefore, hfailing⟩

/-- The files can be loaded by the paths that `pathOf` gives for their names. -/
def FoundAt (disk : Disk) (pathOf : String → String) (files : List (String × FileTree)) : Prop :=
  ∀ entry ∈ files, Load.file disk (pathOf entry.1) = Load.named entry.1 entry.2

theorem FoundAt.loadFile_eq_ok_iff {pathOf : String → String} {files : List (String × FileTree)}
    {name : String} {file : FileTree} {count : Nat} (hfound : FoundAt disk pathOf files)
    (hfile : (name, file) ∈ files) :
    store.loadFile disk (pathOf name) = .ok (after, count) ↔
      (Load.named name file).on store = (after, .ok count) := by
  rw [loadFile, hfound (name, file) hfile, Load.complete_eq_ok_iff]

theorem each_append {pathOf : String → String} {files : List (String × FileTree)}
    (hfound : FoundAt disk pathOf files)
    (h : LoadsAll disk store ((files.map Prod.fst).map pathOf) counts after)
    (rest : List (String × FileTree)) :
    (Load.each (files ++ rest)).on store =
      (((Load.each rest).on after).1, ((Load.each rest).on after).2.map (counts.sum + ·)) := by
  induction files generalizing store counts with
  | nil =>
      cases h
      rw [List.nil_append]
      generalize (Load.each rest).on after = step
      rcases step with ⟨loaded, failure | count⟩ <;> simp [Except.map]
  | cons entry files ih =>
      obtain ⟨name, file⟩ := entry
      cases h with
      | cons hfirst hrest =>
          have hnamed := (hfound.loadFile_eq_ok_iff List.mem_cons_self).1 hfirst
          have hfiles := ih (fun other h => hfound other (List.mem_cons_of_mem _ h)) hrest
          rw [List.cons_append, Load.on_each_cons, hnamed]
          simp only [hfiles]
          cases ((Load.each rest).on after).2 <;> simp [Except.map, Nat.add_assoc]

/-- How the files of these names are loaded from a directory: in turn, up to the first one that
fails. -/
structure LoadsInTurn (disk : Disk) (directory : String) (names : List String) (store : Store) :
    Prop where
  loaded : ∀ counts after, LoadsAll disk store (names.map (Path.join directory)) counts after →
    store.loadDirectory disk directory = (after, .ok counts.sum) ∧
      ∀ name, after.get? name = (Update.lastWritten? name
        ((names.map (Path.join directory)).map (.loadFile disk))).or (store.get? name)
  failed : ∀ before failing later counts after error, names = before ++ failing :: later →
    LoadsAll disk store (before.map (Path.join directory)) counts after →
    after.loadFile disk (Path.join directory failing) = .error error →
      store.loadDirectory disk directory = (after, .error error)
  loaded_or_failed :
    (∃ counts after, LoadsAll disk store (names.map (Path.join directory)) counts after) ∨
      ∃ before failing later counts after error, names = before ++ failing :: later ∧
        LoadsAll disk store (before.map (Path.join directory)) counts after ∧
        after.loadFile disk (Path.join directory failing) = .error error

theorem loadsInTurn {directory : String}
    (hplace : disk directory = .ok (.directory entries))
    (hfound : FoundAt disk (Path.join directory) (tableFiles entries)) (store : Store) :
    LoadsInTurn disk directory ((tableFiles entries).map Prod.fst) store := by
  have hload : store.loadDirectory disk directory = (Load.each (tableFiles entries)).on store := by
    rw [loadDirectory, Load.directory, hplace]
    rfl
  refine ⟨fun counts after hall => ⟨?_, hall.get?_eq⟩, ?_, ?_⟩
  · have hwhole := each_append hfound hall []
    rw [List.append_nil] at hwhole
    rw [hload, hwhole]
    rfl
  · intro before failing later counts after error hnames hbefore hfailing
    obtain ⟨files, rest, hfiles, rfl, hrest⟩ := List.map_eq_append_iff.1 hnames
    obtain ⟨⟨failing, file⟩, rest, rfl, rfl, -⟩ := List.map_eq_cons_iff.1 hrest
    rw [hfiles] at hfound
    have hbefore' := each_append (fun entry hentry =>
      hfound entry (List.mem_append_left _ hentry)) hbefore ((failing, file) :: rest)
    obtain ⟨_, hreads, _⟩ := Load.exists_reads_file disk (Path.join directory failing)
    have hstays := hreads.on_of_error (Load.complete_eq_error_iff.1 hfailing)
    rw [hfound (failing, file) (by simp)] at hstays
    have hstops : (Load.each ((failing, file) :: rest)).on after = (after, .error error) := by
      rw [Load.on_each_cons, hstays]
    rw [hload, hfiles, hbefore', hstops]
    rfl
  · exact exists_loadsAll_or_error disk (Path.join directory) _ store

/-- A file in a directory is loaded by its path as it is by its name. -/
theorem file_join {root : FileTree} {workingDirectory : List String} {path : String}
    (hplace : FileTree.disk root workingDirectory path = .ok (.directory entries))
    (hnamed : FileTree.Named entries) (hentry : entry ∈ entries) :
    Load.file (FileTree.disk root workingDirectory) (Path.join path entry.1) =
      Load.named entry.1 entry.2 := by
  rw [Load.file, Path.fileName?_join (hnamed.isName entry hentry)]
  simp only [FileTree.disk_join hplace hnamed hentry]

/-- The table files of a directory are loaded in the order of their paths, whatever the order in
which its entries come. Where all of them can be loaded, the last one with a table of some name
decides what the name stands for; otherwise the first one that fails ends the load. -/
theorem loadDirectory_in_order (root : FileTree) (workingDirectory : List String) (path : String)
    (entries : List (String × FileTree))
    (place : FileTree.disk root workingDirectory path = .ok (.directory entries))
    (named : FileTree.Named entries) :
    ∃ names : List String, names.Pairwise (· < ·) ∧
      (names.map (Path.join path)).Pairwise (· < ·) ∧
      (∀ name, name ∈ names ↔ ∃ bytes, (name, .file bytes) ∈ entries ∧
        (Path.extension? name = some "txt" ∨ Path.extension? name = some "tbl")) ∧
      ∀ store : Store,
        LoadsInTurn (FileTree.disk root workingDirectory) path names store ∧
        ∀ (other : Disk) (enumerated : List (String × FileTree)), enumerated.Perm entries →
          other path = .ok (.directory enumerated) →
            store.loadDirectory other path =
              store.loadDirectory (FileTree.disk root workingDirectory) path := by
  have hfound : FoundAt (FileTree.disk root workingDirectory) (Path.join path)
      (tableFiles entries) :=
    fun entry hentry => file_join place named (mem_tableFiles_iff.1 hentry).1
  have hsorted : ((tableFiles entries).map Prod.fst).Pairwise (· < ·) :=
    List.pairwise_map.2 (sorted_tableFiles named.nodup)
  refine ⟨(tableFiles entries).map Prod.fst, hsorted, ?_, fun _ => mem_names_tableFiles_iff,
    fun store => ⟨loadsInTurn place hfound store, ?_⟩⟩
  · exact List.pairwise_map.2 (hsorted.imp fun hless => Path.join_lt_join hless path)
  · intro other enumerated hperm hother
    rw [loadDirectory, loadDirectory, Load.directory, Load.directory, hother, place]
    change (Load.each (tableFiles enumerated)).on store = (Load.each (tableFiles entries)).on store
    rw [tableFiles_eq_of_perm named.nodup hperm]

/-- Two table files of one base name, a file of another kind and a directory. -/
def innEntries : List (String × FileTree) :=
  [("x.txt", .file ";main\nale".toUTF8), ("notes.md", .file "none".toUTF8),
    ("x.tbl", .file ";main\nmead\n;sign\nox".toUTF8), ("old.txt", .directory [])]

def inn : Disk := FileTree.disk (.directory [("inn", .directory innEntries)]) []

theorem named_innEntries : FileTree.Named innEntries where
  nodup := by decide
  isName := by
    have hname : ∀ name ∈ ["x.txt", "notes.md", "x.tbl", "old.txt"], Path.IsName name := by
      intro name hname
      refine ⟨?_, ?_, ?_, ?_⟩ <;> revert name <;> decide
    intro entry hentry
    exact hname entry.1 (List.mem_map_of_mem hentry)

theorem mem_names_inn {name : String} :
    (∃ bytes, (name, .file bytes) ∈ innEntries ∧
      (Path.extension? name = some "txt" ∨ Path.extension? name = some "tbl")) ↔
      name ∈ ["x.tbl", "x.txt"] := by
  have htable : Path.extension? "x.tbl" = some "tbl" := by cbv
  have htext : Path.extension? "x.txt" = some "txt" := by cbv
  have hnotes : Path.extension? "notes.md" = some "md" := by cbv
  simp only [innEntries, List.mem_cons, Prod.mk.injEq, FileTree.file.injEq, List.not_mem_nil]
  constructor
  · rintro ⟨bytes, ⟨rfl, -⟩ | ⟨rfl, -⟩ | ⟨rfl, -⟩ | ⟨-, hfile⟩ | hfile, hextension⟩ <;>
      simp_all
  · rintro (rfl | rfl | hfile)
    · exact ⟨_, Or.inr (Or.inr (Or.inl ⟨rfl, rfl⟩)), Or.inr htable⟩
    · exact ⟨_, Or.inl ⟨rfl, rfl⟩, Or.inl htext⟩
    · cases hfile

def mead : Store := TableFile.collect [("x", .literal "mead"), ("x.sign", .literal "ox")]

def ale : Store := TableFile.collect [("x", .literal "ale")]

theorem reads_mead :
    (Load.named "x.tbl" (.file ";main\nmead\n;sign\nox".toUTF8)).Reads (.ok mead) := by
  have htext : FileTree.text (.file ";main\nmead\n;sign\nox".toUTF8) =
      .ok ";main\nmead\n;sign\nox" := by cbv
  have hstem : Path.stem "x.tbl" = "x" := by cbv
  refine Load.reads_named htext ?_
  rw [hstem]
  rfl

theorem reads_ale : (Load.named "x.txt" (.file ";main\nale".toUTF8)).Reads (.ok ale) := by
  have htext : FileTree.text (.file ";main\nale".toUTF8) = .ok ";main\nale" := by cbv
  have hstem : Path.stem "x.txt" = "x" := by cbv
  refine Load.reads_named htext ?_
  rw [hstem]
  rfl

/-- The table `x` is taken from the later of its two files, and the table `x.sign` stays. -/
theorem loadDirectory_in_order_inn :
    inn "inn" = .ok (.directory innEntries) ∧ FileTree.Named innEntries ∧
      ∃ after, empty.loadDirectory inn "inn" = (after, .ok 3) ∧
        after.get? "x" = some ⟨"x", [.literal "ale"]⟩ ∧
        after.get? "x.sign" = some ⟨"x.sign", [.literal "ox"]⟩ := by
  have place : inn "inn" = .ok (.directory innEntries) := by cbv
  obtain ⟨names, hsorted, -, hmem, hstores⟩ := loadDirectory_in_order _ _ _ _ place named_innEntries
  obtain rfl : names = ["x.tbl", "x.txt"] := by
    refine List.Perm.eq_of_pairwise (fun _ _ _ _ hless hmore => absurd hless (lt_asymm hmore))
      hsorted (by decide +kernel) ?_
    rw [List.perm_ext_iff_of_nodup (hsorted.imp ne_of_lt) (by decide)]
    exact fun name => (hmem name).trans mem_names_inn
  have hfound : FoundAt inn (Path.join "inn") innEntries :=
    fun entry hentry => file_join place named_innEntries hentry
  have hmead : empty.loadFile inn (Path.join "inn" "x.tbl") = .ok (empty.merge mead, 2) := by
    have hsize : mead.size = 2 := by decide +kernel
    rw [← hsize]
    exact (hfound.loadFile_eq_ok_iff (by simp [innEntries])).2 (reads_mead empty)
  have hale : (empty.merge mead).loadFile inn (Path.join "inn" "x.txt") =
      .ok ((empty.merge mead).merge ale, 1) := by
    have hsize : ale.size = 1 := by decide +kernel
    rw [← hsize]
    exact (hfound.loadFile_eq_ok_iff (by simp [innEntries])).2 (reads_ale _)
  obtain ⟨hload, -⟩ := (hstores empty).1.loaded _ _ (.cons hmead (.cons hale .nil))
  refine ⟨place, named_innEntries, _, hload, ?_, ?_⟩
  · have hget : ale.get? "x" = some ⟨"x", [.literal "ale"]⟩ := by decide +kernel
    rw [get?_merge, hget, Option.some_or]
  · have hnone : ale.get? "x.sign" = none := by decide +kernel
    have hget : mead.get? "x.sign" = some ⟨"x.sign", [.literal "ox"]⟩ := by decide +kernel
    rw [get?_merge, get?_merge, hnone, hget, Option.none_or, Option.some_or]

end RandomTables.Store
