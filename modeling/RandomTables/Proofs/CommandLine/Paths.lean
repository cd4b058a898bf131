import Mathlib
import RandomTables.CommandLine
import RandomTables.Proofs.Store.Load

/-!
The tables of several paths. The linter loads the paths as they are given, so the last path with a
table of some name decides what the name stands for. The shell loads all directories before all
files: for it a file counts more than a directory given after the file.
-/

namespace RandomTables.CommandLine

variable {disk : Disk} {path name : String} {paths : List String}

def tablesAt (disk : Disk) (path : String) : Store :=
  match loadPath disk Store.empty path with
  | .ok (tables, _) => tables
  | .error _ => Store.empty

def addPath (disk : Disk) (store : Store) (path : String) : Store :=
  store.merge (tablesAt disk path)

/-- The path exists and is loaded without an error. -/
def Loads (disk : Disk) (path : String) : Prop :=
  (loadPath disk Store.empty path).isOk = true

theorem loadPath_eq_merge (disk : Disk) (store : Store) (path : String) :
    loadPath disk store path = (loadPath disk Store.empty path).map fun (tables, line) =>
      (store.merge tables, line) := by
  unfold loadPath
  cases disk path with
  | error error => rfl
  | ok place =>
      cases hfile : place.isFile with
      | true =>
          simp only [hfile, if_true]
          rw [Store.loadFile_eq_merge store]
          cases Store.empty.loadFile disk path <;> rfl
      | false =>
          simp only [hfile, Bool.false_eq_true, if_false]
          rw [Store.loadDirectory_eq_merge store]
          cases (Store.empty.loadDirectory disk path).2 <;> rfl

theorem loadPath_of_loads (h : Loads disk path) (store : Store) :
    ∃ line, loadPath disk store path = .ok (addPath disk store path, line) := by
  rw [loadPath_eq_merge, addPath, tablesAt]
  unfold Loads at h
  cases hload : loadPath disk Store.empty path with
  | error message =>
      rw [hload] at h
      cases h
  | ok result =>
      obtain ⟨tables, line⟩ := result
      exact ⟨line, rfl⟩

theorem loadPaths_of_loads (h : ∀ path ∈ paths, Loads disk path) (store : Store) :
    (loadPaths disk store paths).2 = .ok (paths.foldl (addPath disk) store) := by
  induction paths generalizing store with
  | nil => rfl
  | cons path rest ih =>
      obtain ⟨line, hload⟩ := loadPath_of_loads (h path List.mem_cons_self) store
      rw [loadPaths, hload]
      exact ih (fun later hlater => h later (List.mem_cons_of_mem _ hlater)) _

theorem loadPath_eq_ok {store loaded : Store} {line : String}
    (h : loadPath disk store path = .ok (loaded, line)) :
    (isDirectory disk path = true ∧
        ∃ count, store.loadDirectory disk path = (loaded, .ok count)) ∨
      (isDirectory disk path = false ∧
        ∃ count, store.loadFile disk path = .ok (loaded, count)) := by
  unfold loadPath at h
  unfold isDirectory
  cases hplace : disk path with
  | error error =>
      rw [hplace] at h
      cases h
  | ok place =>
      cases hfile : place.isFile with
      | true =>
          simp only [hplace, hfile, if_true] at h
          cases hload : store.loadFile disk path with
          | error error =>
              rw [hload] at h
              cases h
          | ok result =>
              rw [hload] at h
              cases h
              exact .inr ⟨by simp [hfile], result.2, rfl⟩
      | false =>
          simp only [hplace, hfile, Bool.false_eq_true, if_false] at h
          rcases hload : store.loadDirectory disk path with ⟨tables, result⟩
          rw [hload] at h
          cases result with
          | error error => cases h
          | ok count =>
              cases h
              exact .inl ⟨by simp [hfile], count, rfl⟩

theorem loadDirectory_of_loads (hdirectory : isDirectory disk path = true) (h : Loads disk path)
    (store : Store) :
    ∃ count, store.loadDirectory disk path = (addPath disk store path, .ok count) := by
  obtain ⟨line, hload⟩ := loadPath_of_loads h store
  rcases loadPath_eq_ok hload with ⟨-, hloaded⟩ | ⟨hfile, -⟩
  · exact hloaded
  · rw [hdirectory] at hfile
    cases hfile

theorem loadFile_of_loads (hfile : isDirectory disk path = false) (h : Loads disk path)
    (store : Store) :
    ∃ count, store.loadFile disk path = .ok (addPath disk store path, count) := by
  obtain ⟨line, hload⟩ := loadPath_of_loads h store
  rcases loadPath_eq_ok hload with ⟨hdirectory, -⟩ | ⟨-, hloaded⟩
  · rw [hfile] at hdirectory
    cases hdirectory
  · exact hloaded

theorem loadDirectories_of_loads
    (h : ∀ path ∈ paths, isDirectory disk path = true ∧ Loads disk path) (store : Store) :
    Setup.loadDirectories disk store paths = .ok (paths.foldl (addPath disk) store) := by
  induction paths generalizing store with
  | nil => rfl
  | cons path rest ih =>
      obtain ⟨hdirectory, hloads⟩ := h path List.mem_cons_self
      obtain ⟨count, hload⟩ := loadDirectory_of_loads hdirectory hloads store
      have hrest := ih (fun later hlater => h later (List.mem_cons_of_mem _ hlater))
        (addPath disk store path)
      rw [Setup.loadDirectories, List.foldlM_cons, hload]
      exact hrest

theorem loadFiles_of_loads
    (h : ∀ path ∈ paths, isDirectory disk path = false ∧ Loads disk path) (store : Store) :
    Setup.loadFiles disk store paths = .ok (paths.foldl (addPath disk) store) := by
  induction paths generalizing store with
  | nil => rfl
  | cons path rest ih =>
      obtain ⟨hfile, hloads⟩ := h path List.mem_cons_self
      obtain ⟨count, hload⟩ := loadFile_of_loads hfile hloads store
      have hrest := ih (fun later hlater => h later (List.mem_cons_of_mem _ hlater))
        (addPath disk store path)
      rw [Setup.loadFiles, List.foldlM_cons, hload]
      exact hrest

/-- The table of this name at the last path that has one. -/
def lastTable? (disk : Disk) (name : String) (paths : List String) : Option Table :=
  paths.reverse.findSome? fun path => (tablesAt disk path).get? name

theorem lastTable?_cons (disk : Disk) (name path : String) (rest : List String) :
    lastTable? disk name (path :: rest) =
      (lastTable? disk name rest).or ((tablesAt disk path).get? name) := by
  simp [lastTable?, List.findSome?_append]

theorem lastTable?_append (disk : Disk) (name : String) (first second : List String) :
    lastTable? disk name (first ++ second) =
      (lastTable? disk name second).or (lastTable? disk name first) := by
  simp [lastTable?, List.findSome?_append]

theorem lastTable?_eq_none_iff :
    lastTable? disk name paths = none ↔ ∀ path ∈ paths, (tablesAt disk path).get? name = none := by
  simp [lastTable?]

theorem get?_foldl_addPath (store : Store) :
    (paths.foldl (addPath disk) store).get? name =
      (lastTable? disk name paths).or (store.get? name) := by
  induction paths generalizing store with
  | nil => rfl
  | cons path rest ih =>
      rw [List.foldl_cons, ih, addPath, Store.get?_merge, lastTable?_cons, Option.or_assoc]

/-- No directory with a table of this name comes after a file with one. -/
def KeepsOrder (disk : Disk) (name : String) (paths : List String) : Prop :=
  paths.Pairwise fun earlier later =>
    isDirectory disk earlier = false → isDirectory disk later = true →
      ((tablesAt disk earlier).get? name).isSome → (tablesAt disk later).get? name = none

/-- Directories may be moved in front of files where no name is lost by it. -/
theorem lastTable?_or_of_keepsOrder (h : KeepsOrder disk name paths) :
    (lastTable? disk name (paths.filter (!isDirectory disk ·))).or
      (lastTable? disk name (paths.filter (isDirectory disk))) = lastTable? disk name paths := by
  induction paths with
  | nil => rfl
  | cons path rest ih =>
      obtain ⟨hpath, hrest⟩ := List.pairwise_cons.1 h
      rw [lastTable?_cons]
      cases hdirectory : isDirectory disk path with
      | true =>
          rw [List.filter_cons_of_neg (by simp [hdirectory]), List.filter_cons_of_pos hdirectory,
            lastTable?_cons, ← Option.or_assoc, ih hrest]
      | false =>
          rw [List.filter_cons_of_pos (by simp [hdirectory]),
            List.filter_cons_of_neg (by simp [hdirectory]), lastTable?_cons, ← ih hrest]
          cases hget : (tablesAt disk path).get? name with
          | none => rw [Option.or_none, Option.or_none]
          | some table =>
              -- The file may stay behind the later directories only as none of them has the name.
              have hnone : lastTable? disk name (rest.filter (isDirectory disk)) = none := by
                rw [lastTable?_eq_none_iff]
                intro later hlater
                obtain ⟨hmem, hlaterDirectory⟩ := List.mem_filter.1 hlater
                exact hpath later hmem hdirectory hlaterDirectory (by rw [hget]; rfl)
              rw [hnone, Option.or_none, Option.or_none]

namespace ShellOptions

theorem exists_build (options : ShellOptions) (bare : options.builtin = false)
    (standard : options.settings = none) (loads : ∀ path ∈ options.tables, Loads disk path) :
    ∃ engine, options.build disk = .ok engine ∧
      engine.tables = (options.tables.filter (isDirectory disk) ++
        options.tables.filter (!isDirectory disk ·)).foldl (addPath disk) Store.empty := by
  have hdirectories : Setup.loadDirectories disk Store.empty (options.setup disk).directories =
      .ok ((options.setup disk).directories.foldl (addPath disk) Store.empty) := by
    apply loadDirectories_of_loads
    intro path hpath
    obtain ⟨hmem, hdirectory⟩ := List.mem_filter.1 hpath
    exact ⟨hdirectory, loads path hmem⟩
  have hfiles : ∀ store, Setup.loadFiles disk store (options.setup disk).files =
      .ok ((options.setup disk).files.foldl (addPath disk) store) := by
    apply loadFiles_of_loads
    intro path hpath
    obtain ⟨hmem, hfile⟩ := List.mem_filter.1 hpath
    simp only [Bool.not_eq_true'] at hfile
    exact ⟨hfile, loads path hmem⟩
  have htables : (options.setup disk).loadTables disk = .ok ((options.tables.filter
      (isDirectory disk) ++ options.tables.filter (!isDirectory disk ·)).foldl (addPath disk)
        Store.empty) := by
    have hstart : (options.setup disk).builtinTables = false := bare
    have hgiven : (options.setup disk).tables = none := rfl
    rw [Setup.loadTables, hstart, hgiven, Option.getD_none, Store.merge_empty]
    simp only [Bool.false_eq_true, if_false]
    rw [hdirectories]
    exact (hfiles _).trans (by rw [List.foldl_append]; rfl)
  have hsettings : (options.setup disk).loadSettings disk = .ok Settings.standard := by
    have hpath : (options.setup disk).settingsFile = none := standard
    unfold Setup.loadSettings
    rw [hpath]
    rfl
  have hdice : Settings.standard.registerDice
      ((options.setup disk).dice.getD Dice.Registry.builtin) = .ok Dice.Registry.builtin := rfl
  rw [build, Setup.build, hsettings, Except.mapError]
  simp only [bind, Except.bind, hdice, htables, Except.mapError]
  exact ⟨_, rfl, rfl⟩

/-- On the same paths the shell and the linter both get their tables, and agree on every name whose
tables in directories all come before those in files. -/
theorem build_agrees_with_loadPaths (options : ShellOptions) (bare : options.builtin = false)
    (standard : options.settings = none) (loads : ∀ path ∈ options.tables, Loads disk path) :
    ∃ engine linted, options.build disk = .ok engine ∧
      (loadPaths disk Store.empty options.tables).2 = .ok linted ∧
      ∀ name, linted.get? name = lastTable? disk name options.tables ∧
        engine.tables.get? name =
          (lastTable? disk name (options.tables.filter (!isDirectory disk ·))).or
            (lastTable? disk name (options.tables.filter (isDirectory disk))) ∧
        (KeepsOrder disk name options.tables → engine.tables.get? name = linted.get? name) := by
  obtain ⟨engine, hbuild, htables⟩ := exists_build options bare standard loads
  refine ⟨engine, _, hbuild, loadPaths_of_loads loads Store.empty, ?_⟩
  intro name
  have hlinted : (options.tables.foldl (addPath disk) Store.empty).get? name =
      lastTable? disk name options.tables := by
    rw [get?_foldl_addPath, Store.get?_empty, Option.or_none]
  have hengine : engine.tables.get? name =
      (lastTable? disk name (options.tables.filter (!isDirectory disk ·))).or
        (lastTable? disk name (options.tables.filter (isDirectory disk))) := by
    rw [htables, get?_foldl_addPath, Store.get?_empty, Option.or_none, lastTable?_append]
  refine ⟨hlinted, hengine, ?_⟩
  intro hkeeps
  rw [hengine, hlinted, lastTable?_or_of_keepsOrder hkeeps]

def taverns : Disk := FileTree.disk (.directory [
  ("x.txt", .file ";main\nale".toUTF8),
  ("d", .directory [("x.txt", .file ";main\nmead".toUTF8)])]) []

def inTaverns (paths : List String) : ShellOptions where
  tables := paths
  settings := none
  seed := none
  builtin := false
  command := ["x"]

theorem tablesAt_file : (tablesAt taverns "x.txt").get? "x" = some ⟨"x", [.literal "ale"]⟩ := by
  cbv

theorem tablesAt_directory : (tablesAt taverns "d").get? "x" = some ⟨"x", [.literal "mead"]⟩ := by
  cbv

theorem isDirectory_taverns :
    isDirectory taverns "x.txt" = false ∧ isDirectory taverns "d" = true := by
  constructor <;> cbv

theorem loads_taverns : ∀ path ∈ ["x.txt", "d"], Loads taverns path := by
  have hfile : Loads taverns "x.txt" := by cbv
  have hdirectory : Loads taverns "d" := by cbv
  simp [hfile, hdirectory]

/-- With the directory first, the file counts for both. -/
theorem build_agrees_with_loadPaths_taverns :
    ∃ engine linted, (inTaverns ["d", "x.txt"]).build taverns = .ok engine ∧
      (loadPaths taverns Store.empty ["d", "x.txt"]).2 = .ok linted ∧
      linted.get? "x" = some ⟨"x", [.literal "ale"]⟩ ∧
      engine.tables.get? "x" = some ⟨"x", [.literal "ale"]⟩ := by
  have hloads : ∀ path ∈ (inTaverns ["d", "x.txt"]).tables, Loads taverns path := by
    intro path hpath
    exact loads_taverns path (by simpa [inTaverns, or_comm] using hpath)
  obtain ⟨engine, linted, hbuild, hlinted, hnames⟩ :=
    build_agrees_with_loadPaths (inTaverns ["d", "x.txt"]) rfl rfl hloads
  obtain ⟨hlast, -, hagree⟩ := hnames "x"
  have hkeeps : KeepsOrder taverns "x" ["d", "x.txt"] := by
    simp [KeepsOrder, isDirectory_taverns]
  have hale : linted.get? "x" = some ⟨"x", [.literal "ale"]⟩ := by
    rw [hlast]
    simp [inTaverns, lastTable?, tablesAt_file]
  exact ⟨engine, linted, hbuild, hlinted, hale, (hagree hkeeps).trans hale⟩

/-- With the file first, the directory counts for the linter alone. -/
theorem build_disagrees_with_loadPaths_taverns :
    ∃ engine linted, (inTaverns ["x.txt", "d"]).build taverns = .ok engine ∧
      (loadPaths taverns Store.empty ["x.txt", "d"]).2 = .ok linted ∧
      linted.get? "x" = some ⟨"x", [.literal "mead"]⟩ ∧
      engine.tables.get? "x" = some ⟨"x", [.literal "ale"]⟩ := by
  obtain ⟨engine, hbuild, htables⟩ := exists_build (inTaverns ["x.txt", "d"]) rfl rfl loads_taverns
  refine ⟨engine, _, hbuild, loadPaths_of_loads loads_taverns Store.empty, ?_, ?_⟩
  · rw [get?_foldl_addPath]
    simp [lastTable?, tablesAt_directory]
  · rw [htables, get?_foldl_addPath]
    simp [inTaverns, lastTable?, isDirectory_taverns, tablesAt_file]

end ShellOptions

end RandomTables.CommandLine
