import RandomTables.FileTree
import RandomTables.TableFile
import RandomTables.Text.Quoted

/-!
Loading tables from text, from files and from directories. A load works on a store, and whatever it
has done to the store before it fails is not undone: a text that cannot be loaded leaves the store
as it was, but of a directory there stays what was loaded before the file that failed.
-/

namespace RandomTables

inductive LoadError where
  | malformed (name : String)
  /-- The path does not end in the name of a file. -/
  | fileName (path : String)
  | file (error : FileError)
deriving DecidableEq

def LoadError.message : LoadError → String
  | .malformed name => s!"table file '{name}' has no ';' section header"
  | .fileName path => s!"cannot derive a table name from {Text.quote path}"
  | .file error => s!"IO error: {error.message}"

namespace Store

def isTableFile (entry : String × FileTree) : Bool :=
  entry.2.isFile && (Path.extension? entry.1 == some "txt" || Path.extension? entry.1 == some "tbl")

/-- The table files among the entries of a directory, in the order of their names. -/
def tableFiles (entries : List (String × FileTree)) : List (String × FileTree) :=
  (entries.filter isTableFile).mergeSort fun a b => (compare a.1 b.1).isLE

end Store

/-- A load changes a store, up to where it fails. -/
abbrev Load := ExceptT LoadError (StateM Store)

namespace Load

/-- Loads a text, and tells how many tables it holds. -/
def text (file contents : String) : Load Nat :=
  match TableFile.parse? file contents with
  | none => throw (.malformed file)
  | some tables => do
      modify (·.merge tables)
      pure tables.size

/-- Loads a file of this name; its tables bear the name without its extension. -/
def named (name : String) (file : FileTree) : Load Nat :=
  match file.text with
  | .ok contents => text (Path.stem name) contents
  | .error error => throw (.file error)

def file (disk : Disk) (path : String) : Load Nat :=
  match Path.fileName? path with
  | none => throw (.fileName path)
  | some name =>
      match disk path with
      | .ok place => named name place
      | .error error => throw (.file error)

def each : List (String × FileTree) → Load Nat
  | [] => pure 0
  | (name, file) :: rest => do
      let count ← named name file
      let later ← each rest
      pure (count + later)

/-- Loads every table file of a directory, but not of the directories in it. -/
def directory (disk : Disk) (path : String) : Load Nat :=
  match disk path >>= FileTree.entries with
  | .ok entries => each (Store.tableFiles entries)
  | .error error => throw (.file error)

/-- The store after a load, and what the load came to. -/
def on {α : Type} (load : Load α) (store : Store) : Store × Except LoadError α :=
  let (result, after) := load.run.run store
  (after, result)

/-- What a load makes of a store, unless it fails. -/
def complete (load : Load Nat) (store : Store) : Except LoadError (Store × Nat) :=
  let (after, result) := load.on store
  result.map fun count => (after, count)

end Load

namespace Store

/-! A text or a file is loaded as a whole or not at all, so that there is only an error to tell when
its load fails. -/

def loadText (store : Store) (file contents : String) : Except LoadError (Store × Nat) :=
  (Load.text file contents).complete store

def loadFile (store : Store) (disk : Disk) (path : String) : Except LoadError (Store × Nat) :=
  (Load.file disk path).complete store

def loadDirectory (store : Store) (disk : Disk) (path : String) : Store × Except LoadError Nat :=
  (Load.directory disk path).on store

end Store

end RandomTables
