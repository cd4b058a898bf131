import RandomTables.Builtin
import RandomTables.Engine
import RandomTables.Settings.Reader

/-!
What an engine is made from. Settings that are given count before a file of settings, and custom
dice of the settings are added to the dice. Tables are taken from the built-in ones, then from those
given, then from the directories, then from the files: later ones replace earlier ones of the same
name.
-/

namespace RandomTables

structure Setup where
  builtinTables : Bool := true
  seed : Option UInt64 := none
  tables : Option Store := none
  dice : Option Dice.Registry := none
  settings : Option Settings := none
  settingsFile : Option String := none
  directories : List String := []
  files : List String := []

namespace Setup

def loadSettings (setup : Setup) (disk : Disk) : Except SettingsError Settings :=
  match setup.settings, setup.settingsFile with
  | some settings, _ => settings.check.map fun () => settings
  | none, some path => Settings.load disk path
  | none, none => .ok Settings.standard

def loadDirectories (disk : Disk) (store : Store) (paths : List String) :
    Except LoadError Store :=
  paths.foldlM (fun store path =>
    match store.loadDirectory disk path with
    | (store, .ok _) => .ok store
    | (_, .error error) => .error error) store

def loadFiles (disk : Disk) (store : Store) (paths : List String) : Except LoadError Store :=
  paths.foldlM (fun store path => (store.loadFile disk path).map Prod.fst) store

def loadTables (setup : Setup) (disk : Disk) : Except LoadError Store := do
  let store := if setup.builtinTables then Builtin.tables else Store.empty
  let store := store.merge (setup.tables.getD Store.empty)
  let store ← loadDirectories disk store setup.directories
  loadFiles disk store setup.files

def unseeded : UInt64 := 0

def build (setup : Setup) (disk : Disk) : Except EngineError Engine := do
  let settings ← (setup.loadSettings disk).mapError .settings
  let dice ← (settings.registerDice (setup.dice.getD Dice.Registry.builtin)).mapError .settings
  let tables ← (setup.loadTables disk).mapError .table
  pure {
    tables
    dice
    settings
    source := Seeded.ofSeed (setup.seed.getD unseeded)
    seed := setup.seed }

end Setup

end RandomTables
