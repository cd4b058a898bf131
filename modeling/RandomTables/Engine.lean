import RandomTables.Expansion
import RandomTables.Random.Seeded
import RandomTables.Settings
import RandomTables.Store.Load

/-!
An engine holds tables, dice, settings and a random source, and answers one request after another.
-/

namespace RandomTables

inductive EngineError where
  | table (error : LoadError)
  | settings (error : SettingsError)
  | expansion (error : ExpansionError)
  | spec (error : SpecError)
deriving DecidableEq

def EngineError.message : EngineError → String
  | .table error => s!"table error: {error.message}"
  | .settings error => s!"config error: {error.message}"
  | .expansion error => s!"expansion error: {error.message}"
  | .spec error => s!"spec error: {error.message}"

structure Engine where
  tables : Store
  dice : Dice.Registry
  settings : Settings
  source : Seeded
  seed : Option UInt64

namespace Engine

/-- What is asked of an engine: an answer and the engine after it, or the fault of a draw. -/
abbrev Request := StateT Engine (Except DrawFault)

def expander (engine : Engine) : Expander where
  tables := engine.tables
  dice := engine.dice
  standardFaces := engine.settings.standardFaces
  maxDepth := engine.settings.maxDepth

def draw {α : Type} (drawn : Draw Seeded α) : Request α := fun engine =>
  (drawn engine.source).map fun (value, source) => (value, { engine with source })

def runExpansion (expansion : Expansion Seeded String) : Request (Except EngineError String) :=
  (·.mapError EngineError.expansion) <$> draw expansion.run

def expand (name : String) (scope : Option String) : Request (Except EngineError String) := do
  let engine ← get
  runExpansion (engine.expander.expand name scope)

def expandText (text : String) : Request (Except EngineError String) := do
  let engine ← get
  runExpansion (engine.expander.expandText text none)

def rollDice (text : String) : Request (Except EngineError Dice.Roll) := do
  let engine ← get
  match Dice.Spec.parse engine.settings.standardFaces text with
  | .ok spec => .ok <$> draw (spec.roll engine.dice)
  | .error error => pure (.error (.spec error))

def rollRange (text : String) : Request (Except EngineError Range.Roll) :=
  match Range.Spec.parse text with
  | .ok spec => .ok <$> draw spec.roll
  | .error error => pure (.error (.spec error))

def chooseFromList (list : String) : Request (Option String) :=
  draw (Choice.chooseFromList list)

def loadFile (disk : Disk) (path : String) : Request (Except EngineError Nat) := do
  let engine ← get
  let (tables, result) := (Load.file disk path).on engine.tables
  set { engine with tables }
  pure (result.mapError .table)

def reseed (seed : UInt64) : Request Unit :=
  modify fun engine => { engine with source := Seeded.ofSeed seed, seed := some seed }

end Engine

end RandomTables
