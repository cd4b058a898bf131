import Std.Data.ExtTreeMap
import RandomTables.Dice.Registry
import RandomTables.FileTree

/-!
Settings of an engine: the faces of a dice spec that names none, how deep tables may be nested, and
custom dice by name.
-/

namespace RandomTables

inductive SettingsError where
  | file (error : FileError)
  | malformed
  | emptyDie (name : String)
  | zeroStandardFaces
deriving DecidableEq

def SettingsError.message : SettingsError → String
  | .file error => s!"IO error: {error.message}"
  | .malformed => "RON deserialization error: malformed settings"
  | .emptyDie name => s!"custom die '{name}' has no faces"
  | .zeroStandardFaces => "default faces must be at least 1"

/-- The dice may still lack faces; `check` tells. -/
structure Settings where
  standardFaces : Faces
  maxDepth : Nat
  customDice : Std.ExtTreeMap String (List Face)

namespace Settings

def standardDepth : Nat := 64

def standard : Settings := ⟨Faces.standard, standardDepth, ∅⟩

def dice (settings : Settings) : List (String × List Face) :=
  settings.customDice.toList

/-- The first thing wrong with the settings, if anything is. -/
def check (settings : Settings) : Except SettingsError Unit :=
  if !settings.standardFaces.isRollable then
    .error .zeroStandardFaces
  else match settings.dice.find? (·.2.isEmpty) with
    | some (name, _) => .error (.emptyDie name)
    | none => .ok ()

def registerDice (settings : Settings) (registry : Dice.Registry) :
    Except SettingsError Dice.Registry :=
  settings.dice.foldlM (fun registry (name, faces) =>
    match registry.register? name faces with
    | some registry => .ok registry
    | none => .error (.emptyDie name)) registry

end Settings

end RandomTables
