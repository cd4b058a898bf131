import Std.Data.ExtTreeMap
import RandomTables.Die
import RandomTables.Random.Uniform
import RandomTables.Text.Lowercase

/-!
Custom dice by name. Letter case does not count in a name: a die is kept under the lower-case form.
-/

namespace RandomTables.Dice

structure Registry where
  dice : Std.ExtTreeMap String Die

namespace Registry

def empty : Registry := ⟨∅⟩

def get? (registry : Registry) (name : String) : Option Die :=
  registry.dice[Text.lowercase name]?

def contains (registry : Registry) (name : String) : Bool :=
  registry.dice.contains (Text.lowercase name)

def size (registry : Registry) : Nat :=
  registry.dice.size

def isEmpty (registry : Registry) : Bool :=
  registry.dice.isEmpty

/-- The names of the dice in lower case, in increasing order. -/
def names (registry : Registry) : List String :=
  registry.dice.keys

def insert (registry : Registry) (name : String) (die : Die) : Registry :=
  ⟨registry.dice.insert (Text.lowercase name) die⟩

/-- A die without faces is refused. -/
def register? (registry : Registry) (name : String) (faces : List Face) : Option Registry :=
  (Die.ofFaces? faces).map (registry.insert name)

def fudgeDie : Die := ⟨[⟨-1, "-"⟩, ⟨0, "0"⟩, ⟨1, "+"⟩], by simp⟩

def builtin : Registry := empty.insert "F" fudgeDie

end Registry

end RandomTables.Dice

namespace RandomTables

variable {σ : Type} [RandomSource σ]

def Die.roll (die : Die) : Draw σ Face := do
  let position ← drawBelow64 die.length_pos
  pure die.faces[position]

/-- An unknown die shows its face without a draw. -/
def Dice.Registry.roll (registry : Dice.Registry) (name : String) : Draw σ Face :=
  match registry.get? name with
  | some die => die.roll
  | none => pure Face.unknown

end RandomTables
