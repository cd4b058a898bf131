import RandomTables.Dice.Registry
import RandomTables.Dice.Spec

namespace RandomTables.Dice

/-- The outcome of a dice spec; the faces are in the order in which they were rolled. -/
structure Roll where
  spec : Spec
  faces : List Face
deriving DecidableEq

namespace Roll

def total (roll : Roll) : Int :=
  sumClamped roll.spec.modifier (roll.faces.map Face.value)

/-- The labels, the modifier and the total, such as `(3 5) +2 = 10`. -/
def description (roll : Roll) : String :=
  let labels := " ".intercalate (roll.faces.map Face.label)
  if roll.spec.modifier ≠ 0 then
    s!"({labels}) {Text.signed roll.spec.modifier} = {roll.total}"
  else match roll.faces with
    | [] => toString roll.total
    | [_] => s!"{labels} = {roll.total}"
    | _ => s!"({labels}) = {roll.total}"

end Roll

variable {σ : Type} [RandomSource σ]

def rollNumbered (faces : Nat) : Draw σ Face :=
  if positive : 0 < faces then do
    let position ← drawBelow32 positive
    pure (Face.numbered (position.val + 1))
  else
    throw .emptyRange

def rollFace (registry : Registry) : Faces → Draw σ Face
  | .numbered count => rollNumbered count
  | .named name => registry.roll name

def Spec.roll (spec : Spec) (registry : Registry) : Draw σ Roll := do
  let faces ← Draw.times spec.count (rollFace registry spec.faces)
  pure ⟨spec, faces⟩

end RandomTables.Dice
