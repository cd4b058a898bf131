import RandomTables.Random.Uniform
import RandomTables.Range.Spec

namespace RandomTables.Range

def sum (draws : List Int) : Int :=
  draws.foldl (fun sum draw => sum + draw) 0

/-- The whole number nearest to the mean; half a unit is rounded up. -/
def mean (draws : List Int) : Int :=
  (2 * sum draws + draws.length) / (2 * draws.length)

def least : List Int → Int
  | [] => 0
  | first :: rest => rest.foldl (fun least draw => if draw < least then draw else least) first

def greatest : List Int → Int
  | [] => 0
  | first :: rest => rest.foldl (fun most draw => if most < draw then draw else most) first

def Combinator.combine : Combinator → List Int → Int
  | .average, draws => mean draws
  | .lowest, draws => least draws
  | .highest, draws => greatest draws

/-- The outcome of a range spec; the draws are in order. -/
structure Roll where
  spec : Spec
  draws : List Int
  value : Int
deriving DecidableEq

def Roll.description (roll : Roll) : String :=
  s!"{roll.spec.description} = {roll.value}"

variable {σ : Type} [RandomSource σ]

def Spec.roll (spec : Spec) : Draw σ Roll := do
  let draws ← Draw.times (if spec.draws = 0 then 1 else spec.draws) (drawBetween spec.low spec.high)
  pure ⟨spec, draws, spec.combinator.combine draws⟩

end RandomTables.Range
