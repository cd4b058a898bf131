import RandomTables.Random.Uniform
import RandomTables.Weights

/-!
Choice by weight: a uniform draw below the total of the weights picks the bucket.
-/

namespace RandomTables

/-- The largest multiple of `total` that is not above the number of words, less one. -/
def multipleZone (total : Nat) : Nat :=
  wordCount - 1 - (wordCount - total) % total

variable {σ : Type} [RandomSource σ]

/-- A number below `total`; the words beyond the last whole multiple of `total` are refused. -/
def drawPoint {total : Nat} (positive : 0 < total) : Draw σ (Fin total) := fun source =>
  drawBucket RandomSource.next64 (multipleZone total) positive (RandomSource.patience source) source

/-- The position drawn in proportion to the weights: the last one, without a draw, if they are all
zero, and none if there are none. -/
def chooseIndex (weights : List Nat) : Draw σ (Option Nat) :=
  if weights = [] then
    pure none
  else if positive : 0 < Weights.total weights then do
    let point ← drawPoint positive
    pure (some (Weights.bucketOf point.val weights))
  else
    pure (some (weights.length - 1))

end RandomTables
