import RandomTables.Random.Source

/-!
Uniform draws. A word of `width` bits is multiplied by the number of buckets: the high half of the
product is the bucket, and the low half decides whether the word counts. Words whose low half lies
beyond the zone are refused, and another word is drawn.
-/

namespace RandomTables

variable {σ : Type}

def wordCount : Nat := 18446744073709551616

def highHalf (width product : Nat) : Nat := product >>> width

def lowHalf (width product : Nat) : Nat := product % (1 <<< width)

theorem highHalf_mul_lt {width count : Nat} (positive : 0 < count) (word : BitVec width) :
    highHalf width (word.toNat * count) < count := by
  rw [highHalf, Nat.shiftRight_eq_div_pow, Nat.div_lt_iff_lt_mul (Nat.two_pow_pos width),
    Nat.mul_comm]
  exact Nat.mul_lt_mul_of_pos_left word.isLt positive

/-- The bucket of a word, if the word counts. -/
def bucket? {width : Nat} (zone : Nat) {count : Nat} (positive : 0 < count) (word : BitVec width) :
    Option (Fin count) :=
  if lowHalf width (word.toNat * count) ≤ zone then
    some ⟨highHalf width (word.toNat * count), highHalf_mul_lt positive word⟩
  else none

/-- The bucket of the next word that counts, among the next `patience` words. -/
def drawBucket {width : Nat} (next : σ → BitVec width × σ) (zone : Nat) {count : Nat}
    (positive : 0 < count) : Nat → Draw σ (Fin count)
  | 0 => fun _ => .error .stalled
  | patience + 1 => fun source =>
      match bucket? zone positive (next source).1 with
      | some bucket => .ok (bucket, (next source).2)
      | none => drawBucket next zone positive patience (next source).2

/-- `count` doubled as often as `width` bits allow, less one. -/
def scaledZone (width count : Nat) : Nat :=
  (count <<< (width - 1 - count.log2)) - 1

variable [RandomSource σ]

def drawBelow32 {count : Nat} (positive : 0 < count) : Draw σ (Fin count) := fun source =>
  drawBucket RandomSource.next32 (scaledZone 32 count) positive (RandomSource.patience source)
    source

def drawBelow64 {count : Nat} (positive : 0 < count) : Draw σ (Fin count) := fun source =>
  drawBucket RandomSource.next64 (scaledZone 64 count) positive (RandomSource.patience source)
    source

/-- A number from `low` to `high`. When that is every signed word, the word itself is the number. -/
def drawBetween (low high : Int) : Draw σ Int :=
  if h : low ≤ high then
    if (high - low + 1).toNat < wordCount then do
      have positive : 0 < (high - low + 1).toNat := by omega
      let offset ← drawBelow64 positive
      pure (low + (offset.val : Int))
    else fun source =>
      .ok ((RandomSource.next64 source).1.toInt, (RandomSource.next64 source).2)
  else
    throw .emptyRange

end RandomTables
