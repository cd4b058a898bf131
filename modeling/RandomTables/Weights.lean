/-!
Weights of several things in order. The numbers below the total are dealt out in contiguous buckets,
one for each weight.
-/

namespace RandomTables.Weights

def total : List Nat → Nat
  | [] => 0
  | weight :: rest => weight + total rest

/-- The position of the first weight whose running sum exceeds `point`. -/
def bucketOf (point : Nat) : List Nat → Nat
  | [] => 0
  | weight :: rest => if point < weight then 0 else bucketOf (point - weight) rest + 1

theorem bucketOf_lt_length {weights : List Nat} {point : Nat} (h : point < total weights) :
    bucketOf point weights < weights.length := by
  induction weights generalizing point with
  | nil => simp [total] at h
  | cons weight rest ih =>
    unfold bucketOf
    split
    · simp
    · have hrest : point - weight < total rest := by
        simp only [total] at h
        omega
      exact Nat.succ_lt_succ (ih hrest)

end RandomTables.Weights
