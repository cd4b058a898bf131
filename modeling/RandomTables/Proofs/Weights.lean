import Mathlib.Data.Nat.Count
import RandomTables.Weights

/-!
The buckets of weights. Every number below the total lies in the bucket of a positive weight, and
the bucket of a positive weight begins with the sum of the weights before it. The buckets follow one
another without a gap, and each has as many numbers as its weight says.
-/

namespace RandomTables.Weights

theorem total_eq_zero_iff {weights : List Nat} :
    total weights = 0 ↔ ∀ weight ∈ weights, weight = 0 := by
  induction weights with
  | nil => simp [total]
  | cons weight rest ih => simp [total, ih]

theorem length_le_total {weights : List Nat} (h : ∀ weight ∈ weights, 1 ≤ weight) :
    weights.length ≤ total weights := by
  induction weights with
  | nil => exact Nat.le_refl 0
  | cons weight rest ih =>
      have hweight : 1 ≤ weight := h weight List.mem_cons_self
      have hrest : rest.length ≤ total rest :=
        ih fun other hother => h other (List.mem_cons_of_mem _ hother)
      rw [List.length_cons, total]
      omega

theorem total_replicate (count weight : Nat) :
    total (List.replicate count weight) = count * weight := by
  induction count with
  | zero => rw [List.replicate_zero, total, Nat.zero_mul]
  | succ count ih => rw [List.replicate_succ, total, ih, Nat.succ_mul, Nat.add_comm]

/-- A bucket without numbers is never found. -/
theorem exists_pos_of_bucketOf {weights : List Nat} {point : Nat} (h : point < total weights) :
    ∃ weight, weights[bucketOf point weights]? = some weight ∧ 0 < weight := by
  induction weights generalizing point with
  | nil => simp [total] at h
  | cons weight rest ih =>
      rw [bucketOf]
      split
      · exact ⟨weight, rfl, by omega⟩
      · rw [List.getElem?_cons_succ]
        rw [total] at h
        exact ih (by omega)

/-- The first number of the bucket at `position` is the sum of the weights in front of it. -/
theorem bucketOf_total_take {weights : List Nat} {position weight : Nat}
    (hweight : weights[position]? = some weight) (positive : 0 < weight) :
    total (weights.take position) < total weights ∧
      bucketOf (total (weights.take position)) weights = position := by
  induction weights generalizing position with
  | nil => simp at hweight
  | cons first rest ih =>
      cases position with
      | zero =>
          obtain rfl : first = weight := by simpa using hweight
          simp only [List.take_zero, total, bucketOf]
          exact ⟨by omega, if_pos positive⟩
      | succ position =>
          rw [List.getElem?_cons_succ] at hweight
          obtain ⟨hless, hbucket⟩ := ih hweight
          simp only [List.take_succ_cons, total, bucketOf]
          refine ⟨by omega, ?_⟩
          rw [if_neg (by omega), Nat.add_sub_cancel_left, hbucket]

/-- The bucket at `position` reaches from the sum of the weights in front of it to the sum that has
its own weight in it. -/
theorem bucketOf_eq_iff {weights : List Nat} {point position : Nat} (h : point < total weights) :
    bucketOf point weights = position ↔
      total (weights.take position) ≤ point ∧ point < total (weights.take (position + 1)) := by
  induction weights generalizing point position with
  | nil => simp [total] at h
  | cons weight rest ih =>
      rw [total] at h
      cases position with
      | zero =>
          simp only [bucketOf, List.take_zero, List.take_succ_cons, total]
          split <;> omega
      | succ position =>
          simp only [bucketOf, List.take_succ_cons, total]
          split
          · omega
          · have hrest := @ih (point - weight) position (by omega)
            omega

/-- The first weight has the first numbers, and the others are dealt out to the other weights. -/
theorem count_bucketOf_cons (P : Nat → Prop) [DecidablePred P] (weight : Nat) (rest : List Nat) :
    Nat.count (fun point => P (bucketOf point (weight :: rest))) (total (weight :: rest)) =
      (if P 0 then weight else 0) +
        Nat.count (fun point => P (bucketOf point rest + 1)) (total rest) := by
  have hfirst {point : Nat} (h : point < weight) : bucketOf point (weight :: rest) = 0 := if_pos h
  have hother (point : Nat) :
      bucketOf (weight + point) (weight :: rest) = bucketOf point rest + 1 := by
    rw [bucketOf, if_neg (by omega), Nat.add_sub_cancel_left]
  rw [total, Nat.count_add]
  simp only [hother]
  congr 1
  split
  · next hP => exact Nat.count_of_forall fun point h => by rwa [hfirst h]
  · next hP => exact Nat.count_of_forall_not fun point h => by rwa [hfirst h]

theorem count_bucketOf (weights : List Nat) (position : Nat) :
    Nat.count (fun point => bucketOf point weights = position) (total weights) =
      weights.getD position 0 := by
  induction weights generalizing position with
  | nil => rfl
  | cons weight rest ih =>
      rw [count_bucketOf_cons (· = position)]
      cases position with
      | zero => simp
      | succ position => simpa using ih position

/-- The numbers that fall on a value, where several positions may show the same value. -/
theorem count_getElem?_bucketOf {α β : Type} [DecidableEq α] (items : List β) (weight : β → Nat)
    (view : β → α) (value : α) :
    Nat.count (fun point => items[bucketOf point (items.map weight)]?.map view = some value)
        (total (items.map weight)) =
      total ((items.filter fun item => view item = value).map weight) := by
  induction items with
  | nil => rfl
  | cons item items ih =>
      rw [List.map_cons,
        count_bucketOf_cons fun position => (item :: items)[position]?.map view = some value]
      simp only [List.getElem?_cons_succ, List.getElem?_cons_zero, Option.map_some, ih,
        Option.some_inj]
      rw [List.filter_cons]
      by_cases hview : view item = value
      · simp [hview, total]
      · simp [hview]

/-- A position that a choice can fall on: one of a positive weight, or the last one if no weight is
positive. -/
def Selectable (weights : List Nat) (position : Nat) : Prop :=
  (∃ weight, weights[position]? = some weight ∧ 0 < weight) ∨
    total weights = 0 ∧ weights ≠ [] ∧ position = weights.length - 1

theorem Selectable.lt_length {weights : List Nat} {position : Nat}
    (h : Selectable weights position) : position < weights.length := by
  rcases h with ⟨weight, hweight, _⟩ | ⟨_, hne, rfl⟩
  · exact (List.getElem?_eq_some_iff.1 hweight).1
  · exact Nat.sub_lt (List.length_pos_iff.2 hne) Nat.one_pos

end RandomTables.Weights
