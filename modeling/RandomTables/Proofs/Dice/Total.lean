import Mathlib.Algebra.BigOperators.Group.List.Basic
import Mathlib.Algebra.Ring.Int.Defs
import RandomTables.Dice.Roll
import RandomTables.Random.Scripted

/-!
Totals and true sums. A total is the true sum of the modifier and the faces, kept between what the
same faces come to from the least total and from the greatest. It is the true sum cut off at the
limits, whatever the order of the faces, as long as no sum that passes a limit is brought back by
the faces after it. A sum that is brought back has lost what was cut off, and then the order tells.
-/

namespace RandomTables.Dice

variable {start : Int} {values : List Int}

theorem leastTotal_le_greatestTotal : leastTotal ≤ greatestTotal := by decide

/-! ### Sums of two numbers -/

theorem clamp_eq_max_min (n : Int) : clamp n = max leastTotal (min greatestTotal n) := by
  have := leastTotal_le_greatestTotal
  unfold clamp
  split
  · omega
  · split <;> omega

theorem leastTotal_le_clamp (n : Int) : leastTotal ≤ clamp n := by
  rw [clamp_eq_max_min]
  omega

theorem clamp_le_greatestTotal (n : Int) : clamp n ≤ greatestTotal := by
  have := leastTotal_le_greatestTotal
  rw [clamp_eq_max_min]
  omega

theorem clamp_eq_self {n : Int} (hlow : leastTotal ≤ n) (hhigh : n ≤ greatestTotal) :
    clamp n = n := by
  rw [clamp_eq_max_min]
  omega

theorem clamp_of_greatestTotal_lt {n : Int} (h : greatestTotal < n) : clamp n = greatestTotal := by
  have := leastTotal_le_greatestTotal
  rw [clamp_eq_max_min]
  omega

theorem clamp_of_lt_leastTotal {n : Int} (h : n < leastTotal) : clamp n = leastTotal := by
  rw [clamp_eq_max_min]
  omega

theorem clamp_mono {m n : Int} (h : m ≤ n) : clamp m ≤ clamp n := by
  rw [clamp_eq_max_min, clamp_eq_max_min]
  omega

/-! ### Sums of many numbers -/

theorem sumClamped_cons (start value : Int) (values : List Int) :
    sumClamped start (value :: values) = sumClamped (clamp (start + value)) values := rfl

theorem sumClamped_mem (values : List Int) (hlow : leastTotal ≤ start)
    (hhigh : start ≤ greatestTotal) :
    leastTotal ≤ sumClamped start values ∧ sumClamped start values ≤ greatestTotal := by
  induction values generalizing start with
  | nil => exact ⟨hlow, hhigh⟩
  | cons value values ih => exact ih (leastTotal_le_clamp _) (clamp_le_greatestTotal _)

/-- The sums from the two limits enclose the sum from any other start, which is the true one where
that lies between them. -/
theorem sumClamped_eq_max_min (hlow : leastTotal ≤ start) (hhigh : start ≤ greatestTotal) :
    sumClamped start values =
      max (sumClamped leastTotal values)
        (min (sumClamped greatestTotal values) (start + values.sum)) := by
  induction values generalizing start with
  | nil =>
      change start = max leastTotal (min greatestTotal (start + 0))
      omega
  | cons value values ih =>
      have hclamp : ∀ n, sumClamped (clamp n) values =
          max (sumClamped leastTotal values)
            (min (sumClamped greatestTotal values) (clamp n + values.sum)) := fun n =>
        ih (leastTotal_le_clamp n) (clamp_le_greatestTotal n)
      have hleast := ih (Int.le_refl leastTotal) leastTotal_le_greatestTotal
      have hgreatest := ih leastTotal_le_greatestTotal (Int.le_refl greatestTotal)
      simp only [sumClamped_cons, List.sum_cons]
      rw [hclamp (start + value), hclamp (leastTotal + value), hclamp (greatestTotal + value)]
      -- What the first number cuts off, it cuts off from one of the limits too.
      rcases Int.lt_or_le greatestTotal (start + value) with habove | hnotAbove
      · have htop : clamp (greatestTotal + value) = greatestTotal :=
          clamp_of_greatestTotal_lt (by omega)
        rw [clamp_of_greatestTotal_lt habove, htop, ← hgreatest]
        omega
      · rcases Int.lt_or_le (start + value) leastTotal with hbelow | hnotBelow
        · have hbottom : clamp (leastTotal + value) = leastTotal :=
            clamp_of_lt_leastTotal (by omega)
          rw [clamp_of_lt_leastTotal hbelow, hbottom, ← hleast]
          omega
        · have hlower := clamp_mono (Int.add_le_add_right hlow value)
          have hupper := clamp_mono (Int.add_le_add_right hhigh value)
          rw [clamp_eq_self hnotBelow hnotAbove] at hlower hupper ⊢
          omega

theorem sumClamped_eq_add_sum
    (h : ∀ position ≤ values.length, leastTotal ≤ start + (values.take position).sum ∧
      start + (values.take position).sum ≤ greatestTotal) :
    sumClamped start values = start + values.sum := by
  induction values generalizing start with
  | nil => exact (Int.add_zero start).symm
  | cons value values ih =>
      have hfirst : leastTotal ≤ start + value ∧ start + value ≤ greatestTotal := by
        simpa using h 1 (by simp)
      have hrest : ∀ position ≤ values.length,
          leastTotal ≤ start + value + (values.take position).sum ∧
            start + value + (values.take position).sum ≤ greatestTotal := by
        intro position hposition
        simpa [Int.add_assoc] using h (position + 1) (Nat.succ_le_succ hposition)
      calc sumClamped start (value :: values) = sumClamped (start + value) values := by
            rw [sumClamped_cons, clamp_eq_self hfirst.1 hfirst.2]
        _ = start + value + values.sum := ih hrest
        _ = start + (value :: values).sum := by rw [List.sum_cons, Int.add_assoc]

/-- From the greatest total on, nothing is lost in the end if no rest of the numbers leads down. -/
theorem sumClamped_greatestTotal
    (h : ∀ position ≤ values.length, 0 ≤ (values.drop position).sum) :
    sumClamped greatestTotal values = greatestTotal := by
  induction values with
  | nil => rfl
  | cons value values ih =>
      have hall := h 0 (Nat.zero_le _)
      have hrest := h 1 (by simp)
      simp only [List.drop_zero, List.sum_cons, List.drop_succ_cons] at hall hrest
      have htop : sumClamped greatestTotal values = greatestTotal :=
        ih fun position hposition => h (position + 1) (Nat.succ_le_succ hposition)
      have hleast := sumClamped_mem values (Int.le_refl leastTotal) leastTotal_le_greatestTotal
      have hreached : greatestTotal ≤ clamp (greatestTotal + value) + values.sum := by
        rw [clamp_eq_max_min]
        omega
      calc sumClamped greatestTotal (value :: values)
          = max (sumClamped leastTotal values)
              (min greatestTotal (clamp (greatestTotal + value) + values.sum)) := by
            rw [sumClamped_cons, sumClamped_eq_max_min (leastTotal_le_clamp _)
              (clamp_le_greatestTotal _), htop]
        _ = greatestTotal := by rw [Int.min_eq_left hreached, Int.max_eq_right hleast.2]

theorem sumClamped_leastTotal
    (h : ∀ position ≤ values.length, (values.drop position).sum ≤ 0) :
    sumClamped leastTotal values = leastTotal := by
  induction values with
  | nil => rfl
  | cons value values ih =>
      have hall := h 0 (Nat.zero_le _)
      have hrest := h 1 (by simp)
      simp only [List.drop_zero, List.sum_cons, List.drop_succ_cons] at hall hrest
      have hbottom : sumClamped leastTotal values = leastTotal :=
        ih fun position hposition => h (position + 1) (Nat.succ_le_succ hposition)
      have hreached : clamp (leastTotal + value) + values.sum ≤ leastTotal := by
        have := leastTotal_le_greatestTotal
        rw [clamp_eq_max_min]
        omega
      calc sumClamped leastTotal (value :: values)
          = max leastTotal (min (sumClamped greatestTotal values)
              (clamp (leastTotal + value) + values.sum)) := by
            rw [sumClamped_cons, sumClamped_eq_max_min (leastTotal_le_clamp _)
              (clamp_le_greatestTotal _), hbottom]
        _ = leastTotal :=
            Int.max_eq_left (Int.le_trans (Int.min_le_right _ _) hreached)

/-! ### Sums that pass a limit -/

/-- What follows a sum that passes a limit does not bring it back. -/
def StaysBeyond (start : Int) (values : List Int) : Prop :=
  ∀ position ≤ values.length,
    (greatestTotal < start + (values.take position).sum → 0 ≤ (values.drop position).sum) ∧
      (start + (values.take position).sum < leastTotal → (values.drop position).sum ≤ 0)

instance (start : Int) (values : List Int) : Decidable (StaysBeyond start values) :=
  inferInstanceAs (Decidable (∀ position ≤ values.length, _ ∧ _))

namespace StaysBeyond

/-- A sum that ends above the limit has no rest that leads down. -/
theorem sum_drop_nonneg (h : StaysBeyond start values)
    (habove : greatestTotal < start + values.sum) :
    ∀ position ≤ values.length, 0 ≤ (values.drop position).sum := by
  intro position hposition
  have hsplit := List.sum_take_add_sum_drop values position
  by_cases hpassed : greatestTotal < start + (values.take position).sum
  · exact (h position hposition).1 hpassed
  · omega

theorem sum_drop_nonpos (h : StaysBeyond start values)
    (hbelow : start + values.sum < leastTotal) :
    ∀ position ≤ values.length, (values.drop position).sum ≤ 0 := by
  intro position hposition
  have hsplit := List.sum_take_add_sum_drop values position
  by_cases hpassed : start + (values.take position).sum < leastTotal
  · exact (h position hposition).2 hpassed
  · omega

/-- A sum that ends between the limits was between them all the time. -/
theorem sum_take_mem (h : StaysBeyond start values) (hlow : leastTotal ≤ start + values.sum)
    (hhigh : start + values.sum ≤ greatestTotal) :
    ∀ position ≤ values.length, leastTotal ≤ start + (values.take position).sum ∧
      start + (values.take position).sum ≤ greatestTotal := by
  intro position hposition
  have hsplit := List.sum_take_add_sum_drop values position
  obtain ⟨habove, hbelow⟩ := h position hposition
  constructor
  · by_contra hpassed
    have hrest := hbelow (Int.not_le.1 hpassed)
    omega
  · by_contra hpassed
    have hrest := habove (Int.not_le.1 hpassed)
    omega

end StaysBeyond

theorem sumClamped_of_staysBeyond (hlow : leastTotal ≤ start) (hhigh : start ≤ greatestTotal)
    (h : StaysBeyond start values) : sumClamped start values = clamp (start + values.sum) := by
  have hlimits := leastTotal_le_greatestTotal
  have hleast := sumClamped_mem values (Int.le_refl leastTotal) hlimits
  have hgreatest := sumClamped_mem values hlimits (Int.le_refl greatestTotal)
  rcases Int.lt_or_le greatestTotal (start + values.sum) with habove | hnotAbove
  · rw [sumClamped_eq_max_min hlow hhigh, sumClamped_greatestTotal (h.sum_drop_nonneg habove),
      clamp_of_greatestTotal_lt habove]
    omega
  · rcases Int.lt_or_le (start + values.sum) leastTotal with hbelow | hnotBelow
    · rw [sumClamped_eq_max_min hlow hhigh, sumClamped_leastTotal (h.sum_drop_nonpos hbelow),
        clamp_of_lt_leastTotal hbelow]
      omega
    · rw [sumClamped_eq_add_sum (h.sum_take_mem hnotBelow hnotAbove),
        clamp_eq_self hnotBelow hnotAbove]

namespace Roll

def faceValues (roll : Roll) : List Int :=
  roll.faces.map Face.value

def trueSum (roll : Roll) : Int :=
  roll.spec.modifier + roll.faceValues.sum

/-- A total is the true sum, kept between what the same faces come to from the two limits. It is
the true sum cut off at the limits if no sum that passes a limit is brought back, and then the same
faces have it in each other order in which none is. -/
theorem total_follows_trueSum {roll : Roll} (hlow : leastTotal ≤ roll.spec.modifier)
    (hhigh : roll.spec.modifier ≤ greatestTotal) :
    (leastTotal ≤ roll.total ∧ roll.total ≤ greatestTotal) ∧
    roll.total = max (sumClamped leastTotal roll.faceValues)
      (min (sumClamped greatestTotal roll.faceValues) roll.trueSum) ∧
    (StaysBeyond roll.spec.modifier roll.faceValues →
      (leastTotal ≤ roll.trueSum → roll.trueSum ≤ greatestTotal → roll.total = roll.trueSum) ∧
      (greatestTotal < roll.trueSum → roll.total = greatestTotal) ∧
      (roll.trueSum < leastTotal → roll.total = leastTotal) ∧
      ∀ other : Roll, other.spec.modifier = roll.spec.modifier → other.faces.Perm roll.faces →
        StaysBeyond other.spec.modifier other.faceValues → other.total = roll.total) := by
  refine ⟨sumClamped_mem _ hlow hhigh, sumClamped_eq_max_min hlow hhigh, fun hstays => ?_⟩
  have htotal : roll.total = clamp roll.trueSum := sumClamped_of_staysBeyond hlow hhigh hstays
  refine ⟨fun hleast hgreatest => ?_, fun hgreatest => ?_, fun hleast => ?_, ?_⟩
  · rw [htotal, clamp_eq_self hleast hgreatest]
  · rw [htotal, clamp_of_greatestTotal_lt hgreatest]
  · rw [htotal, clamp_of_lt_leastTotal hleast]
  · intro other hmodifier hperm hother
    have hsum : other.faceValues.sum = roll.faceValues.sum := (hperm.map Face.value).sum_eq
    calc other.total = clamp other.trueSum :=
          sumClamped_of_staysBeyond (by omega) (by omega) hother
      _ = clamp roll.trueSum := by rw [trueSum, trueSum, hmodifier, hsum]
      _ = roll.total := htotal.symm

/-- The sum passes the greatest total, comes down by three and is up again in the end. -/
def rising : Roll :=
  ⟨⟨4, .named "wild", 5⟩, [⟨greatestTotal, "max"⟩, ⟨7, "up"⟩, ⟨-3, "down"⟩, ⟨4, "up"⟩]⟩

theorem total_follows_trueSum_rising :
    StaysBeyond rising.spec.modifier rising.faceValues ∧ rising.total = greatestTotal := by
  have hstays : StaysBeyond rising.spec.modifier rising.faceValues := by decide
  have hbeyond := (@total_follows_trueSum rising (by decide) (by decide)).2.2 hstays
  exact ⟨hstays, hbeyond.2.1 (by decide)⟩

def wildDie : Die :=
  ⟨[⟨greatestTotal, "max"⟩, ⟨1, "up"⟩, ⟨-1, "down"⟩], by simp⟩

def falling : Roll :=
  ⟨⟨3, .named "Wild", 0⟩, wildDie.faces⟩

/-- Three throws of the die can come out so. The true sum keeps to the limits, but the total comes
to it in the other order of the faces only. -/
theorem total_ne_trueSum_falling :
    falling.spec.roll (Registry.empty.insert "Wild" wildDie)
        (Scripted.ofWords [0, 6148914691236517206, 12297829382473034411]) =
      .ok (falling, ⟨[], 3⟩) ∧
    falling.trueSum = greatestTotal ∧ falling.total = greatestTotal - 1 ∧
      Roll.total ⟨falling.spec, falling.faces.reverse⟩ = greatestTotal := by
  decide +kernel

end Roll

end RandomTables.Dice
