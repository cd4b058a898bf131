import Mathlib.Algebra.Order.BigOperators.Group.Finset
import Mathlib.Algebra.Order.Floor.Div
import Mathlib.Data.Nat.Count
import Mathlib.Data.Set.Card
import Mathlib.Order.Interval.Finset.Nat
import RandomTables.Random.Weighted

/-!
How many words there are for each number below the total of some weights. The zone lets a window of
products through behind every multiple of the number of words, and the window is a multiple of the
total itself: so wherever it begins, it holds as many products of a word with the total.
-/

namespace RandomTables

variable {total : Nat}

/-- The zone takes in a whole multiple of the total. -/
theorem multipleZone_add_one (positive : 0 < total) (htotal : total ≤ wordCount) :
    multipleZone total + 1 = total * (wordCount / total) := by
  have hremainder : (wordCount - total) % total = wordCount % total :=
    (Nat.mod_eq_sub_mod htotal).symm
  have hless : wordCount % total < total := Nat.mod_lt _ positive
  have hdivision := Nat.div_add_mod wordCount total
  rw [multipleZone, hremainder]
  omega

/-- The words for the number `point`, as numbers: as many of them as there are whole multiples of
the total among all words, from the first word whose product with the total reaches that of `point`
with the number of words. -/
def wordsOf (total point : Nat) : Finset Nat :=
  Finset.Ico ((point * wordCount) ⌈/⌉ total) ((point * wordCount) ⌈/⌉ total + wordCount / total)

theorem card_wordsOf (total point : Nat) : (wordsOf total point).card = wordCount / total := by
  rw [wordsOf, Nat.card_Ico, Nat.add_sub_cancel_left]

section Positive

variable (positive : 0 < total)

include positive

theorem mem_wordsOf_iff {point word : Nat} :
    word ∈ wordsOf total point ↔
      point * wordCount ≤ total * word ∧
        total * word < point * wordCount + total * (wordCount / total) := by
  have hend : (point * wordCount + total * (wordCount / total)) ⌈/⌉ total =
      (point * wordCount) ⌈/⌉ total + wordCount / total := by
    rw [Nat.ceilDiv_eq_add_pred_div, Nat.ceilDiv_eq_add_pred_div,
      ← Nat.add_mul_div_left _ _ positive]
    congr 1
    omega
  rw [wordsOf, Finset.mem_Ico, ← hend, ceilDiv_le_iff_le_mul positive, ← Nat.not_le,
    ceilDiv_le_iff_le_mul positive, Nat.not_le]

/-- A word for a number shows the number. -/
theorem div_eq_of_mem_wordsOf {point word : Nat} (hword : word ∈ wordsOf total point) :
    total * word / wordCount = point := by
  obtain ⟨hstart, hend⟩ := (mem_wordsOf_iff positive).1 hword
  have hwindow : total * (wordCount / total) ≤ wordCount := Nat.mul_div_le wordCount total
  rw [Nat.div_eq_iff (by decide)]
  unfold wordCount at *
  omega

theorem lt_wordCount_of_mem_wordsOf {point word : Nat} (hpoint : point < total)
    (hword : word ∈ wordsOf total point) : word < wordCount := by
  have hshown := div_eq_of_mem_wordsOf positive hword
  have hproduct : total * word < total * wordCount := by
    rw [← Nat.div_lt_iff_lt_mul (by decide), hshown]
    exact hpoint
  exact Nat.lt_of_mul_lt_mul_left hproduct

theorem pairwiseDisjoint_wordsOf (points : Set Nat) :
    points.PairwiseDisjoint (wordsOf total) := by
  intro left _ right _ hne
  refine Finset.disjoint_left.2 fun word hleft hright => hne ?_
  rw [← div_eq_of_mem_wordsOf positive hleft, ← div_eq_of_mem_wordsOf positive hright]

variable (htotal : total ≤ wordCount)

include htotal

theorem bucket?_eq_some_iff {word : BitVec 64} {point : Fin total} :
    bucket? (multipleZone total) positive word = some point ↔
      word.toNat ∈ wordsOf total point.val := by
  have hzone := multipleZone_add_one positive htotal
  have hwindow : total * (wordCount / total) ≤ wordCount := Nat.mul_div_le wordCount total
  have hhigh : highHalf 64 (word.toNat * total) = total * word.toNat / wordCount := by
    rw [highHalf, Nat.shiftRight_eq_div_pow, Nat.mul_comm]
    rfl
  have hlow : lowHalf 64 (word.toNat * total) = total * word.toNat % wordCount := by
    rw [lowHalf, Nat.mul_comm]
    rfl
  rw [mem_wordsOf_iff positive, bucket?, Option.ite_none_right_eq_some, Option.some_inj,
    Fin.ext_iff]
  simp only [hhigh, hlow]
  generalize total * word.toNat = product at *
  generalize total * (wordCount / total) = window at *
  unfold wordCount at *
  omega

/-- The words whose number satisfies `P`: as many for each such number. -/
theorem ncard_bucket? (P : Nat → Prop) [DecidablePred P] :
    {word : BitVec 64 | ∃ point,
      bucket? (multipleZone total) positive word = some point ∧ P point.val}.ncard =
      Nat.count P total * (wordCount / total) := by
  have himage : BitVec.toNat '' {word : BitVec 64 | ∃ point,
      bucket? (multipleZone total) positive word = some point ∧ P point.val} =
      ((Finset.range total).filter P).biUnion (wordsOf total) := by
    ext word
    simp only [bucket?_eq_some_iff positive htotal, Set.mem_image, Set.mem_ofPred_eq,
      Finset.coe_biUnion, Set.mem_iUnion, Finset.mem_coe, Finset.mem_filter, Finset.mem_range]
    constructor
    · rintro ⟨word, ⟨point, hword, hpoint⟩, rfl⟩
      exact ⟨point.val, ⟨point.isLt, hpoint⟩, hword⟩
    · rintro ⟨point, ⟨hless, hpoint⟩, hword⟩
      have hshown : (BitVec.ofNat 64 word).toNat = word := by
        rw [BitVec.toNat_ofNat]
        exact Nat.mod_eq_of_lt (lt_wordCount_of_mem_wordsOf positive hless hword)
      exact ⟨BitVec.ofNat 64 word, ⟨⟨point, hless⟩, by rwa [hshown], hpoint⟩, hshown⟩
  rw [← Set.ncard_image_of_injective _ fun _ _ => BitVec.eq_of_toNat_eq, himage,
    Set.ncard_coe_finset, Finset.card_biUnion (pairwiseDisjoint_wordsOf positive _),
    Finset.sum_const_nat fun point _ => card_wordsOf total point, Nat.count_eq_card_filter_range]

end Positive

end RandomTables
