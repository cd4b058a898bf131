import Mathlib.Algebra.Group.Nat.Defs
import RandomTables.Random.Weighted

/-!
Every bucket has a word that counts: the first of its words, whose product with the number of
buckets begins less than that number above the bucket's border. A zone that is not below the number
of buckets, less one, takes it in.
-/

namespace RandomTables

theorem exists_bucket?_eq_some {width zone count : Nat} (positive : 0 < count)
    (hcount : count ≤ 2 ^ width) (hzone : count ≤ zone + 1) (bucket : Fin count) :
    ∃ word : BitVec width, bucket? zone positive word = some bucket := by
  let first := (bucket.val * 2 ^ width + (count - 1)) / count
  obtain ⟨excess, hexcess, hproduct⟩ :
      ∃ excess < count, first * count = bucket.val * 2 ^ width + excess := by
    refine ⟨count - 1 - (bucket.val * 2 ^ width + (count - 1)) % count, by omega, ?_⟩
    have hdivision := Nat.div_add_mod' (bucket.val * 2 ^ width + (count - 1)) count
    have hremainder := Nat.mod_lt (bucket.val * 2 ^ width + (count - 1)) positive
    change first * count + _ = _ at hdivision
    omega
  have hfirst : first < 2 ^ width := by
    have hborder : (bucket.val + 1) * 2 ^ width ≤ count * 2 ^ width :=
      Nat.mul_le_mul_right _ bucket.isLt
    have hless : first * count < 2 ^ width * count := by
      rw [hproduct, Nat.mul_comm (2 ^ width)]
      rw [Nat.add_mul, Nat.one_mul] at hborder
      omega
    exact Nat.lt_of_mul_lt_mul_right hless
  have hhigh : highHalf width (first * count) = bucket.val := by
    rw [highHalf, Nat.shiftRight_eq_div_pow, hproduct, Nat.mul_comm,
      Nat.mul_add_div (Nat.two_pow_pos width), Nat.div_eq_of_lt (by omega), Nat.add_zero]
  have hlow : lowHalf width (first * count) = excess := by
    rw [lowHalf, Nat.one_shiftLeft, hproduct, Nat.mul_comm, Nat.mul_add_mod,
      Nat.mod_eq_of_lt (by omega)]
  refine ⟨BitVec.ofNat width first, ?_⟩
  have hword : (BitVec.ofNat width first).toNat = first := by
    rw [BitVec.toNat_ofNat, Nat.mod_eq_of_lt hfirst]
  rw [bucket?, if_pos (by rw [hword, hlow]; omega)]
  simp only [hword, hhigh]

theorem le_scaledZone_add_one {width count : Nat} :
    count ≤ scaledZone width count + 1 := by
  have hscaled : count ≤ count <<< (width - 1 - count.log2) := by
    rw [Nat.shiftLeft_eq]
    exact Nat.le_mul_of_pos_right count (Nat.two_pow_pos _)
  rw [scaledZone]
  omega

theorem le_multipleZone_add_one {total : Nat} (htotal : total ≤ wordCount) :
    total ≤ multipleZone total + 1 := by
  have hremainder : (wordCount - total) % total ≤ wordCount - total := Nat.mod_le _ _
  rw [multipleZone]
  omega

end RandomTables
