import Mathlib.Algebra.BigOperators.Group.List.Basic
import Mathlib.Algebra.Order.BigOperators.Group.List
import Mathlib.Tactic.Linarith
import RandomTables.Range.Roll

/-!
The smallest of some draws, the largest, and the mean, which is rounded to the nearest whole number.
However draws are combined, the outcome lies between any two limits that all of them keep to.
-/

namespace RandomTables.Range

variable {draws : List Int} {low high : Int}

theorem sum_eq_sum (draws : List Int) : sum draws = draws.sum := by
  rw [sum, List.sum_eq_foldl]

theorem le_mean (hnonempty : draws ≠ []) (h : ∀ draw ∈ draws, low ≤ draw) : low ≤ mean draws := by
  have hlength : 0 < (draws.length : Int) := by
    exact_mod_cast List.length_pos_iff.2 hnonempty
  have hsum : (draws.length : Int) * low ≤ sum draws := by
    simpa [sum_eq_sum] using List.card_nsmul_le_sum draws low h
  rw [mean, Int.le_ediv_iff_mul_le (by omega)]
  linarith

theorem mean_le (hnonempty : draws ≠ []) (h : ∀ draw ∈ draws, draw ≤ high) : mean draws ≤ high := by
  have hlength : 0 < (draws.length : Int) := by
    exact_mod_cast List.length_pos_iff.2 hnonempty
  have hsum : sum draws ≤ (draws.length : Int) * high := by
    simpa [sum_eq_sum] using List.sum_le_card_nsmul draws high h
  rw [mean, ← Int.lt_add_one_iff, Int.ediv_lt_iff_lt_mul (by omega)]
  linarith

/-- A fold that keeps one of two numbers in each step ends at one of them all. -/
theorem foldl_mem {choose : Int → Int → Int}
    (hchoose : ∀ kept draw, choose kept draw = kept ∨ choose kept draw = draw) (first : Int)
    (rest : List Int) : rest.foldl choose first ∈ first :: rest := by
  induction rest generalizing first with
  | nil => exact List.mem_singleton_self first
  | cons draw rest ih =>
      rw [List.foldl_cons]
      rcases List.mem_cons.1 (ih (choose first draw)) with heq | hmem
      · rw [heq]
        rcases hchoose first draw with hkept | hdraw
        · rw [hkept]
          exact List.mem_cons_self
        · rw [hdraw]
          exact List.mem_cons_of_mem _ List.mem_cons_self
      · exact List.mem_cons_of_mem _ (List.mem_cons_of_mem _ hmem)

theorem least_mem (hnonempty : draws ≠ []) : least draws ∈ draws := by
  cases draws with
  | nil => exact absurd rfl hnonempty
  | cons first rest => exact foldl_mem (fun kept draw => by split <;> simp) first rest

theorem greatest_mem (hnonempty : draws ≠ []) : greatest draws ∈ draws := by
  cases draws with
  | nil => exact absurd rfl hnonempty
  | cons first rest => exact foldl_mem (fun kept draw => by split <;> simp) first rest

/-- A fold that goes from a number in one direction only ends beyond all numbers that it met. -/
theorem foldl_rel {r : Int → Int → Prop} {choose : Int → Int → Int}
    (hrefl : ∀ kept, r kept kept) (htrans : ∀ {left middle right}, r left middle → r middle right →
      r left right) (hkept : ∀ kept draw, r (choose kept draw) kept)
    (hdraw : ∀ kept draw, r (choose kept draw) draw) (first : Int) (rest : List Int) :
    ∀ draw ∈ first :: rest, r (rest.foldl choose first) draw := by
  induction rest generalizing first with
  | nil =>
      intro draw hmem
      rw [List.mem_singleton.1 hmem]
      exact hrefl first
  | cons next rest ih =>
      have hchosen : r (rest.foldl choose (choose first next)) (choose first next) :=
        ih (choose first next) _ List.mem_cons_self
      intro draw hmem
      rw [List.foldl_cons]
      rcases List.mem_cons.1 hmem with rfl | hmem
      · exact htrans hchosen (hkept _ next)
      · rcases List.mem_cons.1 hmem with rfl | hmem
        · exact htrans hchosen (hdraw first _)
        · exact ih (choose first next) draw (List.mem_cons_of_mem _ hmem)

theorem least_le {draw : Int} (h : draw ∈ draws) : least draws ≤ draw := by
  cases draws with
  | nil => cases h
  | cons first rest =>
      refine foldl_rel (r := (· ≤ ·)) Int.le_refl Int.le_trans ?_ ?_ first rest draw h
      · intro kept draw
        split <;> omega
      · intro kept draw
        split <;> omega

theorem le_greatest {draw : Int} (h : draw ∈ draws) : draw ≤ greatest draws := by
  cases draws with
  | nil => cases h
  | cons first rest =>
      refine foldl_rel (r := (· ≥ ·)) Int.le_refl (fun hleft hright => Int.le_trans hright hleft)
        ?_ ?_ first rest draw h
      · intro kept draw
        split <;> omega
      · intro kept draw
        split <;> omega

/-- The mean of the draws with half a unit added, rounded down. -/
theorem eq_mean_iff (hnonempty : draws ≠ []) (value : Int) :
    value = mean draws ↔
      2 * draws.length * value ≤ 2 * draws.sum + draws.length ∧
        2 * draws.sum + draws.length < 2 * draws.length * (value + 1) := by
  have hlength : 0 < (2 * draws.length : Int) := by
    have := List.length_pos_iff.2 hnonempty
    omega
  have hbounds : value = mean draws ↔ value ≤ mean draws ∧ mean draws < value + 1 := by omega
  rw [hbounds, mean, sum_eq_sum, Int.le_ediv_iff_mul_le hlength, Int.ediv_lt_iff_lt_mul hlength,
    Int.mul_comm value, Int.mul_comm (value + 1)]

theorem combine_mem (combinator : Combinator) (hnonempty : draws ≠ [])
    (h : ∀ draw ∈ draws, low ≤ draw ∧ draw ≤ high) :
    low ≤ combinator.combine draws ∧ combinator.combine draws ≤ high := by
  cases combinator with
  | average =>
      exact ⟨le_mean hnonempty fun draw hdraw => (h draw hdraw).1,
        mean_le hnonempty fun draw hdraw => (h draw hdraw).2⟩
  | lowest => exact h _ (least_mem hnonempty)
  | highest => exact h _ (greatest_mem hnonempty)

theorem combine_replicate (combinator : Combinator) {count : Nat} (positive : 0 < count)
    (value : Int) : combinator.combine (List.replicate count value) = value := by
  have hnonempty : List.replicate count value ≠ [] := by
    rw [← List.length_pos_iff, List.length_replicate]
    exact positive
  obtain ⟨hlow, hhigh⟩ := combine_mem combinator hnonempty fun draw hdraw => by
    rw [List.eq_of_mem_replicate hdraw]
    exact ⟨le_refl value, le_refl value⟩
  exact Int.le_antisymm hhigh hlow

end RandomTables.Range
