import RandomTables.Proofs.Checked.Roll

/-!
What a roll of a range comes to: as many draws as are asked for, each of them within the range, and
the value that the combinator promises. This holds of every range of signed words, and of the range
of all of them; and neither the sum of the draws nor the mean ever leaves the word it is kept in.
-/

namespace RandomTables.Range

variable {draws : List Int}

/-- What a combinator promises of the value that it makes of some draws. A mean goes to the nearest
number, and half a unit upwards: the value is the one number from which the mean with half a unit
added is less than a unit away. -/
def Combinator.Promises : Combinator → List Int → Int → Prop
  | .average, draws, value => ∀ number : Int, number = value ↔
      2 * draws.length * number ≤ 2 * draws.sum + draws.length ∧
        2 * draws.sum + draws.length < 2 * draws.length * (number + 1)
  | .lowest, draws, value => value ∈ draws ∧ ∀ draw ∈ draws, value ≤ draw
  | .highest, draws, value => value ∈ draws ∧ ∀ draw ∈ draws, draw ≤ value

theorem promises_combine (combinator : Combinator) (hnonempty : draws ≠ []) :
    combinator.Promises draws (combinator.combine draws) := by
  cases combinator with
  | average => exact eq_mean_iff hnonempty
  | lowest => exact ⟨least_mem hnonempty, fun _ => least_le⟩
  | highest => exact ⟨greatest_mem hnonempty, fun _ => le_greatest⟩

/-- The value lies between the smallest draw and the largest. -/
theorem least_le_combine_le_greatest (combinator : Combinator) (hnonempty : draws ≠ []) :
    least draws ≤ combinator.combine draws ∧ combinator.combine draws ≤ greatest draws :=
  combine_mem combinator hnonempty fun _ hdraw => ⟨least_le hdraw, le_greatest hdraw⟩

section

variable {σ : Type} [RandomSource σ] {spec : Spec} {source rest : σ} {roll : Roll}

theorem count_eq_max (spec : Spec) :
    (if spec.draws = 0 then 1 else spec.draws) = max 1 spec.draws := by
  split <;> omega

/-- A roll is made of the draws and nothing else. -/
theorem draws_of_roll (h : spec.roll source = .ok (roll, rest)) :
    Draw.times (max 1 spec.draws) (drawBetween spec.low spec.high) source = .ok (roll.draws, rest) ∧
      roll = ⟨spec, roll.draws, spec.combinator.combine roll.draws⟩ := by
  rw [Spec.roll, count_eq_max] at h
  change Except.bind (Draw.times _ _ source) _ = _ at h
  cases hdraws : Draw.times (max 1 spec.draws) (drawBetween spec.low spec.high) source with
  | error fault =>
      rw [hdraws] at h
      cases h
  | ok step =>
      rw [hdraws] at h
      cases h
      exact ⟨rfl, rfl⟩

/-- A roll of any range of signed words makes the draws that are asked for, one at the least, and
keeps what the combinator promises; with all checks for numbers that leave their words, it is the
same roll. -/
theorem Spec.roll_keeps_promises (hlow : -9223372036854775808 ≤ spec.low)
    (horder : spec.low ≤ spec.high) (hhigh : spec.high ≤ 9223372036854775807)
    (hdraws : spec.draws ≤ 4294967295) (hroll : spec.roll source = .ok (roll, rest)) :
    Draw.times (max 1 spec.draws) (drawBetween spec.low spec.high) source = .ok (roll.draws, rest) ∧
    roll.draws.length = max 1 spec.draws ∧
    (∀ draw ∈ roll.draws, spec.low ≤ draw ∧ draw ≤ spec.high) ∧
    spec.combinator.Promises roll.draws roll.value ∧
    (∃ smallest ∈ roll.draws, ∃ largest ∈ roll.draws,
      (∀ draw ∈ roll.draws, smallest ≤ draw ∧ draw ≤ largest) ∧
        smallest ≤ roll.value ∧ roll.value ≤ largest) ∧
    (spec.low ≤ roll.value ∧ roll.value ≤ spec.high) ∧
    Checked.rollRange spec source = .ok (roll, rest) := by
  have hwords : spec.WithinWords := ⟨hlow, horder, hhigh⟩
  obtain ⟨htimes, hvalue⟩ := draws_of_roll hroll
  obtain ⟨hlength, hwithin⟩ := (ensures_drawBetween hwords).times _ source _ rest htimes
  have hnonempty : roll.draws ≠ [] := by
    rw [← List.length_pos_iff, hlength]
    omega
  have hpromises := promises_combine spec.combinator hnonempty
  have hbetween := least_le_combine_le_greatest spec.combinator hnonempty
  have hagrees := Checked.mirrors_rollRange hwords hdraws source
  rw [hroll] at hagrees
  rw [show roll.value = spec.combinator.combine roll.draws by rw [hvalue]]
  exact ⟨htimes, hlength, hwithin, hpromises,
    ⟨least roll.draws, least_mem hnonempty, greatest roll.draws, greatest_mem hnonempty,
      fun draw hdraw => ⟨least_le hdraw, le_greatest hdraw⟩, hbetween⟩,
    combine_mem spec.combinator hnonempty hwithin, hagrees.eq_ok⟩

end

/-- All signed words, averaged over two draws. -/
def wholeSpan : Spec := ⟨-9223372036854775808, 9223372036854775807, .average, 2⟩

/-- The words stand for -1 and -2, whose mean is rounded up. -/
theorem Spec.roll_keeps_promises_wholeSpan :
    wholeSpan.roll (Scripted.ofWords [18446744073709551615, 18446744073709551614]) =
        .ok (⟨wholeSpan, [-1, -2], -1⟩, ⟨[], 2⟩) ∧
      Combinator.average.Promises [-1, -2] (-1) := by
  have hroll : wholeSpan.roll (Scripted.ofWords [18446744073709551615, 18446744073709551614]) =
      .ok (⟨wholeSpan, [-1, -2], -1⟩, ⟨[], 2⟩) := by decide +kernel
  have hkept := roll_keeps_promises (by decide) (by decide) (by decide) (by decide) hroll
  exact ⟨hroll, hkept.2.2.2.1⟩

end RandomTables.Range
