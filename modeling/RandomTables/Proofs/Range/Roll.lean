import RandomTables.Proofs.Draw.Attains
import RandomTables.Proofs.Range.Combine

/-!
The outcomes of a range: every number between its limits and no other. Limits that can be written
are so close that fewer numbers lie between them than there are words.
-/

namespace RandomTables.Range

/-- There are numbers between the limits, and all of them are signed words. -/
structure Spec.WithinWords (spec : Spec) : Prop where
  low_ge : -9223372036854775808 ≤ spec.low
  low_le_high : spec.low ≤ spec.high
  high_le : spec.high ≤ 9223372036854775807

theorem ensures_drawBetween {σ : Type} [RandomSource σ] {spec : Spec} (h : spec.WithinWords) :
    Draw.Ensures (drawBetween spec.low spec.high : Draw σ Int) fun value =>
      spec.low ≤ value ∧ value ≤ spec.high := by
  rw [drawBetween, dif_pos h.low_le_high]
  split
  · refine Draw.ensures_true.bind ?_
    intro offset _
    refine Draw.ensures_pure ?_
    have hoffset : offset.val < (spec.high - spec.low + 1).toNat := offset.isLt
    omega
  · next hcount =>
      -- Every word lies between the limits.
      intro source value rest hrun
      cases hrun
      have hleast := BitVec.le_toInt (RandomSource.next64 source).1
      have hgreatest := @BitVec.toInt_lt 64 (RandomSource.next64 source).1
      have hlow := h.low_ge
      have hhigh := h.high_le
      unfold wordCount at hcount
      omega

/-- The limits are in order, and each is a signed word with either sign. -/
structure Spec.WordSized (spec : Spec) : Prop where
  low_lt_high : spec.low < spec.high
  low_ge : -(mostLimit : Int) ≤ spec.low
  high_le : spec.high ≤ mostLimit

theorem Spec.WordSized.withinWords {spec : Spec} (h : spec.WordSized) : spec.WithinWords := by
  have hlow := h.low_ge
  have hhigh := h.high_le
  have horder := h.low_lt_high
  unfold mostLimit at hlow hhigh
  constructor <;> omega

theorem Spec.WordSized.count_lt {spec : Spec} (h : spec.WordSized) :
    spec.high - spec.low + 1 < wordCount := by
  have hlow := h.low_ge
  have hhigh := h.high_le
  simp only [mostLimit, wordCount] at *
  omega

/-- A range that is read has limits in order, and none of its numbers is too large. -/
theorem exists_parts_of_parse {input : String} {spec : Spec} (h : Spec.parse input = .ok spec) :
    ∃ parts : Parts, spec = ⟨parts.lowLimit, parts.highLimit, parts.combinator, parts.draws⟩ ∧
      Text.decimal parts.low ≤ mostLimit ∧ Text.decimal parts.high ≤ mostLimit ∧
      parts.draws ≤ mostDraws ∧ parts.lowLimit < parts.highLimit := by
  unfold Spec.parse at h
  split at h
  · cases h
  · split at h
    · cases h
    · next parts _ =>
        split at h
        · cases h
        · next hfits =>
            split at h
            · cases h
            · next horder =>
                cases h
                exact ⟨parts, rfl, by omega, by omega, by omega, Int.not_le.1 horder⟩

theorem wordSized_of_parse {input : String} {spec : Spec} (h : Spec.parse input = .ok spec) :
    spec.WordSized := by
  obtain ⟨parts, rfl, hlowSize, hhighSize, _, horder⟩ := exists_parts_of_parse h
  have hlow : -(mostLimit : Int) ≤ parts.lowLimit := by
    unfold Parts.lowLimit
    split <;> omega
  have hhigh : parts.highLimit ≤ mostLimit := by
    unfold Parts.highLimit
    omega
  exact ⟨horder, hlow, hhigh⟩

theorem draws_le_of_parse {input : String} {spec : Spec} (h : Spec.parse input = .ok spec) :
    spec.draws ≤ mostDraws := by
  obtain ⟨parts, rfl, _, _, hdraws, _⟩ := exists_parts_of_parse h
  exact hdraws

theorem ensures_roll {σ : Type} [RandomSource σ] {spec : Spec} (h : spec.WithinWords) :
    Draw.Ensures (spec.roll : Draw σ Roll) fun roll =>
      spec.low ≤ roll.value ∧ roll.value ≤ spec.high := by
  refine ((ensures_drawBetween h).times _).bind ?_
  intro draws hdraws
  refine Draw.ensures_pure (combine_mem spec.combinator ?_ hdraws.2)
  rw [← List.length_pos_iff, hdraws.1]
  split <;> omega

/-- A number between the limits comes out when every draw shows it. -/
theorem exists_attains_roll {spec : Spec} (h : spec.WordSized) {value : Int}
    (hlow : spec.low ≤ value) (hhigh : value ≤ spec.high) :
    ∃ roll : Roll, Draw.Attains spec.roll roll ∧ roll.value = value := by
  let count := if spec.draws = 0 then 1 else spec.draws
  have positive : 0 < count := by
    change 0 < if spec.draws = 0 then 1 else spec.draws
    split <;> omega
  have hdraws : Draw.Attains (Draw.times count (drawBetween spec.low spec.high))
      (List.replicate count value) := by
    have hdraw : ∀ draw ∈ List.replicate count value,
        Draw.Attains (drawBetween spec.low spec.high) draw := by
      intro draw hmem
      rw [List.eq_of_mem_replicate hmem]
      exact attains_drawBetween hlow hhigh h.count_lt
    have htimes := Draw.Attains.times hdraw
    rwa [List.length_replicate] at htimes
  refine ⟨_, hdraws.bind (Draw.attains_pure _), ?_⟩
  exact combine_replicate spec.combinator positive value

end RandomTables.Range
