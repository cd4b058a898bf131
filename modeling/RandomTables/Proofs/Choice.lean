import RandomTables.Choice
import RandomTables.Proofs.Draw.Attains
import RandomTables.Proofs.Draw.Words
import RandomTables.Proofs.Weights

/-!
Which alternatives a choice by weight can fall on: it falls on no others, and it can be made to fall
on each of them.
-/

namespace RandomTables

variable {σ : Type} [RandomSource σ]

theorem chooseIndex_of_pos {weights : List Nat} (positive : 0 < Weights.total weights) :
    (chooseIndex weights : Draw σ (Option Nat)) = (do
      let point ← drawPoint positive
      pure (some (Weights.bucketOf point.val weights))) := by
  have hne : weights ≠ [] := by
    intro hnil
    simp [hnil, Weights.total] at positive
  rw [chooseIndex, if_neg hne, dif_pos positive]

theorem ensures_chooseIndex (weights : List Nat) :
    Draw.Ensures (chooseIndex weights : Draw σ (Option Nat)) fun position =>
      match position with
      | none => weights = []
      | some position => Weights.Selectable weights position := by
  unfold chooseIndex
  split
  · next hnil => exact Draw.ensures_pure hnil
  · next hne =>
      split
      · next positive =>
          refine Draw.ensures_true.bind ?_
          intro point _
          refine Draw.ensures_pure ?_
          exact Or.inl (Weights.exists_pos_of_bucketOf point.isLt)
      · next hzero => exact Draw.ensures_pure (Or.inr ⟨by omega, hne, rfl⟩)

theorem attains_chooseIndex {weights : List Nat} (htotal : Weights.total weights ≤ wordCount)
    {position : Nat} (h : Weights.Selectable weights position) :
    Draw.Attains (chooseIndex weights) (some position) := by
  unfold chooseIndex
  rw [if_neg (List.length_pos_iff.1 (Nat.zero_lt_of_lt h.lt_length))]
  rcases h with ⟨weight, hweight, hpositive⟩ | ⟨hzero, _, rfl⟩
  · obtain ⟨hless, hbucket⟩ := Weights.bucketOf_total_take hweight hpositive
    rw [dif_pos (Nat.zero_lt_of_lt hless)]
    refine (attains_drawPoint htotal ⟨_, hless⟩).bind ?_
    rw [hbucket]
    exact Draw.attains_pure _
  · rw [dif_neg (by omega)]
    exact Draw.attains_pure _

namespace Choice

/-- An alternative that a choice can fall on: one of a positive weight, or the last one if no weight
is positive. -/
def Selectable (alternatives : List Alternative) (picked : Alternative) : Prop :=
  picked ∈ alternatives ∧ 0 < picked.weight ∨
    (∀ alternative ∈ alternatives, alternative.weight = 0) ∧ alternatives.getLast? = some picked

theorem Selectable.mem {alternatives : List Alternative} {picked : Alternative}
    (h : Selectable alternatives picked) : picked ∈ alternatives := by
  rcases h with ⟨hmem, _⟩ | ⟨_, hlast⟩
  · exact hmem
  · exact List.mem_of_getLast? hlast

theorem total_weight_eq_zero_iff {alternatives : List Alternative} :
    Weights.total (alternatives.map Alternative.weight) = 0 ↔
      ∀ alternative ∈ alternatives, alternative.weight = 0 := by
  simp [Weights.total_eq_zero_iff]

/-- The selectable alternatives are those at the selectable positions. -/
theorem selectable_iff {alternatives : List Alternative} {picked : Alternative} :
    Selectable alternatives picked ↔
      ∃ position, Weights.Selectable (alternatives.map Alternative.weight) position ∧
        alternatives[position]? = some picked := by
  constructor
  · rintro (⟨hmem, positive⟩ | ⟨hzero, hlast⟩)
    · obtain ⟨position, hposition⟩ := List.mem_iff_getElem?.1 hmem
      exact ⟨position, Or.inl ⟨picked.weight, by simp [hposition], positive⟩, hposition⟩
    · refine ⟨alternatives.length - 1, Or.inr ⟨total_weight_eq_zero_iff.2 hzero, ?_, by simp⟩, ?_⟩
      · rintro hnil
        simp_all
      · rw [← List.getLast?_eq_getElem?, hlast]
  · rintro ⟨position, ⟨weight, hweight, positive⟩ | ⟨hzero, _, rfl⟩, hposition⟩
    · obtain rfl : picked.weight = weight := by simpa [hposition] using hweight
      exact Or.inl ⟨List.mem_of_getElem? hposition, positive⟩
    · rw [List.length_map, ← List.getLast?_eq_getElem?] at hposition
      exact Or.inr ⟨total_weight_eq_zero_iff.1 hzero, hposition⟩

theorem ensures_choose (alternatives : List Alternative) :
    Draw.Ensures (choose alternatives : Draw σ (Option Alternative)) fun picked =>
      match picked with
      | none => alternatives = []
      | some picked => Selectable alternatives picked := by
  refine (ensures_chooseIndex _).bind ?_
  intro position hposition
  refine Draw.ensures_pure ?_
  cases position with
  | none => simpa using hposition
  | some position =>
      have hless : position < alternatives.length := by
        simpa using Weights.Selectable.lt_length hposition
      rw [Option.bind_some, List.getElem?_eq_getElem hless]
      exact selectable_iff.2 ⟨position, hposition, List.getElem?_eq_getElem hless⟩

theorem attains_choose {alternatives : List Alternative} {picked : Alternative}
    (htotal : Weights.total (alternatives.map Alternative.weight) ≤ wordCount)
    (h : Selectable alternatives picked) :
    Draw.Attains (choose alternatives) (some picked) := by
  obtain ⟨position, hposition, hpicked⟩ := selectable_iff.1 h
  refine (attains_chooseIndex htotal hposition).bind ?_
  rw [Option.bind_some, hpicked]
  exact Draw.attains_pure _

theorem attains_choose_nil : Draw.Attains (choose []) none :=
  Draw.attains_pure none

/-! ### The items of a list -/

/-- What stands between the commas, trimmed and not blank. -/
def items (list : String) : List String :=
  (((list.toList.splitOn ',').map Text.trim).filter (· ≠ [])).map String.ofList

theorem ofList_eq_map_items (list : String) : ofList list = (items list).map .literal := by
  rw [ofList, items, List.map_map]
  congr 1
  refine List.filter_congr fun item _ => ?_
  cases item <;> rfl

/-- Every item has the weight 1. -/
theorem total_literal (texts : List String) :
    Weights.total ((texts.map Alternative.literal).map Alternative.weight) = texts.length := by
  have hweights : (texts.map Alternative.literal).map Alternative.weight =
      List.replicate texts.length 1 := by
    rw [List.map_map]
    exact List.map_const'
  rw [hweights, Weights.total_replicate, Nat.mul_one]

/-! ### A choice that returns -/

/-- Whether a word counts in a choice by weights of this total. -/
def Counts (total : Nat) (word : BitVec 64) : Prop :=
  lowHalf 64 (word.toNat * total) ≤ multipleZone total

/-- The choice returns an alternative of positive weight, and it takes a word at least for it. -/
def Picks (alternatives : List Alternative) (source : σ) : Prop :=
  ∃ picked ∈ alternatives, 0 < picked.weight ∧ ∃ words, 1 ≤ words ∧
    choose alternatives source = .ok (some picked, stateAfter RandomSource.next64 words source)

variable {alternatives : List Alternative} {source : σ}

/-- A choice is settled by the point that is drawn for it. -/
theorem choose_of_pos (positive : 0 < Weights.total (alternatives.map Alternative.weight)) :
    (choose alternatives : Draw σ (Option Alternative)) = (do
      let point ← drawPoint positive
      pure alternatives[Weights.bucketOf point.val (alternatives.map Alternative.weight)]?) := by
  simp only [choose, chooseIndex_of_pos positive, bind_assoc, pure_bind, Option.bind_some]

theorem choose_eq_map_drawPoint
    (positive : 0 < Weights.total (alternatives.map Alternative.weight)) (source : σ) :
    choose alternatives source = (drawPoint positive source).map fun (point, rest) =>
      (alternatives[Weights.bucketOf point.val (alternatives.map Alternative.weight)]?, rest) := by
  rw [choose_of_pos positive]
  change Except.bind (drawPoint positive source) _ = _
  cases drawPoint positive source <;> rfl

/-- A choice by weights that are not all zero returns, unless none of the words that its source has
patience for counts. -/
theorem picks_or_stalled (positive : 0 < Weights.total (alternatives.map Alternative.weight))
    (source : σ) :
    Picks alternatives source ∨
      (∀ position < RandomSource.patience source,
        ¬ Counts (Weights.total (alternatives.map Alternative.weight))
          (wordAt RandomSource.next64 position source)) ∧
      choose alternatives source = .error .stalled := by
  rw [Picks, choose_eq_map_drawPoint positive]
  rcases drawBucket_outcome positive source with ⟨point, words, hwords, hdraw⟩ | ⟨hrefused, hdraw⟩
  · obtain ⟨weight, hweight, hpositive⟩ := Weights.exists_pos_of_bucketOf point.isLt
    rw [List.getElem?_map] at hweight
    obtain ⟨picked, hpicked, rfl⟩ := Option.map_eq_some_iff.1 hweight
    have hpoint : drawPoint positive source =
        .ok (point, stateAfter RandomSource.next64 words source) := hdraw
    refine Or.inl ⟨picked, List.mem_of_getElem? hpicked, hpositive, words, hwords, ?_⟩
    simp only [hpoint, Except.map, hpicked]
  · have hpoint : drawPoint positive source = .error .stalled := hdraw
    refine Or.inr ⟨fun position hposition hcounts => ?_, by rw [hpoint, Except.map]⟩
    have hnone := hrefused position hposition
    unfold Counts at hcounts
    rw [bucket?, if_pos hcounts] at hnone
    exact Option.some_ne_none _ hnone

theorem counts_zero (total : Nat) : Counts total 0 := by
  simp [Counts, lowHalf]

/-- A scripted source has a zero for every choice once its words are used up. -/
theorem picks_scripted (positive : 0 < Weights.total (alternatives.map Alternative.weight))
    (source : Scripted) : Picks alternatives source := by
  rcases picks_or_stalled positive source with hpicks | ⟨hrefused, _⟩
  · exact hpicks
  · have hzero : wordAt RandomSource.next64 source.words.length source = 0 := source.wordAt_length
    refine absurd ?_ (hrefused source.words.length (Nat.lt_succ_self _))
    rw [hzero]
    exact counts_zero _

end Choice

end RandomTables
