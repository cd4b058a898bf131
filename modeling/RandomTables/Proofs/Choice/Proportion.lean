import RandomTables.Proofs.Choice
import RandomTables.Proofs.Draw.Count
import RandomTables.Proofs.Draw.Verdict

/-!
How often a choice by weight falls on what. Every value has as many words to itself as its share of
the total says, times the whole multiples of the total among all words; the words left over are
refused.
-/

namespace RandomTables

/-- A draw by shares of `total`. The first word from the source that is not refused decides, and of
all words each value has a number in proportion to its share. -/
structure Draw.Proportional {α : Type} (draw : ∀ {σ : Type} [RandomSource σ], Draw σ (Option α))
    (share : α → Nat) (total : Nat) : Prop where
  ncard_wordsFor : ∀ value, (wordsFor draw (some value)).ncard = share value * (wordCount / total)
  mem_refusedWords : ∀ word, (∀ value, word ∉ wordsFor draw (some value)) → word ∈ refusedWords draw
  decided : ∀ {σ : Type} [RandomSource σ] (source : σ) (refused : Nat) (value : α),
    refused < RandomSource.patience source →
    (∀ position < refused, wordAt RandomSource.next64 position source ∈ refusedWords draw) →
    wordAt RandomSource.next64 refused source ∈ wordsFor draw (some value) →
    draw source = .ok (some value, stateAfter RandomSource.next64 (refused + 1) source)

/-- A draw that makes something of a number below the total looks at words as the number does. -/
theorem Draw.scans_of_drawPoint {α σ : Type} [RandomSource σ] {total : Nat} (positive : 0 < total)
    (use : Nat → Option α) {draw : Draw σ (Option α)}
    (hdraw : draw = do
      let point ← drawPoint positive
      pure (use point.val)) :
    Scans draw fun word =>
      (bucket? (multipleZone total) positive word).map fun point => use point.val := by
  rw [hdraw]
  exact (scans_drawPoint positive).map _

/-- The words for a value are the words for the numbers that it is made of. -/
theorem Draw.proportional_of_drawPoint {α : Type} [DecidableEq α] {total : Nat}
    (positive : 0 < total) (htotal : total ≤ wordCount) {share : α → Nat} (use : Nat → Option α)
    {draw : ∀ {σ : Type} [RandomSource σ], Draw σ (Option α)}
    (hdraw : ∀ {σ : Type} [RandomSource σ], (draw : Draw σ (Option α)) = (do
      let point ← drawPoint positive
      pure (use point.val)))
    (huse : ∀ point < total, ∃ value, use point = some value)
    (hshare : ∀ value, Nat.count (fun point => use point = some value) total = share value) :
    Draw.Proportional draw share total := by
  have hscans {σ : Type} [RandomSource σ] : Scans (draw : Draw σ (Option α)) _ :=
    scans_of_drawPoint positive use hdraw
  refine ⟨fun value => ?_, fun word hword => ?_, ?_⟩
  · rw [← hshare value, ← ncard_bucket? positive htotal]
    congr 1
    ext word
    simp only [mem_wordsFor_iff hscans, Option.map_eq_some_iff, Set.mem_ofPred_eq]
  · rw [mem_refusedWords_iff hscans, Option.map_eq_none_iff]
    cases hbucket : bucket? (multipleZone total) positive word with
    | none => rfl
    | some point =>
        obtain ⟨value, hvalue⟩ := huse point.val point.isLt
        have hmem : word ∈ wordsFor draw (some value) :=
          (mem_wordsFor_iff hscans).2 (by rw [hbucket, Option.map_some, hvalue])
        exact absurd hmem (hword value)
  · intro σ _ source refused value hpatience hrefused hword
    simp only [mem_refusedWords_iff hscans] at hrefused
    rw [mem_wordsFor_iff hscans] at hword
    exact (hscans source).trans (scan_of_wordAt hpatience hrefused hword)

section Weights

variable {weights : List Nat}

theorem proportional_chooseIndex (positive : 0 < Weights.total weights)
    (htotal : Weights.total weights ≤ wordCount) :
    Draw.Proportional (chooseIndex weights) (fun position => weights.getD position 0)
      (Weights.total weights) := by
  refine Draw.proportional_of_drawPoint positive htotal
    (fun point => some (Weights.bucketOf point weights)) (chooseIndex_of_pos positive)
    (fun point _ => ⟨_, rfl⟩) fun position => ?_
  simp only [Option.some_inj]
  exact Weights.count_bucketOf weights position

/-- A word that is not refused shows a number, and its position is the one in whose bucket the
number lies. The buckets follow one another in the order of the weights. -/
theorem mem_wordsFor_chooseIndex_iff (positive : 0 < Weights.total weights)
    (htotal : Weights.total weights ≤ wordCount) {word : BitVec 64} {position : Nat} :
    word ∈ Draw.wordsFor (chooseIndex weights) (some position) ↔
      word ∉ Draw.refusedWords (chooseIndex weights) ∧
        Weights.total (weights.take position) ≤ Weights.total weights * word.toNat / wordCount ∧
        Weights.total weights * word.toNat / wordCount <
          Weights.total (weights.take (position + 1)) := by
  have hscans {σ : Type} [RandomSource σ] : Draw.Scans (chooseIndex weights : Draw σ _) _ :=
    Draw.scans_of_drawPoint positive (fun point => some (Weights.bucketOf point weights))
      (chooseIndex_of_pos positive)
  rw [Draw.mem_wordsFor_iff hscans, Draw.mem_refusedWords_iff hscans]
  cases hbucket : bucket? (multipleZone (Weights.total weights)) positive word with
  | none => simp
  | some point =>
      have hpoint : Weights.total weights * word.toNat / wordCount = point.val :=
        div_eq_of_mem_wordsOf positive ((bucket?_eq_some_iff positive htotal).1 hbucket)
      rw [hpoint, ← Weights.bucketOf_eq_iff point.isLt]
      simp

theorem chooseIndex_pos {σ : Type} [RandomSource σ] {source rest : σ} {position : Nat}
    (positive : 0 < Weights.total weights)
    (hrun : chooseIndex weights source = .ok (some position, rest)) :
    0 < weights.getD position 0 := by
  rcases ensures_chooseIndex weights source _ rest hrun with ⟨weight, hweight, hless⟩ | ⟨hzero, _⟩
  · rwa [List.getD_eq_getElem?_getD, hweight]
  · omega

end Weights

namespace Choice

theorem proportional_choose {alternatives : List Alternative}
    (positive : 0 < Weights.total (alternatives.map Alternative.weight))
    (htotal : Weights.total (alternatives.map Alternative.weight) ≤ wordCount) :
    Draw.Proportional (choose alternatives)
      (fun alternative => alternatives.count alternative * alternative.weight)
      (Weights.total (alternatives.map Alternative.weight)) := by
  refine Draw.proportional_of_drawPoint positive htotal
    (fun point => alternatives[Weights.bucketOf point (alternatives.map Alternative.weight)]?)
    (choose_of_pos positive) ?_ ?_
  · intro point hpoint
    have hlength := Weights.bucketOf_lt_length hpoint
    rw [List.length_map] at hlength
    exact ⟨_, List.getElem?_eq_getElem hlength⟩
  · intro alternative
    have hcount := Weights.count_getElem?_bucketOf alternatives Alternative.weight id alternative
    simp only [Option.map_id_fun, id_eq, List.filter_eq, List.map_replicate,
      Weights.total_replicate] at hcount
    exact hcount

theorem proportional_chooseFromList {list : String} (hitems : items list ≠ [])
    (hlength : (items list).length ≤ wordCount) :
    Draw.Proportional (chooseFromList list) (fun item => (items list).count item)
      (items list).length := by
  have htotal : Weights.total ((ofList list).map Alternative.weight) = (items list).length := by
    rw [ofList_eq_map_items, total_literal]
  have positive : 0 < (items list).length := List.length_pos_iff.2 hitems
  rw [← htotal] at hlength positive ⊢
  refine Draw.proportional_of_drawPoint positive hlength
    (fun point => (ofList list)[Weights.bucketOf point
      ((ofList list).map Alternative.weight)]?.map Alternative.text) ?_ ?_ ?_
  · intro σ _
    simp only [chooseFromList, choose_of_pos positive, bind_assoc, pure_bind]
  · intro point hpoint
    have hlength := Weights.bucketOf_lt_length hpoint
    rw [List.length_map] at hlength
    exact ⟨_, by rw [List.getElem?_eq_getElem hlength]; rfl⟩
  · intro item
    rw [Weights.count_getElem?_bucketOf (ofList list) Alternative.weight Alternative.text item,
      ofList_eq_map_items, List.filter_map, total_literal, List.count_eq_length_filter]
    rfl

/-- A choice by weight is in exact proportion to the weights, some of which may be zero. A choice
from a list gives each of its items the same share, once for each time that it is listed. -/
theorem proportional_to_weight :
    (∀ weights : List Nat, 0 < Weights.total weights → Weights.total weights < wordCount →
      Draw.Proportional (chooseIndex weights) (fun position => weights.getD position 0)
        (Weights.total weights) ∧
      (∀ word position,
        word ∈ Draw.wordsFor (chooseIndex weights) (some position) ↔
          word ∉ Draw.refusedWords (chooseIndex weights) ∧
            Weights.total (weights.take position) ≤
              Weights.total weights * word.toNat / wordCount ∧
            Weights.total weights * word.toNat / wordCount <
              Weights.total (weights.take (position + 1))) ∧
      ∀ {σ : Type} [RandomSource σ] (source rest : σ) (position : Nat),
        chooseIndex weights source = .ok (some position, rest) →
        0 < weights.getD position 0) ∧
    (∀ alternatives : List Alternative,
      0 < Weights.total (alternatives.map Alternative.weight) →
      Weights.total (alternatives.map Alternative.weight) < wordCount →
      Draw.Proportional (choose alternatives)
        (fun alternative => alternatives.count alternative * alternative.weight)
        (Weights.total (alternatives.map Alternative.weight))) ∧
    ∀ list : String, items list ≠ [] → (items list).length < wordCount →
      Draw.Proportional (chooseFromList list) (fun item => (items list).count item)
        (items list).length := by
  refine ⟨fun weights positive htotal => ⟨?_, ?_, ?_⟩, fun alternatives positive htotal => ?_,
    fun list hitems hlength => ?_⟩
  · exact proportional_chooseIndex positive htotal.le
  · exact fun word position => mem_wordsFor_chooseIndex_iff positive htotal.le
  · exact fun source rest position hrun => chooseIndex_pos positive hrun
  · exact proportional_choose positive htotal.le
  · exact proportional_chooseFromList hitems hlength.le

theorem proportional_to_weight_coins :
    (Draw.wordsFor (chooseIndex [2, 0, 1]) (some 0)).ncard = 12297829382473034410 ∧
      (Draw.wordsFor (choose [.weighted "edge" 0, .literal "heads"])
        (some (.weighted "edge" 0))).ncard = 0 ∧
      (Draw.wordsFor (chooseFromList "heads, tails,, heads") (some "heads")).ncard =
        12297829382473034410 := by
  refine ⟨?_, ?_, ?_⟩
  · exact (proportional_to_weight.1 [2, 0, 1] (by decide) (by decide)).1.ncard_wordsFor 0
  · exact (proportional_to_weight.2.1 [.weighted "edge" 0, .literal "heads"] (by decide)
      (by decide)).ncard_wordsFor (.weighted "edge" 0)
  · exact (proportional_to_weight.2.2 "heads, tails,, heads" (by decide)
      (by decide)).ncard_wordsFor "heads"

end Choice

end RandomTables
