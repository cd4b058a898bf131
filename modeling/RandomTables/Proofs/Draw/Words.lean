import RandomTables.Random.Scripted
import RandomTables.Random.Weighted

/-!
The words that a draw uses up. A draw takes the first word that counts, if the source has one before
its patience ends, and leaves the source behind that word; otherwise it stalls. A scripted source
always has one, for the zeros after its words count in every draw.
-/

namespace RandomTables

variable {σ : Type} {width zone count patience : Nat} {next : σ → BitVec width × σ}

/-- The state of a source once it has handed out `words` words. -/
def stateAfter (next : σ → BitVec width × σ) : Nat → σ → σ
  | 0, source => source
  | words + 1, source => stateAfter next words (next source).2

/-- The word that a source hands out after `position` others. -/
def wordAt (next : σ → BitVec width × σ) (position : Nat) (source : σ) : BitVec width :=
  (next (stateAfter next position source)).1

theorem drawBucket_succ (positive : 0 < count) (source : σ) :
    drawBucket next zone positive (patience + 1) source =
      match bucket? zone positive (next source).1 with
      | some bucket => .ok (bucket, (next source).2)
      | none => drawBucket next zone positive patience (next source).2 := rfl

theorem drawBucket_outcome (positive : 0 < count) (source : σ) :
    (∃ bucket words, 1 ≤ words ∧
      drawBucket next zone positive patience source = .ok (bucket, stateAfter next words source)) ∨
    (∀ position < patience, bucket? zone positive (wordAt next position source) = none) ∧
      drawBucket next zone positive patience source = .error .stalled := by
  induction patience generalizing source with
  | zero => exact Or.inr ⟨fun _ hposition => absurd hposition (Nat.not_lt_zero _), rfl⟩
  | succ patience ih =>
      rw [drawBucket_succ]
      cases hbucket : bucket? zone positive (next source).1 with
      | some bucket => exact Or.inl ⟨bucket, 1, Nat.le_refl 1, rfl⟩
      | none =>
          rcases ih (next source).2 with ⟨bucket, words, hwords, hdraw⟩ | ⟨hrefused, hdraw⟩
          · exact Or.inl ⟨bucket, words + 1, Nat.le_add_left 1 words, hdraw⟩
          · refine Or.inr ⟨fun position hposition => ?_, hdraw⟩
            cases position with
            | zero => exact hbucket
            | succ position => exact hrefused position (Nat.lt_of_succ_lt_succ hposition)

section

variable [RandomSource σ]

/-- None of the words that a draw from `count` numbers may look at counts. -/
def GivesUp (source : σ) (count : Nat) : Prop :=
  ∀ position < RandomSource.patience source, scaledZone 64 count <
    lowHalf 64 ((wordAt RandomSource.next64 position source).toNat * count)

theorem drawBelow64_outcome (positive : 0 < count) (source : σ) :
    (∃ bucket words, 1 ≤ words ∧ drawBelow64 positive source =
      .ok (bucket, stateAfter RandomSource.next64 words source)) ∨
    GivesUp source count ∧ drawBelow64 positive source = .error .stalled := by
  refine (drawBucket_outcome positive source).imp_right fun ⟨hrefused, hdraw⟩ => ⟨?_, hdraw⟩
  intro position hposition
  have hnone := hrefused position hposition
  rw [bucket?] at hnone
  split at hnone
  · cases hnone
  · next hlarge => exact Nat.lt_of_not_le hlarge

end

namespace Scripted

theorem stateAfter_next64 (words : List (BitVec 64)) (used : Nat) :
    stateAfter next64 words.length ⟨words, used⟩ = ⟨[], used + words.length⟩ := by
  induction words generalizing used with
  | nil => rfl
  | cons word words ih =>
      rw [List.length_cons, stateAfter]
      refine (ih (used + 1)).trans ?_
      rw [Nat.add_assoc, Nat.add_comm 1]

theorem wordAt_length (source : Scripted) : wordAt next64 source.words.length source = 0 := by
  rw [wordAt, stateAfter_next64]
  rfl

theorem not_givesUp (source : Scripted) : ¬GivesUp source count := by
  intro hrefused
  have hlow := hrefused source.words.length (Nat.lt_succ_self _)
  change scaledZone 64 count < lowHalf 64 ((wordAt next64 _ source).toNat * count) at hlow
  have hzero : lowHalf 64 ((0 : BitVec 64).toNat * count) = 0 := by simp [lowHalf]
  rw [wordAt_length, hzero] at hlow
  exact Nat.not_lt_zero _ hlow

end Scripted

end RandomTables
