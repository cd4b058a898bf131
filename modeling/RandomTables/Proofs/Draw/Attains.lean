import RandomTables.Proofs.Draw.Bucket
import RandomTables.Proofs.Draw.Ensures
import RandomTables.Random.Scripted

/-!
Values that a draw can be made to return: some words in front of all others make it return the value
and are used up by it. What two draws in a row use up stands one after the other.
-/

namespace RandomTables

namespace Draw

variable {α β : Type}

/-- Some words make the draw return the value, whatever words follow them. -/
def Attains (draw : Draw Scripted α) (value : α) : Prop :=
  ∃ words, ∀ rest used, ∃ used', draw ⟨words ++ rest, used⟩ = .ok (value, ⟨rest, used'⟩)

theorem attains_pure (value : α) : Attains (pure value) value :=
  ⟨[], fun _ used => ⟨used, rfl⟩⟩

theorem Attains.bind {draw : Draw Scripted α} {next : α → Draw Scripted β} {value : α} {result : β}
    (h : draw.Attains value) (hnext : (next value).Attains result) :
    Attains (draw >>= next) result := by
  obtain ⟨words, hwords⟩ := h
  obtain ⟨more, hmore⟩ := hnext
  refine ⟨words ++ more, fun rest used => ?_⟩
  obtain ⟨between, hbetween⟩ := hwords (more ++ rest) used
  obtain ⟨used', hused'⟩ := hmore rest between
  refine ⟨used', ?_⟩
  change Except.bind (draw ⟨words ++ more ++ rest, used⟩) (fun step => next step.1 step.2) = _
  rw [List.append_assoc, hbetween]
  exact hused'

theorem Attains.times {draw : Draw Scripted α} {values : List α}
    (h : ∀ value ∈ values, draw.Attains value) :
    Attains (Draw.times values.length draw) values := by
  induction values with
  | nil => exact attains_pure []
  | cons value values ih =>
      rw [List.length_cons, times_succ]
      refine (h value List.mem_cons_self).bind ?_
      refine (ih fun other hother => h other (List.mem_cons_of_mem _ hother)).bind ?_
      exact attains_pure _

end Draw

/-- A scripted source that may show every word can be made to find every bucket. -/
theorem attains_drawBucket {width zone count : Nat} {positive : 0 < count}
    {next : Scripted → BitVec width × Scripted}
    (hnext : ∀ word, ∃ first, ∀ rest used, next ⟨first :: rest, used⟩ = (word, ⟨rest, used + 1⟩))
    (hcount : count ≤ 2 ^ width) (hzone : count ≤ zone + 1) (bucket : Fin count) :
    Draw.Attains (fun source => drawBucket next zone positive (RandomSource.patience source) source)
      bucket := by
  obtain ⟨word, hword⟩ := exists_bucket?_eq_some positive hcount hzone bucket
  obtain ⟨first, hfirst⟩ := hnext word
  refine ⟨[first], fun rest used => ⟨used + 1, ?_⟩⟩
  change drawBucket next zone positive (rest.length + 1 + 1) ⟨first :: rest, used⟩ = _
  simp only [drawBucket, hfirst, hword]

theorem Scripted.exists_next64_eq (word : BitVec 64) : ∃ first, ∀ rest used,
    Scripted.next64 ⟨first :: rest, used⟩ = (word, ⟨rest, used + 1⟩) :=
  ⟨word, fun _ _ => rfl⟩

theorem Scripted.exists_next32_eq (word : BitVec 32) : ∃ first, ∀ rest used,
    Scripted.next32 ⟨first :: rest, used⟩ = (word, ⟨rest, used + 1⟩) := by
  refine ⟨word.setWidth 64, fun rest used => ?_⟩
  have hword : (word.setWidth 64).setWidth 32 = word := by
    rw [BitVec.setWidth_setWidth_of_le _ (by decide), BitVec.setWidth_eq]
  exact Prod.ext hword rfl

theorem attains_drawPoint {total : Nat} {positive : 0 < total} (htotal : total ≤ wordCount)
    (point : Fin total) : Draw.Attains (drawPoint positive) point :=
  attains_drawBucket Scripted.exists_next64_eq htotal (le_multipleZone_add_one htotal) point

theorem attains_drawBelow64 {count : Nat} {positive : 0 < count} (hcount : count ≤ wordCount)
    (bucket : Fin count) : Draw.Attains (drawBelow64 positive) bucket :=
  attains_drawBucket Scripted.exists_next64_eq hcount le_scaledZone_add_one bucket

theorem attains_drawBelow32 {count : Nat} {positive : 0 < count} (hcount : count ≤ 2 ^ 32)
    (bucket : Fin count) : Draw.Attains (drawBelow32 positive) bucket :=
  attains_drawBucket Scripted.exists_next32_eq hcount le_scaledZone_add_one bucket

/-- Fewer numbers than there are words are drawn by their distance from the lowest. -/
theorem attains_drawBetween {low high value : Int} (hlow : low ≤ value) (hhigh : value ≤ high)
    (hcount : high - low + 1 < wordCount) : Draw.Attains (drawBetween low high) value := by
  have hvalue : (value - low).toNat < (high - low + 1).toNat := by omega
  rw [drawBetween, dif_pos (Int.le_trans hlow hhigh), if_pos (by omega)]
  refine (attains_drawBelow64 (by omega) ⟨(value - low).toNat, hvalue⟩).bind ?_
  have hsum : low + ((value - low).toNat : Int) = value := by omega
  rw [hsum]
  exact Draw.attains_pure value

end RandomTables
