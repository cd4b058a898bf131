import Mathlib.Data.Set.Basic
import RandomTables.Proofs.Draw.Words

/-!
Draws that take one word after another. What a draw makes of a word on its own is its verdict: a
value, or the wish for another word. The words that settle a draw on a value, and those that it
refuses, are read off its runs, and both come down to the verdict.
-/

namespace RandomTables.Draw

variable {σ α β : Type}

/-- The words are taken in order until the verdict is a value, `patience` of them at the most. -/
def scan [RandomSource σ] (verdict : BitVec 64 → Option α) : Nat → Draw σ α
  | 0 => fun _ => .error .stalled
  | patience + 1 => fun source =>
      match verdict (RandomSource.next64 source).1 with
      | some value => .ok (value, (RandomSource.next64 source).2)
      | none => scan verdict patience (RandomSource.next64 source).2

/-- The draw looks at one word at a time, as far as the patience of its source goes. -/
def Scans [RandomSource σ] (draw : Draw σ α) (verdict : BitVec 64 → Option α) : Prop :=
  ∀ source, draw source = scan verdict (RandomSource.patience source) source

/-- The words that settle the draw: from every source that hands such a word out first, the draw
returns the value, and it has used up this word alone. -/
def wordsFor (draw : ∀ {σ : Type} [RandomSource σ], Draw σ α) (value : α) : Set (BitVec 64) :=
  {word | ∀ (σ : Type) [RandomSource σ] (source : σ), 0 < RandomSource.patience source →
    (RandomSource.next64 source).1 = word →
    draw source = .ok (value, (RandomSource.next64 source).2)}

/-- The words that make the draw start over: from every source that hands such a word out first, it
goes on as if it began behind that word, with the patience for one word less. -/
def refusedWords (draw : ∀ {σ : Type} [RandomSource σ], Draw σ α) : Set (BitVec 64) :=
  {word | ∀ (σ : Type) [RandomSource σ] (source : σ),
    RandomSource.patience source = RandomSource.patience (RandomSource.next64 source).2 + 1 →
    (RandomSource.next64 source).1 = word →
    draw source = draw (RandomSource.next64 source).2}

section Scan

variable [RandomSource σ] {verdict : BitVec 64 → Option α} {patience : Nat} {source : σ}

theorem scan_of_some {value : α}
    (h : verdict (RandomSource.next64 source).1 = some value) :
    scan verdict (patience + 1) source = .ok (value, (RandomSource.next64 source).2) := by
  simp only [scan, h]

theorem scan_of_none (h : verdict (RandomSource.next64 source).1 = none) :
    scan verdict (patience + 1) source = scan verdict patience (RandomSource.next64 source).2 := by
  simp only [scan, h]

/-- The first word that is not refused decides. -/
theorem scan_of_wordAt {words : Nat} {value : α} (hwords : words < patience)
    (hnone : ∀ position < words, verdict (wordAt RandomSource.next64 position source) = none)
    (hsome : verdict (wordAt RandomSource.next64 words source) = some value) :
    scan verdict patience source =
      .ok (value, stateAfter RandomSource.next64 (words + 1) source) := by
  induction words generalizing patience source with
  | zero =>
      obtain ⟨patience, rfl⟩ := Nat.exists_eq_add_one.2 hwords
      exact scan_of_some hsome
  | succ words ih =>
      obtain ⟨patience, rfl⟩ := Nat.exists_eq_add_one.2 (Nat.zero_lt_of_lt hwords)
      have hfirst : verdict (RandomSource.next64 source).1 = none :=
        hnone 0 (Nat.zero_lt_succ words)
      rw [scan_of_none hfirst]
      refine ih (Nat.lt_of_succ_lt_succ hwords) (fun position hposition => ?_) hsome
      exact hnone (position + 1) (Nat.succ_lt_succ hposition)

theorem drawBucket_eq_scan {zone count : Nat} (positive : 0 < count) (patience : Nat)
    (source : σ) :
    drawBucket RandomSource.next64 zone positive patience source =
      scan (bucket? zone positive) patience source := by
  induction patience generalizing source with
  | zero => rfl
  | succ patience ih =>
      rw [drawBucket_succ]
      cases hbucket : bucket? zone positive (RandomSource.next64 source).1 with
      | some bucket => rw [scan_of_some hbucket]
      | none => rw [scan_of_none hbucket, ← ih]

theorem scans_drawPoint {total : Nat} (positive : 0 < total) :
    Scans (drawPoint positive : Draw σ (Fin total)) (bucket? (multipleZone total) positive) :=
  fun source => drawBucket_eq_scan positive _ source

/-- Nothing but the words is looked at when the value is put to use. -/
theorem Scans.map {draw : Draw σ α} (h : Scans draw verdict) (use : α → β) :
    Scans (do let value ← draw; pure (use value)) fun word => (verdict word).map use := by
  intro source
  change Except.bind (draw source) (fun step => .ok (use step.1, step.2)) = _
  rw [h source]
  generalize RandomSource.patience source = patience
  induction patience generalizing source with
  | zero => rfl
  | succ patience ih =>
      cases hverdict : verdict (RandomSource.next64 source).1 with
      | some value =>
          rw [scan_of_some hverdict, scan_of_some (by rw [hverdict, Option.map_some])]
          rfl
      | none =>
          rw [scan_of_none hverdict, scan_of_none (by rw [hverdict, Option.map_none]), ih]

end Scan

/-! ### The verdict on a word, seen from the runs -/

section Verdict

variable {draw : ∀ {σ : Type} [RandomSource σ], Draw σ α} {verdict : BitVec 64 → Option α}
  {word : BitVec 64}

/-- A scan of a scripted source uses up a word at least. -/
theorem lt_used_of_scan {patience : Nat} {source rest : Scripted} {value : α}
    (h : scan verdict patience source = .ok (value, rest)) : source.used < rest.used := by
  induction patience generalizing source with
  | zero => cases h
  | succ patience ih =>
      cases hverdict : verdict (RandomSource.next64 source).1 with
      | some found =>
          rw [scan_of_some hverdict] at h
          cases h
          exact Nat.lt_succ_self _
      | none =>
          rw [scan_of_none hverdict] at h
          exact Nat.lt_of_succ_lt (ih h)

variable (h : ∀ {σ : Type} [RandomSource σ], Scans (draw : Draw σ α) verdict)

include h

theorem mem_wordsFor_iff {value : α} : word ∈ wordsFor draw value ↔ verdict word = some value := by
  constructor
  · intro hmem
    -- A source of this word alone shows whether a second word is taken.
    have hrun : scan verdict 2 (Scripted.ofWords [word]) = .ok (value, ⟨[], 1⟩) :=
      (h _).symm.trans (hmem Scripted (.ofWords [word]) (Nat.zero_lt_succ _) rfl)
    cases hverdict : verdict word with
    | some found =>
        rw [scan_of_some hverdict] at hrun
        cases hrun
        rfl
    | none =>
        rw [scan_of_none hverdict] at hrun
        exact absurd (lt_used_of_scan hrun) (Nat.lt_irrefl 1)
  · rintro hverdict σ _ source hpatience rfl
    obtain ⟨patience, hpatience⟩ := Nat.exists_eq_add_one.2 hpatience
    refine (h source).trans ?_
    rw [hpatience, scan_of_some hverdict]

theorem mem_refusedWords_iff : word ∈ refusedWords draw ↔ verdict word = none := by
  constructor
  · intro hmem
    have hrun : scan verdict 2 (Scripted.ofWords [word]) = scan verdict 1 ⟨[], 1⟩ :=
      (h _).symm.trans ((hmem Scripted (.ofWords [word]) rfl rfl).trans (h _))
    cases hverdict : verdict word with
    | none => rfl
    | some found =>
        rw [scan_of_some hverdict] at hrun
        exact absurd (lt_used_of_scan hrun.symm) (Nat.lt_irrefl 1)
  · rintro hverdict σ _ source hpatience rfl
    refine (h source).trans ?_
    rw [hpatience, scan_of_none hverdict]
    exact (h _).symm

end Verdict

end RandomTables.Draw
