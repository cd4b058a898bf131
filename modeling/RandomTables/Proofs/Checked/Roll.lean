import RandomTables.Proofs.Checked.Spec
import RandomTables.Proofs.Choice
import RandomTables.Proofs.Dice.Roll
import RandomTables.Proofs.Range.Roll

/-!
Rolls and choices with all their checks: no die is without faces and no range without numbers, a
face or an alternative is taken by its position, and the draws of a range are summed up in words of
128 bits, the weights of alternatives in words of 64.
-/

namespace RandomTables.Checked

variable {σ : Type} [RandomSource σ]

/-! ### Dice -/

def rollNumbered (faces : Nat) : CheckedDraw σ Face :=
  if positive : 0 < faces then do
    let position ← sample (drawBelow32 positive)
    pure (Face.numbered (position.val + 1))
  else
    calculate (.error .emptyRange)

/-- One of some faces, of which there may be none. -/
def rollOf (faces : List Face) : CheckedDraw σ Face :=
  if positive : 0 < faces.length then do
    let position ← sample (drawBelow64 positive)
    calculate (element faces position.val)
  else
    calculate (.error .emptyRange)

def rollFace (registry : Dice.Registry) : Faces → CheckedDraw σ Face
  | .numbered count => rollNumbered count
  | .named name =>
      match registry.get? name with
      | some die => rollOf die.faces
      | none => pure Face.unknown

def rollDice (registry : Dice.Registry) (spec : Dice.Spec) : CheckedDraw σ Dice.Roll := do
  let faces ← (List.replicate spec.count ()).mapM fun _ => rollFace registry spec.faces
  pure ⟨spec, faces⟩

theorem mirrors_rollNumbered {faces : Nat} (positive : 0 < faces) :
    Mirrors (rollNumbered faces : CheckedDraw σ Face) (Dice.rollNumbered faces) := by
  rw [rollNumbered, dif_pos positive, Dice.rollNumbered, dif_pos positive]
  refine (mirrors_sample fun source => drawBucket_ne_emptyRange _ source).bind fun position => ?_
  exact mirrors_pure _

theorem mirrors_rollOf (die : Die) : Mirrors (rollOf die.faces : CheckedDraw σ Face) die.roll := by
  rw [rollOf, dif_pos die.length_pos, Die.roll]
  refine (mirrors_sample fun source => drawBucket_ne_emptyRange _ source).bind fun position => ?_
  have hface : element die.faces position.val = .ok die.faces[position] := by
    rw [element, List.getElem?_eq_getElem position.isLt]
    rfl
  rw [hface, calculate_ok]
  exact mirrors_pure _

/-- No trap in a registered die, for it has faces, and none in an unknown one, which is not drawn
from. -/
theorem mirrors_rollNamed (registry : Dice.Registry) (name : String) :
    Mirrors (rollFace registry (.named name) : CheckedDraw σ Face) (registry.roll name) := by
  rw [rollFace, Dice.Registry.roll]
  cases registry.get? name with
  | none => exact mirrors_pure _
  | some die => exact mirrors_rollOf die

theorem mirrors_rollDice (registry : Dice.Registry) {spec : Dice.Spec}
    (hfaces : spec.faces.isRollable) :
    Mirrors (rollDice registry spec : CheckedDraw σ Dice.Roll) (spec.roll registry) := by
  have hface : Mirrors (rollFace registry spec.faces : CheckedDraw σ Face)
      (Dice.rollFace registry spec.faces) := by
    cases hspec : spec.faces with
    | numbered count =>
        rw [hspec] at hfaces
        have hne : count ≠ 0 := by simpa [Faces.isRollable] using hfaces
        exact mirrors_rollNumbered (Nat.pos_of_ne_zero hne)
    | named name => exact mirrors_rollNamed registry name
  exact (Mirrors.mapM fun _ _ => hface).bind fun _ => mirrors_pure _

/-- The checks of a roll rest on the spec: a plain die without faces, which no text stands for, is a
trap. -/
theorem rollDice_eq_trap (registry : Dice.Registry) {spec : Dice.Spec}
    (hfaces : spec.faces = .numbered 0) (hcount : 0 < spec.count) (source : σ) :
    rollDice registry spec source = .error (.trap .emptyRange) := by
  obtain ⟨count, hspec⟩ := Nat.exists_eq_succ_of_ne_zero (Nat.ne_of_gt hcount)
  have hface : (rollFace registry spec.faces : CheckedDraw σ Face) =
      calculate (.error .emptyRange) := by
    rw [hfaces, rollFace, rollNumbered, dif_neg (Nat.lt_irrefl 0)]
  rw [rollDice, hspec, List.replicate_succ, List.mapM_cons, hface]
  rfl

/-! ### Ranges -/

/-- The mean of the draws, in words of 128 bits. -/
def average (draws : List Int) : Except Trap Int :=
  if draws.isEmpty then .ok 0
  else do
    let sum ← draws.foldlM (fun sum draw => signed 128 (sum + draw)) 0
    let doubled ← signed 128 (2 * sum)
    let dividend ← signed 128 (doubled + draws.length)
    let divisor ← signed 128 (2 * draws.length)
    let quotient ← divide dividend divisor
    signed 64 quotient

def combine : Range.Combinator → List Int → Except Trap Int
  | .average, draws => average draws
  | .lowest, draws => .ok (Range.least draws)
  | .highest, draws => .ok (Range.greatest draws)

def rollRange (spec : Range.Spec) : CheckedDraw σ Range.Roll := do
  let draws ← (List.replicate (if spec.draws = 0 then 1 else spec.draws) ()).mapM fun _ =>
    sample (drawBetween spec.low spec.high)
  let value ← calculate (combine spec.combinator draws)
  pure ⟨spec, draws, value⟩

/-- The largest word of 128 bits with a sign. -/
def greatestWide : Nat := 170141183460469231731687303715884105727

theorem signed_wide {n : Int} (hlow : -(greatestWide : Int) - 1 ≤ n) (hhigh : n ≤ greatestWide) :
    signed 128 n = .ok n :=
  signed_of_le rfl hlow hhigh

/-- A sum of words stays within as many words as it has summands. -/
theorem foldlM_signed {draws : List Int} {start : Int}
    (hdraws : ∀ draw ∈ draws, -(greatestWord : Int) - 1 ≤ draw ∧ draw ≤ greatestWord)
    (hlow : -(greatestWide : Int) ≤ start - draws.length * (greatestWord + 1))
    (hhigh : start + draws.length * (greatestWord + 1) ≤ greatestWide) :
    draws.foldlM (fun sum draw => signed 128 (sum + draw)) start =
        .ok (draws.foldl (fun sum draw => sum + draw) start) ∧
      start - draws.length * (greatestWord + 1) ≤ draws.foldl (fun sum draw => sum + draw) start ∧
      draws.foldl (fun sum draw => sum + draw) start ≤
        start + draws.length * (greatestWord + 1) := by
  induction draws generalizing start with
  | nil => simp; rfl
  | cons draw draws ih =>
      obtain ⟨hdraw, hrest⟩ := List.forall_mem_cons.1 hdraws
      rw [List.length_cons] at hlow hhigh ⊢
      unfold greatestWord at *
      have hsum : signed 128 (start + draw) = .ok (start + draw) := by
        apply signed_wide <;> omega
      obtain ⟨hfold, hbelow, habove⟩ := @ih (start + draw) hrest (by omega) (by omega)
      rw [List.foldlM_cons, hsum, List.foldl_cons, ok_bind]
      exact ⟨hfold, by omega, by omega⟩

theorem average_eq {draws : List Int} (hnonempty : draws ≠ [])
    (hlength : draws.length ≤ Range.mostDraws)
    (hdraws : ∀ draw ∈ draws, -(greatestWord : Int) - 1 ≤ draw ∧ draw ≤ greatestWord) :
    average draws = .ok (Range.mean draws) := by
  have hpos : 0 < draws.length := List.length_pos_iff.2 hnonempty
  have hmean : signed 64 (Range.mean draws) = .ok (Range.mean draws) :=
    signed_word (Range.le_mean hnonempty fun draw hdraw => (hdraws draw hdraw).1)
      (Range.mean_le hnonempty fun draw hdraw => (hdraws draw hdraw).2)
  unfold Range.mostDraws at hlength
  obtain ⟨hsum, hbelow, habove⟩ := @foldlM_signed draws 0 hdraws
    (by unfold greatestWord greatestWide; omega) (by unfold greatestWord greatestWide; omega)
  rw [← Range.sum] at hsum hbelow habove
  unfold greatestWord at hbelow habove
  have hdoubled : signed 128 (2 * Range.sum draws) = .ok (2 * Range.sum draws) := by
    apply signed_wide <;> unfold greatestWide <;> omega
  have hdividend : signed 128 (2 * Range.sum draws + draws.length) =
      .ok (2 * Range.sum draws + draws.length) := by
    apply signed_wide <;> unfold greatestWide <;> omega
  have hdivisor : signed 128 (2 * draws.length) = .ok (2 * draws.length : Int) := by
    apply signed_wide <;> unfold greatestWide <;> omega
  rw [average, if_neg (by simpa using hnonempty), hsum, ok_bind, hdoubled, ok_bind, hdividend,
    ok_bind, hdivisor, ok_bind, divide, if_neg (by omega), ok_bind]
  exact hmean

theorem combine_eq {combinator : Range.Combinator} {draws : List Int} (hnonempty : draws ≠ [])
    (hlength : draws.length ≤ Range.mostDraws)
    (hdraws : ∀ draw ∈ draws, -(greatestWord : Int) - 1 ≤ draw ∧ draw ≤ greatestWord) :
    combine combinator draws = .ok (combinator.combine draws) := by
  cases combinator with
  | average => exact average_eq hnonempty hlength hdraws
  | lowest => rfl
  | highest => rfl

theorem drawBetween_ne_emptyRange {low high : Int} (h : low ≤ high) (source : σ) :
    drawBetween low high source ≠ .error .emptyRange := by
  unfold drawBetween
  rw [dif_pos h]
  split
  · next hcount =>
      have positive : 0 < (high - low + 1).toNat := by omega
      change Except.bind (drawBelow64 positive source) _ ≠ _
      have hdraw : drawBelow64 positive source ≠ .error .emptyRange :=
        drawBucket_ne_emptyRange _ source
      cases hoffset : drawBelow64 positive source with
      | ok step =>
          intro h
          cases h
      | error fault =>
          rw [hoffset] at hdraw
          intro h
          cases h
          exact hdraw rfl
  · simp

theorem mirrors_rollRange {spec : Range.Spec} (h : spec.WithinWords)
    (hdraws : spec.draws ≤ Range.mostDraws) :
    Mirrors (rollRange spec : CheckedDraw σ Range.Roll) spec.roll := by
  let count := if spec.draws = 0 then 1 else spec.draws
  have hcount : 0 < count ∧ count ≤ Range.mostDraws := by
    change 0 < (if spec.draws = 0 then 1 else spec.draws) ∧
      (if spec.draws = 0 then 1 else spec.draws) ≤ Range.mostDraws
    unfold Range.mostDraws at *
    split <;> omega
  have hdraw : Mirrors (sample (drawBetween spec.low spec.high) : CheckedDraw σ Int)
      (drawBetween spec.low spec.high) :=
    mirrors_sample (drawBetween_ne_emptyRange h.low_le_high)
  have hensures := (Range.ensures_drawBetween h : Draw.Ensures (drawBetween spec.low spec.high :
    Draw σ Int) _).times count
  refine Mirrors.bind_of_ensures (Mirrors.mapM fun _ _ => hdraw) hensures fun draws hvalues => ?_
  have hnonempty : draws ≠ [] := by
    rw [← List.length_pos_iff, hvalues.1]
    exact hcount.1
  have hwords : ∀ draw ∈ draws, -(greatestWord : Int) - 1 ≤ draw ∧ draw ≤ greatestWord := by
    intro draw hmem
    obtain ⟨hlow, hhigh⟩ := hvalues.2 draw hmem
    have hlowWord := h.low_ge
    have hhighWord := h.high_le
    unfold greatestWord
    omega
  rw [combine_eq hnonempty (hvalues.1 ▸ hcount.2) hwords, calculate_ok]
  exact mirrors_pure _

/-- A range without numbers, which no text stands for either, is a trap too. -/
theorem rollRange_eq_trap {spec : Range.Spec} (h : spec.high < spec.low) (source : σ) :
    rollRange spec source = .error (.trap .emptyRange) := by
  obtain ⟨count, hcount⟩ : ∃ count, (if spec.draws = 0 then 1 else spec.draws) = count + 1 :=
    Nat.exists_eq_succ_of_ne_zero (by split <;> omega)
  have hdraw : drawBetween spec.low spec.high = (throw .emptyRange : Draw σ Int) := by
    rw [drawBetween, dif_neg (by omega)]
  rw [rollRange, hcount, List.replicate_succ, List.mapM_cons, hdraw]
  rfl

/-! ### Choices -/

def chooseIndex (weights : List Nat) : CheckedDraw σ (Option Nat) :=
  if weights = [] then
    pure none
  else do
    let total ← calculate (weights.foldlM (fun sum weight => unsigned 64 (sum + weight)) 0)
    if positive : 0 < total then do
      let point ← sample (drawPoint positive)
      pure (some (Weights.bucketOf point.val weights))
    else do
      let last ← calculate (subtract weights.length 1)
      pure (some last)

def choose (alternatives : List Alternative) : CheckedDraw σ (Option Alternative) := do
  match ← chooseIndex (alternatives.map Alternative.weight) with
  | none => pure none
  | some position => do
      let picked ← calculate (element alternatives position)
      pure (some picked)

def chooseFromList (list : String) : CheckedDraw σ (Option String) := do
  let picked ← choose (Choice.ofList list)
  pure (picked.map Alternative.text)

theorem foldlM_unsigned {weights : List Nat} {start : Nat}
    (h : start + Weights.total weights < wordCount) :
    weights.foldlM (fun sum weight => unsigned 64 (sum + weight)) start =
      .ok (start + Weights.total weights) := by
  induction weights generalizing start with
  | nil => rfl
  | cons weight weights ih =>
      rw [Weights.total] at h ⊢
      have hsum : unsigned 64 (start + weight) = .ok (start + weight) := by
        rw [unsigned, if_pos]
        change start + weight < wordCount
        omega
      rw [List.foldlM_cons, hsum, ok_bind, ih (by omega), Nat.add_assoc]

theorem mirrors_chooseIndex {weights : List Nat} (h : Weights.total weights < wordCount) :
    Mirrors (chooseIndex weights : CheckedDraw σ (Option Nat))
      (RandomTables.chooseIndex weights) := by
  unfold chooseIndex RandomTables.chooseIndex
  split
  · exact mirrors_pure none
  · next hnonempty =>
      rw [foldlM_unsigned (by omega), calculate_ok, pure_bind, Nat.zero_add]
      split
      · refine (mirrors_sample fun source => drawBucket_ne_emptyRange _ source).bind fun point => ?_
        exact mirrors_pure _
      · have hlast : subtract weights.length 1 = .ok (weights.length - 1) :=
          if_pos (List.length_pos_iff.2 hnonempty)
        rw [hlast, calculate_ok]
        exact mirrors_pure _

theorem mirrors_choose {alternatives : List Alternative}
    (h : Weights.total (alternatives.map Alternative.weight) < wordCount) :
    Mirrors (choose alternatives : CheckedDraw σ (Option Alternative))
      (Choice.choose alternatives) := by
  refine (mirrors_chooseIndex h).bind_of_ensures (ensures_chooseIndex _) ?_
  intro position hposition
  cases position with
  | none => exact mirrors_pure none
  | some position =>
      have hlength : position < alternatives.length := by
        simpa using hposition.lt_length
      have hpicked : element alternatives position = .ok alternatives[position] := by
        rw [element, List.getElem?_eq_getElem hlength]
      simp only [hpicked, calculate_ok, pure_bind, Option.bind_some,
        List.getElem?_eq_getElem hlength]
      exact mirrors_pure _

/-- A text has no more parts that are not empty than it has characters. -/
theorem countP_splitOn_le {separator : Char} {counts : List Char → Bool}
    (hempty : counts [] = false) (text : List Char) :
    (text.splitOn separator).countP counts ≤ text.length := by
  induction text with
  | nil => simp [hempty]
  | cons c text ih =>
      rw [List.splitOn_cons_eq_if_modifyHead]
      split
      · rw [List.countP_cons_of_neg (by simp [hempty]), List.length_cons]
        omega
      · rcases hsplit : text.splitOn separator with _ | ⟨first, rest⟩
        · exact Nat.zero_le _
        · rw [hsplit, List.countP_cons] at ih
          rw [List.modifyHead_cons, List.countP_cons, List.length_cons]
          split <;> omega

theorem length_items_le (list : String) : (Choice.items list).length ≤ list.length := by
  rw [Choice.items, List.length_map, ← List.countP_eq_length_filter, List.countP_map,
    ← String.length_toList]
  exact countP_splitOn_le rfl list.toList

theorem mirrors_chooseFromList {list : String} (h : list.length < wordCount) :
    Mirrors (chooseFromList list : CheckedDraw σ (Option String)) (Choice.chooseFromList list) := by
  have htotal : Weights.total ((Choice.ofList list).map Alternative.weight) < wordCount := by
    rw [Choice.ofList_eq_map_items, Choice.total_literal]
    exact Nat.lt_of_le_of_lt (length_items_le list) h
  exact (mirrors_choose htotal).bind fun _ => mirrors_pure _

end RandomTables.Checked
