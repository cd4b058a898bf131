import RandomTables.Expansion
import RandomTables.Proofs.Dice.Spec
import RandomTables.Proofs.Range.Writing

/-!
What the parser of ranges makes of a text: one that is not written as a range has no match, and of
the others the numbers decide. No text is written both as a dice spec and as a range, so that it
does not matter for which of them a name is tried first.
-/

namespace RandomTables.Range

namespace Writing

/-- A number of the writing is above what a spec may hold. -/
def TooLarge (writing : Writing) : Prop :=
  9223372036854775807 < Text.decimal writing.low ∨ 9223372036854775807 < Text.decimal writing.high ∨
    4294967295 < writing.draws

instance (writing : Writing) : Decidable writing.TooLarge :=
  inferInstanceAs (Decidable (_ ∨ _ ∨ _))

def lowValue (writing : Writing) : Int :=
  if writing.negative then -(Text.decimal writing.low : Int) else Text.decimal writing.low

def highValue (writing : Writing) : Int :=
  Text.decimal writing.high

end Writing

variable {input : String} {writing : Writing} {spec : Spec}

/-! ### The parser on a text that is written as a range -/

theorem Spec.parse_eq_of_text (h : writing.text = input.toList) :
    Spec.parse input =
      if writing.TooLarge then .error (.outOfRange input)
      else if writing.highValue ≤ writing.lowValue then
        .error (.emptyRange writing.lowValue writing.highValue)
      else .ok ⟨writing.lowValue, writing.highValue, writing.combinator, writing.draws⟩ := by
  have hparts : Parts.ofText? input.toList = some writing.parts := by
    rw [← h, writing.ofText?_text]
  have hne : input.toList.isEmpty = false := by
    rw [Bool.eq_false_iff, ne_eq, List.isEmpty_iff]
    intro hempty
    rw [hempty] at hparts
    cases hparts
  simp only [Spec.parse, hne, hparts]
  rfl

/-- A text that is not empty and not written as a range has no match. -/
theorem Spec.parse_of_forall_text_ne (hne : input ≠ "")
    (h : ∀ writing : Writing, writing.text ≠ input.toList) :
    Spec.parse input = .error (.noMatch input) := by
  rw [Spec.parse, if_neg (by simpa using hne)]
  split
  · rfl
  · next parts hparts =>
      obtain ⟨writing, hwriting⟩ := Writing.exists_text_eq hparts
      exact absurd hwriting (h writing)

theorem Spec.parse_empty : Spec.parse "" = .error .empty := rfl

/-- A text that is written as a range has one of three results. -/
theorem Spec.parse_of_text (h : writing.text = input.toList) :
    writing.TooLarge ∧ Spec.parse input = .error (.outOfRange input) ∨
    ¬ writing.TooLarge ∧ writing.highValue ≤ writing.lowValue ∧
      Spec.parse input = .error (.emptyRange writing.lowValue writing.highValue) ∨
    ¬ writing.TooLarge ∧ ¬ writing.highValue ≤ writing.lowValue ∧
      Spec.parse input =
        .ok ⟨writing.lowValue, writing.highValue, writing.combinator, writing.draws⟩ := by
  rw [parse_eq_of_text h]
  by_cases hlarge : writing.TooLarge
  · exact Or.inl ⟨hlarge, if_pos hlarge⟩
  · rw [if_neg hlarge]
    by_cases hempty : writing.highValue ≤ writing.lowValue
    · exact Or.inr (Or.inl ⟨hlarge, hempty, if_pos hempty⟩)
    · exact Or.inr (Or.inr ⟨hlarge, hempty, if_neg hempty⟩)

/-! ### The results of the parser -/

theorem Spec.parse_eq_empty_iff : Spec.parse input = .error .empty ↔ input = "" := by
  refine ⟨fun hparse => ?_, fun hempty => by rw [hempty, parse_empty]⟩
  by_contra hne
  by_cases hwritten : ∃ writing : Writing, writing.text = input.toList
  · obtain ⟨writing, h⟩ := hwritten
    rcases parse_of_text h with ⟨_, hread⟩ | ⟨_, _, hread⟩ | ⟨_, _, hread⟩ <;>
      simp [hread] at hparse
  · rw [parse_of_forall_text_ne hne (not_exists.1 hwritten)] at hparse
    cases hparse

theorem Spec.parse_eq_noMatch_iff :
    Spec.parse input = .error (.noMatch input) ↔
      input ≠ "" ∧ ¬ ∃ writing : Writing, writing.text = input.toList := by
  refine ⟨fun hparse => ⟨?_, ?_⟩, fun ⟨hne, hwritten⟩ =>
    parse_of_forall_text_ne hne (not_exists.1 hwritten)⟩
  · rintro rfl
    cases hparse
  · rintro ⟨writing, h⟩
    rcases parse_of_text h with ⟨_, hread⟩ | ⟨_, _, hread⟩ | ⟨_, _, hread⟩ <;>
      simp [hread] at hparse

theorem Spec.parse_eq_outOfRange_iff (h : writing.text = input.toList) :
    Spec.parse input = .error (.outOfRange input) ↔ writing.TooLarge := by
  rcases parse_of_text h with ⟨hlarge, hread⟩ | ⟨hlarge, _, hread⟩ | ⟨hlarge, _, hread⟩ <;>
    simp [hread, hlarge]

theorem Spec.parse_eq_emptyRange_iff (h : writing.text = input.toList) {low high : Int} :
    Spec.parse input = .error (.emptyRange low high) ↔
      ¬ writing.TooLarge ∧ high ≤ low ∧ low = writing.lowValue ∧ high = writing.highValue := by
  rcases parse_of_text h with ⟨hlarge, hread⟩ | ⟨hlarge, hempty, hread⟩ | ⟨hlarge, hempty, hread⟩
  · simp [hread, hlarge]
  · simp only [hread, Except.error.injEq, SpecError.emptyRange.injEq, hlarge, not_false_eq_true,
      true_and]
    constructor
    · rintro ⟨rfl, rfl⟩
      exact ⟨hempty, rfl, rfl⟩
    · rintro ⟨_, rfl, rfl⟩
      exact ⟨rfl, rfl⟩
  · simp only [hread, reduceCtorEq, false_iff]
    rintro ⟨_, hle, rfl, rfl⟩
    exact hempty hle

theorem Spec.parse_eq_ok_iff (h : writing.text = input.toList) :
    Spec.parse input = .ok spec ↔
      ¬ writing.TooLarge ∧ writing.lowValue < writing.highValue ∧
        spec = ⟨writing.lowValue, writing.highValue, writing.combinator, writing.draws⟩ := by
  rw [← Int.not_le]
  rcases parse_of_text h with ⟨hlarge, hread⟩ | ⟨hlarge, hempty, hread⟩ | ⟨hlarge, hempty, hread⟩
  · simp [hread, hlarge]
  · simp [hread, hempty]
  · simp [hread, hlarge, hempty, eq_comm]

theorem Spec.exists_writing_of_parse (h : Spec.parse input = .ok spec) :
    ∃ writing : Writing, writing.text = input.toList := by
  by_contra hwritten
  rcases eq_or_ne input "" with rfl | hne
  · cases h
  · rw [parse_of_forall_text_ne hne (not_exists.1 hwritten)] at h
    cases h

/-! ### Dice and ranges -/

/-- The letter of a dice spec stands in no range. -/
theorem Writing.text_ne_dice (writing : Writing) (dice : Dice.Writing) :
    dice.text ≠ writing.text := by
  intro heq
  have hletter : dice.letter ∈ writing.text := by
    rw [← heq, Dice.Writing.text]
    exact List.mem_append_right _ List.mem_cons_self
  rcases isDigit_or_eq_of_mem_text hletter with hdigit | hseparator
  · rcases dice.letter_eq with h | h <;> rw [h] at hdigit <;> cases hdigit
  · rcases dice.letter_eq with h | h <;> rw [h] at hseparator <;>
      cases hcombinator : writing.combinator <;>
      simp [hcombinator, Combinator.separator] at hseparator

theorem Spec.not_parse_dice (h : Spec.parse input = .ok spec) (standard : Faces)
    (dice : Dice.Spec) : Dice.Spec.parse standard input ≠ .ok dice := by
  intro hdice
  obtain ⟨writing, hwriting⟩ := exists_writing_of_parse h
  obtain ⟨diceWriting, hdiceWriting, _⟩ := Dice.Spec.exists_writing_of_parse hdice
  exact writing.text_ne_dice diceWriting (hdiceWriting.trans hwriting.symm)

end RandomTables.Range

namespace RandomTables.Expander

/-- What a name stands for when it is tried as a range before it is tried as dice. -/
def meaningRangeFirst (expander : Expander) (name : String) (scope : Option String) : Meaning :=
  match expander.findTable name scope with
  | some table => .table table
  | none =>
      match Range.Spec.parse name with
      | .ok spec => .range spec
      | .error _ =>
          match Dice.Spec.parse expander.standardFaces name with
          | .ok spec => .dice spec
          | .error _ => .text

theorem meaning_eq_meaningRangeFirst (expander : Expander) (name : String)
    (scope : Option String) :
    expander.meaning name scope = expander.meaningRangeFirst name scope := by
  unfold meaning meaningRangeFirst
  cases expander.findTable name scope with
  | some table => rfl
  | none =>
      cases hrange : Range.Spec.parse name with
      | error error =>
          cases Dice.Spec.parse expander.standardFaces name with
          | error error => rfl
          | ok dice => rfl
      | ok range =>
          cases hdice : Dice.Spec.parse expander.standardFaces name with
          | error error => rfl
          | ok dice => exact absurd hdice (Range.Spec.not_parse_dice hrange _ dice)

end RandomTables.Expander

namespace RandomTables.Range

/-- The parser accepts the grammar of ranges, and nothing that is read as dice. What it makes of a
text, and with which error it refuses one, is read off the one way in which the text is written. -/
theorem Spec.parse_accepts_range_grammar (input : String) :
    (Spec.parse input = .error .empty ↔ input = "") ∧
    (Spec.parse input = .error (.noMatch input) ↔
      input ≠ "" ∧ ¬ ∃ writing : Writing, writing.text = input.toList) ∧
    (∀ writing : Writing, writing.text = input.toList →
      (∀ other : Writing, other.text = input.toList → other = writing) ∧
      (Spec.parse input = .error (.outOfRange input) ↔
        9223372036854775807 < Text.decimal writing.low ∨
          9223372036854775807 < Text.decimal writing.high ∨ 4294967295 < writing.draws) ∧
      (∀ low high, Spec.parse input = .error (.emptyRange low high) ↔
        ¬ writing.TooLarge ∧ high ≤ low ∧ low = writing.lowValue ∧ high = writing.highValue) ∧
      ∀ spec, Spec.parse input = .ok spec ↔
        ¬ writing.TooLarge ∧ writing.lowValue < writing.highValue ∧
          spec = ⟨writing.lowValue, writing.highValue, writing.combinator, writing.draws⟩) ∧
    (∀ standard dice range,
      ¬ (Dice.Spec.parse standard input = .ok dice ∧ Spec.parse input = .ok range)) ∧
    ∀ (expander : Expander) (scope : Option String),
      expander.meaning input scope = expander.meaningRangeFirst input scope :=
  ⟨parse_eq_empty_iff, parse_eq_noMatch_iff,
    fun _ h => ⟨fun _ hother => Writing.text_injective (hother.trans h.symm),
      parse_eq_outOfRange_iff h, fun _ _ => parse_eq_emptyRange_iff h, fun _ => parse_eq_ok_iff h⟩,
    fun standard dice _ ⟨hdice, hrange⟩ => not_parse_dice hrange standard dice hdice,
    fun expander scope => expander.meaning_eq_meaningRangeFirst input scope⟩

/-- The way in which `-3--05` is written. -/
def Writing.minusThree : Writing where
  negative := true
  low := ['3']
  combinator := .average
  draws := 2
  high := ['0', '5']
  isDigits_low := rfl
  draws_pos := by decide
  isDigits_high := rfl

theorem Spec.parse_accepts_range_grammar_minusThree :
    Writing.minusThree.text = "-3--05".toList ∧
      Spec.parse "-3--05" = .ok ⟨-3, 5, .average, 2⟩ := by
  have htext : Writing.minusThree.text = "-3--05".toList := by decide
  have hread := ((parse_accepts_range_grammar "-3--05").2.2.1 .minusThree htext).2.2.2
  exact ⟨htext, (hread ⟨-3, 5, .average, 2⟩).2 (by decide)⟩

end RandomTables.Range
