import RandomTables.Proofs.Range.Spec

/-!
Ranges as they are printed. A spec that can be written is read back from its text, and the parser
returns no others. Only the size of a limit is read as a signed word and its sign is put in front
afterwards, so that the least signed word, whose size is none, is refused as a lower limit.
-/

namespace RandomTables.Range

variable {spec : Spec} {input : String}

def Spec.text (spec : Spec) : String :=
  toString spec.low ++ String.ofList (List.replicate spec.draws spec.combinator.separator) ++
    toString spec.high

/-- The limits have sizes that are signed words, and only the lower one may be negative. -/
structure Spec.Writable (spec : Spec) : Prop where
  low_ge : -9223372036854775807 ≤ spec.low
  low_lt_high : spec.low < spec.high
  high_nonneg : 0 ≤ spec.high
  high_le : spec.high ≤ 9223372036854775807
  draws_pos : 1 ≤ spec.draws
  draws_le : spec.draws ≤ 4294967295

namespace Writing

/-- The way in which a spec is printed. -/
def ofSpec (spec : Spec) (hdraws : 1 ≤ spec.draws) : Writing where
  negative := spec.low < 0
  low := Nat.toDigits 10 spec.low.natAbs
  combinator := spec.combinator
  draws := spec.draws
  high := Nat.toDigits 10 spec.high.natAbs
  isDigits_low := Text.isDigits_toDigits _
  draws_pos := hdraws
  isDigits_high := Text.isDigits_toDigits _

theorem text_ofSpec (hdraws : 1 ≤ spec.draws) (hhigh : 0 ≤ spec.high) :
    (ofSpec spec hdraws).text = spec.text.toList := by
  have hunsigned : ¬ spec.high < 0 := Int.not_lt.2 hhigh
  rw [Spec.text, String.toList_append, String.toList_append, Text.toList_toString,
    Text.toList_toString, if_neg hunsigned]
  simp [Writing.text, sign, separators, ofSpec]

variable {hdraws : 1 ≤ spec.draws}

theorem lowValue_ofSpec : (ofSpec spec hdraws).lowValue = spec.low := by
  by_cases hnegative : spec.low < 0
  · simp only [lowValue, ofSpec, hnegative, decide_true, if_true, Text.decimal_toDigits]
    omega
  · simp only [lowValue, ofSpec, hnegative, decide_false, Bool.false_eq_true, if_false,
      Text.decimal_toDigits]
    omega

theorem highValue_ofSpec (hhigh : 0 ≤ spec.high) :
    (ofSpec spec hdraws).highValue = spec.high := by
  rw [highValue, ofSpec, Text.decimal_toDigits]
  omega

theorem tooLarge_ofSpec_iff :
    (ofSpec spec hdraws).TooLarge ↔
      9223372036854775807 < spec.low.natAbs ∨ 9223372036854775807 < spec.high.natAbs ∨
        4294967295 < spec.draws := by
  rw [TooLarge, ofSpec, Text.decimal_toDigits, Text.decimal_toDigits]

end Writing

/-! ### What is read can be written -/

theorem Spec.writable_of_parse (h : Spec.parse input = .ok spec) : spec.Writable := by
  obtain ⟨writing, hwriting⟩ := exists_writing_of_parse h
  obtain ⟨hsmall, hless, rfl⟩ := (parse_eq_ok_iff hwriting).1 h
  have hlow : writing.lowValue.natAbs = Text.decimal writing.low := by
    unfold Writing.lowValue
    split <;> omega
  have hhigh : writing.highValue = Text.decimal writing.high := rfl
  have hdraws := writing.draws_pos
  simp only [Writing.TooLarge, not_or, Nat.not_lt] at hsmall
  exact ⟨by dsimp only; omega, hless, by dsimp only; omega, by dsimp only; omega, hdraws,
    hsmall.2.2⟩

theorem Spec.parse_eq_of_writable (h : spec.Writable) : Spec.parse spec.text = .ok spec := by
  obtain ⟨hlow, hless, hnonneg, hhigh, hdraws, hmost⟩ := h
  rw [parse_eq_ok_iff (Writing.text_ofSpec hdraws hnonneg), Writing.lowValue_ofSpec,
    Writing.highValue_ofSpec hnonneg, Writing.tooLarge_ofSpec_iff]
  exact ⟨by omega, hless, rfl⟩

/-- The parser returns just the specs that can be written. -/
theorem Spec.exists_parse_eq_ok_iff : (∃ input, Spec.parse input = .ok spec) ↔ spec.Writable :=
  ⟨fun ⟨_, hread⟩ => writable_of_parse hread, fun h => ⟨spec.text, parse_eq_of_writable h⟩⟩

theorem Spec.parse_text_of_low_lt (hlow : spec.low < -9223372036854775807)
    (hnonneg : 0 ≤ spec.high) (hdraws : 1 ≤ spec.draws) :
    Spec.parse spec.text = .error (.outOfRange spec.text) := by
  rw [parse_eq_outOfRange_iff (Writing.text_ofSpec hdraws hnonneg),
    Writing.tooLarge_ofSpec_iff]
  omega

/-- A range of signed words with an upper limit that is not negative is read back from its text,
unless the lower limit is the least signed word; and such a range is read from no text. -/
theorem Spec.parse_text_eq_ok_iff (spec : Spec) (hlow : -9223372036854775808 ≤ spec.low)
    (hhigh : spec.high ≤ 9223372036854775807) (hless : spec.low < spec.high)
    (hnonneg : 0 ≤ spec.high) (hdraws : 1 ≤ spec.draws) (hmost : spec.draws ≤ 4294967295) :
    (Spec.parse spec.text = .ok spec ↔ spec.low ≠ -9223372036854775808) ∧
      (spec.low = -9223372036854775808 →
        Spec.parse spec.text = .error (.outOfRange spec.text) ∧
          ∀ input, Spec.parse input ≠ .ok spec) := by
  have hwritable : spec.Writable ↔ spec.low ≠ -9223372036854775808 := by
    constructor
    · intro h heq
      have hge := h.low_ge
      omega
    · intro hne
      exact ⟨by omega, hless, hnonneg, hhigh, hdraws, hmost⟩
  have hread : ∀ input, Spec.parse input = .ok spec → spec.low ≠ -9223372036854775808 :=
    fun _ h => hwritable.1 (writable_of_parse h)
  refine ⟨⟨hread spec.text, fun hne => parse_eq_of_writable (hwritable.2 hne)⟩, fun heq => ?_⟩
  exact ⟨parse_text_of_low_lt (by omega) hnonneg hdraws, fun input h => hread input h heq⟩

/-- The widest range that can be written. -/
def Spec.widest (draws : Nat) : Spec :=
  ⟨-9223372036854775807, 9223372036854775807, .average, draws⟩

theorem Spec.parse_text_eq_ok_iff_widest :
    (Spec.widest 2).text = "-9223372036854775807--9223372036854775807" ∧
      Spec.parse "-9223372036854775807--9223372036854775807" = .ok (Spec.widest 2) := by
  have htext : (Spec.widest 2).text = "-9223372036854775807--9223372036854775807" := by
    decide +kernel
  have hread := (parse_text_eq_ok_iff (Spec.widest 2) (by decide) (by decide) (by decide)
    (by decide) (by decide) (by decide)).1.2 (by decide)
  rw [htext] at hread
  exact ⟨htext, hread⟩

/-- The least signed word is a lower limit that no text has. -/
theorem Spec.parse_text_ne_ok_leastWord :
    (⟨-9223372036854775808, 0, .average, 1⟩ : Spec).text = "-9223372036854775808-0" ∧
      Spec.parse "-9223372036854775808-0" = .error (.outOfRange "-9223372036854775808-0") := by
  decide +kernel

end RandomTables.Range
