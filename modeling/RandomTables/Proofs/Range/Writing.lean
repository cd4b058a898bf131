import RandomTables.Proofs.Text.Cut
import RandomTables.Proofs.Text.Decimal
import RandomTables.Range.Spec

/-!
How a range spec is written: `-? [0-9]+ s+ [0-9]+`, with one separator `s` throughout. A dash may be
a sign or a separator, but digits stand between the two, so that a text is written in one way at the
most, and the split of the parser finds the parts of the writing where there is one.
-/

namespace RandomTables.Range

/-- A range spec as it is written; `draws` is the length of the separator. -/
structure Writing where
  negative : Bool
  low : List Char
  combinator : Combinator
  draws : Nat
  high : List Char
  isDigits_low : Text.isDigits low
  draws_pos : 1 ≤ draws
  isDigits_high : Text.isDigits high

theorem Combinator.isDigit_separator (combinator : Combinator) :
    combinator.separator.isDigit = false := by
  cases combinator <;> rfl

theorem Combinator.ofSeparator?_separator (combinator : Combinator) :
    ofSeparator? combinator.separator = some combinator :=
  ofSeparator?_eq_some_iff.2 rfl

namespace Writing

def sign (writing : Writing) : List Char :=
  if writing.negative then ['-'] else []

def separators (writing : Writing) : List Char :=
  List.replicate writing.draws writing.combinator.separator

def text (writing : Writing) : List Char :=
  writing.sign ++ (writing.low ++ (writing.separators ++ writing.high))

def parts (writing : Writing) : Parts :=
  ⟨writing.negative, writing.low, writing.combinator, writing.draws, writing.high⟩

variable {writing : Writing} {c : Char}

theorem isDigit_of_mem_low (h : c ∈ writing.low) : c.isDigit :=
  List.all_eq_true.1 (Text.isDigits_iff.1 writing.isDigits_low).2 c h

theorem isDigit_of_mem_high (h : c ∈ writing.high) : c.isDigit :=
  List.all_eq_true.1 (Text.isDigits_iff.1 writing.isDigits_high).2 c h

theorem ofUnsigned?_low (writing : Writing) :
    Parts.ofUnsigned? writing.negative (writing.low ++ (writing.separators ++ writing.high)) =
      some writing.parts := by
  obtain ⟨more, hdraws⟩ := Nat.exists_eq_add_of_le' writing.draws_pos
  have hseparators : writing.separators =
      writing.combinator.separator :: List.replicate more writing.combinator.separator := by
    rw [separators, hdraws, List.replicate_succ]
  have hlow : ∀ c ∈ (writing.separators ++ writing.high).head?, c.isDigit = false := by
    rw [hseparators]
    rintro c ⟨⟩
    exact writing.combinator.isDigit_separator
  -- The separators end where the digits of the upper limit begin.
  have hhigh : ∀ c ∈ writing.high.head?, (c == writing.combinator.separator) = false := by
    intro c hc
    have hdigit : c.isDigit := isDigit_of_mem_high (List.mem_of_head? hc)
    rw [beq_eq_false_iff_ne]
    rintro rfl
    rw [writing.combinator.isDigit_separator] at hdigit
    cases hdigit
  obtain ⟨htakeLow, hdropLow⟩ :=
    Text.takeWhile_dropWhile_append (fun _ => isDigit_of_mem_low) hlow
  obtain ⟨htakeMore, hdropMore⟩ := @Text.takeWhile_dropWhile_append
    (List.replicate more writing.combinator.separator) writing.high
    (· == writing.combinator.separator) (fun c hc => by simp [List.eq_of_mem_replicate hc]) hhigh
  rw [Parts.ofUnsigned?, hdropLow, htakeLow, hseparators, List.cons_append]
  simp only [Combinator.ofSeparator?_separator, htakeMore, hdropMore, List.length_replicate]
  rw [if_pos ⟨(Text.isDigits_iff.1 writing.isDigits_low).1, writing.isDigits_high⟩, ← hdraws]
  rfl

theorem ofText?_text (writing : Writing) : Parts.ofText? writing.text = some writing.parts := by
  rw [← ofUnsigned?_low, text, sign]
  cases hnegative : writing.negative with
  | true => rfl
  | false =>
      -- A digit is no sign.
      obtain ⟨digit, digits, hlow⟩ :=
        List.exists_cons_of_ne_nil (Text.isDigits_iff.1 writing.isDigits_low).1
      have hdigit : digit.isDigit := isDigit_of_mem_low (hlow ▸ List.mem_cons_self)
      have hne : digit ≠ '-' := by
        rintro rfl
        cases hdigit
      rw [hlow]
      change Parts.ofText? (digit :: _) = _
      unfold Parts.ofText?
      split
      · next h => exact absurd (List.cons.inj h).1 hne
      · rfl

/-- A text is written in one way at the most. -/
theorem text_injective {left right : Writing} (h : left.text = right.text) : left = right := by
  have hparts : left.parts = right.parts := by
    rw [← Option.some_inj, ← ofText?_text, ← ofText?_text, h]
  obtain ⟨negative, low, combinator, draws, high, _, _, _⟩ := left
  obtain ⟨negative', low', combinator', draws', high', _, _, _⟩ := right
  simp only [parts, Parts.mk.injEq] at hparts
  obtain ⟨rfl, rfl, rfl, rfl, rfl⟩ := hparts
  rfl

theorem exists_of_ofUnsigned? {negative : Bool} {text : List Char} {parts : Parts}
    (h : Parts.ofUnsigned? negative text = some parts) :
    ∃ writing : Writing, writing.negative = negative ∧
      writing.low ++ (writing.separators ++ writing.high) = text := by
  unfold Parts.ofUnsigned? at h
  split at h
  · cases h
  · next separator rest hdrop =>
      split at h
      · cases h
      · next combinator hcombinator =>
          extract_lets high at h
          split at h
          · next hdigits =>
              obtain rfl := Combinator.ofSeparator?_eq_some_iff.1 hcombinator
              have hmore : rest.takeWhile (· == combinator.separator) =
                  List.replicate (rest.takeWhile (· == combinator.separator)).length
                    combinator.separator :=
                List.eq_replicate_of_mem fun c hc => by simpa using List.mem_takeWhile_imp hc
              have hlow : Text.isDigits (text.takeWhile Char.isDigit) :=
                Text.isDigits_iff.2 ⟨hdigits.1, List.all_takeWhile⟩
              refine ⟨⟨negative, text.takeWhile Char.isDigit, combinator, _, high, hlow,
                Nat.le_add_left 1 (rest.takeWhile (· == combinator.separator)).length, hdigits.2⟩,
                rfl, ?_⟩
              rw [separators, List.replicate_succ, ← hmore, List.cons_append,
                List.takeWhile_append_dropWhile, ← hdrop, List.takeWhile_append_dropWhile]
          · cases h

/-- Where the split succeeds, the text is written as a spec. -/
theorem exists_text_eq {text : List Char} {parts : Parts} (h : Parts.ofText? text = some parts) :
    ∃ writing : Writing, writing.text = text := by
  unfold Parts.ofText? at h
  split at h
  · next rest =>
      obtain ⟨writing, hnegative, hrest⟩ := exists_of_ofUnsigned? h
      exact ⟨writing, by rw [Writing.text, sign, hnegative, hrest]; rfl⟩
  · obtain ⟨writing, hnegative, hrest⟩ := exists_of_ofUnsigned? h
    exact ⟨writing, by rw [Writing.text, sign, hnegative, hrest]; rfl⟩

/-- Digits and separators are all that a range spec is written with. -/
theorem isDigit_or_eq_of_mem_text (h : c ∈ writing.text) :
    c.isDigit ∨ c = '-' ∨ c = writing.combinator.separator := by
  rw [text, List.mem_append, List.mem_append, List.mem_append] at h
  rcases h with hsign | hlow | hseparators | hhigh
  · rw [sign] at hsign
    split at hsign
    · exact Or.inr (Or.inl (List.mem_singleton.1 hsign))
    · cases hsign
  · exact Or.inl (isDigit_of_mem_low hlow)
  · exact Or.inr (Or.inr (List.eq_of_mem_replicate hseparators))
  · exact Or.inl (isDigit_of_mem_high hhigh)

end Writing

end RandomTables.Range
