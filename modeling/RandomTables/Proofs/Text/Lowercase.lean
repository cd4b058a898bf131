import RandomTables.Text.Lowercase

/-!
Lower case is final: no letter of a lower-case text has a further lower-case form. The rows of the
mapping are compared two by two, by their ends and by the parity of their codes, so that no
character has to be looked at.
-/

namespace RandomTables.Text

namespace CaseRow

def lastLower (row : CaseRow) : Nat := row.lower + (row.last - row.first)

/-- Nothing that `row` maps to is mapped by `other`: its codes lie on one side of the codes of
`other`, or between them. -/
def misses (row other : CaseRow) : Bool :=
  row.lastLower.blt other.first || other.last.blt row.lower ||
    (row.step == 2 || row.first == row.last) && other.step == 2 &&
      (row.lower + other.first) % 2 == 1

/-- Nothing that `row` maps to is the code, which has a mapping of its own. -/
def avoids (row : CaseRow) (code : Nat) : Bool :=
  row.lastLower.blt code || code.blt row.lower

/-- All that `row` maps to are characters. -/
def isValid (row : CaseRow) : Bool :=
  row.lastLower.blt 0xD800 || Nat.blt 0xDFFF row.lower && row.lastLower.blt 0x110000

variable {row other : CaseRow} {code : Nat}

theorem covers_iff : row.covers code = true ↔
    row.first ≤ code ∧ code ≤ row.last ∧ (code - row.first) % row.step = 0 := by
  simp [covers, and_assoc]

theorem covers_apply_of_misses (h : row.misses other) (hcode : row.covers code) :
    other.covers (row.apply code) = false := by
  obtain ⟨hfirst, hlast, hstep⟩ := covers_iff.1 hcode
  rw [← Bool.not_eq_true, covers_iff, apply]
  rintro ⟨hfirst', hlast', hstep'⟩
  simp only [misses, lastLower, Bool.or_eq_true, Bool.and_eq_true, Nat.blt_eq, beq_iff_eq] at h
  obtain (h | h) | ⟨⟨hrow, hother⟩, hparity⟩ := h
  · omega
  · omega
  · rw [hother] at hstep'
    obtain hrow | hrow := hrow
    · rw [hrow] at hstep
      omega
    · omega

theorem apply_ne_of_avoids (h : row.avoids code) {mapped : Nat} (hmapped : row.covers mapped) :
    row.apply mapped ≠ code := by
  obtain ⟨hfirst, hlast, -⟩ := covers_iff.1 hmapped
  simp only [avoids, lastLower, Bool.or_eq_true, Nat.blt_eq] at h
  rw [apply]
  omega

theorem toNat_apply_of_isValid (h : row.isValid) (hcode : row.covers code) :
    (Char.ofNat (row.apply code)).toNat = row.apply code := by
  obtain ⟨hfirst, hlast, -⟩ := covers_iff.1 hcode
  simp only [isValid, lastLower, Bool.or_eq_true, Bool.and_eq_true, Nat.blt_eq] at h
  have hvalid : (row.apply code).isValidChar := by
    rw [apply, Nat.isValidChar]
    omega
  rw [Char.ofNat, dif_pos hvalid]
  rfl

end CaseRow

theorem caseRows_misses {row other : CaseRow} (hrow : row ∈ caseRows) (hother : other ∈ caseRows) :
    row.misses other := by
  have hall : (caseRows.all fun row => caseRows.all row.misses) = true := by decide +kernel
  exact List.all_eq_true.1 (List.all_eq_true.1 hall row hrow) other hother

theorem caseRows_valid {row : CaseRow} (hrow : row ∈ caseRows) :
    row.isValid ∧ row.avoids 'Σ'.toNat ∧ row.avoids 'İ'.toNat := by
  have hall : (caseRows.all fun row => row.isValid && row.avoids 'Σ'.toNat &&
      row.avoids 'İ'.toNat) = true := by decide +kernel
  simpa only [Bool.and_eq_true, and_assoc] using List.all_eq_true.1 hall row hrow

/-- Lower-casing leaves the character as it is, wherever it stands. -/
def IsLower (c : Char) : Prop :=
  c ≠ 'Σ' ∧ c ≠ 'İ' ∧ lowerChar c = c

instance (c : Char) : Decidable (IsLower c) :=
  inferInstanceAs (Decidable (_ ∧ _ ∧ _))

theorem lowerChar_of_not_covers {c : Char} (h : ∀ row ∈ caseRows, row.covers c.toNat = false) :
    lowerChar c = c := by
  have hnone : caseRows.find? (·.covers c.toNat) = none :=
    List.find?_eq_none.2 fun row hrow => by simp [h row hrow]
  rw [lowerChar, hnone]

theorem isLower_lowerChar {c : Char} (hsigma : c ≠ 'Σ') (hdotted : c ≠ 'İ') :
    IsLower (lowerChar c) := by
  cases hrow : caseRows.find? (·.covers c.toNat) with
  | some row =>
      have hmem : row ∈ caseRows := List.mem_of_find?_eq_some hrow
      have hcovers : row.covers c.toNat := by simpa using List.find?_some hrow
      have hlower : lowerChar c = Char.ofNat (row.apply c.toNat) := by rw [lowerChar, hrow]
      obtain ⟨hvalid, havoids, havoids'⟩ := caseRows_valid hmem
      have hcode := CaseRow.toNat_apply_of_isValid hvalid hcovers
      rw [hlower]
      refine ⟨?_, ?_, lowerChar_of_not_covers fun other hother => ?_⟩
      · intro heq
        rw [heq] at hcode
        exact CaseRow.apply_ne_of_avoids havoids hcovers hcode.symm
      · intro heq
        rw [heq] at hcode
        exact CaseRow.apply_ne_of_avoids havoids' hcovers hcode.symm
      · rw [hcode]
        exact CaseRow.covers_apply_of_misses (caseRows_misses hmem hother) hcovers
  | none =>
      have hlower : lowerChar c = c := by rw [lowerChar, hrow]
      rw [hlower]
      exact ⟨hsigma, hdotted, hlower⟩

theorem isLower_of_mem_lowerBetween {before after : List Char} {c lower : Char}
    (h : lower ∈ lowerBetween before c after) : IsLower lower := by
  have hsigmas : IsLower 'σ' ∧ IsLower 'ς' := by decide +kernel
  have hdot : IsLower 'i' ∧ IsLower '\u0307' := by decide +kernel
  unfold lowerBetween at h
  split at h
  · rw [List.mem_singleton] at h
    split at h
    · exact h ▸ hsigmas.2
    · exact h ▸ hsigmas.1
  · split at h
    · obtain rfl | h := List.mem_cons.1 h
      · exact hdot.1
      · rw [List.mem_singleton.1 h]
        exact hdot.2
    · next hsigma hdotted =>
        rw [List.mem_singleton.1 h]
        exact isLower_lowerChar hsigma hdotted

theorem isLower_of_mem_lowercaseAfter {before text : List Char} {c : Char}
    (h : c ∈ lowercaseAfter before text) : IsLower c := by
  induction text generalizing before with
  | nil => cases h
  | cons first rest ih =>
      rw [lowercaseAfter, List.mem_append] at h
      rcases h with h | h
      · exact isLower_of_mem_lowerBetween h
      · exact ih h

theorem IsLower.lowerBetween_eq {c : Char} (h : IsLower c) (before after : List Char) :
    lowerBetween before c after = [c] := by
  obtain ⟨hsigma, hdotted, hlower⟩ := h
  rw [lowerBetween, if_neg hsigma, if_neg hdotted, hlower]

theorem lowercaseAfter_of_isLower {text : List Char} (h : ∀ c ∈ text, IsLower c)
    (before : List Char) : lowercaseAfter before text = text := by
  induction text generalizing before with
  | nil => rfl
  | cons c rest ih =>
      have hrest : ∀ c ∈ rest, IsLower c := fun c hc => h c (List.mem_cons_of_mem _ hc)
      rw [lowercaseAfter, (h c List.mem_cons_self).lowerBetween_eq, ih hrest, List.singleton_append]

theorem lowercase_lowercase (text : String) : lowercase (lowercase text) = lowercase text := by
  have hlower : ∀ c ∈ lowercaseAfter [] text.toList, IsLower c :=
    fun c hc => isLower_of_mem_lowercaseAfter hc
  calc lowercase (lowercase text)
      = String.ofList (lowercaseAfter [] (lowercaseAfter [] text.toList)) := by
        simp only [lowercase, String.toList_ofList]
    _ = lowercase text := by rw [lowercaseAfter_of_isLower hlower, lowercase]

/-- A capital sigma at the end of a word, and a capital I with a dot that becomes a mark. -/
example : lowercase (lowercase "ΣΑΣ İ") = "σας i̇" := by decide +kernel

end RandomTables.Text
