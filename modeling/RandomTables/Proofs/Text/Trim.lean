import Mathlib.Data.List.DropRight
import RandomTables.Text.Blank

/-!
Trimming. It takes blank characters from both ends and nothing else, so that blanks around a text
make no difference, and a trimmed text stays as it is.
-/

namespace RandomTables.Text

variable {text before after : List Char} {c : Char}

theorem trimEnd_trimEnd (text : List Char) : trimEnd (trimEnd text) = trimEnd text :=
  List.rdropWhile_idempotent isBlank text

theorem mem_of_mem_trim (h : c ∈ trim text) : c ∈ text := by
  have hend : c ∈ trimStart text := (List.rdropWhile_prefix isBlank _).subset h
  exact (List.dropWhile_suffix isBlank).subset hend

theorem trim_nil : trim [] = [] := rfl

/-! ### Blank ends -/

theorem trimStart_append_of_blank (h : ∀ c ∈ before, isBlank c) :
    trimStart (before ++ text) = trimStart text :=
  List.dropWhile_append_of_pos h

theorem trimEnd_append_of_blank (h : ∀ c ∈ after, isBlank c) :
    trimEnd (text ++ after) = trimEnd text := by
  rw [trimEnd, List.reverse_append, List.dropWhile_append_of_pos]
  · rfl
  · simpa using h

theorem trim_append_of_blank (h : ∀ c ∈ after, isBlank c) : trim (text ++ after) = trim text := by
  rw [trim, trim, trimStart, List.dropWhile_append]
  split
  · next hblank =>
      have hempty : trimStart text = [] := List.isEmpty_iff.1 hblank
      have hafter : after.dropWhile isBlank = [] := List.dropWhile_eq_nil_iff.2 h
      rw [hempty, hafter]
  · exact trimEnd_append_of_blank h

/-- What stands around a text does not count, as long as it is blank. -/
theorem trim_pad (hbefore : ∀ c ∈ before, isBlank c) (hafter : ∀ c ∈ after, isBlank c) :
    trim (before ++ text ++ after) = trim text := by
  rw [trim_append_of_blank hafter, trim, trimStart_append_of_blank hbefore, trim]

theorem trim_eq_nil_of_blank (h : ∀ c ∈ text, isBlank c) : trim text = [] := by
  have hpad := @trim_append_of_blank [] text h
  rwa [List.nil_append, trim_nil] at hpad

/-! ### Trimmed texts -/

theorem trimStart_trimEnd_trimStart (text : List Char) : trimStart (trim text) = trim text := by
  unfold trim
  rcases hstart : trimStart text with _ | ⟨c, rest⟩
  · rfl
  · have hc : isBlank c = false := by
      have hhead := List.head?_dropWhile_not isBlank text
      rw [show text.dropWhile isBlank = c :: rest from hstart] at hhead
      simpa using hhead
    -- The end that is kept begins with the same character, or nothing is kept.
    rcases hend : trimEnd (c :: rest) with _ | ⟨d, kept⟩
    · rfl
    · have hprefix : d :: kept <+: c :: rest := hend ▸ List.rdropWhile_prefix isBlank _
      obtain rfl : d = c := (List.cons_prefix_cons.1 hprefix).1
      exact List.dropWhile_cons_of_neg (by simp [hc])

theorem trim_trim (text : List Char) : trim (trim text) = trim text := by
  rw [trim, trimStart_trimEnd_trimStart, trim, trimEnd_trimEnd]

theorem trimEnd_eq_self_of_trim_eq_self (h : trim text = text) : trimEnd text = text := by
  have hend := trimEnd_trimEnd (trimStart text)
  rwa [show trimEnd (trimStart text) = text from h] at hend

theorem trimEnd_cons_of_not_blank (hc : isBlank c = false) (text : List Char) :
    trimEnd (c :: text) = c :: trimEnd text := by
  rw [trimEnd, List.reverse_cons, List.dropWhile_append]
  split
  · next hempty =>
      have hnil : trimEnd text = [] := by
        rw [trimEnd, List.isEmpty_iff.1 hempty, List.reverse_nil]
      rw [hnil, List.dropWhile_cons_of_neg (by simp [hc])]
      rfl
  · simp [trimEnd]

/-- A text stays trimmed when characters that are not blank are put in front of it. -/
theorem trim_append_of_not_blank (hbefore : ∀ c ∈ before, isBlank c = false)
    (h : trim text = text) : trim (before ++ text) = before ++ text := by
  induction before with
  | nil => exact h
  | cons c before ih =>
      have hc : isBlank c = false := hbefore c List.mem_cons_self
      have hrest := ih fun other hother => hbefore other (List.mem_cons_of_mem _ hother)
      rw [List.cons_append, trim, trimStart, List.dropWhile_cons_of_neg (by simp [hc]),
        trimEnd_cons_of_not_blank hc, trimEnd_eq_self_of_trim_eq_self hrest]

theorem isBlank_of_isDigit (h : c.isDigit) : isBlank c = false := by
  simp only [Char.isDigit, Bool.and_eq_true, decide_eq_true_eq, UInt32.le_iff_toNat_le] at h
  have hlow : 48 ≤ c.toNat := h.1
  have hhigh : c.toNat ≤ 57 := h.2
  simp only [isBlank, Bool.or_eq_false_iff, Bool.and_eq_false_iff, decide_eq_false_iff_not,
    beq_eq_false_iff_ne]
  omega

end RandomTables.Text
