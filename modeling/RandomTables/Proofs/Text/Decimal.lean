import RandomTables.Text.Decimal

/-!
Numbers as they are written.
-/

namespace RandomTables.Text

theorem isDigit_of_mem_toDigits {n : Nat} {c : Char} (h : c ∈ Nat.toDigits 10 n) : c.isDigit :=
  Nat.isDigit_of_mem_toDigits (by decide) (by decide) h

theorem isDigit_of_mem_repr {n : Nat} {c : Char} (h : c ∈ n.repr.toList) : c.isDigit := by
  rw [Nat.toList_repr] at h
  exact isDigit_of_mem_toDigits h

/-- A number is printed with a dash in front if it is negative, and with the digits of its size. -/
theorem toList_toString (n : Int) :
    (toString n).toList = (if n < 0 then ['-'] else []) ++ Nat.toDigits 10 n.natAbs := by
  cases n with
  | ofNat n =>
      change n.repr.toList = _
      simp
  | negSucc n =>
      change ("-" ++ (n + 1).repr).toList = _
      simp

theorem eq_or_isDigit_of_mem_toString {n : Int} {c : Char} (h : c ∈ (toString n).toList) :
    c = '-' ∨ c.isDigit := by
  rw [toList_toString, List.mem_append] at h
  rcases h with hsign | hdigits
  · split at hsign
    · exact Or.inl (List.mem_singleton.1 hsign)
    · cases hsign
  · exact Or.inr (isDigit_of_mem_toDigits hdigits)

theorem isDigits_iff {text : List Char} :
    isDigits text ↔ text ≠ [] ∧ text.all Char.isDigit := by
  simp [isDigits]

theorem decimal_toDigits (n : Nat) : decimal (Nat.toDigits 10 n) = n :=
  Nat.ofDigitChars_ten_toDigits

theorem isDigits_toDigits (n : Nat) : isDigits (Nat.toDigits 10 n) = true := by
  rw [isDigits_iff, List.all_eq_true]
  exact ⟨Nat.toDigits_ne_nil, fun _ => isDigit_of_mem_toDigits⟩

theorem toList_signed (n : Int) :
    (signed n).toList = (if n < 0 then '-' else '+') :: Nat.toDigits 10 n.natAbs := by
  unfold signed
  split
  · change ("-" ++ n.natAbs.repr).toList = _
    simp
  · change ("+" ++ n.natAbs.repr).toList = _
    simp

/-- A number is read back from its digits. -/
theorem natural?_toDigits {most n : Nat} (h : n ≤ most) :
    natural? most (Nat.toDigits 10 n) = some n := by
  have hplus : '+' ∉ Nat.toDigits 10 n := fun hmem =>
    absurd (isDigit_of_mem_toDigits hmem) (by decide)
  simp only [natural?]
  split
  · next rest hdigits => simp [hdigits] at hplus
  · simp only [decimal_toDigits, isDigits_toDigits, Bool.true_and]
    rw [if_pos (decide_eq_true h)]

end RandomTables.Text
