import RandomTables.Proofs.Dice.Spec

/-!
Specs as they are printed. A spec that can be written is read back from its text, whatever the
standard faces are; and as long as these can be written themselves, the parser returns no other
specs. So what is read, printed and read again is what was read first.
-/

namespace RandomTables

/-- Faces that a face token stands for: a number of faces, or a name of letters and digits that is
not a number. -/
def Faces.Writable : Faces → Prop
  | .numbered count => 1 ≤ count ∧ count ≤ 4294967295
  | .named name => name ≠ "" ∧ (∀ c ∈ name.toList, c.isAlphanum) ∧ ∃ c ∈ name.toList, ¬ c.isDigit

namespace Dice

structure Spec.Writable (spec : Spec) : Prop where
  count_le : spec.count ≤ 10000
  modifier_le : spec.modifier.natAbs ≤ 1000000000
  faces : spec.faces.Writable

variable {spec : Spec} {standard : Faces} {input : String}

/-! ### The modifier -/

namespace Modifier

/-- A modifier as it is printed; there is none that is worth 0. -/
def ofInt (n : Int) : Modifier :=
  if n = 0 then absent
  else signed (n < 0) (Nat.toDigits 10 n.natAbs) fun _ => Text.isDigit_of_mem_toDigits

theorem value_ofInt (n : Int) : (ofInt n).value = n := by
  unfold ofInt
  split
  · next hzero => exact hzero.symm
  · by_cases hnegative : n < 0
    · simp only [hnegative, decide_true, value, Text.decimal_toDigits]
      omega
    · simp only [hnegative, decide_false, value, Text.decimal_toDigits]
      omega

theorem text_ofInt (n : Int) :
    (ofInt n).text = (if n = 0 then "" else Text.signed n).toList := by
  unfold ofInt
  split
  · rfl
  · rw [Text.toList_signed]
    by_cases hnegative : n < 0
    · simp [hnegative, text]
    · simp [hnegative, text]

end Modifier

/-! ### The face token -/

theorem isAlphanum_of_mem_text {faces : Faces} (h : faces.Writable) :
    ∀ c ∈ faces.text.toList, c.isAlphanum := by
  cases faces with
  | numbered count =>
      intro c hc
      have hdigit : c.isDigit := Text.isDigit_of_mem_repr hc
      simp [Char.isAlphanum, hdigit]
  | named name => exact h.2.1

/-- A face token that is a number has the digits of that number, and any other is a name. -/
theorem isDigits_text_iff {faces : Faces} (h : faces.Writable) :
    Text.isDigits faces.text.toList ↔ ∃ count, faces = .numbered count := by
  cases faces with
  | numbered count =>
      have hdigits : Text.isDigits (toString count).toList := by
        simp [Text.isDigits_toDigits]
      exact iff_of_true hdigits ⟨count, rfl⟩
  | named name =>
      obtain ⟨_, _, c, hc, hdigit⟩ := h
      refine iff_of_false (fun hdigits => hdigit ?_) (by simp)
      exact List.all_eq_true.1 (Text.isDigits_iff.1 hdigits).2 c hc

theorem text_ne_nil {faces : Faces} (h : faces.Writable) : faces.text.toList ≠ [] := by
  cases faces with
  | numbered count => simp [Faces.text]
  | named name => simpa [Faces.text] using h.1

namespace Writing

/-- The way in which a spec is printed. -/
def ofSpec (spec : Spec) (h : spec.Writable) : Writing where
  count := Nat.toDigits 10 spec.count
  letter := 'd'
  faces := spec.faces.text.toList
  modifier := .ofInt spec.modifier
  isDigit_count _ := Text.isDigit_of_mem_toDigits
  letter_eq := Or.inl rfl
  isAlphanum_faces := isAlphanum_of_mem_text h.faces

theorem text_ofSpec (h : spec.Writable) : (ofSpec spec h).text = spec.text.toList := by
  have htext : spec.text = spec.count.repr ++ "d" ++ spec.faces.text ++
      (if spec.modifier = 0 then "" else Text.signed spec.modifier) := rfl
  rw [htext, Writing.text, ofSpec, Modifier.text_ofInt]
  simp

theorem countValue_ofSpec (h : spec.Writable) : (ofSpec spec h).countValue = spec.count := by
  have hne : (ofSpec spec h).count ≠ [] := Nat.toDigits_ne_nil
  rw [countValue, if_neg hne]
  exact Text.decimal_toDigits spec.count

theorem facesValue_ofSpec (h : spec.Writable) :
    (ofSpec spec h).facesValue standard = spec.faces := by
  have hne : (ofSpec spec h).faces ≠ [] := text_ne_nil h.faces
  rw [facesValue, if_neg hne]
  split
  · next hdigits =>
      obtain ⟨count, hcount⟩ := (isDigits_text_iff h.faces).1 hdigits
      simp [ofSpec, hcount, Faces.text, Text.decimal_toDigits]
  · next hdigits =>
      cases hfaces : spec.faces with
      | numbered count => exact absurd ((isDigits_text_iff h.faces).2 ⟨count, hfaces⟩) hdigits
      | named name => simp [ofSpec, hfaces, Faces.text]

theorem decimal_faces_ofSpec (h : spec.Writable) (hdigits : Text.isDigits (ofSpec spec h).faces) :
    1 ≤ Text.decimal (ofSpec spec h).faces ∧
      Text.decimal (ofSpec spec h).faces ≤ 4294967295 := by
  obtain ⟨count, hcount⟩ := (isDigits_text_iff h.faces).1 hdigits
  have hwritable := h.faces
  have hprinted : (ofSpec spec h).faces = Nat.toDigits 10 count := by
    simp [ofSpec, hcount, Faces.text]
  rw [hcount] at hwritable
  rw [hprinted, Text.decimal_toDigits]
  exact hwritable

theorem not_tooLarge_ofSpec (h : spec.Writable) : ¬ (ofSpec spec h).TooLarge := by
  rintro (hcount | hmodifier | ⟨hdigits, hfaces⟩)
  · rw [countValue_ofSpec] at hcount
    exact Nat.not_lt.2 h.count_le hcount
  · rw [ofSpec, Modifier.value_ofInt] at hmodifier
    exact Nat.not_lt.2 h.modifier_le hmodifier
  · exact Nat.not_lt.2 (decimal_faces_ofSpec h hdigits).2 hfaces

theorem not_faceless_ofSpec (h : spec.Writable) : ¬ (ofSpec spec h).Faceless standard := by
  rintro (⟨hdigits, hzero⟩ | ⟨hempty, _⟩)
  · exact Nat.ne_of_gt (decimal_faces_ofSpec h hdigits).1 hzero
  · exact text_ne_nil h.faces hempty

theorem spec_ofSpec (h : spec.Writable) : (ofSpec spec h).spec standard = spec := by
  rw [Writing.spec, countValue_ofSpec, facesValue_ofSpec, ofSpec, Modifier.value_ofInt]

/-! ### What is read can be written -/

theorem writable_facesValue {writing : Writing} (hstandard : standard.Writable)
    (hsmall : ¬ writing.TooLarge) (hfaces : ¬ writing.Faceless standard) :
    (writing.facesValue standard).Writable := by
  rw [facesValue]
  split
  · exact hstandard
  · next hne =>
      split
      · next hdigits =>
          rw [TooLarge, not_or, not_or, not_and] at hsmall
          refine ⟨Nat.one_le_iff_ne_zero.2 fun hzero => hfaces (Or.inl ⟨hdigits, hzero⟩), ?_⟩
          exact Nat.not_lt.1 (hsmall.2.2 hdigits)
      · next hdigits =>
          rw [Text.isDigits_iff, not_and, List.all_eq_true, not_forall] at hdigits
          obtain ⟨c, hc⟩ := hdigits hne
          rw [Classical.not_imp] at hc
          refine ⟨by simpa using hne, ?_, c, ?_⟩
          · simpa using writing.isAlphanum_faces
          · simpa using hc

end Writing

theorem Spec.writable_of_parse (hstandard : standard.Writable)
    (h : Spec.parse standard input = .ok spec) : spec.Writable := by
  obtain ⟨writing, _, hsmall, hfaces, rfl⟩ := exists_writing_of_parse h
  have hwritable := Writing.writable_facesValue hstandard hsmall hfaces
  rw [Writing.TooLarge, not_or, not_or, Nat.not_lt, Nat.not_lt] at hsmall
  exact ⟨hsmall.1, hsmall.2.1, hwritable⟩

theorem Spec.parse_eq_of_writable (standard : Faces) (h : spec.Writable) :
    Spec.parse standard spec.text = .ok spec := by
  rw [parse_of_not_faceless (Writing.text_ofSpec h) (Writing.not_tooLarge_ofSpec h)
    (Writing.not_faceless_ofSpec h), Writing.spec_ofSpec]

theorem writable_standard : Faces.standard.Writable :=
  ⟨by decide, by decide⟩

/-- A spec that can be written is read back from its text, and what is read with the usual standard
can be written. -/
theorem Spec.parse_text (standard : Faces) :
    (∀ spec : Spec, spec.count ≤ 10000 → spec.modifier.natAbs ≤ 1000000000 →
      spec.faces.Writable → Spec.parse standard spec.text = .ok spec) ∧
    ∀ input spec, Spec.parse .standard input = .ok spec →
      (spec.count ≤ 10000 ∧ spec.modifier.natAbs ≤ 1000000000 ∧ spec.faces.Writable) ∧
        Spec.parse standard spec.text = .ok spec := by
  refine ⟨fun spec hcount hmodifier hfaces => ?_, fun input spec hread => ?_⟩
  · exact parse_eq_of_writable standard ⟨hcount, hmodifier, hfaces⟩
  · have hwritable := writable_of_parse writable_standard hread
    exact ⟨⟨hwritable.count_le, hwritable.modifier_le, hwritable.faces⟩,
      parse_eq_of_writable standard hwritable⟩

theorem Spec.parse_text_dragon :
    (⟨3, .named "d6x", -5⟩ : Spec).text = "3dd6x-5" ∧
      Spec.parse (.numbered 0) "3dd6x-5" = .ok ⟨3, .named "d6x", -5⟩ ∧
      Spec.parse .standard "D007+" = .ok ⟨1, .numbered 7, 0⟩ ∧
      Spec.parse (.numbered 0) "1d7" = .ok ⟨1, .numbered 7, 0⟩ := by
  have hdragon : (⟨3, .named "d6x", -5⟩ : Spec).text = "3dd6x-5" := by decide +kernel
  have hread : Spec.parse .standard "D007+" = .ok ⟨1, .numbered 7, 0⟩ := by decide +kernel
  have hseven : (⟨1, .numbered 7, 0⟩ : Spec).text = "1d7" := by decide +kernel
  have hfaces : (Faces.named "d6x").Writable := ⟨by decide, by simp, 'd', by simp⟩
  have hback := (parse_text (.numbered 0)).1 ⟨3, .named "d6x", -5⟩ (by simp) (by simp) hfaces
  have hagain := ((parse_text (.numbered 0)).2 "D007+" _ hread).2
  rw [hdragon] at hback
  rw [hseven] at hagain
  exact ⟨hdragon, hback, hread, hagain⟩

end Dice

end RandomTables
