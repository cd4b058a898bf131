import RandomTables.Proofs.Dice.Writing
import RandomTables.Proofs.Text.Decimal

/-!
What the parser makes of a text. A text that is not written as a spec has no match; of the others,
the numbers decide: those that are too large first, and then whether the die has a face.
-/

namespace RandomTables.Dice

namespace Writing

/-- A number of the writing is above what a spec may hold. -/
def TooLarge (writing : Writing) : Prop :=
  10000 < writing.countValue ∨ 1000000000 < writing.modifier.value.natAbs ∨
    Text.isDigits writing.faces ∧ 4294967295 < Text.decimal writing.faces

/-- The die is written without a face, or it is left to a standard without one. -/
def Faceless (standard : Faces) (writing : Writing) : Prop :=
  Text.isDigits writing.faces ∧ Text.decimal writing.faces = 0 ∨
    writing.faces = [] ∧ standard = .numbered 0

instance (writing : Writing) : Decidable writing.TooLarge :=
  inferInstanceAs (Decidable (_ ∨ _ ∨ _))

instance (standard : Faces) (writing : Writing) : Decidable (writing.Faceless standard) :=
  inferInstanceAs (Decidable (_ ∨ _))

/-- The faces that are written, or the standard ones if none are. -/
def facesValue (standard : Faces) (writing : Writing) : Faces :=
  if writing.faces = [] then standard
  else if Text.isDigits writing.faces then .numbered (Text.decimal writing.faces)
  else .named (String.ofList writing.faces)

def spec (standard : Faces) (writing : Writing) : Spec :=
  ⟨writing.countValue, writing.facesValue standard, writing.modifier.value⟩

end Writing

variable {standard : Faces} {input : String} {writing : Writing}

/-! ### The face token -/

theorem readFaces_of_lt (input : String)
    (h : Text.isDigits writing.faces ∧ 4294967295 < Text.decimal writing.faces) :
    readFaces input standard writing.faces = .error (.outOfRange input) := by
  obtain ⟨hdigits, hlarge⟩ := h
  obtain ⟨hne, hall⟩ := Text.isDigits_iff.1 hdigits
  rw [readFaces, mostFaces, if_neg (by simpa using hne), if_pos hall, if_pos hlarge]

theorem readFaces_of_faceless (input : String) (h : writing.Faceless standard) :
    readFaces input standard writing.faces = .error .zeroFaces := by
  rcases h with ⟨hdigits, hzero⟩ | ⟨hempty, rfl⟩
  · obtain ⟨hne, hall⟩ := Text.isDigits_iff.1 hdigits
    rw [readFaces, if_neg (by simpa using hne), if_pos hall, if_neg (by simp [hzero]),
      if_pos hzero]
  · rw [hempty]
    rfl

theorem readFaces_of_not_faceless (input : String) (h : ¬ writing.Faceless standard)
    (hsmall : ¬ (Text.isDigits writing.faces ∧ 4294967295 < Text.decimal writing.faces)) :
    readFaces input standard writing.faces = .ok (writing.facesValue standard) := by
  rw [Writing.Faceless, not_or] at h
  rw [readFaces, mostFaces, Writing.facesValue]
  by_cases hempty : writing.faces = []
  · have hstandard : standard.isRollable := by simpa [Faces.isRollable, hempty] using h.2
    rw [if_pos (by simp [hempty]), if_pos hstandard, if_pos hempty]
  · rw [if_neg (by simpa using hempty), if_neg hempty]
    by_cases hall : writing.faces.all Char.isDigit
    · have hdigits : Text.isDigits writing.faces := Text.isDigits_iff.2 ⟨hempty, hall⟩
      rw [if_pos hall, if_pos hdigits, if_neg (fun hlarge => hsmall ⟨hdigits, hlarge⟩),
        if_neg fun hzero => h.1 ⟨hdigits, hzero⟩]
    · have hdigits : ¬ Text.isDigits writing.faces := fun h => hall (Text.isDigits_iff.1 h).2
      rw [if_neg hall, if_neg hdigits]

/-! ### The parser on a text that is written as a spec -/

theorem Spec.parse_eq_of_text (h : writing.text = input.toList) :
    Spec.parse standard input =
      if 1000000000 < writing.modifier.value.natAbs ∨ 10000 < writing.countValue then
        .error (.outOfRange input)
      else
        (readFaces input standard writing.faces).map fun faces =>
          ⟨writing.countValue, faces, writing.modifier.value⟩ := by
  have hne : input.toList.isEmpty = false := by simp [← h, Writing.text]
  have hparts : Parts.ofText? input.toList = some writing.parts := by
    rw [← h, writing.ofText?_text]
  have hmodifier : modifierValue? writing.parts.modifier = some writing.modifier.value :=
    writing.modifier.modifierValue?_text
  have hcount : (if writing.parts.count.isEmpty then 1 else Text.decimal writing.parts.count) =
      writing.countValue := by
    simp [Writing.countValue, Writing.parts]
  simp only [Spec.parse, hne, hparts, hmodifier, hcount]
  rfl

theorem Spec.parse_of_tooLarge (h : writing.text = input.toList) (hlarge : writing.TooLarge) :
    Spec.parse standard input = .error (.outOfRange input) := by
  rw [parse_eq_of_text h]
  split
  · rfl
  · next hsmall =>
      have hfaces := (or_assoc.2 hlarge).resolve_left fun hlarge => hsmall hlarge.symm
      rw [readFaces_of_lt input hfaces]
      rfl

theorem Spec.parse_of_faceless (h : writing.text = input.toList) (hsmall : ¬ writing.TooLarge)
    (hfaceless : writing.Faceless standard) :
    Spec.parse standard input = .error .zeroFaces := by
  rw [Writing.TooLarge, ← or_assoc, not_or, or_comm] at hsmall
  rw [parse_eq_of_text h, if_neg hsmall.1, readFaces_of_faceless input hfaceless]
  rfl

theorem Spec.parse_of_not_faceless (h : writing.text = input.toList) (hsmall : ¬ writing.TooLarge)
    (hfaces : ¬ writing.Faceless standard) :
    Spec.parse standard input = .ok (writing.spec standard) := by
  rw [Writing.TooLarge, ← or_assoc, not_or, or_comm] at hsmall
  rw [parse_eq_of_text h, if_neg hsmall.1, readFaces_of_not_faceless input hfaces hsmall.2]
  rfl

/-- A text that is not empty and not written as a spec has no match. -/
theorem Spec.parse_of_forall_text_ne (hne : input ≠ "")
    (h : ∀ writing : Writing, writing.text ≠ input.toList) :
    Spec.parse standard input = .error (.noMatch input) := by
  rw [Spec.parse, if_neg (by simpa using hne)]
  split
  · rfl
  · next parts hparts =>
      split
      · rfl
      · next value hvalue =>
          obtain ⟨writing, hwriting⟩ := Writing.exists_text_eq hparts hvalue
          exact absurd hwriting (h writing)

/-- A text that is written as a spec has one of three results. -/
theorem Spec.parse_of_text (standard : Faces) (h : writing.text = input.toList) :
    writing.TooLarge ∧ Spec.parse standard input = .error (.outOfRange input) ∨
    ¬ writing.TooLarge ∧ writing.Faceless standard ∧
      Spec.parse standard input = .error .zeroFaces ∨
    ¬ writing.TooLarge ∧ ¬ writing.Faceless standard ∧
      Spec.parse standard input = .ok (writing.spec standard) := by
  by_cases hlarge : writing.TooLarge
  · exact Or.inl ⟨hlarge, parse_of_tooLarge h hlarge⟩
  · by_cases hfaces : writing.Faceless standard
    · exact Or.inr (Or.inl ⟨hlarge, hfaces, parse_of_faceless h hlarge hfaces⟩)
    · exact Or.inr (Or.inr ⟨hlarge, hfaces, parse_of_not_faceless h hlarge hfaces⟩)

theorem Spec.exists_writing_of_parse {spec : Spec} (h : Spec.parse standard input = .ok spec) :
    ∃ writing : Writing, writing.text = input.toList ∧ ¬ writing.TooLarge ∧
      ¬ writing.Faceless standard ∧ spec = writing.spec standard := by
  by_cases hwritten : ∃ writing : Writing, writing.text = input.toList
  · obtain ⟨writing, hwriting⟩ := hwritten
    rcases parse_of_text standard hwriting with ⟨_, hread⟩ | ⟨_, _, hread⟩ | ⟨hsmall, hfaces, hread⟩
    · rw [hread] at h
      cases h
    · rw [hread] at h
      cases h
    · rw [hread] at h
      exact ⟨writing, hwriting, hsmall, hfaces, (Except.ok.inj h).symm⟩
  · rcases eq_or_ne input "" with rfl | hne
    · cases h
    · rw [parse_of_forall_text_ne hne (not_exists.1 hwritten)] at h
      cases h

/-! ### The results of the parser -/

theorem Spec.parse_eq_empty_iff : Spec.parse standard input = .error .empty ↔ input = "" := by
  refine ⟨fun hparse => ?_, fun hempty => by rw [hempty]; rfl⟩
  by_contra hne
  by_cases hwritten : ∃ writing : Writing, writing.text = input.toList
  · obtain ⟨writing, h⟩ := hwritten
    rcases parse_of_text standard h with ⟨_, hread⟩ | ⟨_, _, hread⟩ | ⟨_, _, hread⟩ <;>
      simp [hread] at hparse
  · rw [parse_of_forall_text_ne hne (not_exists.1 hwritten)] at hparse
    cases hparse

theorem Spec.parse_eq_noMatch_iff :
    Spec.parse standard input = .error (.noMatch input) ↔
      input ≠ "" ∧ ¬ ∃ writing : Writing, writing.text = input.toList := by
  refine ⟨fun hparse => ⟨?_, ?_⟩, fun ⟨hne, hwritten⟩ =>
    parse_of_forall_text_ne hne (not_exists.1 hwritten)⟩
  · rintro rfl
    cases hparse
  · rintro ⟨writing, h⟩
    rcases parse_of_text standard h with ⟨_, hread⟩ | ⟨_, _, hread⟩ | ⟨_, _, hread⟩ <;>
      simp [hread] at hparse

theorem Spec.parse_eq_outOfRange_iff (h : writing.text = input.toList) :
    Spec.parse standard input = .error (.outOfRange input) ↔ writing.TooLarge := by
  rcases parse_of_text standard h with ⟨hlarge, hread⟩ | ⟨hlarge, _, hread⟩ | ⟨hlarge, _, hread⟩ <;>
    simp [hread, hlarge]

theorem Spec.parse_eq_zeroFaces_iff (h : writing.text = input.toList) :
    Spec.parse standard input = .error .zeroFaces ↔
      ¬ writing.TooLarge ∧ writing.Faceless standard := by
  rcases parse_of_text standard h with ⟨hlarge, hread⟩ | ⟨hlarge, hfaces, hread⟩ |
    ⟨hlarge, hfaces, hread⟩
  · simp [hread, hlarge]
  · simp [hread, hlarge, hfaces]
  · simp [hread, hfaces]

theorem Spec.parse_eq_ok_iff (h : writing.text = input.toList) {spec : Spec} :
    Spec.parse standard input = .ok spec ↔
      ¬ writing.TooLarge ∧ ¬ writing.Faceless standard ∧ spec = writing.spec standard := by
  rcases parse_of_text standard h with ⟨hlarge, hread⟩ | ⟨hlarge, hfaces, hread⟩ |
    ⟨hlarge, hfaces, hread⟩
  · simp [hread, hlarge]
  · simp [hread, hfaces]
  · simp [hread, hlarge, hfaces, eq_comm]

/-- The parser accepts the grammar of dice specs. What it makes of a text, and with which error it
refuses one, is read off the one way in which the text is written. -/
theorem Spec.parse_accepts_grammar (standard : Faces) (input : String) :
    (Spec.parse standard input = .error .empty ↔ input = "") ∧
    (Spec.parse standard input = .error (.noMatch input) ↔
      input ≠ "" ∧ ¬ ∃ writing : Writing, writing.text = input.toList) ∧
    ∀ writing : Writing, writing.text = input.toList →
      (∀ other : Writing, other.text = input.toList → other = writing) ∧
      (Spec.parse standard input = .error (.outOfRange input) ↔
        10000 < writing.countValue ∨ 1000000000 < writing.modifier.value.natAbs ∨
          Text.isDigits writing.faces ∧ 4294967295 < Text.decimal writing.faces) ∧
      (Spec.parse standard input = .error .zeroFaces ↔
        ¬ writing.TooLarge ∧
          (Text.isDigits writing.faces ∧ Text.decimal writing.faces = 0 ∨
            writing.faces = [] ∧ standard = .numbered 0)) ∧
      ∀ spec, Spec.parse standard input = .ok spec ↔
        ¬ writing.TooLarge ∧ ¬ writing.Faceless standard ∧
          spec = ⟨writing.countValue, writing.facesValue standard, writing.modifier.value⟩ :=
  ⟨parse_eq_empty_iff, parse_eq_noMatch_iff, fun _ h =>
    ⟨fun _ hother => Writing.text_injective (hother.trans h.symm), parse_eq_outOfRange_iff h,
      parse_eq_zeroFaces_iff h, fun _ => parse_eq_ok_iff h⟩⟩

/-- The way in which `12D006-` is written. -/
def Writing.twelve : Writing where
  count := ['1', '2']
  letter := 'D'
  faces := ['0', '0', '6']
  modifier := .signed true [] (List.all_eq_true.1 rfl)
  isDigit_count := List.all_eq_true.1 rfl
  letter_eq := Or.inr rfl
  isAlphanum_faces := List.all_eq_true.1 rfl

theorem Spec.parse_accepts_grammar_twelve :
    Writing.twelve.text = "12D006-".toList ∧
      Spec.parse .standard "12D006-" = .ok ⟨12, .numbered 6, 0⟩ := by
  have htext : Writing.twelve.text = "12D006-".toList := by decide
  have hread := ((parse_accepts_grammar .standard "12D006-").2.2 .twelve htext).2.2.2
  exact ⟨htext, (hread ⟨12, .numbered 6, 0⟩).2 (by decide)⟩

end RandomTables.Dice
