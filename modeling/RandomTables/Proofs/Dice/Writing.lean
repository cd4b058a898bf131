import RandomTables.Dice.Spec
import RandomTables.Proofs.Text.Cut

/-!
How a dice spec is written: `[0-9]* (d|D) [0-9A-Za-z]* ([+-] [0-9]*)?`. A text is written in one way
at the most, and the split of the parser finds the parts of the writing where there is one.
-/

namespace RandomTables.Dice

/-- A modifier as it is written. -/
inductive Modifier where
  | absent
  | signed (negative : Bool) (digits : List Char) (isDigit : ∀ c ∈ digits, c.isDigit)

namespace Modifier

def text : Modifier → List Char
  | absent => []
  | signed false digits _ => '+' :: digits
  | signed true digits _ => '-' :: digits

/-- A sign alone is worth 0. -/
def value : Modifier → Int
  | absent => 0
  | signed false digits _ => Text.decimal digits
  | signed true digits _ => -(Text.decimal digits : Int)

/-- A modifier does not begin like a face. -/
theorem isAlphanum_head_text (modifier : Modifier) :
    ∀ c ∈ modifier.text.head?, c.isAlphanum = false := by
  intro c hc
  rcases modifier with _ | ⟨_ | _, digits, isDigit⟩
  · cases hc
  · cases hc
    rfl
  · cases hc
    rfl

theorem text_injective {left right : Modifier} (h : left.text = right.text) : left = right := by
  rcases left with _ | ⟨_ | _, _, _⟩ <;> rcases right with _ | ⟨_ | _, _, _⟩ <;>
    simp_all [text]

theorem modifierValue?_text (modifier : Modifier) :
    modifierValue? modifier.text = some modifier.value := by
  rcases modifier with _ | ⟨_ | _, digits, isDigit⟩
  · rfl
  · exact if_pos (List.all_eq_true.2 isDigit)
  · exact if_pos (List.all_eq_true.2 isDigit)

theorem exists_text_eq_of_modifierValue? {text : List Char} {value : Int}
    (h : modifierValue? text = some value) : ∃ modifier : Modifier, modifier.text = text := by
  unfold modifierValue? at h
  split at h
  · exact ⟨absent, rfl⟩
  · next digits =>
      split at h
      · next hdigits => exact ⟨signed false digits (List.all_eq_true.1 hdigits), rfl⟩
      · cases h
  · next digits =>
      split at h
      · next hdigits => exact ⟨signed true digits (List.all_eq_true.1 hdigits), rfl⟩
      · cases h
  · cases h

end Modifier

/-- A dice spec as it is written. -/
structure Writing where
  count : List Char
  letter : Char
  faces : List Char
  modifier : Modifier
  isDigit_count : ∀ c ∈ count, c.isDigit
  letter_eq : letter = 'd' ∨ letter = 'D'
  isAlphanum_faces : ∀ c ∈ faces, c.isAlphanum

namespace Writing

def text (writing : Writing) : List Char :=
  writing.count ++ writing.letter :: (writing.faces ++ writing.modifier.text)

/-- A spec without a count is a spec for one die. -/
def countValue (writing : Writing) : Nat :=
  if writing.count = [] then 1 else Text.decimal writing.count

def parts (writing : Writing) : Parts :=
  ⟨writing.count, writing.faces, writing.modifier.text⟩

theorem ofText?_text (writing : Writing) : Parts.ofText? writing.text = some writing.parts := by
  have hletter : ∀ c ∈ (writing.letter :: (writing.faces ++ writing.modifier.text)).head?,
      c.isDigit = false := by
    rintro c ⟨⟩
    rcases writing.letter_eq with h | h <;> rw [h] <;> decide
  obtain ⟨hcount, hrest⟩ := Text.takeWhile_dropWhile_append writing.isDigit_count hletter
  obtain ⟨hfaces, hmodifier⟩ := Text.takeWhile_dropWhile_append writing.isAlphanum_faces
    writing.modifier.isAlphanum_head_text
  rw [Parts.ofText?, text, hrest, hcount]
  simp only [if_pos writing.letter_eq, hfaces, hmodifier, parts]

/-- A text is written in one way at the most. -/
theorem text_injective {left right : Writing} (h : left.text = right.text) : left = right := by
  have hparts : left.parts = right.parts := by
    rw [← Option.some_inj, ← ofText?_text, ← ofText?_text, h]
  obtain ⟨count, letter, faces, modifier, _, _, _⟩ := left
  obtain ⟨count', letter', faces', modifier', _, _, _⟩ := right
  simp only [parts, Parts.mk.injEq] at hparts
  obtain ⟨rfl, rfl, hmodifier⟩ := hparts
  obtain rfl := Modifier.text_injective hmodifier
  obtain rfl : letter = letter' := by simpa [text] using h
  rfl

/-- Where the split succeeds and the modifier has a value, the text is written as a spec. -/
theorem exists_text_eq {text : List Char} {parts : Parts} {value : Int}
    (hparts : Parts.ofText? text = some parts)
    (hvalue : modifierValue? parts.modifier = some value) :
    ∃ writing : Writing, writing.text = text := by
  unfold Parts.ofText? at hparts
  split at hparts
  · cases hparts
  · next letter rest hdrop =>
      split at hparts
      · next hletter =>
          cases hparts
          obtain ⟨modifier, hmodifier⟩ := Modifier.exists_text_eq_of_modifierValue? hvalue
          refine ⟨⟨text.takeWhile Char.isDigit, letter, rest.takeWhile Char.isAlphanum, modifier,
            fun c hc => List.mem_takeWhile_imp hc, hletter,
            fun c hc => List.mem_takeWhile_imp hc⟩, ?_⟩
          rw [Writing.text, hmodifier, List.takeWhile_append_dropWhile, ← hdrop,
            List.takeWhile_append_dropWhile]
      · cases hparts

end Writing

end RandomTables.Dice
