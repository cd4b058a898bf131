import Mathlib.Data.List.TakeWhile
import RandomTables.Text.Cut

/-!
Cutting a text at the first separator, or at each one.
-/

namespace RandomTables.Text

variable {isCut : Char → Bool} {text before after : List Char} {c : Char}

/-- What is kept in front, up to a character that is not kept. -/
theorem takeWhile_dropWhile_append {kept : Char → Bool} (hbefore : ∀ d ∈ before, kept d)
    (hafter : ∀ d ∈ after.head?, kept d = false) :
    (before ++ after).takeWhile kept = before ∧ (before ++ after).dropWhile kept = after := by
  rw [List.takeWhile_append_of_pos hbefore, List.dropWhile_append_of_pos hbefore]
  cases after with
  | nil => simp
  | cons d after =>
      have hd : kept d = false := hafter d rfl
      simp [hd]

/-- What is kept up to the first character that is not kept. -/
theorem takeWhile_append_cons_of_not {kept : Char → Bool} (hc : kept c = false) :
    (before ++ c :: after).takeWhile kept = before.takeWhile kept := by
  rw [List.takeWhile_append]
  split
  · next hlength =>
      rw [List.takeWhile_cons_of_neg (by simp [hc]), List.append_nil]
      exact ((List.takeWhile_prefix _).eq_of_length hlength).symm
  · rfl

theorem takeWhile_eq_self_of_not_mem (h : c ∉ text) : text.takeWhile (!· == c) = text := by
  rw [List.takeWhile_eq_self_iff]
  intro d hd
  have hne : d ≠ c := fun heq => h (heq ▸ hd)
  simpa using hne

theorem cutFirst?_append_cons (h : ∀ d ∈ before, isCut d = false) (hc : isCut c)
    (after : List Char) : cutFirst? isCut (before ++ c :: after) = some (before, after) := by
  have hkept : ∀ d ∈ before, (!isCut d) = true := fun d hd => by simp [h d hd]
  have hcut : ∀ d ∈ (c :: after).head?, (!isCut d) = false := by
    rintro d ⟨⟩
    simp [hc]
  obtain ⟨htake, hdrop⟩ := takeWhile_dropWhile_append hkept hcut
  rw [cutFirst?, htake, hdrop]

theorem cutFirst?_eq_some_iff :
    cutFirst? isCut text = some (before, after) ↔
      (∀ d ∈ before, isCut d = false) ∧ ∃ c, isCut c ∧ text = before ++ c :: after := by
  constructor
  · intro h
    unfold cutFirst? at h
    split at h
    · cases h
    · next c rest hdrop =>
        cases h
        refine ⟨fun d hd => by simpa using List.mem_takeWhile_imp hd, c, ?_, ?_⟩
        · have hcut := List.head?_dropWhile_not (fun d => !isCut d) text
          simpa [hdrop] using hcut
        · rw [← hdrop, List.takeWhile_append_dropWhile]
  · rintro ⟨hbefore, c, hc, rfl⟩
    exact cutFirst?_append_cons hbefore hc after

theorem cutFirst?_eq_none_iff : cutFirst? isCut text = none ↔ ∀ d ∈ text, isCut d = false := by
  unfold cutFirst?
  split
  · next hdrop => simpa using List.dropWhile_eq_nil_iff.1 hdrop
  · next c rest hdrop =>
      have hcut := List.head?_dropWhile_not (fun d => !isCut d) text
      have hmem : c ∈ text := (List.dropWhile_suffix _).subset (hdrop ▸ List.mem_cons_self)
      simp only [reduceCtorEq, false_iff, not_forall]
      exact ⟨c, hmem, by simpa [hdrop] using hcut⟩

theorem eq_takeWhile_of_cutFirst? (h : cutFirst? isCut text = some (before, after)) :
    before = text.takeWhile fun d => !isCut d := by
  unfold cutFirst? at h
  split at h <;> cases h
  rfl

/-- What follows a separator does not change what is cut off. -/
theorem cutFirst?_append_of_isCut (hc : isCut c) (before after : List Char) :
    (cutFirst? isCut (before ++ c :: after)).map Prod.fst =
      some (before.takeWhile fun d => !isCut d) := by
  cases hcut : cutFirst? isCut (before ++ c :: after) with
  | some cut =>
      obtain ⟨front, rest⟩ := cut
      rw [Option.map_some, eq_takeWhile_of_cutFirst? hcut,
        takeWhile_append_cons_of_not (by rw [hc, Bool.not_true])]
  | none =>
      have hkept := cutFirst?_eq_none_iff.1 hcut c (by simp)
      rw [hc] at hkept
      cases hkept

theorem mem_of_cutFirst? (h : cutFirst? isCut text = some (before, after)) (hc : c ∈ after) :
    c ∈ text := by
  obtain ⟨-, d, -, rfl⟩ := cutFirst?_eq_some_iff.1 h
  exact List.mem_append_right _ (List.mem_cons_of_mem _ hc)

/-- What is between two separators has none in it. -/
theorem not_mem_of_mem_splitOn {α : Type} [BEq α] [LawfulBEq α] {separator : α} {text part : List α}
    (h : part ∈ text.splitOn separator) : separator ∉ part := by
  induction text generalizing part with
  | nil =>
      obtain rfl : part = [] := by simpa using h
      exact List.not_mem_nil
  | cons c text ih =>
      rw [List.splitOn_cons_eq_if_modifyHead] at h
      split at h
      · rcases List.mem_cons.1 h with rfl | hpart
        · exact List.not_mem_nil
        · exact ih hpart
      · next hc =>
          rcases hsplit : text.splitOn separator with _ | ⟨first, rest⟩
          · rw [hsplit] at h
            cases h
          · rw [hsplit, List.modifyHead_cons] at h
            rcases List.mem_cons.1 h with rfl | hpart
            · have hfirst := ih (hsplit ▸ List.mem_cons_self)
              simp only [List.mem_cons, not_or]
              exact ⟨fun heq => hc (by simp [heq]), hfirst⟩
            · exact ih (hsplit ▸ List.mem_cons_of_mem _ hpart)

end RandomTables.Text
