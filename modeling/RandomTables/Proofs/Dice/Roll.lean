import RandomTables.Dice.Roll
import RandomTables.Proofs.Draw.Attains

/-!
The faces that the dice of a spec can show.
-/

namespace RandomTables

/-- A word of 32 bits can choose each face of a plain die. -/
def Faces.WordSized : Faces → Prop
  | .numbered count => count ≤ Dice.mostFaces
  | .named _ => True

namespace Dice

variable {registry : Registry}

/-- A numbered die shows its numbers, a registered one its faces, and any other the unknown face. -/
def Registry.Shows (registry : Registry) : Faces → Face → Prop
  | .numbered count, face => ∃ number : Nat, 1 ≤ number ∧ number ≤ count ∧ face = .numbered number
  | .named name, face =>
      (∃ die, registry.get? name = some die ∧ face ∈ die.faces) ∨
        registry.get? name = none ∧ face = .unknown

def Registry.ShowsAll (registry : Registry) (spec : Spec) (faces : List Face) : Prop :=
  faces.length = spec.count ∧ ∀ face ∈ faces, registry.Shows spec.faces face

theorem ensures_rollFace {σ : Type} [RandomSource σ] (faces : Faces) :
    Draw.Ensures (rollFace registry faces : Draw σ Face) (registry.Shows faces) := by
  cases faces with
  | numbered count =>
      change Draw.Ensures (rollNumbered count) _
      unfold rollNumbered
      split
      · next positive =>
          refine Draw.ensures_true.bind ?_
          intro position _
          refine Draw.ensures_pure ?_
          exact ⟨position.val + 1, by omega, position.isLt, rfl⟩
      · exact Draw.ensures_throw
  | named name =>
      change Draw.Ensures (registry.roll name) _
      unfold Registry.roll
      split
      · next die hdie =>
          refine Draw.ensures_true.bind ?_
          intro position _
          refine Draw.ensures_pure ?_
          exact Or.inl ⟨die, hdie, List.getElem_mem position.isLt⟩
      · next hnone => exact Draw.ensures_pure (Or.inr ⟨hnone, rfl⟩)

theorem ensures_roll {σ : Type} [RandomSource σ] (spec : Spec) :
    Draw.Ensures (spec.roll registry : Draw σ Roll) fun roll =>
      roll.spec = spec ∧ registry.ShowsAll spec roll.faces :=
  ((ensures_rollFace spec.faces).times spec.count).bind fun _ hfaces =>
    Draw.ensures_pure ⟨rfl, hfaces⟩

/-- A word of 64 bits can choose each face of a custom die. -/
def Registry.WordSized (registry : Registry) : Prop :=
  ∀ name die, registry.get? name = some die → die.faces.length ≤ wordCount

theorem Registry.wordSized_builtin : Registry.builtin.WordSized := by
  intro name die h
  rw [Registry.builtin, Registry.insert, Registry.get?, Std.ExtTreeMap.getElem?_insert] at h
  split at h
  · cases h
    decide
  · simp [Registry.empty] at h

theorem wordSized_of_readFaces {standard faces : Faces} {input : String} {token : List Char}
    (h : readFaces input standard token = .ok faces) (hstandard : standard.WordSized) :
    faces.WordSized := by
  unfold readFaces at h
  split at h
  · split at h
    · cases h
      exact hstandard
    · cases h
  · split at h
    · split at h
      · cases h
      · next hfits =>
          split at h
          · cases h
          · cases h
            exact Nat.not_lt.1 hfits
    · cases h
      trivial

/-- The faces of a spec are those of some face token. -/
theorem exists_readFaces_of_parse {standard : Faces} {input : String} {spec : Spec}
    (h : Spec.parse standard input = .ok spec) :
    ∃ token, readFaces input standard token = .ok spec.faces := by
  unfold Spec.parse at h
  split at h
  · cases h
  · split at h
    · cases h
    · next parts _ =>
        split at h
        · cases h
        · extract_lets count at h
          clear_value count
          split at h
          · cases h
          · refine ⟨parts.faces, ?_⟩
            cases hfaces : readFaces input standard parts.faces with
            | error error =>
                rw [hfaces] at h
                cases h
            | ok faces =>
                rw [hfaces] at h
                cases h
                rfl

theorem wordSized_of_parse {standard : Faces} {input : String} {spec : Spec}
    (h : Spec.parse standard input = .ok spec) (hstandard : standard.WordSized) :
    spec.faces.WordSized := by
  obtain ⟨token, hfaces⟩ := exists_readFaces_of_parse h
  exact wordSized_of_readFaces hfaces hstandard

/-- A plain die without faces is refused, even where it is the standard one. -/
theorem isRollable_of_parse {standard : Faces} {input : String} {spec : Spec}
    (h : Spec.parse standard input = .ok spec) : spec.faces.isRollable := by
  obtain ⟨token, hfaces⟩ := exists_readFaces_of_parse h
  unfold readFaces at hfaces
  split at hfaces
  · split at hfaces
    · next hstandard =>
        cases hfaces
        exact hstandard
    · cases hfaces
  · split at hfaces
    · split at hfaces
      · cases hfaces
      · split at hfaces
        · cases hfaces
        · next hpos =>
            rw [← Except.ok.inj hfaces]
            simpa [Faces.isRollable] using hpos
    · rw [← Except.ok.inj hfaces]
      rfl

theorem attains_rollFace {faces : Faces} (hfaces : faces.WordSized) (hregistry : registry.WordSized)
    {face : Face} (h : registry.Shows faces face) :
    Draw.Attains (rollFace registry faces) face := by
  cases faces with
  | numbered count =>
      obtain ⟨number, hfirst, hlast, rfl⟩ := h
      have hless : number - 1 < count := by omega
      rw [rollFace, rollNumbered, dif_pos (Nat.zero_lt_of_lt hless)]
      have hwords : count ≤ 2 ^ 32 := Nat.le_trans hfaces (by decide)
      refine (attains_drawBelow32 hwords ⟨number - 1, hless⟩).bind ?_
      have hnumber : ((number - 1 : Nat) : Int) + 1 = number := by omega
      rw [hnumber]
      exact Draw.attains_pure _
  | named name =>
      rw [rollFace, Registry.roll]
      rcases h with ⟨die, hdie, hface⟩ | ⟨hnone, rfl⟩
      · obtain ⟨position, hposition, rfl⟩ := List.mem_iff_getElem.1 hface
        rw [hdie]
        refine (attains_drawBelow64 (hregistry name die hdie) ⟨position, hposition⟩).bind ?_
        exact Draw.attains_pure _
      · rw [hnone]
        exact Draw.attains_pure _

theorem attains_roll {spec : Spec} (hfaces : spec.faces.WordSized) (hregistry : registry.WordSized)
    {faces : List Face} (h : registry.ShowsAll spec faces) :
    Draw.Attains (spec.roll registry) ⟨spec, faces⟩ := by
  rw [Spec.roll, ← h.1]
  have hrolls : ∀ face ∈ faces, Draw.Attains (rollFace registry spec.faces) face :=
    fun face hface => attains_rollFace hfaces hregistry (h.2 face hface)
  refine (Draw.Attains.times hrolls).bind ?_
  exact Draw.attains_pure _

end Dice

end RandomTables
