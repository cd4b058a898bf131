import Mathlib.Algebra.Order.BigOperators.Group.List
import Mathlib.Algebra.Order.Ring.Int
import RandomTables.Proofs.Dice.Roll
import RandomTables.Proofs.Dice.Spec
import RandomTables.Proofs.Dice.Total

/-!
The smallest and the largest total of plain dice. A spec that is read has so few dice and so small a
modifier that nothing saturates, neither in its bounds nor on the way to a total: the bounds are
those of unbounded numbers, every total is a true sum between them, and both of them can be rolled.
-/

namespace RandomTables.Dice

variable {spec : Spec} {standard : Faces} {input : String} {faces : Nat} {values : List Int}

/-- Plain dice that words of 32 bits can roll, with no more dice and no larger a modifier than can
be read. -/
structure Spec.Plain (spec : Spec) (faces : Nat) : Prop where
  faces_eq : spec.faces = .numbered faces
  faces_le : faces ≤ mostFaces
  count_le : spec.count ≤ mostDice
  modifier_le : spec.modifier.natAbs ≤ mostModifier

theorem Spec.plain_of_parse (hread : Spec.parse standard input = .ok spec)
    (hstandard : standard.WordSized) (hfaces : spec.faces = .numbered faces) :
    spec.Plain faces := by
  have hwords : spec.faces.WordSized := wordSized_of_parse hread hstandard
  rw [hfaces] at hwords
  obtain ⟨writing, _, hsmall, _, rfl⟩ := exists_writing_of_parse hread
  rw [Writing.TooLarge, not_or, not_or, Nat.not_lt, Nat.not_lt] at hsmall
  exact ⟨hfaces, hwords, hsmall.1, hsmall.2.1⟩

/-! ### Sums far from the limits -/

/-- The largest sum of any dice that can be read, with the largest modifier, is a small total. -/
theorem mem_totals {modifier sum : Int} (hmodifier : modifier.natAbs ≤ mostModifier)
    (hpositive : 0 ≤ sum) (hsum : sum ≤ mostDice * mostFaces) :
    leastTotal ≤ modifier + sum ∧ modifier + sum ≤ greatestTotal := by
  unfold mostModifier at hmodifier
  unfold mostDice mostFaces at hsum
  unfold leastTotal greatestTotal
  omega

theorem clamp_add {modifier sum : Int} (hmodifier : modifier.natAbs ≤ mostModifier)
    (hpositive : 0 ≤ sum) (hsum : sum ≤ mostDice * mostFaces) :
    clamp (sum + modifier) = sum + modifier := by
  rw [Int.add_comm]
  have hwithin := mem_totals hmodifier hpositive hsum
  exact clamp_eq_self hwithin.1 hwithin.2

/-- Each of the numbers is at least one and at most `faces`, and so is their mean. -/
theorem length_le_sum_le (h : ∀ value ∈ values, 1 ≤ value ∧ value ≤ (faces : Int)) :
    (values.length : Int) ≤ values.sum ∧ values.sum ≤ values.length * faces := by
  have hleast := List.card_nsmul_le_sum values 1 fun value hvalue => (h value hvalue).1
  have hgreatest := List.sum_le_card_nsmul values (faces : Int) fun value hvalue =>
    (h value hvalue).2
  rw [nsmul_eq_mul, mul_one] at hleast
  rw [nsmul_eq_mul] at hgreatest
  exact ⟨hleast, hgreatest⟩

namespace Spec.Plain

theorem product_le (h : spec.Plain faces) {count : Nat} (hcount : count ≤ spec.count) :
    (count * faces : Int) ≤ mostDice * mostFaces := by
  have hproduct : count * faces ≤ mostDice * mostFaces :=
    Nat.mul_le_mul (Nat.le_trans hcount h.count_le) h.faces_le
  exact_mod_cast hproduct

/-- The bounds are the sums of as many ones, and of as many largest numbers, as there are dice. -/
theorem bounds?_eq (h : spec.Plain faces) :
    spec.bounds? = some (spec.count + spec.modifier, spec.count * faces + spec.modifier) := by
  have hproduct := h.product_le le_rfl
  have hcount : (spec.count : Int) ≤ mostDice * mostFaces := by
    have hle := h.count_le
    unfold mostDice mostFaces at *
    omega
  have hpositive : (0 : Int) ≤ spec.count * faces :=
    Int.mul_nonneg (Int.natCast_nonneg _) (Int.natCast_nonneg _)
  have hclamp : clamp (spec.count * faces) = spec.count * faces := by
    have hzero : (0 : Int).natAbs ≤ mostModifier := Nat.zero_le _
    have hwhole := clamp_add hzero hpositive hproduct
    rwa [Int.add_zero] at hwhole
  rw [Spec.bounds?, h.faces_eq]
  dsimp only
  rw [hclamp, clamp_add h.modifier_le hpositive hproduct,
    clamp_add h.modifier_le (Int.natCast_nonneg _) hcount]

/-- No sum of the modifier and the numbers of the first dice leaves the totals. -/
theorem sum_take_mem (h : spec.Plain faces) (hlength : values.length = spec.count)
    (hvalues : ∀ value ∈ values, 1 ≤ value ∧ value ≤ (faces : Int)) (position : Nat) :
    leastTotal ≤ spec.modifier + (values.take position).sum ∧
      spec.modifier + (values.take position).sum ≤ greatestTotal := by
  have hcount : (values.take position).length ≤ spec.count := by
    rw [← hlength]
    exact (List.take_sublist position values).length_le
  have htaken : ∀ value ∈ values.take position, 1 ≤ value ∧ value ≤ (faces : Int) :=
    fun value hvalue => hvalues value (List.mem_of_mem_take hvalue)
  obtain ⟨hleast, hgreatest⟩ := length_le_sum_le htaken
  apply mem_totals h.modifier_le
  · exact le_trans (Int.natCast_nonneg _) hleast
  · exact le_trans hgreatest (h.product_le hcount)

end Spec.Plain

/-! ### Rolls -/

/-- A face of a plain die: a number from one on, labelled with its own digits. -/
def IsNumber (faces : Nat) (face : Face) : Prop :=
  ∃ number : Nat, 1 ≤ number ∧ number ≤ faces ∧ face.value = number ∧ face.label = toString number

variable {registry : Registry}

theorem isNumber_of_shows {face : Face} (h : registry.Shows (.numbered faces) face) :
    IsNumber faces face := by
  obtain ⟨number, hfirst, hlast, rfl⟩ := h
  exact ⟨number, hfirst, hlast, rfl, rfl⟩

theorem IsNumber.value_mem {face : Face} (h : IsNumber faces face) :
    1 ≤ face.value ∧ face.value ≤ (faces : Int) := by
  obtain ⟨number, hfirst, hlast, hvalue, _⟩ := h
  omega

/-- The total of numbers is their true sum, and it lies between the bounds. -/
theorem Spec.Plain.total_mem (h : spec.Plain faces) (roll : Roll) (hspec : roll.spec = spec)
    (hlength : roll.faces.length = spec.count) (hfaces : ∀ face ∈ roll.faces, IsNumber faces face) :
    (∀ position, leastTotal ≤ spec.modifier + (roll.faceValues.take position).sum ∧
      spec.modifier + (roll.faceValues.take position).sum ≤ greatestTotal) ∧
    roll.total = spec.modifier + roll.faceValues.sum ∧
    spec.count + spec.modifier ≤ roll.total ∧
      roll.total ≤ spec.count * faces + spec.modifier := by
  subst hspec
  have hcount : roll.faceValues.length = roll.spec.count := by
    rw [Roll.faceValues, List.length_map, hlength]
  have hvalues : ∀ value ∈ roll.faceValues, 1 ≤ value ∧ value ≤ (faces : Int) := by
    intro value hvalue
    obtain ⟨face, hface, rfl⟩ := List.mem_map.1 hvalue
    exact (hfaces face hface).value_mem
  have hsums := h.sum_take_mem hcount hvalues
  have htotal : roll.total = roll.spec.modifier + roll.faceValues.sum :=
    sumClamped_eq_add_sum fun position _ => hsums position
  obtain ⟨hleast, hgreatest⟩ := length_le_sum_le hvalues
  rw [hcount] at hleast hgreatest
  exact ⟨hsums, htotal, by omega, by omega⟩

/-- Dice that all show the same number come to a total. -/
theorem Spec.Plain.exists_attains (h : spec.Plain faces) (registry : Registry) {number : Nat}
    (hfirst : 1 ≤ number) (hlast : number ≤ faces) :
    ∃ roll : Roll, Draw.Attains (spec.roll registry) roll ∧
      roll.total = spec.count * number + spec.modifier := by
  let shown : List Face := List.replicate spec.count (.numbered number)
  have hroll : (spec.roll registry : Draw Scripted Roll) = spec.roll Registry.builtin := by
    rw [Spec.roll, Spec.roll, h.faces_eq]
    rfl
  have hshown : ∀ face ∈ shown, face = .numbered number := fun face hface =>
    List.eq_of_mem_replicate hface
  have hattains : Draw.Attains (spec.roll registry) ⟨spec, shown⟩ := by
    rw [hroll]
    apply attains_roll
    · rw [h.faces_eq]
      exact h.faces_le
    · exact Registry.wordSized_builtin
    · refine ⟨List.length_replicate, fun face hface => ?_⟩
      rw [hshown face hface, h.faces_eq]
      exact ⟨number, hfirst, hlast, rfl⟩
  have hnumbers : ∀ face ∈ shown, IsNumber faces face := by
    intro face hface
    rw [hshown face hface]
    exact ⟨number, hfirst, hlast, rfl, rfl⟩
  have htotal := h.total_mem ⟨spec, shown⟩ rfl List.length_replicate hnumbers
  refine ⟨_, hattains, ?_⟩
  have hsum : Roll.faceValues ⟨spec, shown⟩ = List.replicate spec.count (number : Int) :=
    List.map_replicate
  rw [htotal.2.1, hsum, List.sum_replicate, nsmul_eq_mul, Int.add_comm]

/-- What is read as a spec of plain dice has the bounds of unbounded numbers. A roll shows as many
numbers as there are dice, and it adds them up without saturating to a total between the bounds; and
both bounds can be rolled. -/
theorem Spec.roll_within_bounds (hstandard : standard.WordSized)
    (hread : Spec.parse standard input = .ok spec) (hfaces : spec.faces = .numbered faces)
    (registry : Registry) :
    spec.bounds? = some (spec.count + spec.modifier, spec.count * faces + spec.modifier) ∧
    (∀ (σ : Type) [RandomSource σ] (source rest : σ) (roll : Roll),
      spec.roll registry source = .ok (roll, rest) →
      roll.faces.length = spec.count ∧
      (∀ face ∈ roll.faces, ∃ number : Nat, 1 ≤ number ∧ number ≤ faces ∧
        face.value = number ∧ face.label = toString number) ∧
      (∀ position, leastTotal ≤ spec.modifier + (roll.faceValues.take position).sum ∧
        spec.modifier + (roll.faceValues.take position).sum ≤ greatestTotal) ∧
      roll.total = spec.modifier + roll.faceValues.sum ∧
      spec.count + spec.modifier ≤ roll.total ∧
        roll.total ≤ spec.count * faces + spec.modifier) ∧
    (∃ roll : Roll, Draw.Attains (spec.roll registry) roll ∧
      roll.total = spec.count + spec.modifier) ∧
    ∃ roll : Roll, Draw.Attains (spec.roll registry) roll ∧
      roll.total = spec.count * faces + spec.modifier := by
  have hplain := plain_of_parse hread hstandard hfaces
  have hrollable : 1 ≤ faces := by
    have hpositive := isRollable_of_parse hread
    rw [hfaces] at hpositive
    have hne : faces ≠ 0 := by simpa [Faces.isRollable] using hpositive
    exact Nat.one_le_iff_ne_zero.2 hne
  refine ⟨hplain.bounds?_eq, ?_, ?_, ?_⟩
  · intro σ _ source rest roll hroll
    obtain ⟨hspec, hlength, hshown⟩ := ensures_roll spec source roll rest hroll
    have hnumbers : ∀ face ∈ roll.faces, IsNumber faces face := fun face hface =>
      isNumber_of_shows (hfaces ▸ hshown face hface)
    exact ⟨hlength, hnumbers, hplain.total_mem roll hspec hlength hnumbers⟩
  · obtain ⟨roll, hattains, htotal⟩ := hplain.exists_attains registry le_rfl hrollable
    exact ⟨roll, hattains, by rw [htotal, Nat.cast_one, mul_one]⟩
  · exact hplain.exists_attains registry hrollable le_rfl

/-- The second word is refused, for it would make the first face too likely. -/
theorem Spec.roll_within_bounds_wide :
    Spec.parse (.numbered 4294967295) "2d-5" = .ok ⟨2, .numbered 4294967295, -5⟩ ∧
    (⟨2, .numbered 4294967295, -5⟩ : Spec).bounds? = some (-3, 8589934585) ∧
    (⟨2, .numbered 4294967295, -5⟩ : Spec).roll Registry.empty
        (Scripted.ofWords [0, 1, 4294967295]) =
      .ok (⟨⟨2, .numbered 4294967295, -5⟩, [⟨1, "1"⟩, ⟨4294967295, "4294967295"⟩]⟩, ⟨[], 3⟩) ∧
    Roll.total ⟨⟨2, .numbered 4294967295, -5⟩, [⟨1, "1"⟩, ⟨4294967295, "4294967295"⟩]⟩ =
      4294967291 := by
  have hread : Spec.parse (.numbered 4294967295) "2d-5" =
      .ok ⟨2, .numbered 4294967295, -5⟩ := by decide +kernel
  have hroll : (⟨2, .numbered 4294967295, -5⟩ : Spec).roll Registry.empty
        (Scripted.ofWords [0, 1, 4294967295]) =
      .ok (⟨⟨2, .numbered 4294967295, -5⟩, [⟨1, "1"⟩, ⟨4294967295, "4294967295"⟩]⟩, ⟨[], 3⟩) := by
    decide +kernel
  have hstandard : (Faces.numbered 4294967295).WordSized := Nat.le_refl _
  have hwithin := roll_within_bounds hstandard hread rfl Registry.empty
  exact ⟨hread, hwithin.1, hroll, (hwithin.2.1 Scripted _ _ _ hroll).2.2.2.1⟩

end RandomTables.Dice
