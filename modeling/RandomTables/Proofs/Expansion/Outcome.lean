import RandomTables.Expansion

/-!
How an expansion ends: with a value or with an error, and where it leaves its source. Each operation
has its rules, so that what a run went through is read off its end.
-/

namespace RandomTables.Expansion

variable {σ α β : Type}

/-- The expansion ends without an error and leaves the source at `rest`. -/
def Returns (expansion : Expansion σ α) (source : σ) (value : α) (rest : σ) : Prop :=
  expansion.run source = .ok (.ok value, rest)

/-- The expansion ends with an error while the source is at `rest`. -/
def Fails (expansion : Expansion σ α) (source : σ) (error : ExpansionError) (rest : σ) : Prop :=
  expansion.run source = .ok (.error error, rest)

variable {source rest : σ} {value : α} {result : β} {error : ExpansionError}

theorem returns_pure_iff {other : α} :
    Returns (pure value) source other rest ↔ value = other ∧ source = rest := by
  change Except.ok (Except.ok value, source) = _ ↔ _
  simp

theorem not_fails_pure : ¬ Fails (pure value) source error rest := by
  rintro ⟨⟩

theorem not_returns_throw {thrown : ExpansionError} :
    ¬ Returns (throw thrown : Expansion σ α) source value rest := by
  rintro ⟨⟩

theorem fails_throw_iff {thrown : ExpansionError} :
    Fails (throw thrown : Expansion σ α) source error rest ↔ thrown = error ∧ source = rest := by
  change Except.ok (Except.error thrown, source) = _ ↔ _
  simp

theorem run_lift (draw : Draw σ α) (source : σ) :
    (ExceptT.lift draw : Expansion σ α).run source =
      (draw source).map fun (value, rest) => (.ok value, rest) := by
  change Except.bind (draw source) _ = _
  cases draw source <;> rfl

theorem returns_lift_iff {draw : Draw σ α} :
    Returns (ExceptT.lift draw) source value rest ↔ draw source = .ok (value, rest) := by
  rw [Returns, run_lift]
  rcases draw source with fault | ⟨other, between⟩ <;> simp [Except.map]

theorem not_fails_lift {draw : Draw σ α} : ¬ Fails (ExceptT.lift draw) source error rest := by
  rw [Fails, run_lift]
  rcases draw source with fault | ⟨other, between⟩ <;> simp [Except.map]

theorem run_bind (expansion : Expansion σ α) (next : α → Expansion σ β) (source : σ) :
    (expansion >>= next).run source =
      match expansion.run source with
      | .error fault => .error fault
      | .ok (.error error, rest) => .ok (.error error, rest)
      | .ok (.ok value, rest) => (next value).run rest := by
  change Except.bind (expansion.run source) _ = _
  rcases expansion.run source with fault | ⟨error | value, rest⟩ <;> rfl

theorem returns_bind_iff {expansion : Expansion σ α} {next : α → Expansion σ β} :
    Returns (expansion >>= next) source result rest ↔
      ∃ value between, expansion.Returns source value between ∧
        (next value).Returns between result rest := by
  unfold Returns
  rw [run_bind]
  rcases expansion.run source with fault | ⟨error | value, between⟩ <;> simp [and_assoc]

theorem fails_bind_iff {expansion : Expansion σ α} {next : α → Expansion σ β} :
    Fails (expansion >>= next) source error rest ↔
      expansion.Fails source error rest ∨
        ∃ value between, expansion.Returns source value between ∧
          (next value).Fails between error rest := by
  unfold Fails Returns
  rw [run_bind]
  rcases expansion.run source with fault | ⟨other | value, between⟩ <;> simp [and_assoc]

theorem returns_bind_pure_iff {expansion : Expansion σ α} {finish : α → β} :
    Returns (expansion >>= fun value => pure (finish value)) source result rest ↔
      ∃ value, expansion.Returns source value rest ∧ result = finish value := by
  rw [returns_bind_iff]
  simp only [returns_pure_iff]
  constructor
  · rintro ⟨value, _, hvalue, rfl, rfl⟩
    exact ⟨value, hvalue, rfl⟩
  · rintro ⟨value, hvalue, rfl⟩
    exact ⟨value, rest, hvalue, rfl, rfl⟩

theorem fails_bind_pure_iff {expansion : Expansion σ α} {finish : α → β} :
    Fails (expansion >>= fun value => pure (finish value)) source error rest ↔
      expansion.Fails source error rest := by
  rw [fails_bind_iff, or_iff_left]
  rintro ⟨value, between, -, hfails⟩
  exact not_fails_pure hfails

theorem returns_lift_bind_iff {draw : Draw σ α} {next : α → Expansion σ β} :
    Returns (ExceptT.lift draw >>= next) source result rest ↔
      ∃ value between, draw source = .ok (value, between) ∧
        (next value).Returns between result rest := by
  simp only [returns_bind_iff, returns_lift_iff]

theorem fails_lift_bind_iff {draw : Draw σ α} {next : α → Expansion σ β} :
    Fails (ExceptT.lift draw >>= next) source error rest ↔
      ∃ value between, draw source = .ok (value, between) ∧
        (next value).Fails between error rest := by
  simp only [fails_bind_iff, returns_lift_iff, not_fails_lift, false_or]

end RandomTables.Expansion
