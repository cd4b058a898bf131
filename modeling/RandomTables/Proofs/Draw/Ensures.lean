import RandomTables.Random.Source

/-!
What holds of every value that a draw returns, from whatever state of its source. A draw that stalls
or has nothing to draw from returns no value, and nothing is said of it.
-/

namespace RandomTables.Draw

variable {σ α β : Type}

/-- Every value that the draw returns satisfies `P`. -/
def Ensures (draw : Draw σ α) (P : α → Prop) : Prop :=
  ∀ source value rest, draw source = .ok (value, rest) → P value

variable {draw : Draw σ α} {P : α → Prop}

theorem ensures_pure {value : α} (h : P value) : Ensures (pure value : Draw σ α) P := by
  intro source value rest hrun
  cases hrun
  exact h

theorem ensures_true : draw.Ensures fun _ => True :=
  fun _ _ _ _ => trivial

theorem ensures_throw {fault : DrawFault} : Ensures (throw fault : Draw σ α) P := by
  intro source value rest hrun
  cases hrun

theorem Ensures.mono {Q : α → Prop} (h : draw.Ensures P) (himp : ∀ value, P value → Q value) :
    draw.Ensures Q :=
  fun source value rest hrun => himp value (h source value rest hrun)

theorem Ensures.bind {next : α → Draw σ β} {Q : β → Prop} (h : draw.Ensures P)
    (hnext : ∀ value, P value → (next value).Ensures Q) : Ensures (draw >>= next) Q := by
  intro source value rest hrun
  change Except.bind (draw source) (fun step => next step.1 step.2) = .ok (value, rest) at hrun
  cases hdraw : draw source with
  | error fault =>
      rw [hdraw] at hrun
      cases hrun
  | ok step =>
      rw [hdraw] at hrun
      exact hnext step.1 (h source step.1 step.2 hdraw) step.2 value rest hrun

/-- Only what is done after the values that a draw can return counts. -/
theorem Ensures.bind_congr {f g : α → Draw σ β} (h : draw.Ensures P)
    (hnext : ∀ value, P value → f value = g value) : draw >>= f = draw >>= g := by
  funext source
  change Except.bind (draw source) _ = Except.bind (draw source) _
  cases hdraw : draw source with
  | error fault => rfl
  | ok step => exact congrFun (hnext step.1 (h source step.1 step.2 hdraw)) step.2

theorem times_zero : Draw.times 0 draw = pure [] := rfl

theorem times_succ (count : Nat) :
    Draw.times (count + 1) draw = (do
      let value ← draw
      let values ← Draw.times count draw
      pure (value :: values)) := by
  simp [Draw.times, List.replicate_succ]

theorem Ensures.times (h : draw.Ensures P) (count : Nat) :
    Ensures (Draw.times count draw) fun values =>
      values.length = count ∧ ∀ value ∈ values, P value := by
  induction count with
  | zero =>
      rw [times_zero]
      exact ensures_pure (by simp)
  | succ count ih =>
      rw [times_succ]
      refine h.bind fun value hvalue => ih.bind fun values hvalues => ensures_pure ?_
      refine ⟨by simp [hvalues.1], fun other hother => ?_⟩
      rcases List.mem_cons.1 hother with rfl | hother
      · exact hvalue
      · exact hvalues.2 other hother

end RandomTables.Draw
