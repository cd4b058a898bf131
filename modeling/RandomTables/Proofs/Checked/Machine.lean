import RandomTables.Proofs.Draw.Ensures
import RandomTables.Random.Uniform

/-!
Programs on a machine of words. Where the definitions of tables, dice and ranges count with numbers
of any size, a machine stops: at a number that does not fit its word, at a place outside of a list,
at a cut within a character, at a draw from no numbers. Such a stop is a trap. A program with all
its checks mirrors one without if the two have the same outcome from every state of the source, and
no trap.
-/

namespace RandomTables

inductive Trap where
  /-- A draw from no numbers. -/
  | emptyRange
  | outOfBounds
  /-- A text is cut within a character. -/
  | splitCharacter
  /-- A number does not fit its word. -/
  | overflow
  | zeroDivisor
deriving DecidableEq

inductive Halt where
  | stalled
  | trap (trap : Trap)
deriving DecidableEq

abbrev CheckedDraw (σ : Type) := StateT σ (Except Halt)

namespace Checked

variable {σ α β ε : Type}

/-! ### Operations -/

def signed (bits : Nat) (n : Int) : Except Trap Int :=
  if -((1 <<< (bits - 1) : Nat) : Int) ≤ n ∧ n < (1 <<< (bits - 1) : Nat) then .ok n
  else .error .overflow

def unsigned (bits : Nat) (n : Nat) : Except Trap Nat :=
  if n < 1 <<< bits then .ok n else .error .overflow

/-- The difference of two unsigned words. -/
def subtract (n less : Nat) : Except Trap Nat :=
  if less ≤ n then .ok (n - less) else .error .overflow

def divide (n divisor : Int) : Except Trap Int :=
  if divisor = 0 then .error .zeroDivisor else .ok (n / divisor)

def element (items : List α) (position : Nat) : Except Trap α :=
  match items[position]? with
  | some item => .ok item
  | none => .error .outOfBounds

/-- A calculation in the middle of a program. -/
def calculate (calculation : Except Trap α) : CheckedDraw σ α := fun source =>
  match calculation with
  | .ok value => .ok (value, source)
  | .error trap => .error (.trap trap)

def sample (draw : Draw σ α) : CheckedDraw σ α := fun source =>
  match draw source with
  | .ok result => .ok result
  | .error .stalled => .error .stalled
  | .error .emptyRange => .error (.trap .emptyRange)

theorem signed_of_le {bits limit : Nat} (hlimit : 1 <<< (bits - 1) = limit + 1) {n : Int}
    (hlow : -(limit : Int) - 1 ≤ n) (hhigh : n ≤ limit) : signed bits n = .ok n := by
  rw [signed, hlimit, if_pos (by omega)]

theorem ok_bind (value : α) (next : α → Except Trap β) : Except.ok value >>= next = next value :=
  rfl

theorem calculate_ok (value : α) : (calculate (.ok value) : CheckedDraw σ α) = pure value := rfl

/-! ### Outcomes -/

/-- Outcomes with and without checks that are the same, without a trap. -/
inductive Agrees : Except Halt α → Except DrawFault α → Prop
  | ok (result : α) : Agrees (.ok result) (.ok result)
  | stalled : Agrees (.error .stalled) (.error .stalled)

def Mirrors (checked : CheckedDraw σ α) (draw : Draw σ α) : Prop :=
  ∀ source, Agrees (checked source) (draw source)

variable {checked : CheckedDraw σ α} {draw : Draw σ α}

theorem Agrees.ne_trap {outcome : Except Halt α} {plain : Except DrawFault α}
    (h : Agrees outcome plain) (trap : Trap) : outcome ≠ .error (.trap trap) := by
  cases h <;> simp

theorem Agrees.eq_ok {outcome : Except Halt α} {result : α} (h : Agrees outcome (.ok result)) :
    outcome = .ok result := by
  cases h
  rfl

theorem Agrees.map {outcome : Except Halt α} {plain : Except DrawFault α} (h : Agrees outcome plain)
    (f : α → β) : Agrees (outcome.map f) (plain.map f) := by
  cases h with
  | ok result => exact .ok (f result)
  | stalled => exact .stalled

theorem mirrors_pure (value : α) : Mirrors (pure value : CheckedDraw σ α) (pure value) :=
  fun source => .ok (value, source)

theorem mirrors_sample (h : ∀ source, draw source ≠ .error .emptyRange) :
    Mirrors (sample draw) draw := by
  intro source
  unfold sample
  cases hdraw : draw source with
  | ok result => exact .ok result
  | error fault =>
      cases fault with
      | stalled => exact .stalled
      | emptyRange => exact absurd hdraw (h source)

/-- What comes after a draw need only be mirrored for the values that the draw can return. -/
theorem Mirrors.bind_of_ensures {P : α → Prop} {next : α → CheckedDraw σ β} {plain : α → Draw σ β}
    (h : Mirrors checked draw) (hensures : draw.Ensures P)
    (hnext : ∀ value, P value → Mirrors (next value) (plain value)) :
    Mirrors (checked >>= next) (draw >>= plain) := by
  intro source
  change Agrees (Except.bind (checked source) fun step => next step.1 step.2)
    (Except.bind (draw source) fun step => plain step.1 step.2)
  have hagrees := h source
  generalize hchecked : checked source = outcome at hagrees
  cases hdraw : draw source with
  | ok step =>
      rw [hdraw] at hagrees
      cases hagrees with
      | ok => exact hnext step.1 (hensures source step.1 step.2 hdraw) step.2
  | error fault =>
      rw [hdraw] at hagrees
      cases hagrees with
      | stalled => exact .stalled

theorem Mirrors.bind {next : α → CheckedDraw σ β} {plain : α → Draw σ β} (h : Mirrors checked draw)
    (hnext : ∀ value, Mirrors (next value) (plain value)) :
    Mirrors (checked >>= next) (draw >>= plain) :=
  h.bind_of_ensures Draw.ensures_true fun value _ => hnext value

theorem Mirrors.map (h : Mirrors checked draw) (f : α → β) :
    Mirrors (f <$> checked) (f <$> draw) := by
  rw [map_eq_pure_bind, map_eq_pure_bind]
  exact h.bind fun value => mirrors_pure (f value)

theorem Mirrors.mapM {f : α → CheckedDraw σ β} {g : α → Draw σ β} {items : List α}
    (h : ∀ item ∈ items, Mirrors (f item) (g item)) : Mirrors (items.mapM f) (items.mapM g) := by
  induction items with
  | nil => exact mirrors_pure []
  | cons item items ih =>
      rw [List.mapM_cons, List.mapM_cons]
      refine (h item List.mem_cons_self).bind fun value => ?_
      refine (ih fun other hother => h other (List.mem_cons_of_mem _ hother)).bind fun values => ?_
      exact mirrors_pure (value :: values)

/-! ### Programs with errors -/

section

variable {checked : ExceptT ε (CheckedDraw σ) α} {draw : ExceptT ε (Draw σ) α}

theorem Mirrors.bind_run {next : α → ExceptT ε (CheckedDraw σ) β} {plain : α → ExceptT ε (Draw σ) β}
    (h : Mirrors checked.run draw.run)
    (hnext : ∀ value, Mirrors (next value).run (plain value).run) :
    Mirrors (checked >>= next).run (draw >>= plain).run := by
  rw [ExceptT.run_bind, ExceptT.run_bind]
  refine h.bind fun result => ?_
  cases result with
  | ok value => exact hnext value
  | error error => exact mirrors_pure (Except.error error)

theorem Mirrors.run_lift {checked : CheckedDraw σ α} {draw : Draw σ α} (h : Mirrors checked draw) :
    Mirrors (ExceptT.lift checked : ExceptT ε (CheckedDraw σ) α).run (ExceptT.lift draw).run := by
  rw [ExceptT.run_lift, ExceptT.run_lift]
  exact h.map _

theorem Mirrors.run_mapM {f : α → ExceptT ε (CheckedDraw σ) β} {g : α → ExceptT ε (Draw σ) β}
    {items : List α} (h : ∀ item ∈ items, Mirrors (f item).run (g item).run) :
    Mirrors (items.mapM f).run (items.mapM g).run := by
  induction items with
  | nil => exact mirrors_pure (Except.ok [])
  | cons item items ih =>
      rw [List.mapM_cons, List.mapM_cons]
      refine (h item List.mem_cons_self).bind_run fun value => ?_
      have hrest := ih fun other hother => h other (List.mem_cons_of_mem _ hother)
      refine hrest.bind_run fun values => ?_
      exact mirrors_pure (Except.ok (value :: values))

end

/-! ### Draws -/

theorem drawBucket_ne_emptyRange {width zone count : Nat} {next : σ → BitVec width × σ}
    {positive : 0 < count} (patience : Nat) (source : σ) :
    drawBucket next zone positive patience source ≠ .error .emptyRange := by
  induction patience generalizing source with
  | zero => simp [drawBucket]
  | succ patience ih =>
      simp only [drawBucket]
      split
      · simp
      · exact ih _

end Checked

end RandomTables
