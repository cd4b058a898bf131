import Mathlib
import RandomTables.Engine
import RandomTables.Proofs.Checked.Roll
import RandomTables.Proofs.Expansion.Meaning

/-!
Expansions and requests with all their checks. No text makes them stop at one: an expander whose
tables can be chosen from with one word, and whose depth is a word, expands every name and every
text as it would with numbers of any size, and an engine answers every request so.
-/

namespace RandomTables

/-- What a machine can hold: sums of weights and depths that are words of 64 bits. -/
structure Expander.Fits (expander : Expander) : Prop where
  totalWeight : ∀ name table, expander.tables.get? name = some table → table.totalWeight < wordCount
  maxDepth : expander.maxDepth < wordCount

namespace Checked

abbrev CheckedExpansion (σ : Type) := ExceptT ExpansionError (CheckedDraw σ)

variable {σ : Type}

theorem mirrors_substitute {resolve : String → CheckedExpansion σ String}
    {plain : String → Expansion σ String} (h : ∀ name, Mirrors (resolve name).run (plain name).run)
    (text : String) :
    Mirrors (Template.substitute resolve text).run (Template.substitute plain text).run := by
  refine Mirrors.bind_run (Mirrors.run_mapM fun token _ => ?_) fun parts => mirrors_pure _
  cases token with
  | char c => exact mirrors_pure _
  | reference name => exact h name

variable [RandomSource σ]

/-! ### Expansions -/

/-- Expands a name that is neither that of a table nor a dice spec. -/
def expandRange (name : String) : CheckedExpansion σ String := do
  match ← ExceptT.lift (calculate (parseRange name)) with
  | .ok spec =>
      let roll ← ExceptT.lift (rollRange spec)
      pure (toString roll.value)
  | .error _ => pure name

/-- Expands a name that is not that of a table. -/
def expandSpec (expander : Expander) (name : String) : CheckedExpansion σ String := do
  match ← ExceptT.lift (calculate (parseDice expander.standardFaces name)) with
  | .ok spec =>
      let roll ← ExceptT.lift (rollDice expander.dice spec)
      pure (toString roll.total)
  | .error _ => expandRange name

/-- Expands a name within `depth` tables. The depth is counted in a word. -/
def expandAt (expander : Expander) (depth : Nat) (name : String) (scope : Option String) :
    CheckedExpansion σ String :=
  match expander.findTable name scope with
  | none => expandSpec expander name
  | some table =>
      if depth < expander.maxDepth then do
        match ← ExceptT.lift (choose table.alternatives) with
        | none => pure ""
        | some picked =>
            let _ ← ExceptT.lift (calculate (unsigned 64 (depth + 1)))
            Template.substitute
              (fun name => expandAt expander (depth + 1) name (some (Name.topLevel table.name)))
              picked.text
      else
        throw (.recursionLimit expander.maxDepth table.name)
termination_by expander.maxDepth - depth

def expandText (expander : Expander) (text : String) (scope : Option String) :
    CheckedExpansion σ String :=
  Template.substitute (fun name => expandAt expander 0 name scope) text

variable {expander : Expander} {name : String} {scope : Option String}

theorem mirrors_expandSpec (hnone : expander.findTable name scope = none)
    (expandTable : Table → Expansion σ String) :
    Mirrors (expandSpec expander name : CheckedExpansion σ String).run
      (expander.expandWith expandTable name scope).run := by
  rw [expandSpec, parseDice_eq, calculate_ok, Expander.expandWith, Expander.meaning, hnone]
  cases hdice : Dice.Spec.parse expander.standardFaces name with
  | ok spec =>
      have hroll : Mirrors (rollDice expander.dice spec : CheckedDraw σ Dice.Roll)
          (spec.roll expander.dice) :=
        mirrors_rollDice expander.dice (Dice.isRollable_of_parse hdice)
      exact hroll.run_lift.bind_run fun roll => mirrors_pure _
  | error error =>
      change Mirrors (expandRange name : CheckedExpansion σ String).run _
      rw [expandRange, parseRange_eq, calculate_ok]
      cases hrange : Range.Spec.parse name with
      | ok spec =>
          have hroll : Mirrors (rollRange spec : CheckedDraw σ Range.Roll) spec.roll :=
            mirrors_rollRange (Range.wordSized_of_parse hrange).withinWords
              (Range.draws_le_of_parse hrange)
          exact hroll.run_lift.bind_run fun roll => mirrors_pure _
      | error error => exact mirrors_pure _

/-- As many tables may still be nested as there are from the depth to its limit. -/
theorem mirrors_expandAt (fits : expander.Fits) (remaining : Nat) {depth : Nat}
    (hdepth : depth + remaining = expander.maxDepth) (name : String) (scope : Option String) :
    Mirrors (expandAt expander depth name scope : CheckedExpansion σ String).run
      (expander.expandWithin remaining name scope).run := by
  induction remaining generalizing depth name scope with
  | zero =>
      rw [expandAt, Expander.expandWithin]
      cases hfound : expander.findTable name scope with
      | none => exact mirrors_expandSpec hfound _
      | some table =>
          rw [Expander.expandWith_of_findTable hfound]
          simp only
          rw [if_neg (by omega)]
          exact mirrors_pure _
  | succ remaining ih =>
      rw [expandAt, Expander.expandWithin]
      cases hfound : expander.findTable name scope with
      | none => exact mirrors_expandSpec hfound _
      | some table =>
          have htotal : table.totalWeight < wordCount :=
            fits.totalWeight table.name table (Expander.get?_of_findTable hfound)
          have hword : unsigned 64 (depth + 1) = .ok (depth + 1) := by
            have hmost := fits.maxDepth
            exact if_pos (show depth + 1 < wordCount by omega)
          rw [Expander.expandWith_of_findTable hfound, Expander.expandPicked]
          simp only
          rw [if_pos (by omega), hword, calculate_ok]
          refine (mirrors_choose htotal).run_lift.bind_run fun picked => ?_
          cases picked with
          | none => exact mirrors_pure _
          | some alternative =>
              have hdeeper : depth + 1 + remaining = expander.maxDepth := by omega
              exact mirrors_substitute (fun name => ih hdeeper name _) alternative.text

theorem mirrors_expandText (fits : expander.Fits) (text : String) (scope : Option String) :
    Mirrors (expandText expander text scope : CheckedExpansion σ String).run
      (expander.expandText text scope).run :=
  mirrors_substitute
    (fun name => mirrors_expandAt fits expander.maxDepth (Nat.zero_add _) name scope) text

/-! ### Requests -/

namespace Request

/-- A draw from the source of an engine. -/
def draw {α : Type} (drawn : CheckedDraw Seeded α) : CheckedDraw Engine α := fun engine =>
  (drawn engine.source).map fun (value, source) => (value, { engine with source })

def runExpansion (expansion : CheckedExpansion Seeded String) :
    CheckedDraw Engine (Except EngineError String) :=
  (·.mapError EngineError.expansion) <$> draw expansion.run

def expand (name : String) (scope : Option String) :
    CheckedDraw Engine (Except EngineError String) := do
  let engine ← get
  runExpansion (expandAt engine.expander 0 name scope)

def expandText (text : String) : CheckedDraw Engine (Except EngineError String) := do
  let engine ← get
  runExpansion (Checked.expandText engine.expander text none)

def rollDice (text : String) : CheckedDraw Engine (Except EngineError Dice.Roll) := do
  let engine ← get
  match ← calculate (parseDice engine.settings.standardFaces text) with
  | .ok spec => .ok <$> draw (Checked.rollDice engine.dice spec)
  | .error error => pure (.error (.spec error))

def rollRange (text : String) : CheckedDraw Engine (Except EngineError Range.Roll) := do
  match ← calculate (parseRange text) with
  | .ok spec => .ok <$> draw (Checked.rollRange spec)
  | .error error => pure (.error (.spec error))

def chooseFromList (list : String) : CheckedDraw Engine (Option String) :=
  draw (Checked.chooseFromList list)

theorem mirrors_draw {α : Type} {checked : CheckedDraw Seeded α} {plain : Draw Seeded α}
    (h : Mirrors checked plain) : Mirrors (draw checked) (Engine.draw plain) :=
  fun engine => (h engine.source).map _

theorem mirrors_runExpansion {checked : CheckedExpansion Seeded String}
    {plain : Expansion Seeded String} (h : Mirrors checked.run plain.run) :
    Mirrors (runExpansion checked) (Engine.runExpansion plain) :=
  (mirrors_draw h).map _

theorem agrees_expand {engine : Engine} (fits : engine.expander.Fits) (name : String)
    (scope : Option String) : Agrees (expand name scope engine) (Engine.expand name scope engine) :=
  mirrors_runExpansion
    (mirrors_expandAt fits engine.expander.maxDepth (Nat.zero_add _) name scope) engine

theorem agrees_expandText {engine : Engine} (fits : engine.expander.Fits) (text : String) :
    Agrees (expandText text engine) (Engine.expandText text engine) :=
  mirrors_runExpansion (mirrors_expandText fits text none) engine

theorem mirrors_get : Mirrors (get : CheckedDraw Engine Engine) (get : Engine.Request Engine) :=
  fun engine => .ok (engine, engine)

theorem mirrors_rollDice (text : String) : Mirrors (rollDice text) (Engine.rollDice text) := by
  refine mirrors_get.bind fun engine => ?_
  rw [parseDice_eq, calculate_ok, pure_bind]
  cases hdice : Dice.Spec.parse engine.settings.standardFaces text with
  | ok spec =>
      have hroll : Mirrors (Checked.rollDice engine.dice spec : CheckedDraw Seeded Dice.Roll)
          (spec.roll engine.dice) :=
        Checked.mirrors_rollDice engine.dice (Dice.isRollable_of_parse hdice)
      exact (mirrors_draw hroll).map _
  | error error => exact mirrors_pure _

theorem mirrors_rollRange (text : String) : Mirrors (rollRange text) (Engine.rollRange text) := by
  rw [rollRange, parseRange_eq, calculate_ok, pure_bind, Engine.rollRange]
  cases hrange : Range.Spec.parse text with
  | ok spec =>
      have hroll : Mirrors (Checked.rollRange spec : CheckedDraw Seeded Range.Roll) spec.roll :=
        Checked.mirrors_rollRange (Range.wordSized_of_parse hrange).withinWords
          (Range.draws_le_of_parse hrange)
      exact (mirrors_draw hroll).map _
  | error error => exact mirrors_pure _

theorem mirrors_chooseFromList {list : String} (h : list.length < wordCount) :
    Mirrors (chooseFromList list) (Engine.chooseFromList list) :=
  mirrors_draw (Checked.mirrors_chooseFromList h)

end Request

/-- Whatever is asked of an expander or of an engine, and however they were made, no check stops it:
the outcome is the one that there is without checks. A list is a text that a machine can hold. -/
theorem runs_without_trap (expander : Expander) (fits : expander.Fits) :
    (∀ (σ : Type) [RandomSource σ] (source : σ) (scope : Option String),
      (∀ name, Agrees ((expandAt expander 0 name scope).run source)
        ((expander.expand name scope).run source)) ∧
      ∀ text, Agrees ((expandText expander text scope).run source)
        ((expander.expandText text scope).run source)) ∧
    ∀ engine : Engine, engine.expander = expander →
      (∀ name scope, Agrees (Request.expand name scope engine) (Engine.expand name scope engine)) ∧
      (∀ text, Agrees (Request.expandText text engine) (Engine.expandText text engine)) ∧
      (∀ text, Agrees (Request.rollDice text engine) (Engine.rollDice text engine)) ∧
      (∀ text, Agrees (Request.rollRange text engine) (Engine.rollRange text engine)) ∧
      ∀ list, list.length < wordCount →
        Agrees (Request.chooseFromList list engine) (Engine.chooseFromList list engine) := by
  constructor
  · intro σ _ source scope
    constructor
    · exact fun name => mirrors_expandAt fits expander.maxDepth (Nat.zero_add _) name scope source
    · exact fun text => mirrors_expandText fits text scope source
  · rintro engine rfl
    refine ⟨Request.agrees_expand fits, Request.agrees_expandText fits, ?_, ?_, ?_⟩
    · exact fun text => Request.mirrors_rollDice text engine
    · exact fun text => Request.mirrors_rollRange text engine
    · exact fun list hlist => Request.mirrors_chooseFromList hlist engine

/-- A heavy table, no depth to spare and standard faces that cannot be rolled. -/
def vault : Expander where
  tables := Store.empty.insert ⟨"vault", [.weighted "[dF+1] of [9-é]" 4294967295,
    .weighted "[" 0, .weighted "[vault]" 4294967295, .weighted "[é" 4294967295]⟩
  dice := Dice.Registry.builtin
  standardFaces := .numbered 0
  maxDepth := 1

def vaultEngine : Engine where
  tables := vault.tables
  dice := vault.dice
  settings := ⟨vault.standardFaces, vault.maxDepth, ∅⟩
  source := Seeded.ofSeed 0
  seed := none

theorem runs_without_trap_vault :
    vault.Fits ∧
      (expandText vault "[vault] [d] [-9-9] [2d6+é]" none).run (Scripted.ofWords []) =
        .ok (.ok "0 of 9-é d -9 2d6+é", ⟨[], 3⟩) ∧
      ∀ text trap, Request.rollDice text vaultEngine ≠ .error (.trap trap) := by
  have fits : vault.Fits := by
    refine ⟨fun name table hget => ?_, by decide⟩
    rw [vault, Store.get?_insert] at hget
    split at hget
    · cases hget
      decide
    · rw [Store.get?_empty] at hget
      cases hget
  have hplain : (vault.expandText "[vault] [d] [-9-9] [2d6+é]" none :
      Expansion Scripted String).run (Scripted.ofWords []) =
        .ok (.ok "0 of 9-é d -9 2d6+é", ⟨[], 3⟩) := by cbv
  obtain ⟨hexpander, hengine⟩ := runs_without_trap vault fits
  refine ⟨fits, ?_, fun text trap => ?_⟩
  · have hagrees := (hexpander Scripted (Scripted.ofWords []) none).2 "[vault] [d] [-9-9] [2d6+é]"
    rw [hplain] at hagrees
    exact hagrees.eq_ok
  · exact ((hengine vaultEngine rfl).2.2.1 text).ne_trap trap

end Checked

end RandomTables
