import RandomTables.Choice
import RandomTables.Dice.Roll
import RandomTables.Range.Roll
import RandomTables.Store
import RandomTables.Template

/-!
Expansion of names and texts. A name stands for the table it finds, within its scope first; failing
that for a dice spec, then a range spec, and else for itself. The text of a picked alternative is
expanded in the scope of its table, one level deeper.
-/

namespace RandomTables

inductive ExpansionError where
  | recursionLimit (limit : Nat) (table : String)
deriving DecidableEq

def ExpansionError.message : ExpansionError → String
  | .recursionLimit limit table =>
      s!"recursion limit of {limit} exceeded while expanding '{table}'"

/-- A failed expansion keeps the state of the source where it failed. -/
abbrev Expansion (σ : Type) := ExceptT ExpansionError (Draw σ)

/-- What a name stands for: what it finds, or itself. -/
inductive Meaning where
  | table (table : Table)
  | dice (spec : Dice.Spec)
  | range (spec : Range.Spec)
  | text
deriving DecidableEq

structure Expander where
  tables : Store
  dice : Dice.Registry
  standardFaces : Faces
  maxDepth : Nat

namespace Expander

def findTable (expander : Expander) (name : String) (scope : Option String) : Option Table :=
  (expander.tables.get? (Name.qualify scope name)).or (expander.tables.get? name)

def meaning (expander : Expander) (name : String) (scope : Option String) : Meaning :=
  match expander.findTable name scope with
  | some table => .table table
  | none =>
      match Dice.Spec.parse expander.standardFaces name with
      | .ok spec => .dice spec
      | .error _ =>
          match Range.Spec.parse name with
          | .ok spec => .range spec
          | .error _ => .text

variable {σ : Type} [RandomSource σ]

/-- Expands a name, with `expandTable` for a table that it stands for. -/
def expandWith (expander : Expander) (expandTable : Table → Expansion σ String) (name : String)
    (scope : Option String) : Expansion σ String :=
  match expander.meaning name scope with
  | .table table => expandTable table
  | .dice spec => do
      let roll ← ExceptT.lift (spec.roll expander.dice)
      pure (toString roll.total)
  | .range spec => do
      let roll ← ExceptT.lift spec.roll
      pure (toString roll.value)
  | .text => pure name

/-- The text of one alternative of `table`, with `resolve` for what it refers to. A table without
alternatives gives no text. -/
def expandPicked (resolve : String → Option String → Expansion σ String) (table : Table) :
    Expansion σ String := do
  match ← ExceptT.lift (Choice.choose table.alternatives) with
  | none => pure ""
  | some picked =>
      Template.substitute (fun name => resolve name (some (Name.topLevel table.name))) picked.text

/-- Expands a name where `remaining` more tables may be nested. -/
def expandWithin (expander : Expander) : Nat → String → Option String → Expansion σ String
  | 0 => expander.expandWith fun table =>
      throw (.recursionLimit expander.maxDepth table.name)
  | remaining + 1 => expander.expandWith (expandPicked (expander.expandWithin remaining))

def expand (expander : Expander) (name : String) (scope : Option String) : Expansion σ String :=
  expander.expandWithin expander.maxDepth name scope

def expandText (expander : Expander) (text : String) (scope : Option String) :
    Expansion σ String :=
  Template.substitute (fun name => expander.expand name scope) text

end Expander

end RandomTables
