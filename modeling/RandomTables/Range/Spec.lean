import RandomTables.Spec
import RandomTables.Text.Decimal

/-!
Range specs such as `3-17`: two limits and a separator between them. The separator tells how several
draws are combined, and its length how many there are. The lower limit may be negative.
-/

namespace RandomTables.Range

inductive Combinator where
  | average
  | lowest
  | highest
deriving DecidableEq

namespace Combinator

def separator : Combinator → Char
  | .average => '-'
  | .lowest => '<'
  | .highest => '>'

def ofSeparator? : Char → Option Combinator
  | '-' => some .average
  | '<' => some .lowest
  | '>' => some .highest
  | _ => none

def word : Combinator → String
  | .average => "average"
  | .lowest => "lowest"
  | .highest => "highest"

theorem ofSeparator?_eq_some_iff {c : Char} {combinator : Combinator} :
    ofSeparator? c = some combinator ↔ c = combinator.separator := by
  constructor
  · unfold ofSeparator?
    split <;> simp <;> rintro rfl <;> rfl
  · rintro rfl
    cases combinator <;> rfl

end Combinator

structure Spec where
  low : Int
  high : Int
  combinator : Combinator
  draws : Nat
deriving DecidableEq

def mostLimit : Nat := 9223372036854775807

/-- The longest separator. -/
def mostDraws : Nat := 4294967295

/-- The parts of a range spec as they are written; `draws` is the length of the separator. -/
structure Parts where
  negative : Bool
  low : List Char
  combinator : Combinator
  draws : Nat
  high : List Char
deriving DecidableEq

def Parts.ofUnsigned? (negative : Bool) (text : List Char) : Option Parts :=
  match text.dropWhile Char.isDigit with
  | [] => none
  | separator :: rest =>
      match Combinator.ofSeparator? separator with
      | none => none
      | some combinator =>
          let high := rest.dropWhile (· == separator)
          if text.takeWhile Char.isDigit ≠ [] ∧ Text.isDigits high then
            some {
              negative
              low := text.takeWhile Char.isDigit
              combinator
              draws := (rest.takeWhile (· == separator)).length + 1
              high }
          else none

/-- The split of a text that has the shape of a range spec. -/
def Parts.ofText? : List Char → Option Parts
  | '-' :: rest => Parts.ofUnsigned? true rest
  | text => Parts.ofUnsigned? false text

def Parts.lowLimit (parts : Parts) : Int :=
  if parts.negative then -(Text.decimal parts.low : Int) else Text.decimal parts.low

def Parts.highLimit (parts : Parts) : Int :=
  Text.decimal parts.high

def Spec.parse (input : String) : Except SpecError Spec :=
  if input.toList.isEmpty then
    .error .empty
  else match Parts.ofText? input.toList with
    | none => .error (.noMatch input)
    | some parts =>
        if mostLimit < Text.decimal parts.low ∨ mostLimit < Text.decimal parts.high ∨
            mostDraws < parts.draws then
          .error (.outOfRange input)
        else if parts.highLimit ≤ parts.lowLimit then
          .error (.emptyRange parts.lowLimit parts.highLimit)
        else
          .ok ⟨parts.lowLimit, parts.highLimit, parts.combinator, parts.draws⟩

def Spec.description (spec : Spec) : String :=
  if spec.draws ≤ 1 then
    s!"[{spec.low}-{spec.high}]"
  else
    s!"[{spec.low}-{spec.high} ({spec.combinator.word} of {spec.draws})]"

end RandomTables.Range
