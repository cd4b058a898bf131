import RandomTables.Die
import RandomTables.Dice.Total
import RandomTables.Spec
import RandomTables.Text.Decimal

/-!
Dice specs such as `3d6+2`: a number of dice, a `d` in either case, the faces and a signed modifier.
All but the `d` may be left out. Faces written as a number are plain, other faces name a custom die.
-/

namespace RandomTables.Dice

structure Spec where
  count : Nat
  faces : Faces
  modifier : Int
deriving DecidableEq

def mostDice : Nat := 10000

def mostModifier : Nat := 1000000000

def mostFaces : Nat := 4294967295

/-- The three parts of a dice spec as they are written. -/
structure Parts where
  count : List Char
  faces : List Char
  modifier : List Char
deriving DecidableEq

/-- The value of a written modifier; a sign alone is worth 0. -/
def modifierValue? : List Char → Option Int
  | [] => some 0
  | '+' :: digits => if digits.all Char.isDigit then some (Text.decimal digits) else none
  | '-' :: digits => if digits.all Char.isDigit then some (-(Text.decimal digits : Int)) else none
  | _ => none

/-- The split of a text that has the shape of a dice spec, its modifier aside. -/
def Parts.ofText? (text : List Char) : Option Parts :=
  match text.dropWhile Char.isDigit with
  | [] => none
  | letter :: rest =>
      if letter = 'd' ∨ letter = 'D' then
        some {
          count := text.takeWhile Char.isDigit
          faces := rest.takeWhile Char.isAlphanum
          modifier := rest.dropWhile Char.isAlphanum }
      else none

/-- The faces that a written face token stands for; `input` is the whole spec. -/
def readFaces (input : String) (standard : Faces) (token : List Char) : Except SpecError Faces :=
  if token.isEmpty then
    if standard.isRollable then .ok standard else .error .zeroFaces
  else if token.all Char.isDigit then
    if mostFaces < Text.decimal token then .error (.outOfRange input)
    else if Text.decimal token = 0 then .error .zeroFaces
    else .ok (.numbered (Text.decimal token))
  else
    .ok (.named (String.ofList token))

/-- Reads a dice spec; `standard` are the faces of a spec that names none. -/
def Spec.parse (standard : Faces) (input : String) : Except SpecError Spec :=
  if input.toList.isEmpty then
    .error .empty
  else match Parts.ofText? input.toList with
    | none => .error (.noMatch input)
    | some parts =>
        match modifierValue? parts.modifier with
        | none => .error (.noMatch input)
        | some modifier =>
            let count := if parts.count.isEmpty then 1 else Text.decimal parts.count
            if mostModifier < modifier.natAbs ∨ mostDice < count then
              .error (.outOfRange input)
            else
              (readFaces input standard parts.faces).map fun faces => { count, faces, modifier }

def Spec.text (spec : Spec) : String :=
  let modifier := if spec.modifier = 0 then "" else Text.signed spec.modifier
  s!"{spec.count}d{spec.faces.text}{modifier}"

def Spec.bounds? (spec : Spec) : Option (Int × Int) :=
  match spec.faces with
  | .numbered faces =>
      some (clamp (spec.count + spec.modifier), clamp (clamp (spec.count * faces) + spec.modifier))
  | .named _ => none

end RandomTables.Dice
